import Retouch.Event
import Retouch.Text.Format

/-! The report on the console.
Every call writes lines for the user and records events. Between the start and the end of a target
the outcomes of its rules are collected for a summary. -/
namespace Retouch

inductive Style where
  | magenta
  | yellow
  | cyan
  | blue
  | green
  | red
  | bold
  | faint
  | boldCyan
  deriving DecidableEq, Repr

namespace Style

def codes : Style → String × String
  | .magenta => ("35", "0")
  | .yellow => ("33", "0")
  | .cyan => ("36", "0")
  | .blue => ("34", "0")
  | .green => ("32", "0")
  | .red => ("31", "0")
  | .bold => ("1", "22")
  | .faint => ("2", "22")
  | .boldCyan => ("1;36", "22;0")

/-- A text in a style, or as it is where colours are off. -/
def apply (s : Style) (colours : Bool) (b : Bytes) : Bytes :=
  if colours then
    0x1B :: 0x5B :: Bytes.ofString s.codes.1 ++ [0x6D] ++ b
      ++ 0x1B :: 0x5B :: Bytes.ofString s.codes.2 ++ [0x6D]
  else b

end Style

structure RuleOutcome where
  name : Bytes
  hits : Int
  /-- The rule does not apply to the target. -/
  skipped : Bool
  deriving DecidableEq, Repr

structure Target where
  path : Bytes
  rules : Int
  dryRun : Bool
  deriving DecidableEq, Repr

structure Console where
  current : Option Target
  outcomes : List RuleOutcome
  deriving DecidableEq, Repr

structure Output where
  text : Bytes
  events : List Event
  deriving DecidableEq, Repr

namespace Console

def start : Console := ⟨none, []⟩

/-- A text filled with spaces up to a number of code points. -/
def padded (width : Nat) (b : Bytes) : Bytes :=
  b ++ List.replicate (width - (CodePoint.decode b).length) 0x20

def ruleIndent : Nat := 4

/-- The code points that a rule's name takes at least. -/
def nameWidth : Nat := 35

/-- The code points that a rule's status takes at least. -/
def statusWidth : Nat := 15

/-- How an outcome shows: its symbol and its style. -/
def ruleSymbol (r : RuleOutcome) : String × Style :=
  if r.skipped then ("•", .cyan)
  else if r.hits > 0 then ("⟳", .blue)
  else ("-", .yellow)

def ruleStatus (r : RuleOutcome) : Bytes :=
  if r.skipped then "SKIPPED"
  else if r.hits > 0 then "REPLACED [" ++ Bytes.ofInt r.hits ++ "]"
  else "NO MATCH"

def ruleLine (colours : Bool) (r : RuleOutcome) : Bytes :=
  let style := (ruleSymbol r).2
  (List.replicate ruleIndent 0x20 : Bytes) ++ style.apply colours (ruleSymbol r).1 ++ " "
    ++ padded nameWidth r.name ++ " " ++ style.apply colours (padded statusWidth (ruleStatus r))

def startTarget (colours : Bool) (_ : Console) (t : Target) : Console × Output :=
  let mode : Bytes := if t.dryRun then "dry run" else "apply"
  (⟨some t, []⟩,
    ⟨Style.magenta.apply colours "◆" ++ " " ++ Style.bold.apply colours t.path ++ " "
        ++ Style.faint.apply colours "•" ++ " " ++ Style.yellow.apply colours mode ++ "\n",
      [⟨.info, "starting target",
        [("target", .text t.path), ("rules", .number t.rules), ("dry_run", .flag t.dryRun)]⟩]⟩)

def rule (colours : Bool) (c : Console) (r : RuleOutcome) : Console × Output :=
  (⟨c.current, c.outcomes ++ [r]⟩,
    ⟨ruleLine colours r ++ "\n",
      [⟨.info, "rule",
        [("rule", .text r.name), ("matches", .number r.hits), ("skipped", .flag r.skipped)]⟩]⟩)

/-- The hits of outcomes together, in a word of 64 bits. -/
def totalHits (rs : List RuleOutcome) : Int :=
  rs.foldl (fun total r => (total + r.hits).bmod Int64.size) 0

def endTarget (c : Console) : Console × Output :=
  match c.current with
  | none => (c, ⟨[], []⟩)
  | some t =>
    (start, ⟨[],
      [⟨.info, "target complete",
        [("target", .text t.path), ("rules", .number c.outcomes.length),
          ("replacements", .number (totalHits c.outcomes))]⟩]⟩)

def diffStyle (line : Bytes) : Style :=
  if line.head? == some 0x2B then .green
  else if line.head? == some 0x2D then .red
  else .faint

def diff (colours : Bool) (d : Bytes) : Output :=
  ⟨((d.dropSuffix [0x0A]).splitOn 0x0A).flatMap fun line =>
    (diffStyle line).apply colours line ++ [0x0A], []⟩

def newline : Output := ⟨[0x0A], []⟩

def header (colours : Bool) (message : Bytes) : Output :=
  ⟨"\n" ++ Style.boldCyan.apply colours "reshape" ++ " "
      ++ Style.faint.apply colours ("• " ++ message) ++ "\n\n",
    [⟨.info, message, []⟩]⟩

inductive Notice where
  | success
  | warning
  | error
  | info
  deriving DecidableEq, Repr

namespace Notice

def symbol : Notice → String
  | .success => "✅ "
  | .warning => "⚠️  "
  | .error => "❌ "
  | .info => "ℹ️  "

def style : Notice → Style
  | .success => .green
  | .warning => .yellow
  | .error => .red
  | .info => .cyan

def level : Notice → Level
  | .success => .info
  | .warning => .warn
  | .error => .error
  | .info => .info

end Notice

def notice (colours : Bool) (n : Notice) (message : Bytes) : Output :=
  ⟨Bytes.ofString n.symbol ++ n.style.apply colours message ++ "\n", [⟨n.level, message, []⟩]⟩

end Console

end Retouch
