import Retouch.Document.Hcl.Token
import Retouch.Proofs.Document.Spelling

/-! Tokens of a rule file in lines.
In quotes only escapes and characters beyond the basic plane stand, so no text holds the start of a
sequence, and each text is one literal or none. -/
namespace Retouch.Document

inductive Setting where
  | text (t : Bytes)
  | flag (b : Bool)
  deriving DecidableEq, Repr

def Setting.WellFormed : Setting → Prop
  | .text t => CodePoint.isValid t = true
  | .flag _ => True

/-- The attributes of a rule, without its name. -/
def entryAttributes (r : RuleEntry) : List (String × Setting) :=
  [("kind", .text r.kind), ("match", .text r.search), ("replace", .text r.replacement),
    ("files", .text r.files)]

def configAttributes (c : Config) : List (String × Setting) :=
  [("target", .text c.target), ("backup", .flag c.backup), ("backup_suffix", .text c.backupSuffix),
    ("strict", .flag c.strict)]

namespace Spelling

def setting (s : Spelling) : Setting → List Nat
  | .text t => s.quoted t
  | .flag b => flagWord b

def line (s : Spelling) (a : String × Setting) : List Nat :=
  points a.1 ++ 0x20 :: 0x3D :: 0x20 :: (s.setting a.2 ++ [0x0A])

def block (s : Spelling) (r : RuleEntry) : List Nat :=
  points "rule" ++ 0x20 :: (s.quoted r.name ++ 0x20 :: 0x7B :: 0x0A ::
    ((entryAttributes r).flatMap s.line ++ [0x7D, 0x0A]))

def lines (s : Spelling) (c : Config) : List Nat :=
  (configAttributes c).flatMap s.line ++ c.rules.flatMap s.block

end Spelling

namespace Hcl

/-- Steps of the reading from one place to another, with the tokens on the way. -/
inductive Scans : List Mode → List Nat → List Token → List Mode → List Nat → Prop where
  | stay (modes : List Mode) (text : List Nat) : Scans modes text [] modes text
  | go {modes modes' : List Mode} {c : Nat} {rest text : List Nat} {s : Step} {found : List Token} :
      step modes c rest = s → s.rest.length ≤ rest.length → Scans s.modes s.rest found modes' text →
      Scans modes (c :: rest) (s.tokens ++ found) modes' text

namespace Scans

variable {modes modes' modes'' : List Mode} {text text' text'' : List Nat}
  {found found' : List Token}

theorem one {c : Nat} {rest : List Nat} {s : Step} (steps : step modes c rest = s)
    (shorter : s.rest.length ≤ rest.length) : Scans modes (c :: rest) s.tokens s.modes s.rest := by
  have scans := go steps shorter (stay s.modes s.rest)
  rwa [List.append_nil] at scans

theorem trans (first : Scans modes text found modes' text')
    (second : Scans modes' text' found' modes'' text'') :
    Scans modes text (found ++ found') modes'' text'' := by
  induction first with
  | stay => exact second
  | go steps shorter _ ih =>
    rw [List.append_assoc]
    exact go steps shorter (ih second)

end Scans

variable {depth : Nat} {rest : List Nat}

def isWord (w : String) : Bool :=
  (points w).head?.any isLetter && (points w).all continuesName

def stops (d : Nat) : Bool := d == 0x22 || d == 0x0A || d == 0x0D || d == malformedChar

end Hcl

end Retouch.Document
