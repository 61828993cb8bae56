import Retouch.CommandLine.Flag

/-! Commands of the command line. -/
namespace Retouch.CommandLine

inductive Command where
  | transform
  | rules
  | version
  deriving DecidableEq, Repr

namespace Command

/-- The command of a word. A transformation has none. -/
def ofWord? (word : Bytes) : Option Command :=
  if word = Bytes.ofString "rules" then some .rules
  else if word = Bytes.ofString "version" then some .version
  else none

def title : Command → String
  | .transform => "reshape"
  | .rules => "reshape rules"
  | .version => "reshape version"

def flags : Command → List Flag
  | .transform => Flag.all
  | _ => Flag.shared

def purpose : Command → String
  | .transform => "Apply rules to a source file in place"
  | .rules => "Print the rules that would be applied"
  | .version => "Print build information"

def call : Command → String
  | .transform => "reshape [target] [flags]"
  | c => c.title ++ " [flags]"

def flagLine (f : Flag) : Bytes :=
  "  " ++ f.title ++ ": " ++ Bytes.ofString f.purpose ++ "\n"

def usage (c : Command) : Bytes :=
  Bytes.ofString c.purpose ++ "\n\nUsage:\n  " ++ Bytes.ofString c.call ++ "\n\nFlags:\n"
    ++ c.flags.flatMap flagLine

end Command

def earlyFlags : List Flag := Flag.all.erase .help

/-- Whether an argument is a flag whose value is the next argument, by what is known before the
command is. -/
def takesNext (argument : Bytes) : Bool :=
  let named := endOfFlags.isPrefixOf argument
    && !earlyFlags.any fun f => f.isSwitch && Bytes.ofString f.name == argument.drop 2
  let lettered := argument.head? == some 0x2D && argument.length == 2
    && !earlyFlags.any fun f => f.isSwitch && f.letter? == argument[1]?
  !argument.contains 0x3D && (named || lettered)

/-- The arguments before the first word, that word, and the arguments behind it. Neither a flag nor
its value is a word, and a flag whose value is the last argument ends the search. -/
def splitAtWord : List Bytes → Option (List Bytes × Bytes × List Bytes)
  | [] => none
  | a :: rest =>
    if a = endOfFlags then none
    else if takesNext a then
      match rest with
      | value :: next :: more =>
        (splitAtWord (next :: more)).map fun (before, word, behind) =>
          (a :: value :: before, word, behind)
      | _ => none
    else if a = [] || a.head? == some 0x2D then
      (splitAtWord rest).map fun (before, word, behind) => (a :: before, word, behind)
    else some ([], a, rest)

def selectCommand (arguments : List Bytes) : Command × List Bytes :=
  match splitAtWord arguments with
  | none => (.transform, arguments)
  | some (before, word, behind) =>
    match Command.ofWord? word with
    | none => (.transform, arguments)
    | some c => (c, before ++ behind)

structure Invocation where
  command : Command
  settings : Settings
  /-- The file to transform, or nothing where the rules name it. -/
  target : Bytes
  deriving DecidableEq, Repr

namespace Invocation

def targetOf : Command → List Bytes → Except UsageError Bytes
  | _, [] => .ok []
  | .transform, [target] => .ok target
  | .transform, operands => .error (.tooMany 1 operands.length)
  | c, operand :: _ => .error (.unexpected operand c.title)

/-- The meaning of a command line. Who asks for help need not get the operands right. -/
def ofArguments (arguments : List Bytes) : Except UsageError Invocation := do
  let (command, rest) := selectCommand arguments
  let (settings, operands) ← readArguments command.flags .initial rest
  if settings.help then return ⟨command, settings, []⟩
  return ⟨command, settings, ← targetOf command operands⟩

end Invocation

end Retouch.CommandLine
