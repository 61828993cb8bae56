import Retouch.Preset
import Retouch.Text.Quoted

/-! Flags of the command line and what they set. -/
namespace Retouch.CommandLine

inductive Flag where
  | backup
  | config
  | debug
  | dryRun
  | help
  | preset
  | strict
  deriving DecidableEq, Repr

namespace Flag

def name : Flag → String
  | .backup => "backup"
  | .config => "config"
  | .debug => "debug"
  | .dryRun => "dry-run"
  | .help => "help"
  | .preset => "preset"
  | .strict => "strict"

def letter? : Flag → Option UInt8
  | .config => some 0x63
  | .debug => some 0x64
  | .help => some 0x68
  | _ => none

/-- A switch is on or off and needs no value; the other flags hold a text. -/
def isSwitch : Flag → Bool
  | .config | .preset => false
  | _ => true

def purpose : Flag → String
  | .backup => "keep the old content next to the target"
  | .config => "rule file (.yaml, .yml, .json or .hcl); empty uses the built-in preset"
  | .debug => "enable debug logging"
  | .dryRun => "print a line diff instead of writing"
  | .help => "show this text"
  | .preset => "built-in rule set used when no rule file is given"
  | .strict => "fail when a rule matches nothing"

def shared : List Flag := [.config, .debug, .help, .preset]

/-- The flags that are for a transformation only. -/
def transforming : List Flag := [.backup, .dryRun, .strict]

def all : List Flag := shared ++ transforming

def title (f : Flag) : Bytes :=
  match f.letter? with
  | some c => 0x2D :: c :: ", --" ++ Bytes.ofString f.name
  | none => "--" ++ Bytes.ofString f.name

end Flag

structure Settings where
  /-- The rule file, or nothing for a preset. -/
  config : Bytes
  preset : Bytes
  backup : Bool
  debug : Bool
  dryRun : Bool
  help : Bool
  strict : Bool
  deriving DecidableEq, Repr

namespace Settings

def initial : Settings := ⟨[], Bytes.ofString Preset.defaultName, false, false, false, false, false⟩

end Settings

inductive UsageError where
  | malformed (argument : Bytes)
  | unknownFlag (name : Bytes)
  | unknownLetter (letter : UInt8) (cluster : Bytes)
  | noValue (argument : Bytes)
  | noLetterValue (letter : UInt8) (cluster : Bytes)
  | notSwitch (flag : Flag) (value : Bytes)
  | tooMany (most found : Nat)
  | unexpected (argument : Bytes) (command : String)
  deriving DecidableEq, Repr

namespace UsageError

def message : UsageError → Bytes
  | .malformed a => "bad flag syntax: " ++ a
  | .unknownFlag name => "unknown flag: --" ++ name
  | .unknownLetter c cluster =>
    "unknown shorthand flag: " ++ Bytes.quotedValue c.toNat ++ " in -" ++ cluster
  | .noValue a => "flag needs an argument: " ++ a
  | .noLetterValue c cluster =>
    "flag needs an argument: " ++ Bytes.quotedValue c.toNat ++ " in -" ++ cluster
  | .notSwitch f value =>
    "invalid argument " ++ value.quoted ++ " for " ++ f.title.quoted
      ++ " flag: strconv.ParseBool: parsing " ++ value.quoted ++ ": invalid syntax"
  | .tooMany most found =>
    "accepts at most " ++ Bytes.ofNat most ++ " arg(s), received " ++ Bytes.ofNat found
  | .unexpected a command => "unknown command " ++ a.quoted ++ " for " ++ (command : Bytes).quoted

end UsageError

def onWords : List Bytes := ["1", "t", "T", "true", "TRUE", "True"].map Bytes.ofString

def offWords : List Bytes := ["0", "f", "F", "false", "FALSE", "False"].map Bytes.ofString

def switch? (value : Bytes) : Option Bool :=
  if onWords.contains value then some true
  else if offWords.contains value then some false
  else none

namespace Settings

/-- The settings with a switch on or off. Flags that are no switches change nothing. -/
def turn (s : Settings) (on : Bool) : Flag → Settings
  | .backup => { s with backup := on }
  | .debug => { s with debug := on }
  | .dryRun => { s with dryRun := on }
  | .help => { s with help := on }
  | .strict => { s with strict := on }
  | .config | .preset => s

def set (s : Settings) (f : Flag) (value : Bytes) : Except UsageError Settings :=
  match f with
  | .config => .ok { s with config := value }
  | .preset => .ok { s with preset := value }
  | f =>
    match switch? value with
    | some on => .ok (s.turn on f)
    | none => .error (.notSwitch f value)

end Settings

def endOfFlags : Bytes := [0x2D, 0x2D]

/-- Whether an argument sets flags: it starts with a dash and has more than that. -/
def isFlag (argument : Bytes) : Bool := argument.head? == some 0x2D && 1 < argument.length

/-- Sets a flag that is given by name. It takes the next argument where it needs a value and has
none; the result tells whether it did. -/
def readName (known : List Flag) (next : Option Bytes) (s : Settings) (argument : Bytes) :
    Except UsageError (Settings × Bool) :=
  let body := argument.drop 2
  if body = [] || body.head? == some 0x2D || body.head? == some 0x3D then
    .error (.malformed argument)
  else
    let name := body.takeWhile (· ≠ 0x3D)
    match known.find? fun f => Bytes.ofString f.name == name with
    | none => .error (.unknownFlag name)
    | some f =>
      if name.length < body.length then (s.set f (body.drop (name.length + 1))).map (·, false)
      else if f.isSwitch then .ok (s.turn true f, false)
      else match next with
        | some value => (s.set f value).map (·, true)
        | none => .error (.noValue argument)

/-- Clusters that start like this are for test runners and set nothing. -/
def runnerMark : Bytes := "test."

/-- Sets the flags of a cluster of letters. A flag that needs a value takes the rest of the cluster,
or the next argument where nothing is left; the result tells whether it did. -/
def readLetters (known : List Flag) (next : Option Bytes) (s : Settings) :
    Bytes → Except UsageError (Settings × Bool)
  | [] => .ok (s, false)
  | c :: rest =>
    if runnerMark.isPrefixOf (c :: rest) then .ok (s, false)
    else
      match known.find? fun f => f.letter? == some c with
      | none => .error (.unknownLetter c (c :: rest))
      | some f =>
        if 1 < rest.length && rest.head? == some 0x3D then (s.set f (rest.drop 1)).map (·, false)
        else if f.isSwitch then readLetters known next (s.turn true f) rest
        else if rest ≠ [] then (s.set f rest).map (·, false)
        else match next with
          | some value => (s.set f value).map (·, true)
          | none => .error (.noLetterValue c (c :: rest))

def readFlags (known : List Flag) (next : Option Bytes) (s : Settings) (argument : Bytes) :
    Except UsageError (Settings × Bool) :=
  if endOfFlags.isPrefixOf argument then readName known next s argument
  else readLetters known next s (argument.drop 1)

/-- Reads arguments in order: what the flags set, and the arguments that are no flags. -/
def readArguments (known : List Flag) (s : Settings) :
    List Bytes → Except UsageError (Settings × List Bytes)
  | [] => .ok (s, [])
  | a :: rest =>
    if a = endOfFlags then .ok (s, rest)
    else if isFlag a then
      match readFlags known rest.head? s a with
      | .error e => .error e
      | .ok (s, false) => readArguments known s rest
      | .ok (s, true) =>
        match rest with
        | [] => .ok (s, [])
        | _ :: more => readArguments known s more
    else (readArguments known s rest).map fun (s, operands) => (s, a :: operands)

end Retouch.CommandLine
