import Retouch.Filter

/-! Rule files: what a user configures. -/
namespace Retouch

/-- A rule as it is written in a rule file. -/
structure RuleEntry where
  name : Bytes
  kind : Bytes
  search : Bytes
  replacement : Bytes
  files : Bytes
  deriving DecidableEq, Repr, Inhabited

namespace RuleEntry

def empty : RuleEntry := ⟨[], [], [], [], []⟩

end RuleEntry

structure Config where
  target : Bytes
  backup : Bool
  backupSuffix : Bytes
  strict : Bool
  rules : List RuleEntry
  /-- The file that it was loaded from, or nothing. -/
  location : Bytes
  deriving DecidableEq, Repr, Inhabited

namespace Config

def empty : Config := ⟨[], false, [], false, [], []⟩

inductive Error where
  | noRules
  | unnamed (index : Nat)
  | duplicate (index : Nat) (name : Bytes)
  | noSearch (rule : Bytes)
  | unknownKind (rule kind : Bytes)
  | invalidGlob (rule glob : Bytes)
  deriving DecidableEq, Repr

namespace Error

def message : Error → Bytes
  | .noRules => "at least one rule is required"
  | .unnamed i => "rule " ++ Bytes.ofNat i ++ ": name is required"
  | .duplicate i name => "rule " ++ Bytes.ofNat i ++ ": duplicate name " ++ name.quoted
  | .noSearch rule => "rule " ++ rule ++ ": match is required"
  | .unknownKind rule kind => "rule " ++ rule ++ ": " ++ Pattern.unknownKindMessage kind
  | .invalidGlob rule glob => "rule " ++ rule ++ ": invalid files glob " ++ glob.quoted

end Error

/-- Checks the rules from an index on and writes their kinds in full; `seen` are the names before
it. Rules behind the first fault stay as they are. -/
def validateEntries (index : Nat) (seen : List Bytes) :
    List RuleEntry → List RuleEntry × Option Error
  | [] => ([], none)
  | r :: rest =>
    if r.name = [] then (r :: rest, some (.unnamed index))
    else if r.name ∈ seen then (r :: rest, some (.duplicate index r.name))
    else if r.search = [] then (r :: rest, some (.noSearch r.name))
    else match Pattern.Kind.ofWritten? r.kind with
      | none => (r :: rest, some (.unknownKind r.name r.kind))
      | some kind =>
        let checked := { r with kind := Bytes.ofString kind.name }
        if r.files ≠ [] && !Glob.isValid r.files then
          (checked :: rest, some (.invalidGlob r.name r.files))
        else
          let (rest, e) := validateEntries (index + 1) (r.name :: seen) rest
          (checked :: rest, e)

/-- The configuration with its kinds written in full and its target cleaned, and the first fault if
there is one. With a fault the target stays as it is. -/
def validate (c : Config) : Config × Option Error :=
  if c.rules = [] then (c, some .noRules)
  else
    let (rules, e) := validateEntries 0 [] c.rules
    let target := if e.isNone && c.target ≠ [] then Path.clean c.target else c.target
    ({ c with rules := rules, target := target }, e)

/-- A rule whose pattern is no pattern. -/
structure CompileError where
  rule : Bytes
  cause : Pattern.Error
  deriving DecidableEq, Repr

namespace CompileError

def message (e : CompileError) : Bytes := "rule " ++ e.rule ++ ": " ++ e.cause.message

end CompileError

/-- The rules ready for use, or the first one that is not. -/
def compileEntries : List RuleEntry → Except CompileError (List Rule)
  | [] => .ok []
  | r :: rest =>
    match Pattern.compileNamed r.kind r.search with
    | .error e => .error ⟨r.name, e⟩
    | .ok p =>
      match compileEntries rest with
      | .error e => .error e
      | .ok rules => .ok (⟨r.name, some p, r.replacement, r.files⟩ :: rules)

def compile (c : Config) : Except CompileError (List Rule) := compileEntries c.rules

def summary (c : Config) : Bytes :=
  Bytes.ofNat c.rules.length ++ " rules -> "
    ++ (if c.target = [] then Bytes.ofString "<unset>" else c.target)

def origin (c : Config) : Bytes :=
  if c.location = [] then Bytes.ofNat c.rules.length ++ " built-in rules"
  else Bytes.ofNat c.rules.length ++ " rules from " ++ Path.base c.location

end Config

end Retouch
