import Retouch.Diff
import Retouch.Filter
import Retouch.Stage
import Retouch.TextFile

/-! The transformation of one file. -/
namespace Retouch

structure Replacer where
  /-- Refuses rules with a message. -/
  validate : List Rule → Except Bytes Unit
  /-- Applies rules to a text, or fails with a message. -/
  replace : List Rule → Bytes → Work Bytes Replacement

namespace Replacer

def standard : Replacer where
  validate rules := (Rule.validate rules).mapError Rule.Error.message
  replace rules content := do
    let r := replaceAll rules content
    for e in replacementEvents r do Workspace.record e
    return r

end Replacer

structure Operation where
  target : Bytes
  rules : List Rule
  replacer : Replacer := .standard
  /-- Stop before anything is written. -/
  dryRun : Bool := false
  /-- Keep the old content beside the target when it changes. -/
  backup : Bool := false
  backupSuffix : Bytes := []
  /-- Rules that match nothing are errors. -/
  strict : Bool := false

structure Result where
  target : Bytes
  stage : Stage
  replacement : Option Replacement
  /-- The names of the rules that do not apply to the target. -/
  skipped : List Bytes
  backupPath : Bytes
  deriving DecidableEq, Repr

namespace Result

def fresh (target : Bytes) : Result := ⟨target, .start, none, [], []⟩

def isModified (r : Result) : Bool := r.replacement.any (·.wasModified)

def diff (r : Result) : Bytes :=
  match r.replacement with
  | none => []
  | some p => Diff.render p.initial p.modified

end Result

namespace Operation

inductive Refusal where
  | noTarget
  | rules (message : Bytes)
  deriving DecidableEq, Repr

namespace Refusal

def message : Refusal → Bytes
  | .noTarget => "target is required"
  | .rules m => "validating rules: " ++ m

end Refusal

def check (o : Operation) : Except Refusal Unit :=
  if o.target = [] then .error .noTarget else (o.replacer.validate o.rules).mapError .rules

inductive Error where
  | loading (cause : TextFile.Error)
  | filtering (cause : FilterError)
  | applying (message : Bytes)
  | unmatched (rules : List Bytes)
  | backingUp (cause : TextFile.Error)
  | writing (cause : TextFile.Error)
  deriving DecidableEq, Repr

namespace Error

def message : Error → Bytes
  | .loading e => "loading target: " ++ e.message
  | .filtering e => "filtering rules: " ++ e.message
  | .applying m => "applying rules: " ++ m
  | .unmatched rules => "unmatched rules: " ++ (Bytes.ofString ", ").intercalate rules
  | .backingUp e => "backing up target: " ++ e.message
  | .writing e => "writing target: " ++ e.message

def isNotFound : Error → Bool
  | .loading e | .backingUp e | .writing e => e.isNotFound
  | _ => false

/-- Whether rules that had to match did not. -/
def isUnmatched : Error → Bool
  | .unmatched _ => true
  | _ => false

end Error

/-- What came of a run: how far it got, and why it stopped there. -/
structure Outcome where
  result : Result
  error : Option Error
  deriving DecidableEq, Repr

def name (o : Operation) : Bytes := "transform " ++ o.target

/-- The names of the rules of which no kept rule has the name. -/
def skippedNames (all kept : List Rule) : List Bytes :=
  if all.length = kept.length then []
  else (all.filter fun r => !kept.any (·.name == r.name)).map (·.name)

def note (o : Operation) (level : Level) (message : String) (fields : List (String × FieldValue)) :
    StateM Workspace Unit :=
  Workspace.record ⟨level, message, ("target", .text o.target) :: fields⟩

/-- Writes the changed content, behind a backup where one is asked for. -/
def store [Chance] (o : Operation) (r : Result) (p : Replacement) : StateM Workspace Outcome := do
  let kept ←
    if o.backup && p.wasModified then
      (TextFile.backup o.target p.initial o.backupSuffix).run
    else pure (.ok [])
  match kept with
  | .error e => return ⟨r, some (.backingUp e)⟩
  | .ok path =>
    let r := { r with backupPath := path }
    match ← (TextFile.write o.target p.modified).run with
    | .error e => return ⟨r, some (.writing e)⟩
    | .ok _ => return ⟨{ r with stage := .written }, none⟩

def conclude [Chance] (o : Operation) (r : Result) (p : Replacement) :
    StateM Workspace Outcome := do
  o.note .debug "applied rules"
    [("replacements", .number p.count), ("modified", .flag p.wasModified)]
  for rule in p.unmatched do o.note .warn "rule matched nothing" [("rule", .text rule)]
  if o.strict && p.unmatched ≠ [] then return ⟨r, some (.unmatched p.unmatched)⟩
  else if o.dryRun then
    o.note .debug "dry run, not writing" []
    return ⟨r, none⟩
  else o.store r p

/-- Loads the target, applies the rules that are for it, and writes the result back. -/
def execute [Chance] (o : Operation) : StateM Workspace Outcome := do
  let r := Result.fresh o.target
  match ← (TextFile.load o.target).run with
  | .error e => return ⟨r, some (.loading e)⟩
  | .ok content =>
    let r := { r with stage := .loaded }
    match Rule.filter o.target o.rules with
    | .error e => return ⟨r, some (.filtering e)⟩
    | .ok rules =>
      let skipped := skippedNames o.rules rules
      let r := { r with skipped := skipped }
      for rule in skipped do o.note .debug "rule does not apply to target" [("rule", .text rule)]
      match ← (o.replacer.replace rules content).run with
      | .error m => return ⟨r, some (.applying m)⟩
      | .ok p => o.conclude { r with replacement := some p, stage := .transformed } p

end Operation

end Retouch
