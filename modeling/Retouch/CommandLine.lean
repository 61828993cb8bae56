import Retouch.Build
import Retouch.CommandLine.Command
import Retouch.CommandLine.Session
import Retouch.ConfigFile
import Retouch.Log
import Retouch.Table
import Retouch.Task

/-! The program behind the command line. -/
namespace Retouch.CommandLine

inductive Failure where
  | usage (cause : UsageError)
  | config (cause : Config.LoadError)
  | preset (name : Bytes)
  | noTarget
  | rules (cause : Config.CompileError)
  | operation (cause : Operation.Refusal)
  | task (cause : TaskError Operation.Error)
  deriving DecidableEq, Repr

namespace Failure

def message : Failure → Bytes
  | .usage e => e.message
  | .config e => "loading config: " ++ e.message
  | .preset name => "loading preset: " ++ Preset.unknownMessage name
  | .noTarget => "no target: pass one as an argument or set target in the rule file"
  | .rules e => "compiling rules: " ++ e.message
  | .operation e => "creating operation: " ++ e.message
  | .task e => e.message Operation.Error.message

end Failure

/-- The configuration that is asked for: a rule file where one is named, a preset otherwise. -/
def configured (s : Settings) : Work Failure Config :=
  if s.config ≠ [] then (Config.load s.config).adapt .config
  else
    let name := if s.preset = [] then Bytes.ofString Preset.defaultName else s.preset
    match Preset.get? name with
    | none => throw (.preset name)
    | some c => return c

/-- The operation on a target that a configuration and the settings describe. -/
def operationOf (s : Settings) (c : Config) (target : Bytes) : Except Failure Operation := do
  let rules ← c.compile.mapError .rules
  let o : Operation :=
    { target := target, rules := rules, dryRun := s.dryRun, backup := c.backup || s.backup,
      backupSuffix := c.backupSuffix, strict := c.strict || s.strict }
  o.check.mapError .operation
  return o

/-- The operation that an invocation asks for, with the configuration behind it. A target that is
given as an argument goes before the configured one. -/
def planned (i : Invocation) : Work Failure (Config × Operation) := do
  let c ← configured i.settings
  let target := if i.target = [] then c.target else i.target
  if target = [] then throw .noTarget
  match operationOf i.settings c (Path.absolute (Location.path (← get).cwd) target) with
  | .error e => throw e
  | .ok o => return (c, o)

/-- The paths that an invocation may read or write, as far as the files at hand tell: the rule file
first, and behind it the target and its backup. -/
def touched (i : Invocation) (w : Workspace) : List Bytes :=
  let named := if i.settings.config = [] then [] else [i.settings.config]
  match i.command, ((planned i).run.run w).1 with
  | .transform, .ok (_, o) => named ++ [o.target, TextFile.backupPath o.target o.backupSuffix]
  | _, _ => named

/-- Shows what became of the rules: those that were not for the target, those that were applied,
and a warning for each of these that matched nothing. -/
def report (r : Result) : Session Unit := do
  match r.replacement with
  | none => return
  | some p =>
    for name in r.skipped do Session.rule ⟨name, 0, true⟩
    for c in p.rules do Session.rule ⟨c.name, c.hits, false⟩
    for name in p.unmatched do
      Session.notice .warning ("rule " ++ name ++ " matched nothing")

/-- Shows how a transformation without faults ended. -/
def conclude (dryRun : Bool) (r : Result) : Session Unit := do
  let base := Path.base r.target
  if dryRun then
    if !r.isModified then Session.notice .info ("No changes for " ++ base)
    else
      Session.diff r.diff
      Session.notice .info ("Dry run, " ++ base ++ " was not written")
  else
    if r.backupPath ≠ [] then Session.notice .info ("Original kept at " ++ r.backupPath)
    Session.notice .success ("Successfully updated loops in " ++ base)

def transform [Chance] (i : Invocation) : Session (Option Failure) := do
  match ← (planned i).run with
  | .error e => return some e
  | .ok (c, o) =>
    Session.header c.origin
    Session.startTarget ⟨o.target, o.rules.length, o.dryRun⟩
    let (results, fault) ← Task.runAll [Task.ofOperation o]
    for r in results do report r
    Session.endTarget
    match fault with
    | some e => return some (.task e)
    | none =>
      for r in results do conclude o.dryRun r
      return none

def listRules (i : Invocation) : Session (Option Failure) := do
  match ← (configured i.settings).run with
  | .error e => return some e
  | .ok c =>
    Session.header c.origin
    Session.print (c.ruleTable ++ [0x0A])
    return none

def perform [Chance] (build : Build) (i : Invocation) : Session (Option Failure) :=
  if i.settings.help then do
    Session.print i.command.usage
    return none
  else
    match i.command with
    | .transform => transform i
    | .rules => listRules i
    | .version => do
      Session.print build.report
      return none

/-- What a run depends on besides its arguments and the files. -/
structure Surroundings where
  /-- Texts are shown in colours. -/
  colours : Bool
  /-- The time that the log gives. -/
  time : Bytes
  build : Build
  deriving DecidableEq, Repr

structure Exit where
  code : Nat
  stdout : Bytes
  stderr : Bytes
  deriving DecidableEq, Repr

namespace Exit

/-- The end of a run that has written a screen and a log: a failure is told behind the log. -/
def ofFault (e : Surroundings) (screen log : Bytes) : Option Failure → Exit
  | none => ⟨0, screen, log⟩
  | some f =>
    let told := Console.notice e.colours .error f.message
    ⟨1, screen, log ++ (told.text ++ logLines e.time .debug told.events)⟩

end Exit

/-- Runs a command line. Details are logged where they are asked for; nothing is added to the
record of the workspace. -/
def run [Chance] (e : Surroundings) (arguments : List Bytes) : StateM Workspace Exit := do
  match Invocation.ofArguments arguments with
  | .error f => return .ofFault e [] [] (some (.usage f))
  | .ok i =>
    let ((fault, screen), events) ←
      Workspace.collecting ((perform e.build i).run ⟨e.colours, .start, []⟩)
    let least : Level := if i.settings.debug then .debug else .info
    return .ofFault e screen.text (logLines e.time least events) fault

/-- The numbers for those who run the program without chance. -/
instance (priority := low) : Chance := .always 1000000000

end Retouch.CommandLine
