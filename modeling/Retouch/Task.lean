import Retouch.Operation

/-! Tasks that are run one after another. -/
namespace Retouch

/-- A task with a name: it gives a value and may fail. -/
structure Task (ε α : Type) where
  name : Bytes
  run : StateM Workspace (α × Option ε)

structure TaskError (ε : Type) where
  task : Bytes
  cause : ε
  deriving DecidableEq, Repr

namespace TaskError

def message {ε : Type} (text : ε → Bytes) (e : TaskError ε) : Bytes :=
  e.task ++ ": " ++ text e.cause

end TaskError

namespace Task

def ofOperation [Chance] (o : Operation) : Task Operation.Error Result where
  name := o.name
  run := do
    let outcome ← o.execute
    return (outcome.result, outcome.error)

/-- Runs tasks in order up to the first failure: the values of those that ran, and the failure. -/
def runAll {ε α : Type} : List (Task ε α) → StateM Workspace (List α × Option (TaskError ε))
  | [] => return ([], none)
  | t :: rest => do
    Workspace.debug "starting operation" [("operation", .text t.name)]
    match ← t.run with
    | (a, some e) => return ([a], some ⟨t.name, e⟩)
    | (a, none) =>
      Workspace.debug "operation complete" [("operation", .text t.name)]
      let (more, e) ← runAll rest
      return (a :: more, e)

end Task

end Retouch
