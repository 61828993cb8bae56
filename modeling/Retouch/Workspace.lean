import Retouch.Event
import Retouch.FileTree

/-! What a program works on: files, a working directory and the record of events. -/
namespace Retouch

structure Workspace where
  tree : FileTree
  cwd : Location
  /-- What has been recorded, in order. -/
  events : List Event
  deriving DecidableEq, Repr

/-- The numbers that are drawn for temporary files. At any time any number may come, so every free
name beside a file may be the one of its temporary file. -/
class Chance where
  number : Workspace → UInt32

@[reducible] def Chance.always (n : UInt32) : Chance := ⟨fun _ => n⟩

/-- A step of the work that may fail. What it did before it failed stays done. -/
abbrev Work (ε α : Type) := ExceptT ε (StateM Workspace) α

inductive FileError where
  | access (action : String) (path : Bytes) (fault : Fault)
  | rename (source target : Bytes) (fault : Fault)
  deriving DecidableEq, Repr

namespace FileError

def fault : FileError → Fault
  | .access _ _ f => f
  | .rename _ _ f => f

def message : FileError → Bytes
  | .access action path f =>
    Bytes.ofString action ++ " " ++ path ++ ": " ++ Bytes.ofString f.message
  | .rename source target f =>
    "rename " ++ source ++ " " ++ target ++ ": " ++ Bytes.ofString f.message

def isNotFound (e : FileError) : Bool := e.fault == .notFound

end FileError

namespace Workspace

def record (e : Event) : StateM Workspace Unit :=
  modify fun w => { w with events := w.events ++ [e] }

def debug (message : String) (fields : List (String × FieldValue)) : StateM Workspace Unit :=
  record ⟨.debug, message, fields⟩

def collecting {α : Type} (step : StateM Workspace α) : StateM Workspace (α × List Event) := do
  let before := (← get).events
  modify fun w => { w with events := [] }
  let result ← step
  let events := (← get).events
  modify fun w => { w with events := before }
  return (result, events)

/-- Does a step without keeping what it records. -/
def silently {α : Type} (step : StateM Workspace α) : StateM Workspace α :=
  Prod.fst <$> collecting step

def readFile (path : Bytes) : Work FileError Bytes := do
  let w ← get
  match w.tree.lookup w.cwd path with
  | .error f => throw (.access "open" path f)
  | .ok (_, .directory) => throw (.access "read" path .isDirectory)
  | .ok (_, .file _ content) => return content

def stat (path : Bytes) : Work FileError Entry := do
  let w ← get
  match w.tree.lookup w.cwd path with
  | .error f => throw (.access "stat" path f)
  | .ok (_, e) => return e

def temporaryName (base : Bytes) (number : Nat) : Bytes :=
  0x2E :: base ++ 0x2E :: Bytes.ofNat number ++ ".tmp"

def inDirectory (directory name : Bytes) : Bytes :=
  if directory.getLast? == some Path.slash then directory ++ name
  else directory ++ Path.slash :: name

/-- The first temporary file from a number on that does not exist yet, with its location. The last
number is followed by zero. -/
def freshTemporary (t : FileTree) (cwd : Location) (directory base : Bytes) :
    Nat → UInt32 → Except FileError (Bytes × Location)
  | 0, _ =>
    .error (.access "createtemp" (inDirectory directory (0x2E :: base ++ ".*.tmp")) .exists)
  | fuel + 1, number =>
    let path := inDirectory directory (temporaryName base number.toNat)
    match t.locate cwd path with
    | .error f => .error (.access "open" path f)
    | .ok l =>
      if (t.entry? l).isSome then freshTemporary t cwd directory base fuel (number + 1)
      else .ok (path, l)

def createTemporary [Chance] (directory base : Bytes) : Work FileError (Bytes × Location) := do
  let w ← get
  match freshTemporary w.tree w.cwd directory base UInt32.size (Chance.number w) with
  | .error e => throw e
  | .ok (path, l) =>
    set { w with tree := w.tree.put l (.file 0o600 []) }
    return (path, l)

/-- Puts a file into its place: nothing may be in the way but another file. -/
def rename (source : Bytes) (l : Location) (target : Bytes) : Work FileError Unit := do
  let w ← get
  match w.tree.locate w.cwd target with
  | .error f => throw (.rename source target f)
  | .ok m =>
    match w.tree.entry? m, w.tree.entry? l with
    | some .directory, _ => throw (.rename source target .exists)
    | _, some e => set { w with tree := (w.tree.erase l).put m e }
    | _, none => throw (.rename source target .notFound)

def remove (l : Location) : StateM Workspace Unit :=
  modify fun w => { w with tree := w.tree.erase l }

def fill (l : Location) (mode : Nat) (content : Bytes) : StateM Workspace Unit :=
  modify fun w => { w with tree := w.tree.put l (.file mode content) }

end Workspace

end Retouch
