import Retouch.CommandLine
import Std.Time.Zoned

/-! The program on the files of the system.
The files that a command line touches are read into a tree, the command is run on that tree, and
the files that it changed are written. -/
namespace Retouch.Main

def bytesOf (content : ByteArray) : Bytes := content.toList

def systemName (l : Location) : String :=
  match String.fromUTF8? ⟨l.path.toArray⟩ with
  | some s => s
  | none => ""

def locationOf (cwd : Location) (path : Bytes) : Location :=
  ((Path.absolute cwd.path path).splitOn Path.slash).filter (· ≠ [])

def addEntry (t : FileTree) (l : Location) : IO FileTree := do
  let name := (← IO.currentDir) / systemName l
  if ← name.isDir then return t.put l .directory
  else if ← name.pathExists then
    return t.put l (.file TextFile.defaultMode (bytesOf (← IO.FS.readBinFile name)))
  else return t

/-- The workspace with what the system has at a path and at the directories above it. -/
def addPath (w : Workspace) (path : Bytes) : IO Workspace := do
  let l := locationOf w.cwd path
  let tree ← (List.range l.length).foldlM (fun t n => addEntry t (l.take (n + 1))) w.tree
  return { w with tree := tree }

def storeChange (old new : FileTree) (l : Location) : IO Unit := do
  match old.entry? l, new.entry? l with
  | some (.file _ a), some (.file _ b) => if a ≠ b then write b
  | none, some (.file _ b) => write b
  | _, _ => return
where
  write (content : Bytes) : IO Unit := IO.FS.writeBinFile (systemName l) ⟨content.toArray⟩

def workspaceFor (arguments : List Bytes) (cwd : Location) : IO (Workspace × List Location) := do
  let start : Workspace := ⟨FileTree.empty.makeDirectories cwd, cwd, []⟩
  match CommandLine.Invocation.ofArguments arguments with
  | .error _ => return (start, [])
  | .ok i =>
    let named ← (CommandLine.touched i start).foldlM addPath start
    let paths := CommandLine.touched i named
    let w ← paths.foldlM addPath named
    return (w, paths.map (locationOf cwd))

/-- Whether texts are shown in colours: on a terminal, unless the user does not want them. -/
def wantsColours : IO Bool := do
  let plain := (← IO.getEnv "NO_COLOR").isSome || (← IO.getEnv "TERM") == some "dumb"
  return !plain && (← (← IO.getStdout).isTty)

/-- Runs a command line on the files of the system and gives the code it ends with. -/
def run (arguments : List String) : IO UInt32 := do
  let now ← Std.Time.PlainTime.now
  let build : Build := ⟨"dev", [], [], [], [], false⟩
  let surroundings : CommandLine.Surroundings :=
    ⟨← wantsColours, clockText now.hour.val.toNat now.minute.val.toNat, build⟩
  let arguments := arguments.map Bytes.ofString
  let cwd := locationOf [] (Bytes.ofString (← IO.currentDir).toString)
  let (w, locations) ← workspaceFor arguments cwd
  let _ : Chance := .always (← IO.rand 0 0xFFFFFFFF).toUInt32
  let (exit, after) := (CommandLine.run surroundings arguments).run w
  for l in locations do storeChange w.tree after.tree l
  (← IO.getStdout).write ⟨exit.stdout.toArray⟩
  (← IO.getStderr).write ⟨exit.stderr.toArray⟩
  return exit.code.toUInt32

end Retouch.Main

def main (arguments : List String) : IO UInt32 := Retouch.Main.run arguments
