import Retouch.Workspace

/-! Reading and replacing whole files.
A file is replaced by writing another one beside it and putting that into its place, so a failed
write leaves what was there. -/
namespace Retouch.TextFile

/-- Why a file could not be read or written. -/
inductive Error where
  | reading (path : Bytes) (cause : FileError)
  | checking (path : Bytes) (cause : FileError)
  | creating (path : Bytes) (cause : FileError)
  | replacing (path : Bytes) (cause : FileError)
  | backup (cause : Error)
  deriving DecidableEq, Repr

namespace Error

def message : Error → Bytes
  | .reading path e => "reading " ++ path ++ ": " ++ e.message
  | .checking path e => "checking " ++ path ++ ": " ++ e.message
  | .creating path e => "creating temp file for " ++ path ++ ": " ++ e.message
  | .replacing path e => "replacing " ++ path ++ ": " ++ e.message
  | .backup e => "writing backup: " ++ e.message

def isNotFound : Error → Bool
  | .reading _ e | .checking _ e | .creating _ e | .replacing _ e => e.isNotFound
  | .backup e => e.isNotFound

end Error

def load (path : Bytes) : Work Error Bytes := do
  Workspace.debug "loading file" [("path", .text path)]
  let content ← (Workspace.readFile path).adapt (.reading path)
  Workspace.debug "loaded file" [("path", .text path), ("bytes", .number content.length)]
  return content

/-- The mode of files that did not exist before. -/
def defaultMode : Nat := 0o644

/-- The permission bits that a path has, or those of a new file. -/
def modeOf (path : Bytes) : Work Error Nat := do
  match ← (Workspace.stat path).run with
  | .ok (.file mode _) => return mode
  | .ok .directory => return 0o755
  | .error e => if e.isNotFound then return defaultMode else throw (.checking path e)

def write [Chance] (path content : Bytes) : Work Error Unit := do
  let mode ← modeOf path
  let (directory, base) := Path.split path
  let directory := if directory = [] then [0x2E] else directory
  let (temporary, l) ← (Workspace.createTemporary directory base).adapt (.creating path)
  Workspace.fill l mode content
  match ← (Workspace.rename temporary l path).run with
  | .error e =>
    Workspace.remove l
    throw (.replacing path e)
  | .ok _ => Workspace.debug "wrote file" [("path", .text path), ("bytes", .number content.length)]

def defaultSuffix : Bytes := ".orig"

/-- The path of a backup. An empty suffix means the default one. -/
def backupPath (path suffix : Bytes) : Bytes :=
  path ++ (if suffix = [] then defaultSuffix else suffix)

def backup [Chance] (path content suffix : Bytes) : Work Error Bytes := do
  let target := backupPath path suffix
  (write target content).adapt .backup
  Workspace.debug "wrote backup" [("path", .text target)]
  return target

end Retouch.TextFile
