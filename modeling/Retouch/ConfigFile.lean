import Retouch.Document
import Retouch.Workspace

/-! Loading of rule files. -/
namespace Retouch.Config

/-- Why a rule file could not be loaded. -/
inductive LoadError where
  | reading (cause : FileError)
  | unknownFormat (path : Bytes)
  | parsing (cause : Document.Error)
  | invalid (cause : Error)
  deriving DecidableEq, Repr

namespace LoadError

def message : LoadError → Bytes
  | .reading e => "reading config file: " ++ e.message
  | .unknownFormat path => "no parser found for file: " ++ path
  | .parsing e => "parsing config: " ++ e.message
  | .invalid e => "validating config: " ++ e.message

def isNotFound : LoadError → Bool
  | .reading e => e.isNotFound
  | _ => false

end LoadError

/-- A configuration as it is seen from the file that it was loaded from: a relative target starts
at the directory of that file. -/
def placed (c : Config) (path : Bytes) : Config :=
  let target :=
    if c.target ≠ [] && !Path.isAbsolute c.target then Path.join (Path.directory path) c.target
    else c.target
  { c with target := target, location := path }

def load (path : Bytes) : Work LoadError Config := do
  Workspace.debug "loading configuration" [("path", .text path)]
  let text ← (Workspace.readFile path).adapt .reading
  match Document.Format.ofFile? path with
  | none => throw (.unknownFormat path)
  | some format =>
    match Document.parse format text with
    | .error e => throw (.parsing e)
    | .ok parsed =>
      match (parsed.placed path).validate with
      | (_, some e) => throw (.invalid e)
      | (c, none) =>
        Workspace.debug "loaded configuration"
          [("path", .text path), ("rules", .number c.rules.length)]
        return c

end Retouch.Config
