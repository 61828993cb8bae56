import Retouch.Glob.Match
import Retouch.Path
import Retouch.Rule

/-! Which rules apply to a target. -/
namespace Retouch

inductive FilterError where
  | invalidGlob (rule glob : Bytes)
  | badMatch (rule glob : Bytes)
  deriving DecidableEq, Repr

namespace FilterError

def message : FilterError → Bytes
  | .invalidGlob rule glob => "rule " ++ rule ++ ": invalid file_filter_glob " ++ glob.quoted
  | .badMatch rule glob =>
    "rule " ++ rule ++ ": matching " ++ glob.quoted ++ ": syntax error in pattern"

end FilterError

namespace Rule

/-- Whether a rule applies to a path: its glob is empty or matches the path or its last name. -/
def appliesTo (path : Bytes) (r : Rule) : Except FilterError Bool :=
  if r.files = [] then .ok true
  else if !Glob.isValid r.files then .error (.invalidGlob r.name r.files)
  else match Glob.match? r.files path with
    | .error _ => .error (.badMatch r.name r.files)
    | .ok true => .ok true
    | .ok false =>
      match Glob.match? r.files (Path.base path) with
      | .ok answer => .ok answer
      | .error _ => .ok false

/-- The rules that apply to a path, in order. -/
def filter (path : Bytes) : List Rule → Except FilterError (List Rule)
  | [] => .ok []
  | r :: rest =>
    match r.appliesTo path with
    | .error e => .error e
    | .ok applies =>
      match filter path rest with
      | .error e => .error e
      | .ok kept => .ok (if applies then r :: kept else kept)

end Rule

end Retouch
