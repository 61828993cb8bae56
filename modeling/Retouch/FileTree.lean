import Retouch.Path

/-! Trees of files and directories.
A tree is seen through the entry that each location has; the root is always a directory. -/
namespace Retouch

/-- A place in a tree: the names from the root on. -/
abbrev Location := List Bytes

namespace Location

def path (l : Location) : Bytes := Path.slash :: [Path.slash].intercalate l

end Location

inductive Entry where
  | directory
  | file (mode : Nat) (content : Bytes)
  deriving DecidableEq, Repr

/-- A tree as the list of its entries, each location once. -/
structure FileTree where
  entries : List (Location × Entry)
  deriving DecidableEq, Repr

inductive Fault where
  | notFound
  | notDirectory
  | isDirectory
  | nameTooLong
  | exists
  | invalid
  deriving DecidableEq, Repr

namespace Fault

def message : Fault → String
  | .notFound => "no such file or directory"
  | .notDirectory => "not a directory"
  | .isDirectory => "is a directory"
  | .nameTooLong => "file name too long"
  | .exists => "file exists"
  | .invalid => "invalid argument"

end Fault

namespace FileTree

def empty : FileTree := ⟨[]⟩

def entry? (t : FileTree) (l : Location) : Option Entry :=
  if l = [] then some .directory else (t.entries.find? (·.1 == l)).map (·.2)

/-- The tree without the entry at a location. -/
def erase (t : FileTree) (l : Location) : FileTree := ⟨t.entries.filter (·.1 != l)⟩

def put (t : FileTree) (l : Location) (e : Entry) : FileTree := ⟨(l, e) :: (t.erase l).entries⟩

def maxName : Nat := 255

def maxPath : Nat := 4096

/-- Follows names from a location on. All locations on the way must be directories; the last one
need not exist. -/
def walk (t : FileTree) : Location → List Bytes → Except Fault Location
  | l, [] => .ok l
  | l, name :: rest =>
    match t.entry? l with
    | none => .error .notFound
    | some (.file _ _) => .error .notDirectory
    | some .directory =>
      if name = [] || name = [0x2E] then t.walk l rest
      else if name = [0x2E, 0x2E] then t.walk l.dropLast rest
      else if maxName < name.length then .error .nameTooLong
      else t.walk (l ++ [name]) rest

/-- The location that a path leads to from a working directory. No path holds a zero byte. -/
def locate (t : FileTree) (cwd : Location) (path : Bytes) : Except Fault Location :=
  if 0 ∈ path then .error .invalid
  else if path = [] then .error .notFound
  else if maxPath ≤ path.length then .error .nameTooLong
  else t.walk (if Path.isAbsolute path then [] else cwd) (path.splitOn Path.slash)

def lookup (t : FileTree) (cwd : Location) (path : Bytes) : Except Fault (Location × Entry) :=
  match t.locate cwd path with
  | .error e => .error e
  | .ok l =>
    match t.entry? l with
    | none => .error .notFound
    | some e => .ok (l, e)

/-- The tree with directories at a location and all above it, where nothing stands yet. -/
def makeDirectories (t : FileTree) (l : Location) : FileTree :=
  (List.range (l.length + 1)).foldl (fun t n =>
    if (t.entry? (l.take n)).isSome then t else t.put (l.take n) .directory) t

/-- The tree without a location and all below it. -/
def eraseAll (t : FileTree) (l : Location) : FileTree :=
  ⟨t.entries.filter fun e => !l.isPrefixOf e.1⟩

def below (t : FileTree) (l : Location) : List (Location × Entry) :=
  t.entries.filterMap fun (k, e) =>
    if l.isPrefixOf k && k != l then some (k.drop l.length, e) else none

end FileTree

end Retouch
