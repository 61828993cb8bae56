import Retouch.Bytes

/-! Paths as they are written: names divided by slashes. -/
namespace Retouch.Path

def slash : UInt8 := 0x2F

def isAbsolute (p : Bytes) : Bool := p.head? == some slash

/-- The names of a path that mean something, with the parent steps they allow resolved. Above the
root there is nothing to step up to; above a relative start the steps are kept. -/
def resolveNames (rooted : Bool) (kept : List Bytes) : List Bytes → List Bytes
  | [] => kept.reverse
  | name :: rest =>
    if name = [] || name = [0x2E] then resolveNames rooted kept rest
    else if name = [0x2E, 0x2E] then
      match kept with
      | last :: before =>
        if last = [0x2E, 0x2E] then resolveNames rooted (name :: kept) rest
        else resolveNames rooted before rest
      | [] => if rooted then resolveNames rooted [] rest else resolveNames rooted [name] rest
    else resolveNames rooted (name :: kept) rest

/-- The shortest path that means the same without looking at any file. -/
def clean (p : Bytes) : Bytes :=
  let rooted := isAbsolute p
  let names := [slash].intercalate (resolveNames rooted [] (p.splitOn slash))
  if rooted then slash :: names
  else if names = [] then [0x2E]
  else names

def join (a b : Bytes) : Bytes :=
  if a = [] then (if b = [] then [] else clean b) else clean (a ++ slash :: b)

/-- The directory part up to the last slash, and the name behind it. -/
def split (p : Bytes) : Bytes × Bytes := p.splitLast slash

def directory (p : Bytes) : Bytes := clean (split p).1

def base (p : Bytes) : Bytes :=
  if p = [] then [0x2E]
  else
    let stripped := Bytes.trimRight (· == slash) p
    if stripped = [] then [slash] else (split stripped).2

def absolute (cwd p : Bytes) : Bytes :=
  if isAbsolute p then clean p else join cwd p

end Retouch.Path
