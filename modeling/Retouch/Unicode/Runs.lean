import Retouch.CharSet

/-! Written runs of code points.
A table is a text of words `LO-HI/STRIDE>TARGET` in hexadecimal, of which everything after the
first number may be left out. -/
namespace Retouch.Unicode

def words (s : String) : List (List Char) :=
  (s.toList.foldr (fun c acc =>
    if c = ' ' || c = '\n' then [] :: acc
    else match acc with
      | [] => [[c]]
      | w :: more => (c :: w) :: more) [[]]).filter (· ≠ [])

def hexValue (c : Char) : Nat :=
  if c ≤ '9' then c.toNat - 0x30 else c.toNat - 0x37

def hexNumber (cs : List Char) : Nat :=
  cs.foldl (fun n c => n * 16 + hexValue c) 0

/-- The part of a word before a mark and the part behind it. -/
def splitMark (mark : Char) (w : List Char) : List Char × List Char :=
  (w.takeWhile (· ≠ mark), (w.dropWhile (· ≠ mark)).drop 1)

/-- Every `stride`-th code point from `first` to `last`, and where the first one is mapped to. -/
structure Run where
  first : Nat
  last : Nat
  stride : Nat
  target : Nat
  deriving Repr

namespace Run

def ofWord (w : List Char) : Run :=
  let (source, target) := splitMark '>' w
  let (range, stride) := splitMark '/' source
  let (lo, hi) := splitMark '-' range
  ⟨hexNumber lo, if hi = [] then hexNumber lo else hexNumber hi,
    if stride = [] then 1 else hexNumber stride, hexNumber target⟩

/-- The members of a run in ascending order. -/
def members (r : Run) : List Nat :=
  (List.range ((r.last - r.first) / r.stride + 1)).map fun i => r.first + i * r.stride

def ranges (r : Run) : List (Nat × Nat) :=
  if r.stride = 1 then [(r.first, r.last)] else r.members.map fun c => (c, c)

end Run

def parseRuns (s : String) : List Run := (words s).map Run.ofWord

end Retouch.Unicode

namespace Retouch

def CharSet.ofRuns (s : String) : CharSet :=
  ⟨(Unicode.parseRuns s).flatMap Unicode.Run.ranges⟩

end Retouch
