import Retouch.Diff.Bisect
import Retouch.Diff.Chunk

/-! From two sequences to an edit script.
What both share at their ends is kept. The middle is split where one contains the other, where a
long stretch is common, or in the middle of a shortest edit path. -/
namespace Retouch.Diff

def indexFrom (part : List Nat) (n : Nat) : List Nat → Option Nat
  | [] => if part = [] then some n else none
  | x :: rest => if part.isPrefixOf (x :: rest) then some n else indexFrom part (n + 1) rest

def indexOf? (part whole : List Nat) : Option Nat := indexFrom part 0 whole

/-- A stretch that two sequences have in common: where it starts in each, and its length. -/
structure Common where
  long : Nat
  short : Nat
  length : Nat

def positionsFrom (part : List Nat) (n : Nat) : List Nat → List Nat
  | [] => []
  | x :: rest =>
    if part.isPrefixOf (x :: rest) then n :: positionsFrom part (n + 1) rest
    else positionsFrom part (n + 1) rest

/-- The longest common stretch around a quarter of the longer sequence that starts at a position,
if it is at least half as long as the longer sequence. -/
def stretchAt? (long short : List Nat) (start : Nat) : Option Common :=
  let size := long.length
  let before := (long.take start).reverse
  let behind := long.drop start
  let seed := behind.take (size / 4)
  let best := (positionsFrom seed 0 short).foldl (fun (best : Common) j =>
    let after := commonStart behind (short.drop j)
    let ahead := commonStart before (short.take j).reverse
    if best.length < after + ahead then ⟨start - ahead, j - ahead, after + ahead⟩
    else best) ⟨0, 0, 0⟩
  if best.length * 2 < size then none else some best

/-- A common stretch at least half as long as the longer sequence. -/
def longStretch? (long short : List Nat) : Option Common :=
  let size := long.length
  if size < 4 || short.length * 2 < size then none
  else match stretchAt? long short ((size + 3) / 4), stretchAt? long short ((size + 1) / 2) with
    | none, none => none
    | some c, none => some c
    | none, some c => some c
    | some c, some d => if c.length > d.length then some c else some d

/-- The script between two sequences with nothing in common at their ends, given a way to compare
shorter ones. -/
def compareMiddle (compare : List Nat → List Nat → List Chunk) (a b : List Nat) : List Chunk :=
  if a = [] then [.make .insert b]
  else if b = [] then [.make .delete a]
  else
    let shrinks := a.length > b.length
    let long := if shrinks then a else b
    let short := if shrinks then b else a
    match indexOf? short long with
    | some i =>
      let edit := if shrinks then .delete else .insert
      [.make edit (long.take i), .make .keep short, .make edit (long.drop (i + short.length))]
    | none =>
      if short.length = 1 then [.make .delete a, .make .insert b]
      else match longStretch? long short with
        | some c =>
          let startA := if shrinks then c.long else c.short
          let startB := if shrinks then c.short else c.long
          compare (a.take startA) (b.take startB)
            ++ .make .keep ((a.drop startA).take c.length)
              :: compare (a.drop (startA + c.length)) (b.drop (startB + c.length))
        | none =>
          match middle? a b with
          | some (x, y) => compare (a.take x) (b.take y) ++ compare (a.drop x) (b.drop y)
          | none => [.make .delete a, .make .insert b]

/-- The script between two sequences, split at most so many times in a row. -/
def compareWithin : Nat → List Nat → List Nat → List Chunk
  | 0, a, b => [.make .delete a, .make .insert b]
  | fuel + 1, a, b =>
    if a = b then
      if a = [] then [] else [.make .keep a]
    else
      let n := commonStart a b
      let restA := a.drop n
      let restB := b.drop n
      let m := commonEnd restA restB
      let chunks := compareMiddle (compareWithin fuel)
        (restA.take (restA.length - m)) (restB.take (restB.length - m))
      let chunks := if n = 0 then chunks else .make .keep (a.take n) :: chunks
      let chunks :=
        if m = 0 then chunks else chunks ++ [.make .keep (restA.drop (restA.length - m))]
      tidy chunks

/-- The script between two sequences; every split leaves shorter ones. -/
def compare (a b : List Nat) : List Chunk := compareWithin (a.length + b.length + 1) a b

end Retouch.Diff
