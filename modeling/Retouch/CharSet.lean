/-! Sets of code points as lists of inclusive ranges.
A set in normal form lists its ranges in ascending order with a gap between neighbours. -/
namespace Retouch

/-- A set of code points, given by ranges `(lo, hi)` with both ends included. -/
structure CharSet where
  ranges : List (Nat × Nat)
  deriving DecidableEq, Repr, Inhabited

namespace CharSet

def top : Nat := 0x10FFFF

def empty : CharSet := ⟨[]⟩

def full : CharSet := ⟨[(0, top)]⟩

def single (c : Nat) : CharSet := ⟨[(c, c)]⟩

def contains (s : CharSet) (c : Nat) : Bool :=
  s.ranges.any fun r => r.1 ≤ c && c ≤ r.2

def joinRanges : List (Nat × Nat) → List (Nat × Nat)
  | [] => []
  | r :: rest =>
    match joinRanges rest with
    | [] => [r]
    | s :: more => if s.1 ≤ r.2 + 1 then (r.1, max r.2 s.2) :: more else r :: s :: more

/-- The normal form: sorted by lower end and joined. -/
def normalize (s : CharSet) : CharSet :=
  ⟨joinRanges (s.ranges.mergeSort fun a b => a.1 < b.1 || (a.1 == b.1 && a.2 ≤ b.2))⟩

def union (s t : CharSet) : CharSet := ⟨s.ranges ++ t.ranges⟩

/-- The gaps of an ascending list of ranges from a code point upwards. -/
def gaps : Nat → List (Nat × Nat) → List (Nat × Nat)
  | from_, [] => if from_ ≤ top then [(from_, top)] else []
  | from_, (lo, hi) :: rest =>
    if from_ < lo then (from_, lo - 1) :: gaps (hi + 1) rest else gaps (max from_ (hi + 1)) rest

def complement (s : CharSet) : CharSet := ⟨gaps 0 s.normalize.ranges⟩

def clip (s : CharSet) (lo hi : Nat) : List (Nat × Nat) :=
  s.ranges.filterMap fun r =>
    let a := max lo r.1
    let b := min hi r.2
    if a ≤ b then some (a, b) else none

/-- The only member of a set, if it has exactly one. -/
def only? (s : CharSet) : Option Nat :=
  match s.ranges with
  | [(lo, hi)] => if lo = hi then some lo else none
  | _ => none

end CharSet

end Retouch
