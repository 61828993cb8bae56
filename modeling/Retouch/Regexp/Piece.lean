import Retouch.Regexp.Expr

/-! Parts of an expression that is being read.
Besides its meaning a part knows how tall and how large its tree is, because trees beyond the
limits are refused. -/
namespace Retouch.Regexp

structure Measure where
  /-- The number of nodes on its longest branch. -/
  height : Nat
  /-- The number of steps it takes when its repetitions are written out. -/
  size : Nat
  /-- The largest product of the counts of nested repetitions. -/
  copies : Nat
  deriving Repr

namespace Measure

def leaf (size : Nat) : Measure := ⟨1, max 1 size, 0⟩

def join (ms : List Measure) : Measure :=
  ms.foldl (fun a b => ⟨max a.height b.height, a.size + b.size, max a.copies b.copies⟩) ⟨0, 0, 0⟩

def under (m : Measure) (extra : Nat) : Measure := ⟨m.height + 1, max 1 (m.size + extra), m.copies⟩

def repeated (m : Measure) (least : Nat) (most : Option Nat) : Measure :=
  let size := match most with
    | none => if least = 0 then m.size + 2 else least * m.size + 1
    | some n => n * m.size + (n - least)
  let copies := match most with
    | some 0 => 0
    | some n => max n (n * m.copies)
    | none => if least = 0 then m.copies else max least (least * m.copies)
  ⟨m.height + 1, max 1 size, copies⟩

end Measure

inductive Piece where
  /-- Code points in a row, the last one first; `folded` when letter case does not count. -/
  | literal (folded : Bool) (sets : List CharSet)
  /-- One code point of a set. -/
  | single (set : CharSet)
  | concat (parts : List Expr) (inner : Measure)
  | alternate (branches : List Expr) (inner : Measure)
  /-- A repetition with counts, under the largest one that matters. -/
  | counted (expr : Expr) (measure : Measure) (count : Nat)
  | other (expr : Expr) (measure : Measure)
  deriving Repr

namespace Piece

def toExpr : Piece → Expr
  | .literal _ sets => Expr.seqAll (sets.reverse.map Expr.set)
  | .single s => .set s
  | .concat parts _ => Expr.seqAll parts
  | .alternate branches _ => Expr.altAll branches
  | .counted e _ _ => e
  | .other e _ => e

def measure : Piece → Measure
  | .literal _ sets => .leaf sets.length
  | .single _ => .leaf 1
  | .concat _ m => m.under 0
  | .alternate branches m => m.under (branches.length - 1)
  | .counted _ m _ => m
  | .other _ m => m

/-- The set of a part that reads exactly one code point. -/
def set? : Piece → Option CharSet
  | .literal _ [s] => some s
  | .single s => some s
  | _ => none

def isConcat : Piece → Bool
  | .concat _ _ => true
  | _ => false

def isAlternate : Piece → Bool
  | .alternate _ _ => true
  | _ => false

/-- Parts in a row as one part; rows inside are taken apart. -/
def ofRow : List Piece → Piece
  | [] => .other .empty (.leaf 1)
  | [p] => p
  | ps => .concat
      (ps.flatMap fun p => match p with
        | .concat parts _ => parts
        | p => [p.toExpr])
      (.join (ps.map fun p => match p with
        | .concat _ m => m
        | p => p.measure))

/-- Branches as one part; choices inside are taken apart. -/
def ofBranches : List Piece → Piece
  | [] => .other .never (.leaf 1)
  | [p] => p
  | ps => .alternate
      (ps.flatMap fun p => match p with
        | .alternate branches _ => branches
        | p => [p.toExpr])
      (.join (ps.map fun p => match p with
        | .alternate _ m => m
        | p => p.measure))

end Piece

end Retouch.Regexp
