/-! The middle of a shortest edit path.
Two walks explore the edit grid from its two corners; for every diagonal each of them knows how
far it can get with a number of edits. Where they meet, the problem falls into two halves. -/
namespace Retouch.Diff

structure Walk where
  /-- The furthest place on each diagonal, or -1. -/
  reach : Array Int
  /-- How many diagonals at the lower end have left the grid. -/
  low : Nat
  /-- How many diagonals at the upper end have left the grid. -/
  high : Nat

structure Grid where
  width : Nat
  height : Nat
  /-- The most edits of one walk, and the index of diagonal zero. -/
  limit : Nat

namespace Grid

def ofSizes (width height : Nat) : Grid := ⟨width, height, (width + height + 1) / 2⟩

def difference (g : Grid) : Int := (g.width : Int) - g.height

def slot? (g : Grid) (k : Int) : Option Nat :=
  let i := (g.limit : Int) + k
  if 0 ≤ i && i < 2 * (g.limit : Int) then some i.toNat else none

def get (g : Grid) (w : Walk) (k : Int) : Int :=
  match g.slot? k with
  | some i => w.reach.getD i (-1)
  | none => -1

def set (g : Grid) (w : Walk) (k x : Int) : Walk :=
  match g.slot? k with
  | some i => { w with reach := w.reach.setIfInBounds i x }
  | none => w

def start (g : Grid) : Walk :=
  ⟨(Array.replicate (2 * g.limit) (-1)).setIfInBounds (g.limit + 1) 0, 0, 0⟩

end Grid

def slide (same : Nat → Nat → Bool) : Nat → Int → Int → Int
  | 0, x, _ => x
  | fuel + 1, x, y =>
    if 0 ≤ x && 0 ≤ y && same x.toNat y.toNat then slide same fuel (x + 1) (y + 1) else x

/-- Takes one walk a step further on all its diagonals from `k` on. If `meets` gives a place for a
diagonal and the place reached on it, the walks have met there. -/
def stepFrom (g : Grid) (same : Nat → Nat → Bool) (meets : Int → Int → Option (Int × Int))
    (d : Nat) :
    Nat → Int → Walk → Walk × Option (Int × Int)
  | 0, _, w => (w, none)
  | fuel + 1, k, w =>
    if k > (d : Int) - w.high then (w, none)
    else
      let x :=
        if k == -(d : Int) || (k != d && g.get w (k - 1) < g.get w (k + 1)) then g.get w (k + 1)
        else g.get w (k - 1) + 1
      let x := slide same (g.width + 1) x (x - k)
      let w := g.set w k x
      if x > g.width then stepFrom g same meets d fuel (k + 2) { w with high := w.high + 2 }
      else if x - k > g.height then
        stepFrom g same meets d fuel (k + 2) { w with low := w.low + 2 }
      else match meets k x with
        | some place => (w, some place)
        | none => stepFrom g same meets d fuel (k + 2) w

def meetFrom (g : Grid) (ahead behind : Nat → Nat → Bool) :
    Nat → Nat → Walk → Walk → Option (Int × Int)
  | 0, _, _, _ => none
  | fuel + 1, d, front, back =>
    let odd := g.difference % 2 != 0
    let meetsBack (k x : Int) : Option (Int × Int) :=
      if !odd then none
      else
        let y := g.get back (g.difference - k)
        if y != -1 && x + y ≥ g.width then some (x, x - k) else none
    let (front, place) :=
      stepFrom g ahead meetsBack d (d + 1) (-(d : Int) + front.low) front
    match place with
    | some p => some p
    | none =>
      let meetsFront (k x : Int) : Option (Int × Int) :=
        if odd then none
        else
          let y := g.get front (g.difference - k)
          if y != -1 && x + y ≥ g.width then some (y, y - (g.difference - k)) else none
      let (back, place) :=
        stepFrom g behind meetsFront d (d + 1) (-(d : Int) + back.low) back
      match place with
      | some p => some p
      | none => meetFrom g ahead behind fuel (d + 1) front back

/-- The lengths of the two parts that belong together at the middle of a shortest edit path, or
nothing if the texts have nothing in common. -/
def middle? (a b : List Nat) : Option (Nat × Nat) :=
  let as := a.toArray
  let bs := b.toArray
  let g := Grid.ofSizes as.size bs.size
  let ahead (x y : Nat) : Bool := x < as.size && y < bs.size && as.getD x 0 == bs.getD y 0
  let behind (x y : Nat) : Bool :=
    x < as.size && y < bs.size && as.getD (as.size - x - 1) 0 == bs.getD (bs.size - y - 1) 0
  (meetFrom g ahead behind g.limit 0 g.start g.start).map fun p => (p.1.toNat, p.2.toNat)

end Retouch.Diff
