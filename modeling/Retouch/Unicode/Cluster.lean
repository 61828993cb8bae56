import Retouch.Unicode.BreakClass
import Retouch.Unicode.Width

/-! User-perceived characters and the columns they take.
A text is cut between two code points unless one of the joining rules keeps them together. -/
namespace Retouch.Unicode

/-- The class of a code point for cutting a text. -/
inductive CutClass where
  | other | carriageReturn | lineFeed | control | extend | joiner | prepend | spacing
  | regional | leading | vowel | trailing | openSyllable | closedSyllable | pictograph
  deriving DecidableEq, Repr

namespace CutClass

def ofValue (c : Nat) : CutClass :=
  if c == 0x0D then .carriageReturn
  else if c == 0x0A then .lineFeed
  else if 0x20 ≤ c && c < 0x7F then .other
  else if c == 0x200D then .joiner
  else if 0xAC00 ≤ c && c ≤ 0xD7A3 then
    if (c - 0xAC00) % 28 == 0 then .openSyllable else .closedSyllable
  else if BreakClass.control.contains c then .control
  else if BreakClass.extend.contains c then .extend
  else if BreakClass.prepend.contains c then .prepend
  else if BreakClass.spacing.contains c then .spacing
  else if BreakClass.regional.contains c then .regional
  else if BreakClass.leading.contains c then .leading
  else if BreakClass.vowel.contains c then .vowel
  else if BreakClass.trailing.contains c then .trailing
  else if BreakClass.pictograph.contains c then .pictograph
  else .other

def isControl (c : CutClass) : Bool :=
  c == .control || c == .carriageReturn || c == .lineFeed

end CutClass

structure CutState where
  last : CutClass
  /-- A pictograph with any marks stands before the place. -/
  picture : Bool
  /-- The number of regional indicators right before the place is odd. -/
  oddFlag : Bool

namespace CutState

def start (c : CutClass) : CutState := ⟨c, c == .pictograph, c == .regional⟩

def next (s : CutState) (c : CutClass) : CutState :=
  ⟨c,
    c == .pictograph || (s.picture && c == .extend),
    c == .regional && !(s.last == .regional && s.oddFlag)⟩

def joins (s : CutState) (pictureBeforeJoiner : Bool) (c : CutClass) : Bool :=
  if s.last == .carriageReturn && c == .lineFeed then true
  else if s.last.isControl || c.isControl then false
  else if s.last == .leading
      && (c == .leading || c == .vowel || c == .openSyllable || c == .closedSyllable) then true
  else if (s.last == .openSyllable || s.last == .vowel) && (c == .vowel || c == .trailing) then true
  else if (s.last == .closedSyllable || s.last == .trailing) && c == .trailing then true
  else if c == .extend || c == .joiner || c == .spacing then true
  else if s.last == .prepend then true
  else if pictureBeforeJoiner && s.last == .joiner && c == .pictograph then true
  else s.last == .regional && s.oddFlag && c == .regional

end CutState

/-- The clusters of a sequence whose current cluster is given last code point first. -/
def clustersAfter (s : CutState) (picture : Bool) (current : List Nat) :
    List Nat → List (List Nat)
  | [] => [current.reverse]
  | c :: rest =>
    let k := CutClass.ofValue c
    -- A joiner binds only when a pictograph with marks stands before it.
    let bound := if k == .joiner then s.picture else false
    if s.joins picture k then clustersAfter (s.next k) bound (c :: current) rest
    else current.reverse :: clustersAfter (CutState.start k) false [c] rest

def clusters : List Nat → List (List Nat)
  | [] => []
  | c :: rest => clustersAfter (CutState.start (CutClass.ofValue c)) false [c] rest

/-- The columns of a cluster are those of its first code point that takes any. -/
def clusterColumns (cs : List Nat) : Nat :=
  ((cs.map columns).find? (· ≠ 0)).getD 0

def textColumns (cs : List Nat) : Nat :=
  (clusters cs).foldr (fun c columns => clusterColumns c + columns) 0

end Retouch.Unicode
