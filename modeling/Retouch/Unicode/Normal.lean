import Retouch.Unicode.Canonical

/-! The composed normal form of a sequence of code points.
The sequence is decomposed, its marks are put in the order of their classes, and what composes is
composed again from the left. Where too many code points would be joined to one, a joiner is put
between them first. -/
namespace Retouch.Unicode

namespace Hangul

def syllableBase : Nat := 0xAC00
def leadBase : Nat := 0x1100
def vowelBase : Nat := 0x1161
def tailBase : Nat := 0x11A7
def leadCount : Nat := 19
def vowelCount : Nat := 21
def tailCount : Nat := 28

def isSyllable (c : Nat) : Bool :=
  syllableBase ≤ c && c < syllableBase + leadCount * vowelCount * tailCount

def letters (c : Nat) : List Nat :=
  let i := c - syllableBase
  let lead := leadBase + i / (vowelCount * tailCount)
  let vowel := vowelBase + i / tailCount % vowelCount
  let tail := i % tailCount
  if tail = 0 then [lead, vowel] else [lead, vowel, tailBase + tail]

/-- The syllable of a lead and a vowel, or of an open syllable and a tail. -/
def compose? (a b : Nat) : Option Nat :=
  if leadBase ≤ a && a < leadBase + leadCount && vowelBase ≤ b && b < vowelBase + vowelCount then
    some (syllableBase + ((a - leadBase) * vowelCount + (b - vowelBase)) * tailCount)
  else if isSyllable a && (a - syllableBase) % tailCount == 0
      && tailBase < b && b < tailBase + tailCount then
    some (a + (b - tailBase))
  else none

end Hangul

/-- The full decomposition of a code point; no chain of decompositions is longer than the depth. -/
def decomposeWithin : Nat → Nat → List Nat
  | 0, c => [c]
  | depth + 1, c =>
    if Hangul.isSyllable c then Hangul.letters c
    else if isHangulLetter c then [c]
    else match decompositionMap[c]? with
      | none => [c]
      | some d => decomposeWithin depth d.first ++ d.second.toList

def decompose (c : Nat) : List Nat := decomposeWithin 8 c

/-- Puts a code point before a sequence whose marks are in order, behind the marks of lower
class. -/
def insertMark (c : Nat) : List Nat → List Nat
  | [] => [c]
  | d :: rest =>
    if combiningClass d ≠ 0 && combiningClass d < combiningClass c then d :: insertMark c rest
    else c :: d :: rest

/-- Each run of marks in the order of their classes. -/
def orderMarks (cs : List Nat) : List Nat := cs.foldr insertMark []

def compose? (a b : Nat) : Option Nat :=
  (Hangul.compose? a b).or (compositionMap[(a, b)]?)

/-- Composes what follows a starter; `marks` are those kept behind it, the last one first. -/
def composeAfter (starter : Nat) (marks : List Nat) : List Nat → List Nat
  | [] => starter :: marks.reverse
  | c :: rest =>
    let free := match marks with
      | [] => true
      | m :: _ => combiningClass m < combiningClass c
    match if free then compose? starter c else none with
    | some whole => composeAfter whole marks rest
    | none =>
      if combiningClass c = 0 then starter :: (marks.reverse ++ composeAfter c [] rest)
      else composeAfter starter (c :: marks) rest

def composeAll (cs : List Nat) : List Nat :=
  let leading := cs.takeWhile (combiningClass · ≠ 0)
  match cs.dropWhile (combiningClass · ≠ 0) with
  | [] => leading
  | s :: rest => leading ++ composeAfter s [] rest

/-- Whether a code point is joined to the one before it: a mark, one that composes, or a vowel or a
tail of a Hangul syllable. -/
def isJoined (c : Nat) : Bool :=
  if isHangulLetter c then
    Hangul.vowelBase ≤ c && c < Hangul.vowelBase + Hangul.vowelCount
      || Hangul.tailBase ≤ c && c < Hangul.tailBase + Hangul.tailCount
  else combiningClass c ≠ 0 || secondSet.contains c

/-- The numbers of joined code points that a code point stands for, at its start and at its end. -/
def joinedEnds (c : Nat) : Nat × Nat :=
  let letters := decompose c
  let ends := ((letters.takeWhile isJoined).length, (letters.reverse.takeWhile isJoined).length)
  if isHangulLetter c || Hangul.isSyllable c then ends else joinedTable.getD c ends

/-- The most code points that are joined to one. -/
def maxJoined : Nat := 30

/-- A code point that starts another row of joined ones and shows nothing. -/
def graphemeJoiner : Nat := 0x34F

/-- A sequence with a joiner before each code point that would be one too many, behind a number of
joined ones. -/
def limitJoined : Nat → List Nat → List Nat
  | _, [] => []
  | count, c :: rest =>
    let (first, last) := joinedEnds c
    if maxJoined < count + first then graphemeJoiner :: c :: limitJoined first rest
    else c :: limitJoined (if first = 0 then last else count + first) rest

def normalForm (cs : List Nat) : List Nat :=
  if cs.all (· < 0x300) then cs
  else composeAll (orderMarks ((limitJoined 0 cs).flatMap decompose))

end Retouch.Unicode
