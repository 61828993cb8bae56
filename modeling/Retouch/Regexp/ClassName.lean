import Retouch.Bytes
import Retouch.Unicode.Category
import Retouch.Unicode.Folding
import Retouch.Unicode.Script

/-! Named classes of code points. -/
namespace Retouch.Regexp

/-- Digits, blanks and word characters of ASCII, by the letter that names them. -/
def shorthandSet? (letter : UInt8) : Option CharSet :=
  if letter == 0x64 then some ⟨[(0x30, 0x39)]⟩
  else if letter == 0x73 then some ⟨[(0x09, 0x0A), (0x0C, 0x0D), (0x20, 0x20)]⟩
  else if letter == 0x77 then some ⟨[(0x30, 0x39), (0x41, 0x5A), (0x5F, 0x5F), (0x61, 0x7A)]⟩
  else none

def bracketSets : List (String × CharSet) := [
  ("alnum", ⟨[(0x30, 0x39), (0x41, 0x5A), (0x61, 0x7A)]⟩),
  ("alpha", ⟨[(0x41, 0x5A), (0x61, 0x7A)]⟩),
  ("ascii", ⟨[(0x00, 0x7F)]⟩),
  ("blank", ⟨[(0x09, 0x09), (0x20, 0x20)]⟩),
  ("cntrl", ⟨[(0x00, 0x1F), (0x7F, 0x7F)]⟩),
  ("digit", ⟨[(0x30, 0x39)]⟩),
  ("graph", ⟨[(0x21, 0x7E)]⟩),
  ("lower", ⟨[(0x61, 0x7A)]⟩),
  ("print", ⟨[(0x20, 0x7E)]⟩),
  ("punct", ⟨[(0x21, 0x2F), (0x3A, 0x40), (0x5B, 0x60), (0x7B, 0x7E)]⟩),
  ("space", ⟨[(0x09, 0x0D), (0x20, 0x20)]⟩),
  ("upper", ⟨[(0x41, 0x5A)]⟩),
  ("word", ⟨[(0x30, 0x39), (0x41, 0x5A), (0x5F, 0x5F), (0x61, 0x7A)]⟩),
  ("xdigit", ⟨[(0x30, 0x39), (0x41, 0x46), (0x61, 0x66)]⟩)]

def bracketSet? (name : Bytes) : Option CharSet :=
  (bracketSets.find? fun p => Bytes.ofString p.1 == name).map (·.2)

/-- The name in small letters without blanks, underscores and hyphens. -/
def plainName (name : Bytes) : Bytes :=
  (name.filter fun b => b != 0x20 && b != 0x5F && b != 0x2D).map fun b =>
    if 0x41 ≤ b && b ≤ 0x5A then b + 0x20 else b

def majorSet (letter : Char) : CharSet :=
  ⟨(Unicode.Category.all.filter fun c => c.code.toList.head? == some letter).flatMap
    fun c => c.set.ranges⟩

/-- Code points that are in no category. -/
def unassignedSet : CharSet :=
  CharSet.complement ⟨Unicode.Category.all.flatMap fun c => c.set.ranges⟩

def majorNames : List (Char × List String) := [
  ('L', ["l", "letter"]),
  ('M', ["m", "mark", "combiningmark"]),
  ('N', ["n", "number"]),
  ('P', ["p", "punctuation", "punct"]),
  ('S', ["s", "symbol"]),
  ('Z', ["z", "separator"]),
  ('C', ["c", "other"])]

def casedSet : CharSet :=
  ⟨[Unicode.Category.uppercaseLetter, .lowercaseLetter, .titlecaseLetter].flatMap
    fun c => c.set.ranges⟩

/-- The class of a property name: a category, a script, or one of the general names. -/
def propertySet? (name : Bytes) : Option CharSet :=
  let plain := plainName name
  let is (s : String) : Bool := Bytes.ofString s == plain
  if is "any" then some CharSet.full
  else if is "assigned" then some unassignedSet.complement
  else if is "ascii" then some ⟨[(0, 0x7F)]⟩
  else if is "lc" || is "casedletter" then some casedSet
  else if is "cn" || is "unassigned" then some unassignedSet
  else match majorNames.find? fun m => m.2.any is with
    | some ('C', _) => some ((majorSet 'C').union unassignedSet)
    | some (letter, _) => some (majorSet letter)
    | none =>
      match Unicode.Category.all.find? fun c =>
          Bytes.ofString c.code.toLower == plain || is c.longName
            || (is "digit" && c == .decimalNumber) || (is "cntrl" && c == .control) with
      | some c => some c.set
      | none => (Unicode.scriptRuns.find? fun s => is s.1).map fun s => CharSet.ofRuns s.2

end Retouch.Regexp
