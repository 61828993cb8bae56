/-! Texts as byte sequences.
A text may hold any bytes; code points are a view of it and not its representation. -/
namespace Retouch

abbrev Bytes := List UInt8

namespace Bytes

def ofString (s : String) : Bytes :=
  s.toList.flatMap String.utf8EncodeChar

instance : Coe String (List UInt8) := ⟨ofString⟩

def ofNat (n : Nat) : Bytes :=
  (Nat.toDigits 10 n).map fun c => c.toNat.toUInt8

/-- The decimal digits of an integer, with a minus sign below zero. -/
def ofInt : Int → Bytes
  | .ofNat n => ofNat n
  | .negSucc n => 0x2D :: ofNat (n + 1)

/-- The least number of lower-case hexadecimal digits, filled with zeros on the left. -/
def ofHex (width n : Nat) : Bytes :=
  let digits := (Nat.toDigits 16 n).map fun c => c.toNat.toUInt8
  List.replicate (width - digits.length) 0x30 ++ digits

/-- The pieces between the occurrences of a byte; there is always at least one piece. -/
def splitOn (sep : UInt8) (b : Bytes) : List Bytes :=
  b.foldr (fun x acc =>
    if x = sep then [] :: acc
    else match acc with
      | [] => [[x]]
      | piece :: more => (x :: piece) :: more) [[]]

/-- The lines of a text, each with the line feed that ends it; an unterminated rest is a line of
its own, and the empty text has no lines. -/
def lines (b : Bytes) : List Bytes :=
  b.foldr (fun x acc =>
    if x = 0x0A then [x] :: acc
    else match acc with
      | [] => [[x]]
      | line :: more => (x :: line) :: more) []

/-- The text without one given suffix, if it ends in it. -/
def dropSuffix (b suffix : Bytes) : Bytes :=
  if suffix.isSuffixOf b then b.take (b.length - suffix.length) else b

/-- The longest text without bytes of the given kind at its end. -/
def trimRight (p : UInt8 → Bool) (b : Bytes) : Bytes :=
  (b.reverse.dropWhile p).reverse

/-- The text before the last occurrence of a byte, that byte included, and the text after it. -/
def splitLast (sep : UInt8) (b : Bytes) : Bytes × Bytes :=
  let tail := b.reverse.takeWhile (· ≠ sep)
  (b.take (b.length - tail.length), tail.reverse)

def indexOf? (x : UInt8) (b : Bytes) : Option Nat :=
  b.findIdx? (· == x)

end Bytes

end Retouch
