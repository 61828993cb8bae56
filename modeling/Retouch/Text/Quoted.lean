import Retouch.Text.CodePoint
import Retouch.Unicode.Printable

/-! Quoted texts, as messages show names and patterns.
The quoted form is a single line of printable code points between double quotes; it shows every
byte of the text. -/
namespace Retouch.Bytes

def escapeLetter? (c : Nat) : Option UInt8 :=
  if c == 0x07 then some 0x61
  else if c == 0x08 then some 0x62
  else if c == 0x0C then some 0x66
  else if c == 0x0A then some 0x6E
  else if c == 0x0D then some 0x72
  else if c == 0x09 then some 0x74
  else if c == 0x0B then some 0x76
  else none

def quotedPoint (byte : UInt8) (c : CodePoint) : Bytes :=
  if c.isMalformed then "\\x" ++ ofHex 2 byte.toNat
  else if c.value == 0x22 || c.value == 0x5C then [0x5C, c.value.toUInt8]
  else if Unicode.isPrintable c.value then CodePoint.encode c.value
  else match escapeLetter? c.value with
    | some l => [0x5C, l]
    | none =>
      if c.value < 0x20 || c.value == 0x7F then "\\x" ++ ofHex 2 c.value
      else if c.value < 0x10000 then "\\u" ++ ofHex 4 c.value
      else "\\U" ++ ofHex 8 c.value

/-- The quoted forms of the code points from a place that lies so many bytes ahead. -/
def quotedAfter : Nat → Bytes → Bytes
  | _, [] => []
  | skip + 1, _ :: rest => quotedAfter skip rest
  | 0, b :: rest =>
    let c := CodePoint.read b rest
    quotedPoint b c ++ quotedAfter (c.width - 1) rest

def quoted (b : Bytes) : Bytes := 0x22 :: quotedAfter 0 b ++ [0x22]

def quotedValue (v : Nat) : Bytes :=
  let body : Bytes :=
    if v == 0x27 then [0x5C, 0x27]
    else if v == 0x22 then [0x22]
    else quotedPoint 0 ⟨v, 3⟩
  0x27 :: body ++ [0x27]

end Retouch.Bytes
