import Retouch.Text.CodePoint

/-! Small letters, as far as a comparison with ASCII names can see them. -/
namespace Retouch.Bytes

/-- The small letter of a code point. Besides the Latin capitals only the dotted capital I and the
Kelvin sign have a small letter in ASCII, so any other code point is left as it is. -/
def lowerValue (c : Nat) : Nat :=
  if 0x41 ≤ c && c ≤ 0x5A then c + 0x20
  else if c == 0x130 then 0x69
  else if c == 0x212A then 0x6B
  else c

def lowered (b : Bytes) : Bytes :=
  CodePoint.encodeAll ((CodePoint.values b).map lowerValue)

end Retouch.Bytes
