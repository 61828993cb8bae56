import Retouch.Bytes

/-! Bytes written in base 64, four digits for three bytes. -/
namespace Retouch.Base64

def digit? (b : UInt8) : Option Nat :=
  if 0x41 ≤ b && b ≤ 0x5A then some (b.toNat - 0x41)
  else if 0x61 ≤ b && b ≤ 0x7A then some (b.toNat - 0x61 + 26)
  else if 0x30 ≤ b && b ≤ 0x39 then some (b.toNat - 0x30 + 52)
  else if b == 0x2B then some 62
  else if b == 0x2F then some 63
  else none

def group (count value : Nat) : Bytes :=
  [(value / 0x10000).toUInt8, (value / 0x100 % 0x100).toUInt8, (value % 0x100).toUInt8].take count

/-- The bytes of groups of four digits; the last group may end in one or two equals signs. -/
def decodeGroups : Bytes → Option Bytes
  | [] => some []
  | a :: b :: c :: d :: rest => do
    let x ← digit? a
    let y ← digit? b
    if d == 0x3D && rest.isEmpty then
      if c == 0x3D then return group 1 ((x * 64 + y) * 4096)
      else
        let z ← digit? c
        return group 2 (((x * 64 + y) * 64 + z) * 64)
    else
      let z ← digit? c
      let w ← digit? d
      return group 3 (((x * 64 + y) * 64 + z) * 64 + w) ++ (← decodeGroups rest)
  | _ => none

/-- The bytes that a text gives; line breaks in it do not count. -/
def decode (text : Bytes) : Option Bytes :=
  decodeGroups (text.filter fun b => b != 0x0A && b != 0x0D)

end Retouch.Base64
