import Retouch.Bytes

/-! Code points of a text.
Reading never fails: a byte that starts no well-formed sequence reads as U+FFFD of width one, so
the widths of the code points of a text always add up to its length. -/
namespace Retouch

/-- A code point read from a text, with the number of bytes it took. -/
structure CodePoint where
  value : Nat
  width : Nat
  deriving DecidableEq, Repr, Inhabited

namespace CodePoint

/-- The value that stands for bytes which are no code point. -/
def replacement : Nat := 0xFFFD

/-- A byte that starts no well-formed sequence. -/
def malformed : CodePoint := ⟨replacement, 1⟩

/-- Only a malformed byte has the replacement value in a single byte. -/
def isMalformed (c : CodePoint) : Bool :=
  c.value == replacement && c.width == 1

def isContinuation (b : UInt8) : Bool :=
  0x80 ≤ b && b ≤ 0xBF

def bits (b : UInt8) : Nat := b.toNat % 0x40

/-- The bytes allowed after a lead byte: overlong forms, surrogates and values above U+10FFFF are
not well formed. -/
def secondAllowed (lead b : UInt8) : Bool :=
  if lead = 0xE0 then 0xA0 ≤ b && b ≤ 0xBF
  else if lead = 0xED then 0x80 ≤ b && b ≤ 0x9F
  else if lead = 0xF0 then 0x90 ≤ b && b ≤ 0xBF
  else if lead = 0xF4 then 0x80 ≤ b && b ≤ 0x8F
  else isContinuation b

def read (lead : UInt8) (rest : Bytes) : CodePoint :=
  if lead < 0x80 then ⟨lead.toNat, 1⟩
  else if lead < 0xC2 then malformed
  else if lead < 0xE0 then
    match rest with
    | b :: _ =>
      if isContinuation b then ⟨(lead.toNat % 0x20) * 0x40 + bits b, 2⟩ else malformed
    | _ => malformed
  else if lead < 0xF0 then
    match rest with
    | b :: c :: _ =>
      if secondAllowed lead b && isContinuation c then
        ⟨((lead.toNat % 0x10) * 0x40 + bits b) * 0x40 + bits c, 3⟩
      else malformed
    | _ => malformed
  else if lead < 0xF5 then
    match rest with
    | b :: c :: d :: _ =>
      if secondAllowed lead b && isContinuation c && isContinuation d then
        ⟨(((lead.toNat % 0x08) * 0x40 + bits b) * 0x40 + bits c) * 0x40 + bits d, 4⟩
      else malformed
    | _ => malformed
  else malformed

/-- The code points from a place that lies so many bytes ahead. -/
def decodeAfter : Nat → Bytes → List CodePoint
  | _, [] => []
  | skip + 1, _ :: rest => decodeAfter skip rest
  | 0, b :: rest =>
    let c := read b rest
    c :: decodeAfter (c.width - 1) rest

/-- All code points of a text in order. -/
def decode (b : Bytes) : List CodePoint := decodeAfter 0 b

def values (b : Bytes) : List Nat := (decode b).map (·.value)

/-- Surrogates and values above U+10FFFF are no scalar values. -/
def isScalar (v : Nat) : Bool :=
  v < 0xD800 || (0xE000 ≤ v && v ≤ 0x10FFFF)

/-- The UTF-8 bytes of a scalar value; any other value is written as U+FFFD. -/
def encode (v : Nat) : Bytes :=
  let v := if isScalar v then v else replacement
  if v < 0x80 then [v.toUInt8]
  else if v < 0x800 then [(0xC0 + v / 0x40).toUInt8, (0x80 + v % 0x40).toUInt8]
  else if v < 0x10000 then
    [(0xE0 + v / 0x1000).toUInt8, (0x80 + v / 0x40 % 0x40).toUInt8, (0x80 + v % 0x40).toUInt8]
  else
    [(0xF0 + v / 0x40000).toUInt8, (0x80 + v / 0x1000 % 0x40).toUInt8,
      (0x80 + v / 0x40 % 0x40).toUInt8, (0x80 + v % 0x40).toUInt8]

/-- The UTF-8 bytes of a sequence of values. -/
def encodeAll (vs : List Nat) : Bytes := vs.flatMap encode

/-- The text with U+FFFD in the place of every malformed byte. -/
def repaired (b : Bytes) : Bytes := encodeAll (values b)

/-- A text is valid UTF-8 when no byte of it is malformed. -/
def isValid (b : Bytes) : Bool := (decode b).all fun c => !c.isMalformed

end CodePoint

end Retouch
