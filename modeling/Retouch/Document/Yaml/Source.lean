import Retouch.Text.CodePoint

/-! The characters of a YAML text.
A text is read block by block. The first character that a YAML text may not hold makes its whole
block unreadable: what lies before that block can be used, and nothing behind. -/
namespace Retouch.Document.Yaml

def isAllowed (c : Nat) : Bool :=
  c == 0x09 || c == 0x0A || c == 0x0D || (0x20 ≤ c && c ≤ 0x7E) || c == 0x85 ||
    (0xA0 ≤ c && c ≤ 0xD7FF) || (0xE000 ≤ c && c ≤ 0xFFFD) || (0x10000 ≤ c && c ≤ 0x10FFFF)

/-- The characters that can be used, and whether the text breaks off behind them. -/
structure Source where
  chars : List Nat
  broken : Bool
  deriving DecidableEq, Repr

/-- A way to write characters: the character at the head of a text with its width. The result is
none for bytes that are no character, and the width may pass the end of the text. -/
abbrev Encoding := Bytes → Option CodePoint

def announced (lead : UInt8) : Nat :=
  if lead < 0x80 then 1
  else if lead < 0xC0 then 0
  else if lead < 0xE0 then 2
  else if lead < 0xF0 then 3
  else if lead < 0xF8 then 4
  else 0

def utf8 : Encoding
  | [] => none
  | b :: rest =>
    let width := announced b
    if width == 0 then none
    else if rest.length + 1 < width then none
    else
      let c := CodePoint.read b rest
      if c.isMalformed then none else some c

/-- Characters of one or two units of two bytes, given how two bytes make a unit. -/
def utf16 (unit : UInt8 → UInt8 → Nat) : Encoding
  | a :: b :: rest =>
    let high := unit a b
    if 0xDC00 ≤ high && high < 0xE000 then none
    else if 0xD800 ≤ high && high < 0xDC00 then
      match rest with
      | c :: d :: _ =>
        let low := unit c d
        if 0xDC00 ≤ low && low < 0xE000 then
          some ⟨0x10000 + (high - 0xD800) * 0x400 + (low - 0xDC00), 4⟩
        else none
      | _ => none
    else some ⟨high, 2⟩
  | _ => none

def littleUnit (a b : UInt8) : Nat := b.toNat * 0x100 + a.toNat

def bigUnit (a b : UInt8) : Nat := a.toNat * 0x100 + b.toNat

/-- The characters of the block that ends so many bytes ahead, and the text behind it. A character
that passes the end of the block belongs to the next one. -/
def readBlock (encoding : Encoding) : Nat → Nat → Bytes → Option (List Nat × Bytes)
  | _, _, [] => some ([], [])
  | skip + 1, room, _ :: rest => readBlock encoding skip (room - 1) rest
  | 0, room, b :: rest =>
    if room == 0 then some ([], b :: rest)
    else
      match encoding (b :: rest) with
      | none =>
        if room < announced b && announced b ≤ rest.length + 1 then some ([], b :: rest) else none
      | some c =>
        if room < c.width then some ([], b :: rest)
        else if !isAllowed c.value then none
        else (readBlock encoding (c.width - 1) (room - 1) rest).map fun (cs, rest) =>
          (c.value :: cs, rest)

def blockSize : Nat := 512

/-- All blocks of a text, at most so many; the first one has the given size. -/
def readBlocks (encoding : Encoding) : Nat → Nat → Bytes → Source
  | 0, _, _ => ⟨[], true⟩
  | fuel + 1, room, text =>
    match readBlock encoding 0 room text with
    | none => ⟨[], true⟩
    | some (cs, []) => ⟨cs, false⟩
    | some (cs, rest) =>
      let more := readBlocks encoding fuel blockSize rest
      ⟨cs ++ more.chars, more.broken⟩

namespace Source

/-- The characters of a text. A byte order mark says how they are written. -/
def ofBytes (text : Bytes) : Source :=
  match text with
  | 0xFF :: 0xFE :: rest => readBlocks (utf16 littleUnit) (rest.length + 1) (blockSize - 2) rest
  | 0xFE :: 0xFF :: rest => readBlocks (utf16 bigUnit) (rest.length + 1) (blockSize - 2) rest
  | 0xEF :: 0xBB :: 0xBF :: rest => readBlocks utf8 (rest.length + 1) (blockSize - 3) rest
  | _ => readBlocks utf8 (text.length + 1) blockSize text

end Source

end Retouch.Document.Yaml
