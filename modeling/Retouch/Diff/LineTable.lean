import Retouch.Bytes
import Std.Data.HashMap

/-! Lines as numbers.
Every distinct line gets a code of its own, so that texts are compared line by line. Codes are
code points: they start at one and leave out the surrogates. -/
namespace Retouch.Diff

/-- The lines seen so far and the code of each. -/
structure LineTable where
  lines : Array Bytes
  index : Std.HashMap Bytes Nat

namespace LineTable

def empty : LineTable := ⟨#[], {}⟩

def code (position : Nat) : Nat :=
  if position + 1 ≥ 0xD800 then position + 1 + 0x800 else position + 1

def position (code : Nat) : Nat :=
  (if code ≥ 0xE000 then code - 0x800 else code) - 1

/-- The code of a line, which is new if the line is. -/
def insert (t : LineTable) (line : Bytes) : LineTable × Nat :=
  match t.index[line]? with
  | some c => (t, c)
  | none =>
    let c := code t.lines.size
    (⟨t.lines.push line, t.index.insert line c⟩, c)

def encode (t : LineTable) (lines : List Bytes) : LineTable × List Nat :=
  let (t, codes) := lines.foldl (fun (t, codes) line =>
    let (t, c) := t.insert line
    (t, c :: codes)) (t, [])
  (t, codes.reverse)

def line (t : LineTable) (code : Nat) : Bytes := t.lines.getD (position code) []

end LineTable

end Retouch.Diff
