import Retouch.Document.Yaml.Gap

/-! Texts in single or double quotes. -/
namespace Retouch.Document.Yaml

namespace Quoted

def hexValue (digits : List Nat) : Option Nat :=
  digits.foldlM (fun v d => (hexDigit? d).map fun x => v * 16 + x) 0

def simpleEscape? (c : Nat) : Option Nat :=
  let pairs : List (Char × Nat) := [('0', 0), ('a', 7), ('b', 8), ('t', 9), ('\t', 9), ('n', 10),
    ('v', 11), ('f', 12), ('r', 13), ('e', 27), (' ', 0x20), ('"', 0x22), ('\'', 0x27),
    ('\\', 0x5C), ('N', 0x85), ('_', 0xA0), ('L', 0x2028), ('P', 0x2029)]
  (pairs.find? fun p => p.1.toNat == c).map (·.2)

/-- The number of digits behind the letters that announce a character by its number. -/
def escapeLength? (c : Nat) : Option Nat :=
  if c == 0x78 then some 2 else if c == 0x75 then some 4 else if c == 0x55 then some 8 else none

/-- An escape sequence behind its backslash: the character and the length of the sequence. -/
def escape (line : Nat) (rest : List Nat) : Except Error (Nat × Nat) :=
  match rest with
  | [] => .error (.escape line)
  | x :: more =>
    match simpleEscape? x, escapeLength? x with
    | some v, _ => .ok (v, 1)
    | none, some n =>
      match hexValue (more.take n) with
      | some v =>
        if n ≤ more.length && CodePoint.isScalar v then .ok (v, n + 1) else .error (.escape line)
      | none => .error (.escape line)
    | none, none => .error (.escape line)

/-- The characters up to a gap or the closing quote, and whether they end in a line break that is
not kept. -/
def word (double : Bool) : Nat → Cursor → Except Error (List Nat × Bool × Cursor)
  | 0, c => .ok ([], false, c)
  | fuel + 1, c =>
    match c.rest with
    | [] => .ok ([], false, c)
    | x :: rest =>
      if isBlank x || isBreak x then .ok ([], false, c)
      else if !double && x == 0x27 then
        if c.has 1 '\'' then
          (word double fuel (c.forward 2)).map fun (w, more) => (0x27 :: w, more)
        else .ok ([], false, c)
      else if double && x == 0x22 then .ok ([], false, c)
      else if double && x == 0x5C then
        if c.breakAt 1 then .ok ([], true, (c.forward 1).nextLine)
        else
          match escape c.line rest with
          | .error e => .error e
          | .ok (v, n) =>
            (word double fuel (c.forward (n + 1))).map fun (w, more) => (v :: w, more)
      else (word double fuel (c.forward 1)).map fun (w, more) => (x :: w, more)

/-- The text behind an opening quote, and the place behind the closing one. -/
def read (double : Bool) : Nat → Cursor → Except Error (List Nat × Cursor)
  | 0, c => .error (.quoted c.line)
  | fuel + 1, c =>
    if c.atDocumentSign || c.rest.isEmpty then .error (.quoted c.line)
    else
      match word double c.rest.length c with
      | .error e => .error e
      | .ok (w, joined, next) =>
        if next.has 0 (if double then '"' else '\'') then .ok (w, next.forward 1)
        else
          match Gap.read 0 next.rest.length (if joined then .joined else .none) next with
          | .error e => .error e
          | .ok (gap, behind) =>
            (read double fuel behind).map fun (more, place) => (w ++ gap.value ++ more, place)

end Quoted

end Retouch.Document.Yaml
