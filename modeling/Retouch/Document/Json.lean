import Retouch.Text.CodePoint

/-! JSON texts.
A reader takes a text and gives what it read with the rest of the text, so what follows a complete
value does not matter. -/
namespace Retouch.Document

/-- JSON values; an object keeps its members in order, and a name may occur again. -/
inductive Json where
  | null
  | bool (value : Bool)
  | number (text : Bytes)
  | string (value : Bytes)
  | array (items : List Json)
  | object (members : List (Bytes × Json))
  deriving Repr

namespace Json

def isSpace (b : UInt8) : Bool := b == 0x20 || b == 0x09 || b == 0x0A || b == 0x0D

def skipSpace (text : Bytes) : Bytes := text.dropWhile isSpace

def isDigit (b : UInt8) : Bool := 0x30 ≤ b && b ≤ 0x39

def hexValue? (b : UInt8) : Option Nat :=
  if 0x30 ≤ b && b ≤ 0x39 then some (b.toNat - 0x30)
  else if 0x61 ≤ b && b ≤ 0x66 then some (b.toNat - 0x57)
  else if 0x41 ≤ b && b ≤ 0x46 then some (b.toNat - 0x37)
  else none

def unit? (a b c d : UInt8) : Option Nat := do
  return (((← hexValue? a) * 16 + (← hexValue? b)) * 16 + (← hexValue? c)) * 16 + (← hexValue? d)

def escape? (b : UInt8) : Option Nat :=
  if b == 0x22 || b == 0x5C || b == 0x2F then some b.toNat
  else if b == 0x62 then some 0x08
  else if b == 0x66 then some 0x0C
  else if b == 0x6E then some 0x0A
  else if b == 0x72 then some 0x0D
  else if b == 0x74 then some 0x09
  else none

/-- The characters up to the closing quote, from a place that lies so many bytes ahead. Halves of
pairs stay apart. -/
def readUnits : Nat → Bytes → Option (List Nat × Bytes)
  | _, [] => none
  | skip + 1, _ :: rest => readUnits skip rest
  | 0, b :: rest =>
    if b == 0x22 then some ([], rest)
    else if b < 0x20 then none
    else if b == 0x5C then
      match rest with
      | 0x75 :: p :: q :: r :: s :: _ =>
        match unit? p q r s with
        | none => none
        | some v => (readUnits 5 rest).map fun (vs, rest) => (v :: vs, rest)
      | e :: _ =>
        match escape? e with
        | none => none
        | some v => (readUnits 1 rest).map fun (vs, rest) => (v :: vs, rest)
      | [] => none
    else
      let c := CodePoint.read b rest
      (readUnits (c.width - 1) rest).map fun (vs, rest) => (c.value :: vs, rest)

def isHighHalf (v : Nat) : Bool := 0xD800 ≤ v && v < 0xDC00

def isLowHalf (v : Nat) : Bool := 0xDC00 ≤ v && v < 0xE000

/-- Joins the halves of pairs; a half that stands alone becomes U+FFFD. -/
def joinPairs : List Nat → List Nat
  | [] => []
  | [v] => [if isHighHalf v || isLowHalf v then CodePoint.replacement else v]
  | v :: w :: rest =>
    if isHighHalf v && isLowHalf w then
      (0x10000 + (v - 0xD800) * 0x400 + (w - 0xDC00)) :: joinPairs rest
    else if isHighHalf v || isLowHalf v then CodePoint.replacement :: joinPairs (w :: rest)
    else v :: joinPairs (w :: rest)

def readString (text : Bytes) : Option (Bytes × Bytes) :=
  (readUnits 0 text).map fun (units, rest) => (CodePoint.encodeAll (joinPairs units), rest)

/-- The digits at the head of a text, of which there is at least one. -/
def readDigits (text : Bytes) : Option (Bytes × Bytes) :=
  let ds := text.takeWhile isDigit
  if ds = [] then none else some (ds, text.drop ds.length)

def readFraction (text : Bytes) : Option (Bytes × Bytes) :=
  match text with
  | 0x2E :: rest => (readDigits rest).map fun (ds, rest) => (0x2E :: ds, rest)
  | _ => some ([], text)

def readExponent (text : Bytes) : Option (Bytes × Bytes) :=
  match text with
  | e :: rest =>
    if e == 0x65 || e == 0x45 then
      match rest with
      | s :: more =>
        if s == 0x2B || s == 0x2D then (readDigits more).map fun (ds, rest) => (e :: s :: ds, rest)
        else (readDigits rest).map fun (ds, rest) => (e :: ds, rest)
      | [] => none
    else some ([], text)
  | [] => some ([], text)

/-- The whole part of a number: zero, or digits that do not start with zero. -/
def readWhole (text : Bytes) : Option (Bytes × Bytes) :=
  match text with
  | 0x30 :: rest => some ([0x30], rest)
  | _ => readDigits text

def readNumber (text : Bytes) : Option (Bytes × Bytes) := do
  let (sign, text) := match text with
    | 0x2D :: rest => (([0x2D] : Bytes), rest)
    | _ => ([], text)
  let (whole, text) ← readWhole text
  let (fraction, text) ← readFraction text
  let (exponent, text) ← readExponent text
  return (sign ++ whole ++ fraction ++ exponent, text)

/-- The items of an array up to its closing bracket, given a reader of values; at most so many. -/
def readItems (value : Bytes → Option (Json × Bytes)) : Nat → Bytes → Option (List Json × Bytes)
  | 0, _ => none
  | fuel + 1, text =>
    match value text with
    | none => none
    | some (v, rest) =>
      match skipSpace rest with
      | 0x2C :: rest => (readItems value fuel rest).map fun (vs, rest) => (v :: vs, rest)
      | 0x5D :: rest => some ([v], rest)
      | _ => none

/-- The members of an object up to its closing brace, given a reader of values; at most so many. -/
def readMembers (value : Bytes → Option (Json × Bytes)) :
    Nat → Bytes → Option (List (Bytes × Json) × Bytes)
  | 0, _ => none
  | fuel + 1, text =>
    match skipSpace text with
    | 0x22 :: rest =>
      match readString rest with
      | none => none
      | some (name, rest) =>
        match skipSpace rest with
        | 0x3A :: rest =>
          match value rest with
          | none => none
          | some (v, rest) =>
            match skipSpace rest with
            | 0x2C :: rest =>
              (readMembers value fuel rest).map fun (ms, rest) => ((name, v) :: ms, rest)
            | 0x7D :: rest => some ([(name, v)], rest)
            | _ => none
        | _ => none
    | _ => none

/-- A value with the blanks before it, at most so many levels deep. -/
def readValue : Nat → Bytes → Option (Json × Bytes)
  | 0, _ => none
  | depth + 1, text =>
    match skipSpace text with
    | 0x7B :: rest =>
      match skipSpace rest with
      | 0x7D :: rest => some (.object [], rest)
      | _ =>
        (readMembers (readValue depth) rest.length rest).map fun (ms, rest) => (.object ms, rest)
    | 0x5B :: rest =>
      match skipSpace rest with
      | 0x5D :: rest => some (.array [], rest)
      | _ => (readItems (readValue depth) rest.length rest).map fun (vs, rest) => (.array vs, rest)
    | 0x22 :: rest => (readString rest).map fun (s, rest) => (.string s, rest)
    | 0x6E :: 0x75 :: 0x6C :: 0x6C :: rest => some (.null, rest)
    | 0x74 :: 0x72 :: 0x75 :: 0x65 :: rest => some (.bool true, rest)
    | 0x66 :: 0x61 :: 0x6C :: 0x73 :: 0x65 :: rest => some (.bool false, rest)
    | text => (readNumber text).map fun (n, rest) => (.number n, rest)

def maxDepth : Nat := 10000

def read (text : Bytes) : Option Json := (readValue (maxDepth + 1) text).map (·.1)

end Json

end Retouch.Document
