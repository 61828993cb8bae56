import Retouch.Document.Yaml.Node
import Retouch.Text.Base64

/-! What a scalar stands for.
A text without quotes may be a number, a time, a truth value or nothing at all. An explicit tag must
fit what the text looks like, unless it asks for a plain text or is not known here. -/
namespace Retouch.Document.Yaml

inductive Look where
  | nothing
  | flag (b : Bool)
  | integer
  | decimal
  | time
  | words
  deriving DecidableEq, Repr

namespace Look

def isOneOfTexts (texts : List String) (t : Bytes) : Bool :=
  texts.any fun s => Bytes.ofString s == t

def isDigitByte (b : UInt8) : Bool := 0x30 ≤ b && b ≤ 0x39

def unsigned (t : Bytes) : Bytes :=
  match t with
  | b :: rest => if b == 0x2B || b == 0x2D then rest else t
  | [] => []

def natIn? (base : Nat) (t : Bytes) : Option Nat :=
  if t.isEmpty then none
  else t.foldlM (fun v b => do
    let d ← hexDigit? b.toNat
    if d < base then some (v * base + d) else none) 0

/-- The value of a text of digits whose base is given by its start. -/
def natOf? (t : Bytes) : Option Nat :=
  match t with
  | 0x30 :: x :: rest =>
    if x == 0x78 || x == 0x58 then natIn? 16 rest
    else if x == 0x62 || x == 0x42 then natIn? 2 rest
    else if x == 0x6F || x == 0x4F then natIn? 8 rest
    else natIn? 8 (x :: rest)
  | _ => natIn? 10 t

/-- Whether a number with an optional sign fits into 64 bits, by a way to read its digits. -/
def fits (read : Bytes → Option Nat) (t : Bytes) : Bool :=
  match read (unsigned t) with
  | none => false
  | some n =>
    match t.head? with
    | some 0x2D => n ≤ Nat.pow 2 63
    | some 0x2B => n < Nat.pow 2 63
    | _ => n < Nat.pow 2 64

/-- Whole numbers, in base 10, or in base 2, 8 or 16 by their start. -/
def isInteger (t : Bytes) : Bool :=
  fits natOf? t ||
    match t with
    | 0x30 :: 0x62 :: rest => fits (natIn? 2) rest
    | 0x30 :: 0x6F :: rest => fits (natIn? 8) rest
    | _ => false

def decimalParts? (t : Bytes) : Option (Nat × Int) := do
  let t := unsigned t
  let whole := t.takeWhile isDigitByte
  let t := t.drop whole.length
  let (fraction, t) := match t with
    | 0x2E :: rest => (rest.takeWhile isDigitByte, rest.dropWhile isDigitByte)
    | _ => ([], t)
  let n ← natIn? 10 (whole ++ fraction)
  match t with
  | [] => return (n, -(fraction.length : Int))
  | e :: rest =>
    if e == 0x65 || e == 0x45 then
      let x ← natIn? 10 (unsigned rest)
      let x : Int := if rest.head? == some 0x2D then -x else x
      return (n, x - fraction.length)
    else none

/-- Numbers from here on are too large for a double, however they are rounded. -/
def floatLimit : Nat := (Nat.pow 2 54 - 1) * Nat.pow 2 970

/-- Decimal numbers that are not too large for a double. -/
def isDecimal (t : Bytes) : Bool :=
  match decimalParts? t with
  | none => false
  | some (n, e) =>
    if n == 0 || e < -(Nat.log2 n : Int) then true
    else if 400 < e then false
    else if e < 0 then n < floatLimit * Nat.pow 10 e.natAbs
    else n * Nat.pow 10 e.toNat < floatLimit

def shortNumber (t : Bytes) : Option (Nat × Bytes) :=
  let ds := (t.takeWhile isDigitByte).take 2
  (natIn? 10 ds).map fun n => (n, t.drop ds.length)

def behind (b : UInt8) (t : Bytes) : Option Bytes :=
  match t with
  | x :: rest => if x == b then some rest else none
  | [] => none

def daysIn (year month : Nat) : Nat :=
  if month == 2 then
    (if year % 4 == 0 && (year % 100 != 0 || year % 400 == 0) then 29 else 28)
  else if [4, 6, 9, 11].contains month then 30
  else 31

/-- The text behind a date: a year of four digits, a month and a day. -/
def date (t : Bytes) : Option Bytes := do
  let digits := t.takeWhile isDigitByte
  if digits.length != 4 then none
  let year ← natIn? 10 digits
  let (month, t) ← shortNumber (← behind 0x2D (t.drop 4))
  let (day, t) ← shortNumber (← behind 0x2D t)
  if 1 ≤ month && month ≤ 12 && 1 ≤ day && day ≤ daysIn year month then some t else none

/-- The text behind a time of day with an optional fraction of a second. -/
def clock (t : Bytes) : Option Bytes := do
  let (hour, t) ← shortNumber t
  let (minute, t) ← shortNumber (← behind 0x3A t)
  let (second, t) ← shortNumber (← behind 0x3A t)
  if hour < 24 && minute < 60 && second < 60 then
    match t with
    | p :: d :: rest =>
      if (p == 0x2E || p == 0x2C) && isDigitByte d then some (rest.dropWhile isDigitByte)
      else some t
    | _ => some t
  else none

/-- Whether a text is a time zone: a Z, or a difference in hours and minutes. -/
def isZone (t : Bytes) : Bool :=
  match t with
  | [0x5A] => true
  | [s, a, b, 0x3A, c, d] =>
    (s == 0x2B || s == 0x2D) && (natIn? 10 [a, b]).any (· ≤ 24) && (natIn? 10 [c, d]).any (· ≤ 60)
  | _ => false

/-- A date, alone, with a time of day and a zone behind a T, or with a time of day behind a
space. -/
def isTime (t : Bytes) : Bool :=
  match date t with
  | none => false
  | some [] => true
  | some (sep :: rest) =>
    match clock rest with
    | none => false
    | some zone =>
      if sep == 0x54 || sep == 0x74 then isZone zone else sep == 0x20 && zone.isEmpty

/-- What a text looks like; times are looked for only on demand. -/
def ofText (times : Bool) (t : Bytes) : Look :=
  if isOneOfTexts ["", "~", "null", "Null", "NULL"] t then .nothing
  else if isOneOfTexts ["true", "True", "TRUE"] t then .flag true
  else if isOneOfTexts ["false", "False", "FALSE"] t then .flag false
  else if isOneOfTexts [".nan", ".NaN", ".NAN", ".inf", ".Inf", ".INF", "+.inf", "+.Inf", "+.INF",
      "-.inf", "-.Inf", "-.INF"] t then .decimal
  else
    match t.head? with
    | none => .words
    | some b =>
      if b == 0x2E then (if isDecimal t then .decimal else .words)
      else if isDigitByte b || b == 0x2B || b == 0x2D then
        let packed := t.filter (· != 0x5F)
        if times && isTime t then .time
        else if isInteger packed then .integer
        else if isDecimal packed then .decimal
        else .words
      else .words

end Look

inductive Value where
  | nothing
  | flag (b : Bool)
  /-- A number or a time. -/
  | other
  | text (t : Bytes)
  deriving DecidableEq, Repr

namespace Value

def ofLook (t : Bytes) : Look → Value
  | .nothing => .nothing
  | .flag b => .flag b
  | .integer | .decimal | .time => .other
  | .words => .text t

def tagSpace : Bytes := "tag:yaml.org,2002:"

def isKnownTag (name : String) (tag : Bytes) : Bool := tag == tagSpace ++ Bytes.ofString name

def ofScalar (tag : Bytes) (plain : Bool) (t : Bytes) : Except Error Value :=
  let fit (ok : Look → Bool) (times : Bool) : Except Error Value :=
    let look := Look.ofText times t
    if ok look then .ok (ofLook t look) else .error (.wrongTag t)
  if tag.isEmpty then .ok (if plain then ofLook t (.ofText true t) else .text t)
  else if isKnownTag "null" tag then fit (· == .nothing) false
  else if isKnownTag "bool" tag then fit (fun l => l == .flag true || l == .flag false) false
  else if isKnownTag "int" tag then fit (· == .integer) false
  else if isKnownTag "float" tag then fit (fun l => l == .decimal || l == .integer) false
  else if isKnownTag "timestamp" tag then fit (· == .time) true
  else if isKnownTag "binary" tag then
    match Base64.decode t with
    | some bytes => .ok (.text bytes)
    | none => .error .base64
  else .ok (.text t)

end Value

end Retouch.Document.Yaml
