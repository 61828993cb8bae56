import Retouch.Bytes

/-! Numbers with 512 binary digits.
Every operation gives the number nearest to the exact result, and of two equally near ones the one
that ends in an even digit. A number is written with the fewest decimal digits that no other number
is nearer to. -/
namespace Retouch.Document.Hcl

/-- A whole number times a power of two, or one of the two infinities. Zero has a sign too. -/
inductive Number where
  | finite (negative : Bool) (mantissa : Nat) (exponent : Int)
  | infinite (negative : Bool)
  deriving DecidableEq, Repr

namespace Number

def width : Nat := 512

def bitLength (n : Nat) : Nat := if n = 0 then 0 else n.log2 + 1

/-- A fraction as numerator and denominator, from a whole number and a power of a base. -/
def scaled (base n : Nat) (e : Int) : Nat × Nat :=
  if e < 0 then (n, base.pow e.natAbs) else (n * base.pow e.toNat, 1)

/-- A quotient rounded to the nearest whole number, a half to the even one. -/
def nearest (num den : Nat) : Nat :=
  let q := num / den
  let r := num % den
  if 2 * r < den then q
  else if den < 2 * r then q + 1
  else q + q % 2

/-- The exponent of the last digit of the number nearest to a positive fraction. -/
def lastExponent (num den : Nat) : Int :=
  let e : Int := (bitLength num : Int) - bitLength den - width
  let (n, d) := scaled 2 num (-e)
  if n / (d * den) < Nat.pow 2 width then e else e + 1

def ofFraction (negative : Bool) (num den : Nat) : Number :=
  if num = 0 then .finite negative 0 0
  else
    let e := lastExponent num den
    let (n, d) := scaled 2 num (-e)
    .finite negative (nearest n (d * den)) e

/-- The number nearest to a whole number times a power of ten. -/
def ofDecimal (negative : Bool) (n : Nat) (e : Int) : Number :=
  let (num, den) := scaled 10 n e
  ofFraction negative num den

/-- The number nearest to a whole number times a power of two. -/
def ofBinary (negative : Bool) (n : Nat) (e : Int) : Number :=
  let (num, den) := scaled 2 n e
  ofFraction negative num den

def zero : Number := .finite false 0 0

def isZero : Number → Bool
  | .finite _ m _ => m == 0
  | .infinite _ => false

def isNegative : Number → Bool
  | .finite s _ _ => s
  | .infinite s => s

def neg : Number → Number
  | .finite s m e => .finite (!s) m e
  | .infinite s => .infinite (!s)

def aligned (m : Nat) (e : Int) (n : Nat) (f : Int) : Nat × Nat × Int :=
  let low := min e f
  (m * Nat.pow 2 (e - low).toNat, n * Nat.pow 2 (f - low).toNat, low)

def signed (s : Bool) (m : Nat) : Int := if s then -(m : Int) else m

/-- The sum; infinities of different signs have none. -/
def add : Number → Number → Option Number
  | .infinite s, .infinite t => if s == t then some (.infinite s) else none
  | .infinite s, _ => some (.infinite s)
  | _, .infinite t => some (.infinite t)
  | .finite s m e, .finite t n f =>
    let (m', n', low) := aligned m e n f
    let total := signed s m' + signed t n'
    if total = 0 then some (.finite (s && t && m == 0 && n == 0) 0 0)
    else some (ofBinary (total < 0) total.natAbs low)

def sub (a b : Number) : Option Number := a.add b.neg

/-- The product; zero times infinity is none. -/
def mul : Number → Number → Option Number
  | .finite s m e, .finite t n f => some (ofBinary (s != t) (m * n) (e + f))
  | a, b => if a.isZero || b.isZero then none else some (.infinite (a.isNegative != b.isNegative))

/-- The quotient; a number other than zero divided by zero is infinite. -/
def div : Number → Number → Option Number
  | .infinite _, .infinite _ => none
  | .infinite s, b => some (.infinite (s != b.isNegative))
  | a, .infinite t => some (.finite (a.isNegative != t) 0 0)
  | .finite s m e, .finite t n f =>
    if n = 0 then (if m = 0 then none else some (.infinite (s != t)))
    else
      let (num, den) := scaled 2 m (e - f)
      some (ofFraction (s != t) num (den * n))

def whole : Number → Number
  | .finite s m e =>
    let (n, d) := scaled 2 m e
    ofBinary s (n / d) 0
  | n => n

/-- What is left of a division toward zero. Nothing is divided by zero. -/
def mod (a b : Number) : Option Number :=
  match a, b with
  | .finite _ _ _, .finite _ n _ =>
    if n = 0 then some a
    else do a.sub (← b.mul (← a.div b).whole)
  | _, _ => a.mul b

def compare : Number → Number → Ordering
  | .finite s m e, .finite t n f =>
    let (m', n', _) := aligned m e n f
    Ord.compare (signed s m') (signed t n')
  | .infinite s, .infinite t => Ord.compare (!s).toNat (!t).toNat
  | .infinite s, _ => if s then .lt else .gt
  | _, .infinite t => if t then .gt else .lt

def natural? : Number → Option Nat
  | .finite s m e =>
    let (n, d) := scaled 2 m e
    if n % d = 0 && (!s || m == 0) then some (n / d) else none
  | .infinite _ => none

/-- The number of decimal digits before the point of a positive fraction: negative when zeros follow
the point. -/
def decimalLength (num den : Nat) : Int :=
  let digits (n : Nat) : Int := (Nat.toDigits 10 n).length
  let k := digits num - digits den
  -- The fraction is at least ten to the power k - 1 and below ten to the power k + 1.
  let (n, d) := scaled 10 num (-k)
  if n < d * den then k else k + 1

/-- Decimal digits of a fraction, so many of them, that lie in a range around it; the nearer of the
two neighbours if both do. Bounds are numerators over the same denominator. -/
def digitsWithin (num den low high : Nat) (inclusive : Bool) (place : Int) : Option Nat :=
  let (n, d) := scaled 10 num (-place)
  let den' := d * den
  let up (x : Nat) : Nat := (scaled 10 x (-place)).1
  let below := n / den'
  let above := below + 1
  let okBelow := if inclusive then up low ≤ below * den' else up low < below * den'
  let okAbove := if inclusive then above * den' ≤ up high else above * den' < up high
  if okBelow && okAbove then some (nearest n den')
  else if okBelow then some below
  else if okAbove then some above
  else none

def fewestDigits (num den low high : Nat) (inclusive : Bool) (size : Int) :
    Nat → Nat → Nat × Int
  | 0, count => (nearest num den, count)
  | fuel + 1, count =>
    let place := size - count
    match digitsWithin num den low high inclusive place with
    | some digits => (digits, place)
    | none => fewestDigits num den low high inclusive size fuel (count + 1)

/-- The decimal digits of a positive number and the power of ten of the last one. -/
def shortest (m : Nat) (e : Int) : Nat × Int :=
  let shift := width - bitLength m
  let full := m * Nat.pow 2 shift
  -- Numerators count halves of the last binary digit.
  let half := e - shift - 1
  let (unit, den) := scaled 2 1 half
  let num := 2 * full * unit
  fewestDigits num den (num - unit) (num + unit) (full % 2 == 0) (decimalLength num den) 400 1

/-- Digits times a power of ten, written without an exponent. -/
def positional (digits : Nat) (place : Int) : Bytes :=
  let ds := Bytes.ofNat digits
  if 0 ≤ place then ds ++ List.replicate place.toNat 0x30
  else
    let after := place.natAbs
    let ds := List.replicate (after + 1 - ds.length) 0x30 ++ ds
    ds.take (ds.length - after) ++ 0x2E :: ds.drop (ds.length - after)

def stripZeros : Nat → Nat → Int → Nat × Int
  | 0, d, place => (d, place)
  | fuel + 1, d, place =>
    if d ≠ 0 && d % 10 == 0 then stripZeros fuel (d / 10) (place + 1) else (d, place)

def text : Number → Bytes
  | .infinite s => if s then "-Inf" else "+Inf"
  | .finite s m e =>
    let sign : Bytes := if s then [0x2D] else []
    if m = 0 then sign ++ [0x30]
    else
      let (digits, place) := shortest m e
      let (digits, place) := stripZeros 400 digits place
      sign ++ positional digits place

def isDigit (b : UInt8) : Bool := 0x30 ≤ b && b ≤ 0x39

def digitsValue (ds : Bytes) : Nat := ds.foldl (fun v d => v * 10 + (d.toNat - 0x30)) 0

def takeSign (t : Bytes) : Bool × Bytes :=
  match t with
  | 0x2D :: rest => (true, rest)
  | 0x2B :: rest => (false, rest)
  | _ => (false, t)

/-- A number written in decimal, with an optional sign, fraction and exponent. -/
def ofText? (t : Bytes) : Option Number :=
  let (negative, t) := takeSign t
  let whole := t.takeWhile isDigit
  let t := t.drop whole.length
  let (fraction, t) := match t with
    | 0x2E :: rest => (rest.takeWhile isDigit, rest.dropWhile isDigit)
    | _ => ([], t)
  let digits := whole ++ fraction
  if digits.isEmpty then none
  else
    let place : Int := -(fraction.length : Int)
    match t with
    | [] => some (ofDecimal negative (digitsValue digits) place)
    | x :: rest =>
      if x != 0x65 && x != 0x45 then none
      else
        let (down, ds) := takeSign rest
        if ds.isEmpty || !ds.all isDigit then none
        else
          let e : Int := if down then -(digitsValue ds : Int) else digitsValue ds
          some (ofDecimal negative (digitsValue digits) (place + e))

end Number

end Retouch.Document.Hcl
