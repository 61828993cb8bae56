import Retouch.Text.Quoted

/-! Messages with places for arguments.
A place is a percent sign, flags, a width, a precision and a verb. A place without a fitting
argument, and arguments without a place, show in the message and never make it fail. -/
namespace Retouch.Format

inductive Argument where
  | text (value : Bytes)
  | number (value : Int)
  deriving DecidableEq, Repr

namespace Argument

def typeName : Argument → String
  | .text _ => "string"
  | .number _ => "int"

end Argument

structure Spec where
  sharp : Bool
  zero : Bool
  plus : Bool
  minus : Bool
  space : Bool
  width : Option Nat
  precision : Option Nat

namespace Spec

def plain : Spec := ⟨false, false, false, false, false, none, none⟩

def pad (s : Spec) (b : Bytes) : Bytes :=
  let fill := List.replicate (s.width.getD 0 - (CodePoint.decode b).length)
  if s.minus then b ++ fill 0x20
  else fill (if s.zero then 0x30 else 0x20) ++ b

/-- The first code points of a text, as many as the precision allows. -/
def truncate (s : Spec) (b : Bytes) : Bytes :=
  match s.precision with
  | none => b
  | some n => b.take (((CodePoint.decode b).take n).foldr (fun c w => c.width + w) 0)

def digits (base : Nat) (upper : Bool) (n : Nat) : Bytes :=
  (Nat.toDigits base n).map fun c =>
    let b := c.toNat.toUInt8
    if upper && 0x61 ≤ b then b - 0x20 else b

def integer (s : Spec) (base : Nat) (upper mark : Bool) (v : Int) : Bytes :=
  let negative := v < 0
  if s.precision == some 0 && v == 0 then List.replicate (s.width.getD 0) 0x20
  else
    let wanted := match s.precision with
      | some n => n
      | none =>
        if s.zero && !s.minus then
          s.width.getD 0 - (if negative || s.plus || s.space then 1 else 0)
        else 0
    let body := digits base upper v.natAbs
    let body := List.replicate (wanted - body.length) 0x30 ++ body
    let body :=
      if !s.sharp then body
      else if base == 2 then 0x30 :: 0x62 :: body
      else if base == 8 then (if body.head? == some 0x30 then body else 0x30 :: body)
      else if base == 16 then 0x30 :: (if upper then 0x58 else 0x78) :: body
      else body
    let body := if mark then 0x30 :: 0x6F :: body else body
    let body :=
      if negative then 0x2D :: body
      else if s.plus then 0x2B :: body
      else if s.space then 0x20 :: body
      else body
    { s with zero := false }.pad body

def hexBytes (s : Spec) (upper : Bool) (b : Bytes) : Bytes :=
  let b := match s.precision with
    | some n => b.take n
    | none => b
  let mark : Bytes := if s.sharp then [0x30, if upper then 0x58 else 0x78] else []
  let pair (x : UInt8) : Bytes := (Bytes.ofHex 2 x.toNat).map fun d =>
    if upper && 0x61 ≤ d then d - 0x20 else d
  let body :=
    if b = [] then []
    else if s.space then ([0x20] : Bytes).intercalate (b.map fun x => mark ++ pair x)
    else mark ++ b.flatMap pair
  s.pad body

/-- A quoted text; the plus sign asks for ASCII and the sharp sign for back quotes. -/
def quote (s : Spec) (b : Bytes) : Bytes :=
  let b := s.truncate b
  let raw := (CodePoint.decode b).all fun c =>
    !c.isMalformed && c.value != 0xFEFF && c.value != 0x60 && c.value != 0x7F
      && (c.value ≥ 0x20 || c.value == 0x09)
  if s.sharp && raw then s.pad (0x60 :: b ++ [0x60])
  else if s.plus then
    s.pad (0x22 :: ascii 0 b ++ [0x22])
  else s.pad b.quoted
where
  ascii : Nat → Bytes → Bytes
    | _, [] => []
    | skip + 1, _ :: rest => ascii skip rest
    | 0, x :: rest =>
      let c := CodePoint.read x rest
      let shown :=
        if c.isMalformed || c.value < 0x80 then Bytes.quotedPoint x c
        else if c.value < 0x10000 then "\\u" ++ Bytes.ofHex 4 c.value
        else "\\U" ++ Bytes.ofHex 8 c.value
      shown ++ ascii (c.width - 1) rest

def quotedCharacter (s : Spec) (v : Int) : Bytes :=
  let c := if v < 0 || v > 0x10FFFF then CodePoint.replacement else v.toNat
  let c := if CodePoint.isScalar c then c else CodePoint.replacement
  if s.plus && c ≥ 0x80 then
    let name : Bytes :=
      if c < 0x10000 then "\\u" ++ Bytes.ofHex 4 c else "\\U" ++ Bytes.ofHex 8 c
    s.pad (0x27 :: name ++ [0x27])
  else s.pad (Bytes.quotedValue c)

def codePointName (s : Spec) (v : Int) : Bytes :=
  let n := if v < 0 then (v + 0x10000000000000000).toNat else v.toNat
  let body := digits 16 true n
  let least := max 4 (s.precision.getD 0)
  let zeros : Bytes := List.replicate (least - body.length) 0x30
  let name : Bytes := "U+" ++ zeros ++ body
  let name : Bytes :=
    if s.sharp && n ≤ 0x10FFFF && Unicode.isPrintable n then
      name ++ " '" ++ CodePoint.encode n ++ "'"
    else name
  { s with zero := false }.pad name

end Spec

/-- A verb that does not fit its argument. -/
def misfit (verb : Nat) (type : String) (shown : Bytes) : Bytes :=
  "%!" ++ CodePoint.encode verb ++ "(" ++ Bytes.ofString type ++ "=" ++ shown ++ ")"

def usual (s : Spec) : Argument → Bytes
  | .text b => s.pad (s.truncate b)
  | .number v => s.integer 10 false false v

def present (s : Spec) (verb : Nat) (a : Argument) : Bytes :=
  if verb == 0x54 then s.pad (s.truncate (Bytes.ofString a.typeName))
  else if verb == 0x76 then
    let s' := { s with sharp := false, plus := false }
    match a with
    | .text b => if s.sharp then s'.quote b else usual s' a
    | .number _ => usual s' a
  else match a with
    | .text b =>
      if verb == 0x73 then usual s a
      else if verb == 0x71 then s.quote b
      else if verb == 0x78 then s.hexBytes false b
      else if verb == 0x58 then s.hexBytes true b
      else misfit verb a.typeName (usual s a)
    | .number v =>
      if verb == 0x64 then usual s a
      else if verb == 0x62 then s.integer 2 false false v
      else if verb == 0x6F then s.integer 8 false false v
      else if verb == 0x4F then s.integer 8 false true v
      else if verb == 0x78 then s.integer 16 false false v
      else if verb == 0x58 then s.integer 16 true false v
      else if verb == 0x63 then
        s.pad (CodePoint.encode (if v < 0 || v > 0x10FFFF then CodePoint.replacement else v.toNat))
      else if verb == 0x71 then s.quotedCharacter v
      else if verb == 0x55 then s.codePointName v
      else misfit verb a.typeName (usual s a)

def readFlags (s : Spec) : Bytes → Spec × Bytes
  | 0x23 :: rest => readFlags { s with sharp := true } rest
  | 0x30 :: rest => readFlags { s with zero := true } rest
  | 0x2B :: rest => readFlags { s with plus := true } rest
  | 0x2D :: rest => readFlags { s with minus := true } rest
  | 0x20 :: rest => readFlags { s with space := true } rest
  | text => (s, text)

/-- A decimal number at the head of a text; numbers beyond a million are none. -/
def readNumber (text : Bytes) : Option Nat × Bytes :=
  let ds := text.takeWhile fun b => 0x30 ≤ b && b ≤ 0x39
  if ds = [] then (none, text)
  else
    let n := ds.foldl (fun n b => n * 10 + (b.toNat - 0x30)) 0
    (if n > 1000000 then none else some n, text.drop ds.length)

structure Cursor where
  next : Nat
  /-- Every index so far named an argument. -/
  good : Bool
  /-- Some place named its argument. -/
  reordered : Bool

/-- The index of an argument in brackets, if there is one. Gives whether one was read. -/
def readIndex (count : Nat) (c : Cursor) (text : Bytes) : Cursor × Bool × Bytes :=
  match text with
  | 0x5B :: rest =>
    match rest.findIdx? (· == 0x5D) with
    | none => ({ c with good := false, reordered := true }, false, rest)
    | some i =>
      let after := rest.drop (i + 1)
      match readNumber (rest.take i) with
      | (some n, []) =>
        if 1 ≤ n && n ≤ count then ({ c with next := n - 1, reordered := true }, true, after)
        else ({ c with good := false, reordered := true }, true, after)
      | _ => ({ c with good := false, reordered := true }, true, after)
  | _ => (c, false, text)

def takeInteger (args : List Argument) (c : Cursor) : Option Int × Cursor :=
  match args[c.next]? with
  | some (.number v) =>
    (if -1000000 ≤ v && v ≤ 1000000 then some v else none, { c with next := c.next + 1 })
  | some _ => (none, { c with next := c.next + 1 })
  | none => (none, c)

/-- One place, read behind its percent sign: the text it leads to, the cursor and the rest. -/
def readPlace (args : List Argument) (c : Cursor) (text : Bytes) : Bytes × Cursor × Bytes :=
  let c := { c with good := true }
  let (s, text) := readFlags .plain text
  let (c, indexed, text) := readIndex args.length c text
  let (notes, s, c, indexed, text) : Bytes × Spec × Cursor × Bool × Bytes :=
    match text with
    | 0x2A :: rest =>
      match takeInteger args c with
      | (some v, c) =>
        let s := if v < 0 then { s with minus := true, zero := false } else s
        ([], { s with width := some v.natAbs }, c, false, rest)
      | (none, c) => ("%!(BADWIDTH)", s, c, false, rest)
    | _ =>
      let (n, rest) := readNumber text
      ([], { s with width := n }, { c with good := c.good && !(indexed && n.isSome) }, indexed,
        rest)
  let (notes, s, c, indexed, text) : Bytes × Spec × Cursor × Bool × Bytes :=
    match text with
    | 0x2E :: rest =>
      let c := { c with good := c.good && !indexed }
      let (c, indexed, rest) := readIndex args.length c rest
      match rest with
      | 0x2A :: rest =>
        match takeInteger args c with
        | (some v, c) =>
          if v < 0 then (notes ++ "%!(BADPREC)", s, c, false, rest)
          else (notes, { s with precision := some v.natAbs }, c, false, rest)
        | (none, c) => (notes ++ "%!(BADPREC)", s, c, false, rest)
      | _ =>
        let (n, rest) := readNumber rest
        (notes, { s with precision := some (n.getD 0) }, c, indexed, rest)
    | _ => (notes, s, c, indexed, text)
  let (c, text) :=
    if indexed then (c, text)
    else
      let (c, _, text) := readIndex args.length c text
      (c, text)
  match text with
  | [] => (notes ++ "%!(NOVERB)", c, [])
  | b :: rest =>
    let verb := CodePoint.read b rest
    let rest := rest.drop (verb.width - 1)
    let shown := CodePoint.encode verb.value
    if verb.value == 0x25 then (notes ++ "%", c, rest)
    else if !c.good then (notes ++ "%!" ++ shown ++ "(BADINDEX)", c, rest)
    else match args[c.next]? with
      | none => (notes ++ "%!" ++ shown ++ "(MISSING)", c, rest)
      | some a => (notes ++ present s verb.value a, { c with next := c.next + 1 }, rest)

def extra (args : List Argument) : Bytes :=
  "%!(EXTRA " ++ (", " : Bytes).intercalate
    (args.map fun a => Bytes.ofString a.typeName ++ "=" ++ usual .plain a) ++ ")"

def formatFrom (args : List Argument) (c : Cursor) : Nat → Bytes → Bytes
  | _, [] => if !c.reordered && c.next < args.length then extra (args.drop c.next) else []
  | skip + 1, _ :: rest => formatFrom args c skip rest
  | 0, b :: rest =>
    if b != 0x25 then b :: formatFrom args c 0 rest
    else
      let (shown, c, left) := readPlace args c rest
      shown ++ formatFrom args c (rest.length - left.length) rest

def format (message : Bytes) (args : List Argument) : Bytes :=
  formatFrom args ⟨0, true, false⟩ 0 message

end Retouch.Format
