import Retouch.Regexp.ClassName
import Retouch.Regexp.Error
import Retouch.Text.CodePoint

/-! The smallest parts of a written expression: code points, escapes, counts and classes.
Each reader takes the text at a place and gives what it read with the rest of the text. -/
namespace Retouch.Regexp

def consumed (text rest : Bytes) : Bytes := text.take (text.length - rest.length)

/-- The code point at the head of a text; past the end it reads as U+FFFD. -/
def readPoint : Bytes → Except Error (Nat × Bytes)
  | [] => .ok (CodePoint.replacement, [])
  | b :: rest =>
    let c := CodePoint.read b rest
    if c.isMalformed then .error ⟨.badEncoding, b :: rest⟩
    else .ok (c.value, rest.drop (c.width - 1))

def requireValid (text : Bytes) : Except Error Unit :=
  go text (CodePoint.decode text)
where
  go (text : Bytes) : List CodePoint → Except Error Unit
    | [] => .ok ()
    | c :: more =>
      if c.isMalformed then .error ⟨.badEncoding, text⟩ else go (text.drop c.width) more

def isDigit (b : UInt8) : Bool := 0x30 ≤ b && b ≤ 0x39

def isOctal (b : UInt8) : Bool := 0x30 ≤ b && b ≤ 0x37

def hexDigit? (c : Nat) : Option Nat :=
  if 0x30 ≤ c && c ≤ 0x39 then some (c - 0x30)
  else if 0x61 ≤ c && c ≤ 0x66 then some (c - 0x57)
  else if 0x41 ≤ c && c ≤ 0x46 then some (c - 0x37)
  else none

def isAlphanumeric (c : Nat) : Bool :=
  (0x30 ≤ c && c ≤ 0x39) || (0x41 ≤ c && c ≤ 0x5A) || (0x61 ≤ c && c ≤ 0x7A)

/-- The digits of a braced hexadecimal number, up to the closing brace. A fault shows what was read
before it. -/
def readBraced (value : Nat) (seen : Bool) : Nat → Bytes → Except Error (Except Bytes (Nat × Bytes))
  | 0, text => .ok (.error text)
  | fuel + 1, text =>
    if text.isEmpty then .ok (.error text)
    else do
      let (c, rest) ← readPoint text
      if c == 0x7D then return if seen then .ok (value, rest) else .error rest
      match hexDigit? c with
      | none => return .error rest
      | some d =>
        let value := value * 16 + d
        if value > CharSet.top then return .error rest
        readBraced value true fuel rest

def letterEscape? (c : Nat) : Option Nat :=
  if c == 0x61 then some 0x07
  else if c == 0x66 then some 0x0C
  else if c == 0x6E then some 0x0A
  else if c == 0x72 then some 0x0D
  else if c == 0x74 then some 0x09
  else if c == 0x76 then some 0x0B
  else none

def readOctal (value : Nat) : Nat → Bytes → Nat × Bytes
  | 0, text => (value, text)
  | n + 1, text =>
    match text with
    | b :: rest =>
      if isOctal b then readOctal (value * 8 + (b.toNat - 0x30)) n rest else (value, text)
    | [] => (value, text)

/-- A code point written with a backslash; the text starts with the backslash. -/
def readEscape (text : Bytes) : Except Error (Nat × Bytes) := do
  let after := text.drop 1
  if after.isEmpty then throw ⟨.trailingBackslash, []⟩
  let (c, rest) ← readPoint after
  let bad (rest : Bytes) : Except Error (Nat × Bytes) := .error ⟨.badEscape, consumed text rest⟩
  if 0x30 ≤ c && c ≤ 0x37 then
    -- A single digit other than zero would refer back to a group.
    if c != 0x30 && !(rest.head?.any isOctal) then bad rest
    else return readOctal (c - 0x30) 2 rest
  else if c == 0x78 then
    if rest.isEmpty then bad rest
    else
      let (d, rest) ← readPoint rest
      if d == 0x7B then
        match ← readBraced 0 false (rest.length + 1) rest with
        | .ok result => return result
        | .error rest => bad rest
      else
        let (e, rest) ← readPoint rest
        match hexDigit? d, hexDigit? e with
        | some x, some y => return (x * 16 + y, rest)
        | _, _ => bad rest
  else match letterEscape? c with
    | some v => return (v, rest)
    | none => if c < 0x80 && !isAlphanumeric c then return (c, rest) else bad rest

def readCount (text : Bytes) : Option (Nat × Bytes) :=
  let digits := text.takeWhile isDigit
  match digits with
  | [] => none
  | 0x30 :: _ :: _ => none
  | _ => some (digits.foldl (fun n b => n * 10 + (b.toNat - 0x30)) 0, text.drop digits.length)

/-- The counts of a repetition in braces; the text starts with the opening brace. -/
def readCounts (text : Bytes) : Option ((Nat × Option Nat) × Bytes) :=
  match readCount (text.drop 1) with
  | none => none
  | some (least, 0x7D :: rest) => some ((least, some least), rest)
  | some (least, 0x2C :: 0x7D :: rest) => some ((least, none), rest)
  | some (least, 0x2C :: more) =>
    match readCount more with
    | some (most, 0x7D :: rest) => some ((least, some most), rest)
    | _ => none
  | some _ => none

/-- The members of a class under the given reading of letter case. -/
def caseSet (folded : Bool) (s : CharSet) : CharSet :=
  if folded then s.foldClosure else s

def signedSet (folded negated : Bool) (s : CharSet) : CharSet :=
  let s := caseSet folded s
  if negated then s.complement else s

def readProperty (folded : Bool) (text : Bytes) : Except Error (Option (CharSet × Bytes)) :=
  match text with
  | 0x5C :: kind :: after =>
    if kind != 0x70 && kind != 0x50 then .ok none
    else do
      let (c, rest) ← readPoint after
      let (name, rest) ←
        if c != 0x7B then pure (consumed after rest, rest)
        else match after.findIdx? (· == 0x7D) with
          | none => do
            requireValid text
            throw ⟨.badRange, text⟩
          | some i => do
            let name := (after.take i).drop 1
            requireValid name
            pure (name, after.drop (i + 1))
      let negated := kind == 0x50
      let (negated, plain) := match name with
        | 0x5E :: plain => (!negated, plain)
        | plain => (negated, plain)
      match propertySet? plain with
      | none => throw ⟨.badRange, consumed text rest⟩
      | some s => return some (signedSet folded negated s, rest)
  | _ => .ok none

def readShorthand (folded : Bool) (text : Bytes) : Option (CharSet × Bytes) :=
  match text with
  | 0x5C :: letter :: rest =>
    match shorthandSet? letter with
    | some s => some (signedSet folded false s, rest)
    | none => (shorthandSet? (letter + 0x20)).map fun s => (signedSet folded true s, rest)
  | _ => none

def readBracketName (folded : Bool) (text : Bytes) : Except Error (Option (CharSet × Bytes)) :=
  match text with
  | 0x5B :: 0x3A :: after =>
    match closing after with
    | none => .ok none
    | some i =>
      let rest := after.drop (i + 2)
      let (negated, name) := match after.take i with
        | 0x5E :: name => (true, name)
        | name => (false, name)
      match bracketSet? name with
      | none => .error ⟨.badRange, consumed text rest⟩
      | some s => .ok (some (signedSet folded negated s, rest))
  | _ => .ok none
where
  closing : Bytes → Option Nat
    | 0x3A :: 0x5D :: _ => some 0
    | _ :: rest => (closing rest).map (· + 1)
    | [] => none

/-- One code point of a class; `whole` is the text from the opening bracket on. -/
def readMember (whole text : Bytes) : Except Error (Nat × Bytes) :=
  match text with
  | [] => .error ⟨.unclosedClass, whole⟩
  | 0x5C :: _ => readEscape text
  | _ => readPoint text

def readMembers (folded : Bool) (whole : Bytes) (first : Bool) (members : CharSet) :
    Nat → Bytes → Except Error (CharSet × Bytes)
  | 0, _ => .error ⟨.unclosedClass, whole⟩
  | fuel + 1, text => do
    if text.head? == some 0x5D && !first then return (members, text.drop 1)
    if text.length > 2 then
      if let some (s, rest) ← readBracketName folded text then
        return ← readMembers folded whole false (members.union s) fuel rest
    if let some (s, rest) ← readProperty folded text then
      return ← readMembers folded whole false (members.union s) fuel rest
    if let some (s, rest) := readShorthand folded text then
      return ← readMembers folded whole false (members.union s) fuel rest
    let (lo, rest) ← readMember whole text
    match rest with
    | 0x2D :: 0x5D :: _ =>
      readMembers folded whole false (members.union (caseSet folded (.single lo))) fuel rest
    | 0x2D :: next :: more => do
      let (hi, rest) ← readMember whole (next :: more)
      if hi < lo then throw ⟨.badRange, consumed text rest⟩
      readMembers folded whole false (members.union (caseSet folded ⟨[(lo, hi)]⟩)) fuel rest
    | _ => readMembers folded whole false (members.union (caseSet folded (.single lo))) fuel rest

/-- A class in brackets; the text starts with the opening bracket. -/
def readClass (folded : Bool) (text : Bytes) : Except Error (CharSet × Bytes) := do
  let after := text.drop 1
  let (negated, after) := match after with
    | 0x5E :: more => (true, more)
    | more => (false, more)
  let (members, rest) ← readMembers folded text true .empty (after.length + 1) after
  return (if negated then members.complement else members.normalize, rest)

end Retouch.Regexp
