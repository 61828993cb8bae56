import Retouch.Document.Yaml.Cursor

/-! Anchors, tags and directives. -/
namespace Retouch.Document.Yaml

/-- A tag as it is written: a handle, which may be empty, and what follows it. -/
structure WrittenTag where
  handle : Bytes
  suffix : Bytes
  deriving DecidableEq, Repr

inductive Directive where
  | version (major minor : Nat)
  | tag (handle lead : Bytes)
  deriving DecidableEq, Repr

namespace Property

def anchor (c : Cursor) : Except Error (Bytes × Cursor) :=
  let (name, next) := c.run isWordChar
  if name.isEmpty then .error (.anchor c.line)
  else if next.gapAt 0 || (next.ahead? 0).any (isOneOf "?:,]\x7d%@\x60") then
    .ok (CodePoint.encodeAll name, next)
  else .error (.anchor c.line)

def isTagChar (c : Nat) : Bool := isWordChar c || isOneOf ";/?:@&=+$,.!~*'()[]" c

def byteEscape? (rest : List Nat) : Option UInt8 :=
  match rest with
  | 0x25 :: a :: b :: _ => do return ((← hexDigit? a) * 16 + (← hexDigit? b)).toUInt8
  | _ => none

def continuation : Nat → Cursor → Option (Bytes × Cursor)
  | 0, c => some ([], c)
  | n + 1, c =>
    match byteEscape? c.rest with
    | some b =>
      if CodePoint.isContinuation b then
        (continuation n (c.forward 3)).map fun (more, c) => (b :: more, c)
      else none
    | none => none

def escapedChar (c : Cursor) : Option (Bytes × Cursor) :=
  match byteEscape? c.rest with
  | some b =>
    match announced b with
    | 0 => none
    | n + 1 => (continuation n (c.forward 3)).map fun (more, c) => (b :: more, c)
  | none => none

def tagText : Nat → Cursor → Except Error (Bytes × Cursor)
  | 0, c => .ok ([], c)
  | fuel + 1, c =>
    match c.ahead? 0 with
    | some x =>
      if x == 0x25 then
        match escapedChar c with
        | none => .error (.tag c.line)
        | some (bytes, next) => (tagText fuel next).map fun (more, c) => (bytes ++ more, c)
      else if isTagChar x then
        (tagText fuel (c.forward 1)).map fun (more, c) => (CodePoint.encode x ++ more, c)
      else .ok ([], c)
    | none => .ok ([], c)

/-- The characters of a tag, of which there is at least one. -/
def tagText1 (c : Cursor) : Except Error (Bytes × Cursor) :=
  match tagText c.rest.length c with
  | .error e => .error e
  | .ok (text, next) => if next.index == c.index then .error (.tag c.line) else .ok (text, next)

/-- An exclamation mark, a word, and another exclamation mark if there is one. -/
def handle (c : Cursor) : Except Error (Bytes × Cursor) :=
  if !c.has 0 '!' then .error (.tag c.line)
  else
    let (name, next) := (c.forward 1).run isWordChar
    let text : Bytes := 0x21 :: CodePoint.encodeAll name
    if next.has 0 '!' then .ok (text ++ [0x21], next.forward 1) else .ok (text, next)

def isNamedHandle (h : Bytes) : Bool := 1 < h.length && h.getLast? == some 0x21

def tagBody (c : Cursor) : Except Error (WrittenTag × Cursor) :=
  if c.has 1 '<' then do
    let (text, next) ← tagText1 (c.forward 2)
    if next.has 0 '>' then return (⟨[], text⟩, next.forward 1) else throw (.tag c.line)
  else do
    let (h, next) ← handle c
    if isNamedHandle h then
      let (text, next) ← tagText1 next
      return (⟨h, text⟩, next)
    else
      let (text, next) ← tagText next.rest.length next
      let suffix := h.drop 1 ++ text
      return (if suffix.isEmpty then ⟨[], [0x21]⟩ else ⟨[0x21], suffix⟩, next)

/-- The tag at a place; a gap must follow. -/
def tag (c : Cursor) : Except Error (WrittenTag × Cursor) :=
  match tagBody c with
  | .error e => .error e
  | .ok (t, next) => if next.gapAt 0 then .ok (t, next) else .error (.tag c.line)

def versionNumber (c : Cursor) : Except Error (Nat × Cursor) :=
  let (digits, next) := c.run isDigit
  if digits.isEmpty || 2 < digits.length then .error (.directive c.line)
  else .ok (digits.foldl (fun v d => v * 10 + (d - 0x30)) 0, next)

def versionValue (c : Cursor) : Except Error (Directive × Cursor) := do
  let (major, next) ← versionNumber (c.skipRun isBlank)
  if !next.has 0 '.' then throw (.directive c.line)
  let (minor, next) ← versionNumber (next.forward 1)
  return (.version major minor, next)

def tagValue (c : Cursor) : Except Error (Directive × Cursor) := do
  let (h, next) ← handle (c.skipRun isBlank)
  if !(isNamedHandle h || h == [0x21]) then throw (.directive c.line)
  if !next.blankAt 0 then throw (.directive c.line)
  let (lead, next) ← tagText1 (next.skipRun isBlank)
  if !next.gapAt 0 then throw (.directive c.line)
  return (.tag h lead, next)

/-- The directive behind a percent sign, and the start of the next line. -/
def directive (c : Cursor) : Except Error (Directive × Cursor) := do
  let (name, next) := c.run isWordChar
  if name.isEmpty || !next.gapAt 0 then throw (.directive c.line)
  let (d, next) ←
    if name == "YAML".toList.map Char.toNat then versionValue next
    else if name == "TAG".toList.map Char.toNat then tagValue next
    else throw (.directive c.line)
  let next := next.skipRun isBlank
  let next := if next.has 0 '#' then next.skipRun fun x => !isBreak x else next
  if !next.lineEndAt 0 then throw (.directive c.line)
  return (d, next.nextLine)

end Property

end Retouch.Document.Yaml
