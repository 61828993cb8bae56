import Retouch.Document.Yaml.Block
import Retouch.Document.Yaml.Plain
import Retouch.Document.Yaml.Property
import Retouch.Document.Yaml.Quoted

/-! The tokens of a YAML text.
Indentation becomes tokens of its own. A key without a sign of its own is recognised by the colon
behind it, so its token is put in front of a token that has been read before. -/
namespace Retouch.Document.Yaml

inductive Token where
  | directive (d : Directive)
  | documentStart
  | documentEnd
  | streamEnd
  | blockSequenceStart
  | blockMappingStart
  | blockEnd
  | flowSequenceStart
  | flowSequenceEnd
  | flowMappingStart
  | flowMappingEnd
  | blockEntry
  | flowEntry
  | key
  | value
  | alias (name : Bytes)
  | anchor (name : Bytes)
  | tag (t : WrittenTag)
  /-- A text, and whether it is written without quotes and without a block. -/
  | scalar (plain : Bool) (value : Bytes)
  /-- A token that may or may not start a key, as the text behind it cannot be read. -/
  | unsettled
  deriving DecidableEq, Repr

structure KeyStart where
  /-- Whether nothing but a key can stand there. -/
  required : Bool
  /-- The number of tokens before it. -/
  number : Nat
  index : Nat
  line : Nat
  column : Nat
  deriving DecidableEq, Repr

/-- The reading of tokens: where it has come, and what it has found. -/
structure Scan where
  place : Cursor
  /-- The column of the innermost block, or -1 outside of all blocks. -/
  indent : Int
  /-- The columns of the blocks around it. -/
  outer : List Int
  /-- For each open bracket and for the text around all, the place where a key may have started. -/
  keys : List (Option KeyStart)
  /-- Whether a key may start at the place. -/
  keyAllowed : Bool
  /-- The tokens, the last one first. -/
  tokens : List Token
  deriving DecidableEq, Repr

namespace Scan

def start (chars : List Nat) : Scan := ⟨.start chars, -1, [], [none], true, []⟩

def inFlow (s : Scan) : Bool := 1 < s.keys.length

def push (s : Scan) (t : Token) : Scan := { s with tokens := t :: s.tokens }

/-- Puts a token in front of those behind the first so many. -/
def insert (s : Scan) (number : Nat) (t : Token) : Scan :=
  let behind := s.tokens.length - number
  { s with tokens := s.tokens.take behind ++ t :: s.tokens.drop behind }

/-- A key lies on one line and its colon at most this far behind its start. -/
def keyReach : Nat := 1024

/-- Whether a key that starts at a given place can still be one. -/
def isOpen (s : Scan) (k : KeyStart) : Bool :=
  k.line == s.place.line && s.place.index ≤ k.index + keyReach

def dropKey (s : Scan) : Except Error Scan :=
  match s.keys with
  | some k :: rest =>
    if k.required then .error (.lostKey k.line) else .ok { s with keys := none :: rest }
  | _ => .ok s

def saveKey (s : Scan) : Except Error Scan :=
  if !s.keyAllowed then .ok s
  else do
    let c := s.place
    let s ← s.dropKey
    let required := !s.inFlow && s.indent == (c.column : Int)
    return { s with
      keys := some ⟨required, s.tokens.length, c.index, c.line, c.column⟩ :: s.keys.drop 1 }

/-- Brackets and blocks nest at most this deep. -/
def maxDepth : Nat := 10000

def closeBlocks (s : Scan) (column : Int) : Scan :=
  if s.inFlow then s
  else
    let blocks := (s.indent :: s.outer).takeWhile (column < ·)
    let left := (s.indent :: s.outer).drop blocks.length
    { s with
      indent := left.head?.getD (-1)
      outer := left.drop 1
      tokens := List.replicate blocks.length .blockEnd ++ s.tokens }

/-- Opens a block at a column if it lies right of the innermost one; its token comes behind the
first so many. -/
def openBlock (s : Scan) (column number : Nat) (t : Token) : Except Error Scan :=
  if s.inFlow || (column : Int) ≤ s.indent then .ok s
  else if maxDepth ≤ s.outer.length then .error (.tooDeep s.place.line)
  else .ok { s.insert number t with indent := column, outer := s.indent :: s.outer }

/-- The place behind a comment and the comments on the lines right below it. -/
def skipComments : Nat → Cursor → Cursor
  | 0, c => c
  | fuel + 1, c =>
    let c := c.skipRun fun x => !isBreak x
    let gap := (c.rest.takeWhile fun x => isBlank x || x == 0x0A || x == 0x0D).length
    if gap < 512 && c.has gap '#' then
      skipComments fuel (c.advanceTo (c.index + gap) gap)
    else c

def skipGaps : Nat → Scan → Scan
  | 0, s => s
  | fuel + 1, s =>
    let c := s.place
    let c := if c.index == 0 && c.ahead? 0 == some 0xFEFF then c.forward 1 else c
    let c := c.skipRun fun x => x == 0x20 || ((s.inFlow || !s.keyAllowed) && x == 0x09)
    let c := if c.has 0 '#' then skipComments c.rest.length c else c
    if c.breakAt 0 then
      skipGaps fuel { s with place := c.nextLine, keyAllowed := s.keyAllowed || !s.inFlow }
    else { s with place := c }

/-- Goes to the end of the line if only a comment follows on it. -/
def skipLineComment (s : Scan) : Scan :=
  let blanks := (s.place.rest.takeWhile isBlank).length
  if blanks < 512 && s.place.has blanks '#' then
    { s with place := (s.place.forward blanks).skipRun fun x => !isBreak x }
  else s

def sign (s : Scan) (width : Nat) (t : Token) : Scan :=
  { s.push t with place := s.place.forward width }

def leaveDocument (s : Scan) : Except Error Scan := do
  let s ← (s.closeBlocks (-1)).dropKey
  return { s with keyAllowed := false }

def openFlow (s : Scan) (t : Token) : Except Error Scan := do
  let s ← s.saveKey
  if maxDepth < s.keys.length then throw (.tooDeep s.place.line)
  return { s with keys := none :: s.keys, keyAllowed := true }.sign 1 t

def closeFlow (s : Scan) (t : Token) : Except Error Scan := do
  let s ← s.dropKey
  let keys := if s.inFlow then s.keys.drop 1 else s.keys
  return { s with keys := keys, keyAllowed := false }.sign 1 t

def flowEntry (s : Scan) : Except Error Scan := do
  let s ← s.dropKey
  return { s with keyAllowed := true }.sign 1 .flowEntry

def blockEntry (s : Scan) : Except Error Scan := do
  if !s.inFlow && !s.keyAllowed then throw (.contextual "an item" s.place.line)
  let s ← s.openBlock s.place.column s.tokens.length .blockSequenceStart
  let s ← s.dropKey
  return { s with keyAllowed := true }.sign 1 .blockEntry

def keySign (s : Scan) : Except Error Scan := do
  if !s.inFlow && !s.keyAllowed then throw (.contextual "a key" s.place.line)
  let s ← s.openBlock s.place.column s.tokens.length .blockMappingStart
  let s ← s.dropKey
  return { s with keyAllowed := !s.inFlow }.sign 1 .key

/-- The key that a colon at the place belongs to, if it has no sign of its own. -/
def simpleKey (s : Scan) : Except Error (Option KeyStart) :=
  match s.keys with
  | some k :: _ =>
    if s.isOpen k then .ok (some k)
    else if k.required then .error (.lostKey k.line)
    else .ok none
  | _ => .ok none

def valueSign (s : Scan) : Except Error Scan := do
  match ← s.simpleKey with
  | some k =>
    let s ← (s.insert k.number .key).openBlock k.column k.number .blockMappingStart
    return { s with keys := none :: s.keys.drop 1, keyAllowed := false }.sign 1 .value
  | none =>
    let s := { s with keys := none :: s.keys.drop 1 }
    if !s.inFlow && !s.keyAllowed then throw (.contextual "a value" s.place.line)
    let s ← s.openBlock s.place.column s.tokens.length .blockMappingStart
    return { s with keyAllowed := !s.inFlow }.sign 1 .value

def anchorOrAlias (s : Scan) (t : Bytes → Token) : Except Error Scan := do
  let s ← s.saveKey
  let (name, next) ← Property.anchor (s.place.forward 1)
  return { s.push (t name) with place := next, keyAllowed := false }

def tag (s : Scan) : Except Error Scan := do
  let s ← s.saveKey
  let (t, next) ← Property.tag s.place
  return { s.push (.tag t) with place := next, keyAllowed := false }

def block (s : Scan) (folded : Bool) : Except Error Scan := do
  let s ← s.dropKey
  let (text, next) ← Block.read folded s.indent (s.place.forward 1)
  return { s.push (.scalar false (CodePoint.encodeAll text)) with
    place := next, keyAllowed := true }

def quoted (s : Scan) (double : Bool) : Except Error Scan := do
  let s ← s.saveKey
  let (text, next) ← Quoted.read double s.place.rest.length (s.place.forward 1)
  return { s.push (.scalar false (CodePoint.encodeAll text)) with
    place := next, keyAllowed := false }

def plain (s : Scan) : Except Error Scan := do
  let s ← s.saveKey
  let column := (s.indent + 1).toNat
  let text ← Plain.read s.inFlow column s.place.rest.length .none s.place
  return { s.push (.scalar true (CodePoint.encodeAll text.value)) with
    place := text.next
    keyAllowed := text.broken }

/-- Whether a text without quotes can start at a place. -/
def startsPlain (inFlow : Bool) (c : Cursor) : Bool :=
  match c.ahead? 0 with
  | none => false
  | some x =>
    !(isBlank x || isBreak x || isOneOf "-?:,[]\x7b\x7d#&*!|>'\"%@\x60" x) ||
      (x == 0x2D && !c.blankAt 1) ||
      (!inFlow && (x == 0x3F || x == 0x3A) && !c.gapAt 1)

def content (s : Scan) : Except Error Scan :=
  let c := s.place
  if c.has 0 '[' then s.openFlow .flowSequenceStart
  else if c.has 0 '\x7b' then s.openFlow .flowMappingStart
  else if c.has 0 ']' then s.closeFlow .flowSequenceEnd
  else if c.has 0 '\x7d' then s.closeFlow .flowMappingEnd
  else if c.has 0 ',' then s.flowEntry
  else if c.has 0 '-' && c.gapAt 1 then s.blockEntry
  else if c.has 0 '?' && (s.inFlow || c.gapAt 1) then s.keySign
  else if c.has 0 ':' && (s.inFlow || c.gapAt 1) then s.valueSign
  else if c.has 0 '*' then s.anchorOrAlias .alias
  else if c.has 0 '&' then s.anchorOrAlias .anchor
  else if c.has 0 '!' then s.tag
  else if c.has 0 '|' && !s.inFlow then s.block false
  else if c.has 0 '>' && !s.inFlow then s.block true
  else if c.has 0 '\'' then s.quoted false
  else if c.has 0 '"' then s.quoted true
  else if startsPlain s.inFlow c then s.plain
  else .error (.tokenStart c.line)

/-- Whether a comment behind the last token belongs to its line: not behind the dash of an item, and
not when the token goes on to another line. -/
def takesComment (s : Scan) : Bool :=
  match s.tokens with
  | .blockEntry :: _ => false
  | .scalar _ _ :: _ => !s.keyAllowed
  | _ => true

def step (s : Scan) : Except Error Scan := do
  let s := s.skipGaps (s.place.rest.length + 1)
  let s := s.closeBlocks s.place.column
  let c := s.place
  if c.rest.isEmpty then
    let s ← s.leaveDocument
    return s.push .streamEnd
  else if c.column == 0 && c.has 0 '%' then
    let s ← s.leaveDocument
    let (d, next) ← Property.directive (c.forward 1)
    return { s.push (.directive d) with place := next }
  else if c.atSign '-' then
    let s ← s.leaveDocument
    return s.sign 3 .documentStart
  else if c.atSign '.' then
    let s ← s.leaveDocument
    return s.sign 3 .documentEnd
  else
    let s ← s.content
    return if s.takesComment then s.skipLineComment else s

/-- The tokens in order, when the text behind them cannot be read: those that may start a key are
not settled. -/
def settle (s : Scan) : List Token :=
  let pending :=
    s.keys.filterMap fun k => k.bind fun k => if s.isOpen k then some k.number else none
  s.tokens.reverse.mapIdx fun i t => if pending.contains i then .unsettled else t

/-- The tokens of a text as far as it can be read, and what is wrong behind them. -/
structure Found where
  tokens : List Token
  problem : Option Error
  deriving DecidableEq, Repr

/-- All tokens from a state on. At the end of a text its last token is repeated, so that two tokens
can be seen behind any other. -/
def run (broken : Bool) : Nat → Scan → Found
  | 0, s => ⟨s.settle, some .unreadable⟩
  | fuel + 1, s =>
    match s.step with
    | .error e => ⟨s.settle, some e⟩
    | .ok next =>
      if next.place.rest.isEmpty && broken then ⟨s.settle, some .unreadable⟩
      else if next.tokens.head? == some .streamEnd then
        ⟨next.tokens.reverse ++ [.streamEnd, .streamEnd], none⟩
      else run broken fuel next

end Scan

def tokens (source : Source) : Scan.Found :=
  (Scan.start source.chars).run source.broken (source.chars.length + 1)

end Retouch.Document.Yaml
