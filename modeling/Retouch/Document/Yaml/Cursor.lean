import Retouch.Document.Yaml.Source
import Retouch.Document.Yaml.Error

/-! Places in a YAML text. -/
namespace Retouch.Document.Yaml

def isBlank (c : Nat) : Bool := c == 0x20 || c == 0x09

def isBreak (c : Nat) : Bool :=
  c == 0x0A || c == 0x0D || c == 0x85 || c == 0x2028 || c == 0x2029

def isDigit (c : Nat) : Bool := 0x30 ≤ c && c ≤ 0x39

def isWordChar (c : Nat) : Bool :=
  isDigit c || (0x41 ≤ c && c ≤ 0x5A) || (0x61 ≤ c && c ≤ 0x7A) || c == 0x5F || c == 0x2D

def hexDigit? (c : Nat) : Option Nat :=
  if isDigit c then some (c - 0x30)
  else if 0x41 ≤ c && c ≤ 0x46 then some (c - 0x37)
  else if 0x61 ≤ c && c ≤ 0x66 then some (c - 0x57)
  else none

def isOneOf (chars : String) (c : Nat) : Bool := chars.toList.any fun d => d.toNat == c

/-- A place in a text: what follows, and how much lies before. -/
structure Cursor where
  rest : List Nat
  index : Nat
  line : Nat
  column : Nat
  deriving DecidableEq, Repr

namespace Cursor

def start (chars : List Nat) : Cursor := ⟨chars, 0, 0, 0⟩

def ahead? (c : Cursor) (n : Nat) : Option Nat := c.rest[n]?

def has (c : Cursor) (n : Nat) (x : Char) : Bool := c.ahead? n == some x.toNat

def blankAt (c : Cursor) (n : Nat) : Bool := (c.ahead? n).any isBlank

def breakAt (c : Cursor) (n : Nat) : Bool := (c.ahead? n).any isBreak

def lineEndAt (c : Cursor) (n : Nat) : Bool := (c.ahead? n).all isBreak

def gapAt (c : Cursor) (n : Nat) : Bool := (c.ahead? n).all fun x => isBlank x || isBreak x

def forward (c : Cursor) (n : Nat) : Cursor :=
  ⟨c.rest.drop n, c.index + n, c.line, c.column + n⟩

/-- The run of characters of a kind at the place, and the place behind it. -/
def run (p : Nat → Bool) (c : Cursor) : List Nat × Cursor :=
  let chars := c.rest.takeWhile p
  (chars, c.forward chars.length)

def skipRun (p : Nat → Bool) (c : Cursor) : Cursor := (c.run p).2

/-- The line break at the place as it is kept in a value, and the place behind it. All kinds of line
breaks become line feeds except the two separators; at any other place nothing is read. -/
def takeBreak (c : Cursor) : List Nat × Cursor :=
  match c.rest with
  | 0x0D :: 0x0A :: rest => ([0x0A], ⟨rest, c.index + 2, c.line + 1, 0⟩)
  | b :: rest =>
    if b == 0x2028 || b == 0x2029 then ([b], ⟨rest, c.index + 1, c.line + 1, 0⟩)
    else if isBreak b then ([0x0A], ⟨rest, c.index + 1, c.line + 1, 0⟩)
    else ([], c)
  | [] => ([], c)

def nextLine (c : Cursor) : Cursor := c.takeBreak.2

/-- The place of a given index ahead, through line breaks; at most so many steps. -/
def advanceTo (index : Nat) : Nat → Cursor → Cursor
  | 0, c => c
  | fuel + 1, c =>
    if index ≤ c.index then c
    else advanceTo index fuel (if c.breakAt 0 then c.nextLine else c.forward 1)

/-- Whether a document sign stands at the place: three equal signs at the start of a line. -/
def atSign (c : Cursor) (x : Char) : Bool :=
  c.column == 0 && c.has 0 x && c.has 1 x && c.has 2 x && c.gapAt 3

def atDocumentSign (c : Cursor) : Bool := c.atSign '-' || c.atSign '.'

end Cursor

end Retouch.Document.Yaml
