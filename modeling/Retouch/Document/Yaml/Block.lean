import Retouch.Document.Yaml.Cursor

/-! Texts given as indented blocks of lines. -/
namespace Retouch.Document.Yaml

/-- What happens to the line breaks at the end of a block. -/
inductive Chomping where
  | strip
  | clip
  | keep
  deriving DecidableEq, Repr

/-- The end of a block, given the break of its last line and those of the empty lines behind. -/
def Chomping.tail : Chomping → List Nat → List Nat → List Nat
  | .strip, _, _ => []
  | .clip, last, _ => last
  | .keep, last, empty => last ++ empty

structure BlockLine where
  /-- The line breaks of the empty lines before it. -/
  before : List Nat
  text : List Nat
  ending : List Nat
  deriving DecidableEq, Repr

namespace Block

def chomping? (c : Cursor) : Option Chomping :=
  if c.has 0 '+' then some .keep else if c.has 0 '-' then some .strip else none

/-- The depth that a header gives, a digit from 1 to 9. -/
def depth? (c : Cursor) : Except Error (Option Nat) :=
  match c.ahead? 0 with
  | some x =>
    if x == 0x30 then .error (.blockHeader c.line)
    else if isDigit x then .ok (some (x - 0x30))
    else .ok none
  | none => .ok none

/-- The two signs of a header in either order, and the place behind them. -/
def signs (c : Cursor) : Except Error (Chomping × Option Nat × Cursor) :=
  match chomping? c with
  | some k => do
    let c := c.forward 1
    match ← depth? c with
    | some d => return (k, some d, c.forward 1)
    | none => return (k, none, c)
  | none => do
    match ← depth? c with
    | some d =>
      let c := c.forward 1
      match chomping? c with
      | some k => return (k, some d, c.forward 1)
      | none => return (.clip, some d, c)
    | none => return (.clip, none, c)

/-- The empty lines at a place and the indentation of the next one. Without a fixed depth all spaces
are indentation; the widest one is the third result. -/
def emptyLines (depth : Option Nat) : Nat → Cursor → Except Error (List Nat × Cursor × Nat)
  | 0, c => .ok ([], c, c.column)
  | fuel + 1, c =>
    let spaces := c.rest.takeWhile (· == 0x20)
    let width := match depth with
      | some d => min spaces.length (d - c.column)
      | none => spaces.length
    let next := c.forward width
    if next.has 0 '\t' && depth.all (next.column < ·) then .error (.tabIndent next.line)
    else if next.breakAt 0 then
      let (text, behind) := next.takeBreak
      (emptyLines depth fuel behind).map fun (breaks, place, widest) =>
        (text ++ breaks, place, max next.column widest)
    else .ok ([], next, next.column)

/-- The lines of a block from a place behind the given empty lines on, the line breaks behind the
last line, and the place behind the block. -/
def lines (depth : Nat) :
    Nat → List Nat → Cursor → Except Error (List BlockLine × List Nat × Cursor)
  | 0, before, c => .ok ([], before, c)
  | fuel + 1, before, c =>
    if c.column == depth && !c.rest.isEmpty then
      let (text, next) := c.run fun x => !isBreak x
      let (ending, behind) := next.takeBreak
      match emptyLines (some depth) behind.rest.length behind with
      | .error e => .error e
      | .ok (breaks, place, _) =>
        (lines depth fuel breaks place).map fun (more, last, place) =>
          (⟨before, text, ending⟩ :: more, last, place)
    else .ok ([], before, c)

/-- Joins lines, given how the line before them starts and ends. When lines are folded, a line break
between two lines that do not start with a blank becomes a space, or nothing before empty lines. -/
def join (folded : Bool) (keptEnd : List Nat → List Nat) :
    Bool → List Nat → List BlockLine → List Nat
  | _, ending, [] => keptEnd ending
  | indented, ending, l :: rest =>
    let blank := l.text.head?.any isBlank
    let between :=
      if folded && !indented && !blank && ending == [0x0A] then
        (if l.before.isEmpty then [0x20] else [])
      else ending
    between ++ l.before ++ l.text ++ join folded keptEnd blank l.ending rest

/-- The block behind its opening sign, inside a structure of the given indentation. -/
def read (folded : Bool) (indent : Int) (c : Cursor) : Except Error (List Nat × Cursor) := do
  let (chomping, digit, c) ← signs c
  let c := c.skipRun isBlank
  let c := if c.has 0 '#' then c.skipRun fun x => !isBreak x else c
  if !c.lineEndAt 0 then throw (.blockHeader c.line)
  let c := c.nextLine
  let given : Option Nat := digit.map fun d => (max indent 0).toNat + d
  let (breaks, place, widest) ← emptyLines given (c.rest.length + 1) c
  let depth := given.getD (max widest (max (indent + 1) 1).toNat)
  let (ls, last, place) ← lines depth place.rest.length breaks place
  return (join folded (fun ending => chomping.tail ending last) false [] ls, place)

end Block

end Retouch.Document.Yaml
