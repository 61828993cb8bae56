import Retouch.Document.Yaml.Cursor

/-! The blanks and line breaks inside a text that goes over several lines. -/
namespace Retouch.Document.Yaml

/-- A gap between two words. Blanks count only when there is no line break. -/
structure Gap where
  blanks : List Nat
  /-- The first line break. -/
  first : List Nat
  /-- All further line breaks. -/
  more : List Nat
  /-- Whether the next line has been reached. -/
  broken : Bool
  deriving DecidableEq, Repr

namespace Gap

def none : Gap := ⟨[], [], [], false⟩

/-- A gap that starts behind a line break which is not kept. -/
def joined : Gap := ⟨[], [], [], true⟩

/-- What a gap becomes in the value: a single line break becomes a space, and of more line breaks
the first is dropped. -/
def value (g : Gap) : List Nat :=
  if g.broken then
    if g.first == [0x0A] then (if g.more.isEmpty then [0x20] else g.more)
    else g.first ++ g.more
  else g.blanks

/-- The gap that goes on at a place. On a new line a tab before the given column is refused. -/
def read (column : Nat) : Nat → Gap → Cursor → Except Error (Gap × Cursor)
  | 0, g, c => .ok (g, c)
  | fuel + 1, g, c =>
    match c.ahead? 0 with
    | some x =>
      if isBlank x then
        if g.broken then
          if c.column < column && x == 0x09 then .error (.tabIndent c.line)
          else read column fuel g (c.forward 1)
        else read column fuel { g with blanks := g.blanks ++ [x] } (c.forward 1)
      else if isBreak x then
        let (text, next) := c.takeBreak
        if g.broken then read column fuel { g with more := g.more ++ text } next
        else read column fuel { g with first := text, broken := true } next
      else .ok (g, c)
    | _ => .ok (g, c)

end Gap

end Retouch.Document.Yaml
