import Retouch.Document.Yaml.Gap

/-! Texts without quotes. -/
namespace Retouch.Document.Yaml

namespace Plain

/-- The characters of a word. A colon before a gap ends it, and inside brackets so do the signs that
structure a collection. -/
def word (inFlow : Bool) : List Nat → List Nat
  | [] => []
  | x :: rest =>
    if isBlank x || isBreak x then []
    else if x == 0x3A && rest.head?.all (fun y => isBlank y || isBreak y) then []
    else if inFlow && isOneOf ",?[]\x7b\x7d" x then []
    else x :: word inFlow rest

structure Scan where
  value : List Nat
  /-- Whether a line break follows the last word. -/
  broken : Bool
  next : Cursor

/-- The words from a place on, given the gap before it and the least column of further lines. -/
def read (inFlow : Bool) (column : Nat) : Nat → Gap → Cursor → Except Error Scan
  | 0, g, c => .ok ⟨[], g.broken, c⟩
  | fuel + 1, g, c =>
    let w := if c.atDocumentSign || c.has 0 '#' then [] else word inFlow c.rest
    if w.isEmpty then .ok ⟨[], g.broken, c⟩
    else
      let next := c.forward w.length
      if !next.blankAt 0 && !next.breakAt 0 then .ok ⟨g.value ++ w, false, next⟩
      else
        match Gap.read column next.rest.length .none next with
        | .error e => .error e
        | .ok (gap, behind) =>
          if !inFlow && behind.column < column then .ok ⟨g.value ++ w, gap.broken, behind⟩
          else (read inFlow column fuel gap behind).map fun more =>
            ⟨g.value ++ w ++ more.value, more.broken, more.next⟩

end Plain

end Retouch.Document.Yaml
