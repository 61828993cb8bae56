import Retouch.Document.Hcl.Reader

/-! Bodies: attributes and blocks. -/
namespace Retouch.Document.Hcl

structure Attribute where
  name : Bytes
  value : Expr
  deriving Inhabited

/-- A body, or the rest of one, its items in order. -/
inductive Body where
  | done
  | entry (a : Attribute) (rest : Body)
  | block (name : Bytes) (labels : List Bytes) (body rest : Body)
  deriving Inhabited

namespace Body

def attributes : Body → List Attribute
  | .done => []
  | .entry a rest => a :: rest.attributes
  | .block _ _ _ rest => rest.attributes

/-- The blocks of a body: name, labels and body. -/
def blocks : Body → List (Bytes × List Bytes × Body)
  | .done => []
  | .entry _ rest => rest.blocks
  | .block name labels body rest => (name, labels, body) :: rest.blocks

open Reader

def quotedLabel : Nat → Reader Bytes
  | 0 => refuse "less nesting"
  | fuel + 1 => do
    if ← accept true .closeQuote then return []
    match ← peek true with
    | some (.literal cs) =>
      skip true
      match Template.decode true 0 cs with
      | some t => return CodePoint.encodeAll t ++ (← quotedLabel fuel)
      | none => refuse "an escape sequence"
    | _ => refuse "the end of a label"

def labels : Nat → Reader (List Bytes)
  | 0 => refuse "less nesting"
  | fuel + 1 => do
    match ← peek true with
    | some (.sign .openBrace) =>
      skip true
      return []
    | some .openQuote =>
      skip true
      let l ← quotedLabel fuel
      return l :: (← labels fuel)
    | some (.name cs) =>
      skip true
      return CodePoint.encodeAll cs :: (← labels fuel)
    | _ => refuse "a label or an opening brace"

/-- The end of an item: a line break or the end of the text. -/
def itemEnd : Reader Unit := do
  match ← peek true with
  | none => return ()
  | some .newline => skip true
  | some _ => refuse "a line break"

def nextIn (ts : List (Option Token)) : Reader Bool := return ts.contains (← peek true)

/-- Whether a body ends here: at its closing brace, or at the end of the text for the outermost. -/
def atEnd (outermost : Bool) : Reader Bool := do
  if outermost then return (← peek true).isNone
  else accept true (.sign .closeBrace)

/-- The body of a block on a single line, with its closing brace: one attribute at most. -/
def singleLine (fuel : Nat) : Reader Body := do
  let n ← name true
  expect true (.sign .assign) "an equals sign"
  let e ← expression fuel true
  expect true (.sign .closeBrace) "a closing brace"
  return .entry ⟨n, e⟩ .done

/-- The items of a body up to its end; at most so many steps. -/
def items : Nat → Bool → List Bytes → Reader Body
  | 0, _, _ => refuse "less nesting"
  | fuel + 1, outermost, taken => do
    if ← atEnd outermost then return .done
    else if ← accept true .newline then items fuel outermost taken
    else
      let n ← name true
      if ← accept true (.sign .assign) then
        let e ← expression (20 * fuel) true
        itemEnd
        if taken.contains n then throw (.repeatedAttribute n)
        return .entry ⟨n, e⟩ (← items fuel outermost (n :: taken))
      else
        let ls ← labels fuel
        let body ←
          if ← nextIn [some .newline, some (.sign .closeBrace), none] then items fuel false []
          else singleLine (20 * fuel)
        itemEnd
        return .block n ls body (← items fuel outermost taken)

def ofText (text : Bytes) : Except Error Body :=
  let ts := tokens text
  if ts.contains .invalid then .error (.malformed "a token")
  else ((items (ts.length + 2) true []).run ts).map (·.1)

end Body

end Retouch.Document.Hcl
