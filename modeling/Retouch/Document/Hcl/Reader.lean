import Retouch.Document.Hcl.Template
import Retouch.Document.Hcl.Token

/-! The reading of expressions and bodies from tokens.
Line breaks end an item of a body and separate the fields of an object; inside other brackets they
do not count. -/
namespace Retouch.Document.Hcl

abbrev Reader := StateT (List Token) (Except Error)

namespace Reader

def refuse {α : Type} (expected : String) : Reader α := throw (.malformed expected)

/-- The tokens ahead, with or without the line breaks before the next one. -/
def ahead (lines : Bool) : Reader (List Token) := do
  let ts ← get
  return if lines then ts else ts.dropWhile (· == .newline)

/-- The next token, or none at the end. -/
def peek (lines : Bool) : Reader (Option Token) := return (← ahead lines).head?

def skip (lines : Bool) : Reader Unit := do set ((← ahead lines).drop 1)

def accept (lines : Bool) (t : Token) : Reader Bool := do
  if (← peek lines) == some t then
    skip lines
    return true
  else return false

def expect (lines : Bool) (t : Token) (what : String) : Reader Unit := do
  if !(← accept lines t) then refuse what

def atWord (lines : Bool) (w : String) : Reader Bool :=
  return (← peek lines) == some (.name (w.toList.map Char.toNat))

def name (lines : Bool) : Reader Bytes := do
  match ← peek lines with
  | some (.name cs) =>
    skip lines
    return CodePoint.encodeAll cs
  | _ => refuse "a name"

def levels : List (List (Sign × Operator)) :=
  [[(.either, .either)], [(.both, .both)], [(.equal, .equal), (.notEqual, .notEqual)],
    [(.less, .less), (.greater, .greater), (.lessEqual, .lessEqual),
      (.greaterEqual, .greaterEqual)],
    [(.plus, .add), (.minus, .sub)], [(.star, .mul), (.slash, .div), (.percent, .mod)]]

def operator? (lines : Bool) (level : List (Sign × Operator)) : Reader (Option Operator) := do
  match ← peek lines with
  | some (.sign s) => return (level.find? (·.1 == s)).map (·.2)
  | _ => return none

def numberOf (cs : List Nat) : Reader Number :=
  match Number.ofText? (CodePoint.encodeAll cs) with
  | some n => return n
  | none => refuse "a number"

/-- The names of the variables of a loop and the word before its source. -/
def loopNames (lines : Bool) : Reader (Option Bytes × Bytes) := do
  let first ← name lines
  let names ←
    if ← accept lines (.sign .comma) then do
      let second ← name lines
      pure (some first, second)
    else pure (none, first)
  if !(← atWord lines "in") then refuse "the word in"
  skip lines
  return names

def legacyIndex (cs : List Nat) : Reader Expr := do
  if cs.contains 0x2E then refuse "an index in brackets"
  return .value (.number (← numberOf cs))

/-- The steps of a splat with a dot, from the element on. -/
def dottedSteps : Nat → Bool → Expr → Reader Expr
  | 0, _, _ => refuse "less nesting"
  | fuel + 1, lines, e => do
    if ← accept lines (.sign .dot) then
      match ← peek lines with
      | some (.number cs) =>
        skip lines
        dottedSteps fuel lines (.index e (← legacyIndex cs))
      | _ => dottedSteps fuel lines (.member e (← name lines))
    else return e

/-- The end of a sequence, and whether blanks behind it are taken off. -/
def sequenceEnd : Reader Bool := do
  match ← peek false with
  | some (.closeSequence after) =>
    skip false
    return after
  | _ => refuse "the end of a sequence"

mutual

/-- An expression; at most so many steps. -/
def expression : Nat → Bool → Reader Expr
  | 0, _ => refuse "less nesting"
  | fuel + 1, lines => do
    let condition ← operation fuel lines levels
    if ← accept lines (.sign .question) then
      let yes ← expression fuel lines
      expect lines (.sign .colon) "a colon"
      let no ← expression fuel lines
      return .conditional condition yes no
    else return condition

/-- Operands joined by the operators of a level and those that bind more tightly. -/
def operation : Nat → Bool → List (List (Sign × Operator)) → Reader Expr
  | 0, _, _ => refuse "less nesting"
  | fuel + 1, lines, [] => operand fuel lines
  | fuel + 1, lines, level :: tighter => do
    let first ← operation fuel lines tighter
    operations fuel lines level tighter first

def operations : Nat → Bool → List (Sign × Operator) → List (List (Sign × Operator)) → Expr →
    Reader Expr
  | 0, _, _, _, _ => refuse "less nesting"
  | fuel + 1, lines, level, tighter, left => do
    match ← operator? lines level with
    | some op =>
      skip lines
      let right ← operation fuel lines tighter
      operations fuel lines level tighter (.binary op left right)
    | none => return left

def operand : Nat → Bool → Reader Expr
  | 0, _ => refuse "less nesting"
  | fuel + 1, lines => do steps fuel lines (← term fuel lines)

def steps : Nat → Bool → Expr → Reader Expr
  | 0, _, _ => refuse "less nesting"
  | fuel + 1, lines, e => do
    if ← accept lines (.sign .dot) then
      match ← peek lines with
      | some (.number cs) =>
        skip lines
        steps fuel lines (.index e (← legacyIndex cs))
      | some (.sign .star) =>
        skip lines
        let each ← dottedSteps fuel lines .item
        steps fuel lines (.splat e each)
      | _ => steps fuel lines (.member e (← name lines))
    else if ← accept lines (.sign .openBracket) then
      if ← accept lines (.sign .star) then
        expect lines (.sign .closeBracket) "a closing bracket"
        let each ← steps fuel lines .item
        steps fuel lines (.splat e each)
      else
        let key ← expression fuel false
        expect false (.sign .closeBracket) "a closing bracket"
        steps fuel lines (.index e key)
    else return e

def term : Nat → Bool → Reader Expr
  | 0, _ => refuse "less nesting"
  | fuel + 1, lines => do
    match ← peek lines with
    | some (.sign .openParen) =>
      skip lines
      let e ← expression fuel false
      expect false (.sign .closeParen) "a closing parenthesis"
      return .grouped e
    | some (.number cs) =>
      skip lines
      return .value (.number (← numberOf cs))
    | some (.name cs) =>
      skip lines
      if ← accept lines (.sign .doubleColon) then
        let _ ← name lines
        spacedCall fuel lines
      else if ← accept lines (.sign .openParen) then
        arguments fuel
        return .call
      else
        let n := CodePoint.encodeAll cs
        return if n == Bytes.ofString "true" then .value (.bool true)
          else if n == Bytes.ofString "false" then .value (.bool false)
          else if n == Bytes.ofString "null" then .value .null
          else .variable n
    | some .openQuote =>
      skip lines
      template fuel true false .closeQuote
    | some (.openHeredoc flushed) =>
      skip lines
      template fuel false flushed .closeHeredoc
    | some (.sign .minus) =>
      skip lines
      return .negate (← operand fuel lines)
    | some (.sign .not) =>
      skip lines
      return .not (← operand fuel lines)
    | some (.sign .openBracket) =>
      skip lines
      if ← atWord false "for" then
        skip false
        loop fuel false
      else return .tuple (← tupleItems fuel)
    | some (.sign .openBrace) =>
      skip lines
      if ← atWord false "for" then
        skip false
        loop fuel true
      else return .object (← objectFields fuel)
    | _ => refuse "an expression"

/-- The rest of a call of a function whose name has several parts. -/
def spacedCall : Nat → Bool → Reader Expr
  | 0, _ => refuse "less nesting"
  | fuel + 1, lines => do
    if ← accept lines (.sign .doubleColon) then
      let _ ← name lines
      spacedCall fuel lines
    else
      expect lines (.sign .openParen) "an opening parenthesis"
      arguments fuel
      return .call

def arguments : Nat → Reader Unit
  | 0 => refuse "less nesting"
  | fuel + 1 => do
    if ← accept false (.sign .closeParen) then return ()
    let _ ← expression fuel false
    if ← accept false (.sign .closeParen) then return ()
    if ← accept false (.sign .ellipsis) then
      expect false (.sign .closeParen) "a closing parenthesis"
    else
      expect false (.sign .comma) "a comma"
      arguments fuel

def tupleItems : Nat → Reader (List Expr)
  | 0 => refuse "less nesting"
  | fuel + 1 => do
    if ← accept false (.sign .closeBracket) then return []
    let e ← expression fuel false
    if ← accept false (.sign .closeBracket) then return [e]
    expect false (.sign .comma) "a comma"
    return e :: (← tupleItems fuel)

def objectFields : Nat → Reader (List (Expr × Expr))
  | 0 => refuse "less nesting"
  | fuel + 1 => do
    if ← accept true .newline then objectFields fuel
    else if ← accept true (.sign .closeBrace) then return []
    else
      let key ← expression fuel true
      if !(← accept true (.sign .assign)) then
        expect true (.sign .colon) "an equals sign or a colon"
      let value ← expression fuel true
      if ← accept true (.sign .closeBrace) then return [(key, value)]
      if !(← accept true (.sign .comma)) then expect true .newline "a comma or a line break"
      return (key, value) :: (← objectFields fuel)

/-- A loop behind its first word, for an object or a tuple. -/
def loop : Nat → Bool → Reader Expr
  | 0, _ => refuse "less nesting"
  | fuel + 1, forObject => do
    let (key, n) ← loopNames false
    let source ← expression fuel false
    expect false (.sign .colon) "a colon"
    let first ← expression fuel false
    let second ←
      if ← accept false (.sign .arrow) then do
        let e ← expression fuel false
        pure (some e)
      else pure none
    let group ← accept false (.sign .ellipsis)
    let condition ←
      if ← atWord false "if" then do
        skip false
        expression fuel false
      else pure (.value (.bool true))
    expect false (.sign (if forObject then .closeBrace else .closeBracket)) "a closing bracket"
    match forObject, second, group with
    | true, some body, g => return .forObject key n source first body condition g
    | false, none, false => return .forTuple key n source first condition
    | _, _, _ => refuse "a key for each field and none for an item"

def template : Nat → Bool → Bool → Token → Reader Expr
  | 0, _, _, _ => refuse "less nesting"
  | fuel + 1, inQuotes, flushed, close => do
    let ps ← pieces fuel inQuotes close
    match Template.ofPieces flushed ps with
    | some e => return e
    | none => refuse "the end of a directive"

def pieces : Nat → Bool → Token → Reader (List TrimmedPiece)
  | 0, _, _ => refuse "less nesting"
  | fuel + 1, inQuotes, close => do
    if ← accept true close then return []
    match ← peek true with
    | some (.literal cs) =>
      skip true
      match Template.decode inQuotes 0 cs with
      | some t => return ⟨.text t, false, false⟩ :: (← pieces fuel inQuotes close)
      | none => refuse "an escape sequence"
    | some (.openValue before) =>
      skip true
      let e ← expression fuel false
      let after ← sequenceEnd
      return ⟨.value e, before, after⟩ :: (← pieces fuel inQuotes close)
    | some (.openDirective before) =>
      skip true
      let p ← directive fuel
      let after ← sequenceEnd
      return ⟨p, before, after⟩ :: (← pieces fuel inQuotes close)
    | _ => refuse "the end of a text"

def directive : Nat → Reader Piece
  | 0 => refuse "less nesting"
  | fuel + 1 => do
    let word ← name false
    if word == Bytes.ofString "if" then return .ifStart (← expression fuel false)
    else if word == Bytes.ofString "else" then return .elseMark
    else if word == Bytes.ofString "endif" then return .ifEnd
    else if word == Bytes.ofString "for" then
      let (key, n) ← loopNames false
      return .forStart key n (← expression fuel false)
    else if word == Bytes.ofString "endfor" then return .forEnd
    else refuse "a directive"

end

end Reader

end Retouch.Document.Hcl
