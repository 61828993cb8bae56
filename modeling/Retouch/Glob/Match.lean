import Retouch.Glob.Valid
import Retouch.Text.CodePoint

/-! Matching paths with globs.
A star matches within one name, a double star any number of whole names. Alternatives are written
out while matching, so a fault of the written-out glob shows only when a match reaches it. -/
namespace Retouch.Glob

inductive Fault where
  | malformed
  deriving DecidableEq, Repr

/-- The code point at the head of a text; past the end it has no width. -/
def pointAt (b : Bytes) : CodePoint :=
  match b with
  | [] => ⟨CodePoint.replacement, 0⟩
  | x :: rest => CodePoint.read x rest

def separator : UInt8 := 0x2F

def classEnd? : Bytes → Option Nat
  | [] => none
  | [b] => if b == 0x5D then some 0 else none
  | b :: c :: rest =>
    if b == 0x5C then (classEnd? rest).map (· + 2)
    else if b == 0x5D then some 0
    else (classEnd? (c :: rest)).map (· + 1)

/-- The offset of the brace that ends the group of alternatives a text lies in. -/
def groupEnd? (depth : Nat) : Bytes → Option Nat
  | [] => none
  | b :: rest =>
    if b == 0x5C then
      match rest with
      | [] => none
      | _ :: more => (groupEnd? depth more).map (· + 2)
    else if b == 0x7B then (groupEnd? (depth + 1) rest).map (· + 1)
    else if b == 0x7D then
      if depth = 0 then some 0 else (groupEnd? (depth - 1) rest).map (· + 1)
    else (groupEnd? depth rest).map (· + 1)

/-- The alternatives of a group; `current` is the alternative so far, the last byte first. -/
def alternativesFrom (depth : Int) (current : Bytes) : Bytes → List Bytes
  | [] => [current.reverse]
  | b :: rest =>
    if b == 0x5C then
      match rest with
      | [] => [(b :: current).reverse]
      | c :: more => alternativesFrom depth (c :: b :: current) more
    else if b == 0x2C && depth == 0 then current.reverse :: alternativesFrom 0 [] rest
    else if b == 0x7B then alternativesFrom (depth + 1) (b :: current) rest
    else if b == 0x7D then alternativesFrom (depth - 1) (b :: current) rest
    else alternativesFrom depth (b :: current) rest

/-- The alternatives of the group at the head of a text, each with what follows the group behind
it; the text starts behind the opening brace. -/
def expansions? (text : Bytes) : Option (List Bytes) :=
  (groupEnd? 0 text).map fun n =>
    (alternativesFrom 0 [] (text.take n)).map (· ++ text.drop (n + 1))

/-- Where matching can resume: an offset in the glob and one in the path. -/
structure Resume where
  glob : Nat
  path : Nat

structure State where
  glob : Nat
  path : Nat
  /-- A name starts at the place. -/
  nameStart : Bool
  star : Option Resume
  doubleStar : Option Resume

/-- Looks for a code point among the members of a class; `last` is the member before, if it may
start a range. Gives whether it was found, and the text behind what was read. -/
def findMember (point : Nat) (last : Option Nat) : Nat → Bytes → Bool × Bytes
  | 0, text => (false, text)
  | fuel + 1, text =>
    if text.isEmpty || text.head? == some 0x5D then (false, text)
    else
      let c := pointAt text
      let rest := text.drop c.width
      if last.isSome && c.value == 0x2D && !rest.isEmpty && rest.head? != some 0x5D then
        let rest := if rest.head? == some 0x5C then rest.drop 1 else rest
        let hi := pointAt rest
        let rest := rest.drop hi.width
        if last.any (· ≤ point) && point ≤ hi.value then (true, rest)
        else findMember point none fuel rest
      else
        let escaped := c.value == 0x5C
        let d := if escaped then pointAt rest else c
        let rest := if escaped then rest.drop d.width else rest
        if d.value == point then (true, rest)
        else findMember point (if d.value < 0x10FFFF then some d.value else none) fuel rest

/-- One step of matching: a new state, a failure at an offset of the glob, or a final answer. -/
inductive Step where
  | onward (state : State)
  | stuck (glob : Nat)
  | stop (answer : Except Fault Bool)

/-- Matches the code point at the head of the path with one of the glob. -/
def literalStep (glob path : Bytes) (s : State) (at_ : Nat) : Step :=
  let p := pointAt (glob.drop at_)
  let n := pointAt (path.drop s.path)
  if p.value != n.value then
    let back := at_ > 0 && (glob.drop (at_ - 1)).head? == some 0x5C
    .stuck (if back then at_ - 1 else at_)
  else
    .onward { s with
      glob := at_ + p.width
      path := s.path + n.width
      nameStart := p.value == separator.toNat }

/-- Matches the code point at the head of the path with a class. -/
def classStep (glob path : Bytes) (s : State) : Step :=
  let after := glob.drop (s.glob + 1)
  if after.isEmpty then .stop (.error .malformed)
  else
    let n := pointAt (path.drop s.path)
    let negated := after.head? == some 0x21 || after.head? == some 0x5E
    let after := if negated then after.drop 1 else after
    if after.isEmpty || after.head? == some 0x5D then .stop (.error .malformed)
    else
      let (found, rest) := findMember n.value none (after.length + 1) after
      if found == negated then
        if rest.isEmpty then .stop (.error .malformed) else .stuck (glob.length - rest.length)
      else match classEnd? rest with
        | none => .stop (.error .malformed)
        | some i =>
          .onward { s with
            glob := glob.length - rest.length + i + 1
            path := s.path + n.width
            nameStart := false }

def starStep (glob : Bytes) (s : State) : Step :=
  let after := glob.drop (s.glob + 1)
  let single (at_ : Nat) : Step :=
    .onward { s with glob := at_, nameStart := false, star := some ⟨at_, s.path⟩ }
  match after with
  | 0x2A :: rest =>
    if s.nameStart then
      if rest.isEmpty then .stop (.ok true)
      else if rest.head? == some separator then
        .onward { s with glob := s.glob + 3, star := none, doubleStar := some ⟨s.glob + 3, s.path⟩ }
      else single (s.glob + 2)
    else single (s.glob + 2)
  | _ => single (s.glob + 1)

/-- The first answer of the alternatives: a match or a fault, else that of the last one. -/
def firstAnswer (run : Bytes → Except Fault Bool) : List Bytes → Except Fault Bool
  | [] => .ok false
  | [a] => run a
  | a :: rest =>
    match run a with
    | .ok false => firstAnswer run rest
    | answer => answer

/-- One step at a place before the end of the path. `expand` matches a glob in which one group has
been written out. -/
def step (expand : Bytes → State → Except Fault Bool) (glob path : Bytes) (s : State) : Step :=
  match glob.drop s.glob with
  | [] => .stuck s.glob
  | b :: rest =>
    if b == 0x2A then starStep glob s
    else if b == 0x3F then
      let n := pointAt (path.drop s.path)
      if n.value == separator.toNat then .stuck s.glob
      else .onward { s with glob := s.glob + 1, path := s.path + n.width, nameStart := false }
    else if b == 0x5B then classStep glob path s
    else if b == 0x7B then
      match expansions? rest with
      | none => .stop (.error .malformed)
      | some globs =>
        .stop (firstAnswer (fun g => expand (glob.take s.glob ++ g) { s with nameStart := true })
          globs)
    else if b == 0x5C then
      if rest.isEmpty then .stop (.error .malformed) else literalStep glob path s (s.glob + 1)
    else literalStep glob path s s.glob

def nextName? (path : Bytes) (offset : Nat) : Option Nat :=
  ((path.drop offset).findIdx? (· == separator)).map fun i => offset + i + 1

def retreat (path : Bytes) (s : State) : Option State :=
  let fromDouble : Option State :=
    match s.doubleStar with
    | some r => (nextName? path r.path).map fun n =>
        { s with glob := r.glob, path := n, nameStart := true, doubleStar := some ⟨r.glob, n⟩ }
    | none => none
  match s.star with
  | some r =>
    let n := pointAt (path.drop r.path)
    if n.value != separator.toNat then
      let next := r.path + n.width
      some { s with glob := r.glob, path := next, nameStart := false, star := some ⟨r.glob, next⟩ }
    else fromDouble
  | none => fromDouble

/-- The globs that match nothing but also a missing rest of the path. -/
def matchesNothing (glob : Bytes) : Bool :=
  ([[], [0x2A], [0x2A, 0x2A], [0x2F, 0x2A, 0x2A], [0x2A, 0x2A, 0x2F], [0x2F, 0x2A, 0x2A, 0x2F]] :
    List Bytes).contains glob

/-- Whether the rest of a glob matches the empty rest of a path; at most so many groups are written
out one after the other. -/
def matchEmpty : Nat → Bytes → Except Fault Bool
  | 0, _ => .error .malformed
  | groups + 1, glob =>
    if matchesNothing glob then .ok true
    else match glob with
      | 0x7B :: rest =>
        match expansions? rest with
        | none => .error .malformed
        | some globs => firstAnswer (matchEmpty groups) globs
      | _ => if isValid glob then .ok false else .error .malformed

def run (expand : Bytes → State → Except Fault Bool) (groups : Nat) (glob path : Bytes) :
    Nat → State → Except Fault Bool
  | 0, _ => .error .malformed
  | fuel + 1, s =>
    if s.path ≥ path.length then matchEmpty groups (glob.drop s.glob)
    else match step expand glob path s with
      | .onward next => run expand groups glob path fuel next
      | .stop answer => answer
      | .stuck at_ =>
        match retreat path s with
        | some next => run expand groups glob path fuel next
        | none =>
          let rest := glob.drop at_
          if rest.isEmpty || isValid rest then .ok false else .error .malformed

/-- Every star is left behind at most once for each place of the path and of the glob. -/
def stepBound (glob path : Bytes) : Nat :=
  Nat.pow ((glob.length + 1) * (path.length + 1)) 2 * (glob.length + path.length + 2)

/-- Matches a glob in which at most so many groups are written out one after the other. -/
def matchWithin (path : Bytes) : Nat → Bytes → State → Except Fault Bool
  | 0, _, _ => .error .malformed
  | groups + 1, glob, s =>
    run (matchWithin path groups) (groups + 1) glob path (stepBound glob path) s

def match? (glob path : Bytes) : Except Fault Bool :=
  matchWithin path (glob.count 0x7B + 2) glob ⟨0, 0, true, none, none⟩

end Retouch.Glob
