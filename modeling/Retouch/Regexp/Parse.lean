import Retouch.Regexp.Piece
import Retouch.Regexp.Reader

/-! Reading written regular expressions.
The text is read from left to right. Every open group is a frame that collects its finished
branches and the parts of the current one. -/
namespace Retouch.Regexp

structure Flags where
  folded : Bool
  dotAll : Bool
  multiline : Bool
  lazy : Bool
  deriving Repr

namespace Flags

def start : Flags := ⟨false, false, false, false⟩

end Flags

structure Frame where
  /-- The flags to go back to behind the group. -/
  outer : Flags
  captures : Bool
  /-- The finished branches, the last one first. -/
  branches : List Piece
  /-- The parts of the current branch, the last one first. -/
  parts : List Piece
  deriving Repr

namespace Frame

def opened (outer : Flags) (captures : Bool) : Frame := ⟨outer, captures, [], []⟩

end Frame

/-- The nodes of the tree: how many have been made, and how many of these are free again. -/
structure Nodes where
  made : Nat
  free : Nat

namespace Nodes

def take (n : Nodes) : Nodes :=
  if n.free = 0 then { n with made := n.made + 1 } else { n with free := n.free - 1 }

def give (n : Nodes) (count : Nat) : Nodes := { n with free := n.free + count }

end Nodes

structure State where
  flags : Flags
  frame : Frame
  /-- The groups around the current one, the innermost first. -/
  around : List Frame
  /-- The text from the last repetition on, if the place is right behind one. -/
  repetition : Option Bytes
  nodes : Nodes
  /-- The number of ends of ranges and code points kept so far. -/
  stored : Nat
  /-- The product of all counts so far, each taken in whenever its repetition is checked. -/
  counts : Nat

/-- The most nodes on a branch of the tree. -/
def maxHeight : Nat := 1000

/-- The most steps of an expression with its repetitions written out. -/
def maxSize : Nat := 3355443

/-- The most code points and ends of ranges. -/
def maxStored : Nat := 33554432

/-- The largest count of a repetition, and the largest product of nested ones. -/
def maxCount : Nat := 1000

namespace State

def start : State := ⟨.start, .opened .start false, [], none, ⟨0, 0⟩, 0, 1⟩

/-- Two literals in a row at the end of the parts become one. -/
def joinLiterals : List Piece → List Piece
  | .literal f s :: .literal g t :: rest =>
    if f == g then .literal g (s ++ t) :: rest else .literal f s :: .literal g t :: rest
  | parts => parts

/-- Whether a set holds the two cases of one letter and nothing else. -/
def isCasePair (s : CharSet) : Bool :=
  match s.ranges with
  | [(a, b), (c, d)] => a == b && c == d && pair a c
  | [(a, b)] => a + 1 == b && pair a b
  | _ => false
where
  pair (a b : Nat) : Bool :=
    Unicode.fold a == Unicode.fold b
      && (Unicode.foldingPairs.filter fun p => p.2 == Unicode.fold a).length == 1

def simplified : Piece → Piece
  | .single s =>
    if s.only?.isSome then .literal false [s]
    else if isCasePair s then .literal true [s]
    else .single s
  | p => p

def isLetterClass (p : Piece) : Bool :=
  match p, simplified p with
  | .single _, .literal _ _ => true
  | _, _ => false

def countsWith (counts : Nat) : Piece → Nat
  | .counted _ _ count => if count > maxSize / counts then maxSize else counts * count
  | _ => counts

/-- Refuses parts beyond the limits; the fault shows the whole expression. Sizes do not matter as
long as the nodes and the counts are few. -/
def check (whole : Bytes) (s : State) (p : Piece) : Except Error State :=
  let s := { s with counts := countsWith s.counts p }
  if s.stored > maxStored then .error ⟨.tooLarge, whole⟩
  else if maxSize / s.counts ≤ s.nodes.made && p.measure.size > maxSize then
    .error ⟨.tooLarge, whole⟩
  else if p.measure.height > maxHeight then .error ⟨.tooDeep, whole⟩
  else .ok s

/-- The number of code points and ends of ranges that a part keeps. -/
def storage : Piece → Nat
  | .literal _ sets => sets.length
  | .single s => 2 * s.ranges.length
  | _ => 0

def take (s : State) : State := { s with nodes := s.nodes.take }

/-- Adds a part to the current branch. Where two literals before it become one, the node of the
second is free, unless it is kept for the letter of a class. -/
def push (whole : Bytes) (s : State) (p : Piece) : Except Error State :=
  let parts := joinLiterals s.frame.parts
  let free := if isLetterClass p then 0 else s.frame.parts.length - parts.length
  check whole
    { s with
      frame := { s.frame with parts := simplified p :: parts }
      nodes := s.nodes.give free
      stored := s.stored + storage p }
    p

def pushLeaf (whole : Bytes) (s : State) (e : Expr) : Except Error State :=
  s.take.push whole (.other e (.leaf 1))

def pushSet (whole : Bytes) (s : State) (set : CharSet) : Except Error State :=
  s.take.push whole (.single set)

def pushPoint (whole : Bytes) (s : State) (c : Nat) : Except Error State :=
  s.take.push whole (.literal s.flags.folded [caseSet s.flags.folded (.single c)])

/-- Puts a branch behind the finished ones. Neighbouring branches that read one code point each
become a class. -/
def addBranch (s : State) (branch : Piece) : State :=
  match s.frame.branches with
  | [] => { s with frame := { s.frame with branches := [branch], parts := [] } }
  | last :: others =>
    match last.set?, branch.set? with
    | some a, some b =>
      { s with
        frame := { s.frame with branches := .single (a.union b).normalize :: others, parts := [] }
        nodes := s.nodes.give 1 }
    | _, _ => { s with frame := { s.frame with branches := branch :: last :: others, parts := [] } }

/-- Ends the current branch. Several parts share a node, and rows among them give theirs back. -/
def endBranch (whole : Bytes) (s : State) : Except Error State := do
  let parts := joinLiterals s.frame.parts
  let branch := Piece.ofRow parts.reverse
  let nodes := s.nodes.give (s.frame.parts.length - parts.length)
  let nodes := if parts.length = 1 then nodes else nodes.take.give (parts.countP Piece.isConcat)
  let s ← check whole { s with nodes := nodes } branch
  return s.addBranch branch

/-- Goes on with another branch. The first bar of a group is a node of its own. -/
def nextBranch (whole : Bytes) (s : State) : Except Error State := do
  let ended ← s.endBranch whole
  return if s.frame.branches.isEmpty then ended.take else ended

/-- Ends the current group and gives what it stands for. Several branches share a node, and choices
among them give theirs back. -/
def endGroup (whole : Bytes) (s : State) : Except Error (State × Piece) := do
  let s ← s.endBranch whole
  let branches := s.frame.branches
  let body := Piece.ofBranches branches.reverse
  let nodes := if branches.length = 1 then s.nodes
    else s.nodes.take.give (branches.countP Piece.isAlternate)
  return (← check whole { s with nodes := nodes } body, body)

def openGroup (s : State) (captures : Bool) (inner : Flags) : State :=
  let parts := joinLiterals s.frame.parts
  { s with
    frame := .opened s.flags captures
    around := { s.frame with parts := parts } :: s.around
    flags := inner
    nodes := s.nodes.take.give (s.frame.parts.length - parts.length) }

def closeGroup (whole : Bytes) (s : State) : Except Error State := do
  let (s, body) ← s.endGroup whole
  match s.around with
  | [] => throw ⟨.unopenedGroup, whole⟩
  | parent :: around =>
    let piece := if s.frame.captures then .other body.toExpr (body.measure.under 2) else body
    let s := { s with flags := s.frame.outer, frame := parent, around := around }
    s.push whole piece

/-- Repeats the last part. `text` starts at the operator and `after` behind it. -/
def repeatLast (whole : Bytes) (s : State) (least : Nat) (most : Option Nat) (counted : Bool)
    (text after : Bytes) : Except Error (State × Bytes) := do
  let (greedy, after) := match after with
    | 0x3F :: more => (s.flags.lazy, more)
    | more => (!s.flags.lazy, more)
  if let some earlier := s.repetition then
    throw ⟨.nestedRepetition, consumed earlier after⟩
  match s.frame.parts with
  | [] => throw ⟨.nothingToRepeat, consumed text after⟩
  | last :: before =>
    let m := last.measure
    let measure :=
      if counted then m.repeated least most
      else if most == none && least == 0 then m.under 2
      else m.under 1
    let expr := last.toExpr.repeated greedy least most
    let piece : Piece :=
      if counted then .counted expr measure (max 1 (most.getD least)) else .other expr measure
    let s ← check whole
      { s.take with
        frame := { s.frame with parts := piece :: before }
        repetition := some text }
      piece
    if counted && (least ≥ 2 || most.any (· ≥ 2)) && measure.copies > maxCount then
      throw ⟨.badCount, consumed text after⟩
    return (s, after)

end State

def isGroupName (name : Bytes) : Bool :=
  !name.isEmpty && name.all fun b => b == 0x5F || isAlphanumeric b.toNat

/-- The flags of a group up to the colon or the parenthesis behind them. `set` is the value that a
flag gets, and `seen` tells whether a flag has been seen since the last sign. Gives the flags and
whether a group opens, or the rest of the text behind a fault. -/
def readFlags (flags : Flags) (set seen : Bool) :
    Nat → Bytes → Except Error (Except Bytes (Flags × Bool × Bytes))
  | 0, text => .ok (.error text)
  | fuel + 1, text =>
    if text.isEmpty then .ok (.error text)
    else do
      let (c, rest) ← readPoint text
      if c == 0x69 then readFlags { flags with folded := set } set true fuel rest
      else if c == 0x6D then readFlags { flags with multiline := set } set true fuel rest
      else if c == 0x73 then readFlags { flags with dotAll := set } set true fuel rest
      else if c == 0x55 then readFlags { flags with lazy := set } set true fuel rest
      else if c == 0x2D then
        if set then readFlags flags false false fuel rest else return .error rest
      else if c == 0x3A || c == 0x29 then
        if !set && !seen then return .error rest else return .ok (flags, c == 0x3A, rest)
      else return .error rest

/-- A group that starts with a question mark: a name, flags, or both flags and a group. -/
def readGroup (s : State) (text : Bytes) : Except Error (State × Bytes) := do
  let named : Option Nat := match text with
    | 0x28 :: 0x3F :: 0x50 :: 0x3C :: _ :: _ => some 4
    | 0x28 :: 0x3F :: 0x3C :: _ :: _ => some 3
    | _ => none
  match named with
  | some skip =>
    match text.findIdx? (· == 0x3E) with
    | none => do
      requireValid text
      throw ⟨.badGroupName, text⟩
    | some i => do
      let name := (text.take i).drop skip
      requireValid name
      if !isGroupName name then throw ⟨.badGroupName, text.take (i + 1)⟩
      return (s.openGroup true s.flags, text.drop (i + 1))
  | none => do
    let after := text.drop 2
    match ← readFlags s.flags true false (after.length + 1) after with
    | .error rest => throw ⟨.badGroupFlags, consumed text rest⟩
    | .ok (flags, opens, rest) =>
      if opens then return (s.openGroup false flags, rest)
      else return ({ s with flags := flags }, rest)

def pushAll (whole : Bytes) (s : State) : Nat → Bytes → Except Error State
  | 0, _ => .ok s
  | fuel + 1, text =>
    if text.isEmpty then .ok s
    else do
      let (c, rest) ← readPoint text
      pushAll whole (← s.pushPoint whole c) fuel rest

/-- The text up to the end mark of a quotation, and the text behind it. -/
def splitQuotation : Bytes → Bytes × Bytes
  | 0x5C :: 0x45 :: rest => ([], rest)
  | b :: rest => let (inside, after) := splitQuotation rest; (b :: inside, after)
  | [] => ([], [])

def readBackslash (whole : Bytes) (s : State) (text : Bytes) : Except Error (State × Bytes) := do
  match text with
  | 0x5C :: 0x41 :: rest => return (← s.pushLeaf whole (.anchor .textStart), rest)
  | 0x5C :: 0x62 :: rest => return (← s.pushLeaf whole (.anchor .wordEdge), rest)
  | 0x5C :: 0x42 :: rest => return (← s.pushLeaf whole (.anchor .noWordEdge), rest)
  | 0x5C :: 0x43 :: _ => throw ⟨.badEscape, text.take 2⟩
  | 0x5C :: 0x51 :: after =>
    let (inside, rest) := splitQuotation after
    return (← pushAll whole s (inside.length + 1) inside, rest)
  | 0x5C :: 0x7A :: rest => return (← s.pushLeaf whole (.anchor .textEnd), rest)
  | _ =>
    if let some (set, rest) ← readProperty s.flags.folded text then
      return (← s.pushSet whole set.normalize, rest)
    if let some (set, rest) := readShorthand s.flags.folded text then
      return (← s.pushSet whole set.normalize, rest)
    let (c, rest) ← readEscape text
    return (← s.pushPoint whole c, rest)

def notNewline : CharSet := ⟨[(0, 0x09), (0x0B, CharSet.top)]⟩

def readPart (whole : Bytes) (s : State) (text : Bytes) : Except Error (State × Bytes) := do
  -- A repetition may not follow another one directly.
  let quiet := { s with repetition := none }
  match text with
  | 0x28 :: 0x3F :: _ => readGroup quiet text
  | 0x28 :: rest => return (quiet.openGroup true quiet.flags, rest)
  | 0x7C :: rest => return (← quiet.nextBranch whole, rest)
  | 0x29 :: rest => return (← quiet.closeGroup whole, rest)
  | 0x5E :: rest =>
    let anchor := if s.flags.multiline then .lineStart else .textStart
    return (← quiet.pushLeaf whole (.anchor anchor), rest)
  | 0x24 :: rest =>
    let anchor := if s.flags.multiline then .lineEnd else .textEnd
    return (← quiet.pushLeaf whole (.anchor anchor), rest)
  | 0x2E :: rest =>
    return (← quiet.pushSet whole (if s.flags.dotAll then .full else notNewline), rest)
  | 0x5B :: _ =>
    let (set, rest) ← readClass s.flags.folded text
    return (← quiet.pushSet whole set, rest)
  | 0x2A :: rest => s.repeatLast whole 0 none false text rest
  | 0x2B :: rest => s.repeatLast whole 1 none false text rest
  | 0x3F :: rest => s.repeatLast whole 0 (some 1) false text rest
  | 0x7B :: rest =>
    match readCounts text with
    | none => return (← quiet.pushPoint whole 0x7B, rest)
    | some ((least, most), after) =>
      if least > maxCount || most.any (fun m => m > maxCount || least > m) then
        throw ⟨.badCount, consumed text after⟩
      s.repeatLast whole least most true text after
  | 0x5C :: _ => readBackslash whole quiet text
  | _ =>
    let (c, rest) ← readPoint text
    return (← quiet.pushPoint whole c, rest)

/-- Reads the parts of a text from a place that lies so many bytes ahead. -/
def readParts (whole : Bytes) (s : State) : Nat → Bytes → Except Error State
  | _, [] => .ok s
  | skip + 1, _ :: rest => readParts whole s skip rest
  | 0, b :: rest => do
    let (s, left) ← readPart whole s (b :: rest)
    readParts whole s (rest.length - left.length) rest

def parse (text : Bytes) : Except Error Expr := do
  let s ← readParts text .start 0 text
  let (s, body) ← s.endGroup text
  if s.around.isEmpty then return body.toExpr else throw ⟨.unclosedGroup, text⟩

end Retouch.Regexp
