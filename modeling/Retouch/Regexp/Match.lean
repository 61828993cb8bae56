import Retouch.Regexp.Expr
import Retouch.Span
import Retouch.Text.CodePoint

/-! Matching.
A text is read one code point at a time with all the work that is still possible, in order of
preference. Work that has been done at a place is not done there again, and work that is known to
lead to no match is not tried from another start, so the time is bounded by the length of the text
times the size of the expression. -/
namespace Retouch.Regexp

structure Place where
  before : Option Nat
  after : Option Nat
  deriving DecidableEq, Repr

def isWord (c : Nat) : Bool :=
  (0x30 ≤ c && c ≤ 0x39) || (0x41 ≤ c && c ≤ 0x5A) || c == 0x5F || (0x61 ≤ c && c ≤ 0x7A)

namespace Anchor

def holds (p : Place) : Anchor → Bool
  | .textStart => p.before.isNone
  | .textEnd => p.after.isNone
  | .lineStart => p.before.isNone || p.before == some 0x0A
  | .lineEnd => p.after.isNone || p.after == some 0x0A
  | .wordEdge => p.before.any isWord != p.after.any isWord
  | .noWordEdge => p.before.any isWord == p.after.any isWord

end Anchor

/-- Work that is left behind a code point: expressions to be matched one after the other. -/
abbrev Work := List Expr

inductive Goal where
  /-- An expression to be matched. -/
  | expr (e : Expr)
  /-- The end of the first iteration of a repetition. -/
  | firstEnd (body : Expr) (greedy : Bool)
  /-- The end of a later iteration of a repetition. -/
  | laterEnd (body : Expr) (greedy : Bool)
  deriving DecidableEq, Repr

namespace Goal

/-- What a goal leaves to be done once a code point has been read. -/
def settled : Goal → Expr
  | .expr e => e
  | .firstEnd a g => .loop a g
  | .laterEnd a g => .loop a g

end Goal

/-- The number of steps in which an expression comes to its code points. -/
def Expr.weight : Expr → Nat
  | .seq _ a b => a.weight + b.weight + 1
  | .alt a b => a.weight + b.weight + 1
  | .opt a _ => a.weight + 1
  | .plus a _ => a.weight + 2
  | .loop a _ => a.weight + 2
  | _ => 1

/-- The number of steps in which a goal comes to its code points. -/
def Goal.weight : Goal → Nat
  | .expr e => e.weight
  | _ => 1

/-- The number of steps in which goals come to their code points. -/
def stackWeight (w : List Goal) : Nat := w.foldr (fun f n => f.weight + n) 0

structure Reach where
  /-- What has been done at the place. -/
  seen : List (List Goal)
  /-- The work left behind the next code point, the most preferred last. -/
  reading : List Work
  /-- A match ends here. It goes before everything that is less preferred than it. -/
  accepts : Bool
  deriving Repr

namespace Reach

def start : Reach := ⟨[], [], false⟩

/-- Follows work up to the next code point. Nothing is done twice at a place. An iteration that has
read nothing ends its repetition if it is the first one, and leads nowhere new if it is not. -/
def follow (p : Place) (r : Reach) (work : List Goal) : Reach :=
  match work with
  | [] => { r with accepts := true }
  | f :: rest =>
    if r.accepts || r.seen.contains (f :: rest) then r
    else
      let r : Reach := { r with seen := (f :: rest) :: r.seen }
      match f with
      | .firstEnd _ _ => r.follow p rest
      | .laterEnd _ _ => r
      | .expr .empty => r.follow p rest
      | .expr .never => r
      | .expr (.set s) =>
        if p.after.any s.contains then { r with reading := rest.map Goal.settled :: r.reading }
        else r
      | .expr (.anchor a) => if a.holds p then r.follow p rest else r
      | .expr (.seq _ a b) => r.follow p (.expr a :: .expr b :: rest)
      | .expr (.alt a b) => (r.follow p (.expr a :: rest)).follow p (.expr b :: rest)
      | .expr (.opt a true) => (r.follow p (.expr a :: rest)).follow p rest
      | .expr (.opt a false) => (r.follow p rest).follow p (.expr a :: rest)
      | .expr (.plus a g) => r.follow p (.expr a :: .firstEnd a g :: rest)
      | .expr (.loop a true) => (r.follow p (.expr a :: .laterEnd a true :: rest)).follow p rest
      | .expr (.loop a false) =>
        (r.follow p rest).follow p (.expr a :: .laterEnd a false :: rest)
termination_by stackWeight work
decreasing_by
  all_goals simp only [stackWeight, List.foldr, Goal.weight, Expr.weight]
  all_goals omega

/-- Where all the work leads to, in order of preference. -/
def ofWork (p : Place) (work : List Work) : Reach :=
  work.foldl (fun r w => r.follow p (w.map Goal.expr)) start

end Reach

namespace Work

/-- Work that goes on with a repetition; only such work can be met again and again. -/
def isLoop : Work → Bool
  | .loop _ _ :: _ => true
  | _ => false

end Work

structure Attempt where
  /-- The end of the preferred match. -/
  stop : Option Nat
  /-- Behind each code point, repetitions that lead to no match if the attempt failed. -/
  hopeless : List (List Work)
  deriving Repr

/-- Goes on with an attempt, given all possible work at an offset. `found` is the end of a match
that is less preferred, and `hopeless` is known from attempts that failed. -/
def attempt (before : Option Nat) (offset : Nat) (found : Option Nat) (work : List Work)
    (hopeless : List (List Work)) : List CodePoint → Attempt
  | [] => ⟨if (Reach.ofWork ⟨before, none⟩ work).accepts then some offset else found, []⟩
  | c :: rest =>
    let r := Reach.ofWork ⟨before, some c.value⟩ work
    let found := if r.accepts then some offset else found
    let known := hopeless.headD []
    match r.reading.reverse.filter fun w => !(w.isLoop && known.contains w) with
    | [] => ⟨found, hopeless⟩
    | left =>
      let a := attempt (some c.value) (offset + c.width) found left hopeless.tail rest
      ⟨a.stop, (left.filter Work.isLoop ++ known) :: a.hopeless⟩

def Expr.find? (e : Expr) (before : Option Nat) (offset : Nat) (hopeless : List (List Work)) :
    List CodePoint → Option Span
  | [] => (attempt before offset none [[e]] [] []).stop.map fun stop => ⟨offset, stop⟩
  | c :: rest =>
    let a := attempt before offset none [[e]] hopeless (c :: rest)
    match a.stop with
    | some stop => some ⟨offset, stop⟩
    | none => e.find? (some c.value) (offset + c.width) a.hopeless.tail rest

/-- All matches from an offset on that lie behind `resume`. An empty match right behind the previous
one is passed over, and after an empty match the search goes on one code point further. -/
def Expr.findAllFrom (e : Expr) (resume : Nat) (last : Option Nat) (before : Option Nat)
    (offset : Nat) : List CodePoint → List Span
  | [] =>
    match e.find? before offset [] [] with
    | none => []
    | some s => if some s.start = last then [] else [s]
  | c :: rest =>
    if offset < resume then e.findAllFrom resume last (some c.value) (offset + c.width) rest
    else match e.find? before offset [] (c :: rest) with
      | none => []
      | some s =>
        if s.stop = offset then
          let more := e.findAllFrom (offset + c.width) (some s.stop) (some c.value)
            (offset + c.width) rest
          if some s.start = last then more else s :: more
        else s :: e.findAllFrom s.stop (some s.stop) (some c.value) (offset + c.width) rest

/-- All matches in a text, in ascending order and without overlap. -/
def Expr.findAll (e : Expr) (text : Bytes) : List Span :=
  e.findAllFrom 0 none none 0 (CodePoint.decode text)

end Retouch.Regexp
