import Retouch.CharSet

/-! Regular expressions as they are matched.
Groups and counted repetitions have been resolved; what is left are the choices and their order. -/
namespace Retouch.Regexp

inductive Anchor where
  | textStart
  | textEnd
  | lineStart
  | lineEnd
  | wordEdge
  | noWordEdge
  deriving DecidableEq, Repr

/-- Expressions. Where a choice is `greedy` its longer branch is tried first. -/
inductive Expr where
  | empty
  | never
  | set (members : CharSet)
  | anchor (condition : Anchor)
  /-- One after the other. The size tells long rows apart without a look at their parts. -/
  | seq (size : Nat) (first second : Expr)
  | alt (preferred other : Expr)
  | opt (body : Expr) (greedy : Bool)
  /-- One iteration or more. -/
  | plus (body : Expr) (greedy : Bool)
  /-- What may follow an iteration: more of them, or none. -/
  | loop (body : Expr) (greedy : Bool)
  deriving DecidableEq, Repr, Inhabited

namespace Expr

def size : Expr → Nat
  | .seq n _ _ => n
  | .alt a b => a.size + b.size + 1
  | .opt a _ => a.size + 1
  | .plus a _ => a.size + 1
  | .loop a _ => a.size + 1
  | _ => 1

def followedBy (first second : Expr) : Expr := .seq (first.size + second.size + 1) first second

def star (body : Expr) (greedy : Bool) : Expr := .opt (.plus body greedy) greedy

def seqAll : List Expr → Expr
  | [] => .empty
  | [e] => e
  | e :: rest => e.followedBy (seqAll rest)

def altAll : List Expr → Expr
  | [] => .never
  | [e] => e
  | e :: rest => .alt e (altAll rest)

/-- Up to `n` iterations, each of them allowed only after the one before. -/
def upTo (body : Expr) (greedy : Bool) : Nat → Expr
  | 0 => .empty
  | 1 => .opt body greedy
  | n + 1 => .opt (body.followedBy (upTo body greedy n)) greedy

/-- Exactly `n` iterations and then a rest. -/
def times (body rest : Expr) : Nat → Expr
  | 0 => rest
  | n + 1 => body.followedBy (times body rest n)

/-- From `least` to `most` iterations, without a bound if `most` is not given. -/
def repeated (body : Expr) (greedy : Bool) (least : Nat) : Option Nat → Expr
  | none => match least with
    | 0 => star body greedy
    | n + 1 => times body (.plus body greedy) n
  | some most =>
    if most ≤ least then
      match least with
      | 0 => .empty
      | n + 1 => times body body n
    else times body (upTo body greedy (most - least)) least

end Expr

end Retouch.Regexp
