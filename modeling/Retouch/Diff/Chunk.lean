/-! Edit scripts.
A script is a list of chunks. What is kept or deleted makes up the old text, what is kept or
inserted makes up the new one. -/
namespace Retouch.Diff

inductive Edit where
  | delete
  | insert
  | keep
  deriving DecidableEq, Repr

structure Chunk where
  edit : Edit
  codes : List Nat
  deriving DecidableEq, Repr

/-- A code above the last code point shows as U+FFFD. -/
def shownCode (c : Nat) : Nat := if c > 0x10FFFF then 0xFFFD else c

namespace Chunk

def make (edit : Edit) (codes : List Nat) : Chunk := ⟨edit, codes.map shownCode⟩

end Chunk

/-- The length of the longest common start of two lists, on top of what has been counted. -/
def commonStartFrom (n : Nat) : List Nat → List Nat → Nat
  | a :: as, b :: bs => if a = b then commonStartFrom (n + 1) as bs else n
  | _, _ => n

def commonStart (a b : List Nat) : Nat := commonStartFrom 0 a b

def commonEnd (a b : List Nat) : Nat := commonStart a.reverse b.reverse

structure Pending where
  deletions : Nat
  insertions : Nat
  deleted : List Nat
  inserted : List Nat

namespace Pending

def none : Pending := ⟨0, 0, [], []⟩

def add (p : Pending) (c : Chunk) : Pending :=
  match c.edit with
  | .delete => { p with deletions := p.deletions + 1, deleted := p.deleted ++ c.codes }
  | .insert => { p with insertions := p.insertions + 1, inserted := p.inserted ++ c.codes }
  | .keep => p

end Pending

/-- Puts pending edits and the kept chunk behind them on the finished chunks, the last one first.
Edits of one sort become one chunk, deletions stand before insertions, and what both share at
their ends is kept. -/
def flush (finished : List Chunk) (p : Pending) (kept : List Nat) : List Chunk :=
  if p.deletions + p.insertions > 1 then
    if p.deletions ≠ 0 && p.insertions ≠ 0 then
      let n := commonStart p.inserted p.deleted
      let finished := if n = 0 then finished else
        match finished with
        | last :: before => ⟨last.edit, last.codes ++ p.inserted.take n⟩ :: before
        | [] => [⟨.keep, p.inserted.take n⟩]
      let inserted := p.inserted.drop n
      let deleted := p.deleted.drop n
      let m := commonEnd inserted deleted
      let kept := inserted.drop (inserted.length - m) ++ kept
      ⟨.keep, kept⟩ :: ⟨.insert, inserted.take (inserted.length - m)⟩
        :: ⟨.delete, deleted.take (deleted.length - m)⟩ :: finished
    else if p.deletions = 0 then ⟨.keep, kept⟩ :: ⟨.insert, p.inserted⟩ :: finished
    else ⟨.keep, kept⟩ :: ⟨.delete, p.deleted⟩ :: finished
  else if p.deletions = 1 then ⟨.keep, kept⟩ :: ⟨.delete, p.deleted⟩ :: finished
  else if p.insertions = 1 then ⟨.keep, kept⟩ :: ⟨.insert, p.inserted⟩ :: finished
  else match finished with
    | last :: before => ⟨last.edit, last.codes ++ kept⟩ :: before
    | [] => [⟨.keep, kept⟩]

def mergeEdits (finished : List Chunk) (p : Pending) : List Chunk → List Chunk
  | [] =>
    match flush finished p [] with
    | ⟨_, []⟩ :: before => before.reverse
    | all => all.reverse
  | c :: rest =>
    match c.edit with
    | .keep => mergeEdits (flush finished p c.codes) .none rest
    | _ => mergeEdits finished (p.add c) rest

def endsIn? (whole tail : List Nat) : Option (List Nat) :=
  if tail.isSuffixOf whole then some (whole.take (whole.length - tail.length)) else none

def startsWith? (whole head : List Nat) : Option (List Nat) :=
  if head.isPrefixOf whole then some (whole.drop head.length) else none

/-- Moves an edit between two kept chunks sideways where that saves one of them. Gives the chunks,
the first one after those done, and whether any edit was moved. -/
def shiftEdits (done : List Chunk) (moved : Bool) (previous : Chunk) :
    List Chunk → List Chunk × Bool
  | current :: next :: more =>
    if previous.edit = .keep && next.edit = .keep then
      match endsIn? current.codes previous.codes with
      | some body =>
        shiftEdits (⟨current.edit, previous.codes ++ body⟩ :: done) true
          ⟨next.edit, previous.codes ++ next.codes⟩ more
      | none =>
        match startsWith? current.codes next.codes with
        | some body =>
          shiftEdits (⟨previous.edit, previous.codes ++ next.codes⟩ :: done) true
            ⟨current.edit, body ++ next.codes⟩ more
        | none => shiftEdits (previous :: done) moved current (next :: more)
    else shiftEdits (previous :: done) moved current (next :: more)
  | rest => (done.reverse ++ previous :: rest, moved)

/-- Merges and moves edits until nothing moves any more, at most as often as given. -/
def tidyWithin : Nat → List Chunk → List Chunk
  | 0, chunks => chunks
  | rounds + 1, chunks =>
    match mergeEdits [] .none chunks with
    | [] => []
    | first :: rest =>
      let (chunks, moved) := shiftEdits [] false first rest
      if moved then tidyWithin rounds chunks else chunks

/-- The script with its edits merged and moved; every round that moves an edit saves a chunk. -/
def tidy (chunks : List Chunk) : List Chunk :=
  tidyWithin (chunks.length + chunks.foldr (fun c n => c.codes.length + n) 0 + 1) chunks

end Retouch.Diff
