import Retouch.Diff.Script

/-! Scripts lead from the old sequence to the new one.
A script has two sides: without its insertions it is the old sequence, without its deletions the
new one. Merging and moving edits changes neither side, however the script was found. -/
namespace Retouch.Diff

/-- The codes of a chunk on the side that lacks one sort of edit. -/
def Chunk.without (gone : Edit) (c : Chunk) : List Nat := if c.edit = gone then [] else c.codes

def side (gone : Edit) (chunks : List Chunk) : List Nat := chunks.flatMap (Chunk.without gone)

section Side

variable (gone : Edit)

@[simp] theorem side_nil : side gone [] = [] := rfl

@[simp] theorem side_cons (c : Chunk) (chunks : List Chunk) :
    side gone (c :: chunks) = c.without gone ++ side gone chunks := rfl

@[simp] theorem side_append (xs ys : List Chunk) :
    side gone (xs ++ ys) = side gone xs ++ side gone ys := List.flatMap_append

@[simp] theorem without_nil (edit : Edit) : Chunk.without gone ⟨edit, []⟩ = [] := by
  simp [Chunk.without]

theorem without_append (edit : Edit) (xs ys : List Nat) :
    Chunk.without gone ⟨edit, xs ++ ys⟩ = Chunk.without gone ⟨edit, xs⟩ ++
      Chunk.without gone ⟨edit, ys⟩ := by
  simp only [Chunk.without]
  split <;> simp

end Side

theorem without_keep {gone : Edit} (change : gone ≠ .keep) (codes : List Nat) :
    Chunk.without gone ⟨.keep, codes⟩ = codes := by
  simp [Chunk.without, Ne.symm change]

/-! What two sequences share at their ends. -/

theorem commonStartFrom_eq (n : Nat) (a b : List Nat) :
    commonStartFrom n a b = n + commonStart a b := by
  induction a generalizing n b with
  | nil => simp [commonStart, commonStartFrom]
  | cons x a ih =>
    cases b with
    | nil => simp [commonStart, commonStartFrom]
    | cons y b =>
      simp only [commonStart, commonStartFrom]
      split
      · rw [ih (n + 1) b, ih (0 + 1) b]
        omega
      · simp

theorem commonStart_cons (x y : Nat) (a b : List Nat) :
    commonStart (x :: a) (y :: b) = if x = y then commonStart a b + 1 else 0 := by
  simp only [commonStart, commonStartFrom]
  split
  · rw [commonStartFrom_eq, commonStart]
    omega
  · rfl

theorem take_commonStart (a b : List Nat) :
    a.take (commonStart a b) = b.take (commonStart a b) := by
  induction a generalizing b with
  | nil => simp [commonStart, commonStartFrom]
  | cons x a ih =>
    cases b with
    | nil => simp [commonStart, commonStartFrom]
    | cons y b =>
      rw [commonStart_cons]
      split
      · rename_i same
        simp [same, ih b]
      · simp

theorem commonStart_le (a b : List Nat) :
    commonStart a b ≤ a.length ∧ commonStart a b ≤ b.length := by
  induction a generalizing b with
  | nil => simp [commonStart, commonStartFrom]
  | cons x a ih =>
    cases b with
    | nil => simp [commonStart, commonStartFrom]
    | cons y b =>
      have rest := ih b
      rw [commonStart_cons]
      rw [List.length_cons, List.length_cons]
      split
      · omega
      · exact ⟨Nat.zero_le _, Nat.zero_le _⟩

theorem drop_commonEnd (a b : List Nat) :
    a.drop (a.length - commonEnd a b) = b.drop (b.length - commonEnd a b) := by
  have shared := take_commonStart a.reverse b.reverse
  rw [List.take_reverse, List.take_reverse] at shared
  exact List.reverse_inj.mp shared

/-! Merging edits. -/

/-- The pending edits on the side that lacks one sort of edit. -/
def Pending.without (gone : Edit) (p : Pending) : List Nat :=
  if gone = .insert then p.deleted else p.inserted

/-- Edits that are not counted are not there. -/
structure Pending.Counted (p : Pending) : Prop where
  deleted : p.deletions = 0 → p.deleted = []
  inserted : p.insertions = 0 → p.inserted = []

theorem counted_none : Pending.none.Counted := ⟨fun _ => rfl, fun _ => rfl⟩

theorem Pending.Counted.add {p : Pending} (counted : p.Counted) {c : Chunk} :
    (p.add c).Counted := by
  unfold Pending.add
  cases c.edit with
  | delete => exact ⟨fun zero => by simp at zero, counted.inserted⟩
  | insert => exact ⟨counted.deleted, fun zero => by simp at zero⟩
  | keep => exact counted

theorem without_add {gone : Edit} (change : gone ≠ .keep) (p : Pending) {c : Chunk}
    (edit : c.edit ≠ .keep) : (p.add c).without gone = p.without gone ++ c.without gone := by
  obtain ⟨sort, codes⟩ := c
  cases gone with
  | keep => exact absurd rfl change
  | delete => cases sort <;> simp_all [Pending.add, Pending.without, Chunk.without]
  | insert => cases sort <;> simp_all [Pending.add, Pending.without, Chunk.without]

/-- Finished chunks end with a kept one, which the next kept codes can lengthen. -/
inductive Closed : List Chunk → Prop where
  | nil : Closed []
  | keep (codes : List Nat) (before : List Chunk) : Closed (⟨.keep, codes⟩ :: before)

/-- The finished chunks with more codes at the end of the last one. -/
def lengthen (finished : List Chunk) (codes : List Nat) : List Chunk :=
  match finished with
  | last :: before => ⟨last.edit, last.codes ++ codes⟩ :: before
  | [] => [⟨.keep, codes⟩]

theorem side_lengthen {gone : Edit} (change : gone ≠ .keep) {finished : List Chunk}
    (closed : Closed finished) (codes : List Nat) :
    side gone (lengthen finished codes).reverse = side gone finished.reverse ++ codes := by
  cases closed with
  | nil => simp [lengthen, without_keep change]
  | keep => simp [lengthen, without_keep change]

/-- What pending edits of both sorts share at their ends goes to the kept codes around them. -/
def factored (finished : List Chunk) (p : Pending) (kept : List Nat) : List Chunk :=
  let n := commonStart p.inserted p.deleted
  let inserted := p.inserted.drop n
  let deleted := p.deleted.drop n
  let m := commonEnd inserted deleted
  ⟨.keep, inserted.drop (inserted.length - m) ++ kept⟩
    :: ⟨.insert, inserted.take (inserted.length - m)⟩
    :: ⟨.delete, deleted.take (deleted.length - m)⟩
    :: (if n = 0 then finished else lengthen finished (p.inserted.take n))

theorem flush_eq (finished : List Chunk) (p : Pending) (kept : List Nat) :
    flush finished p kept =
      if p.deletions + p.insertions > 1 then
        if p.deletions ≠ 0 && p.insertions ≠ 0 then factored finished p kept
        else if p.deletions = 0 then ⟨.keep, kept⟩ :: ⟨.insert, p.inserted⟩ :: finished
        else ⟨.keep, kept⟩ :: ⟨.delete, p.deleted⟩ :: finished
      else if p.deletions = 1 then ⟨.keep, kept⟩ :: ⟨.delete, p.deleted⟩ :: finished
      else if p.insertions = 1 then ⟨.keep, kept⟩ :: ⟨.insert, p.inserted⟩ :: finished
      else lengthen finished kept := by
  cases finished <;> rfl

theorem side_factored {gone : Edit} (change : gone ≠ .keep) {finished : List Chunk}
    (closed : Closed finished) (p : Pending) (kept : List Nat) :
    side gone (factored finished p kept).reverse =
      side gone finished.reverse ++ (p.without gone ++ kept) := by
  unfold factored
  dsimp only
  have start := take_commonStart p.inserted p.deleted
  generalize commonStart p.inserted p.deleted = n at start ⊢
  have finish := drop_commonEnd (p.inserted.drop n) (p.deleted.drop n)
  generalize commonEnd (p.inserted.drop n) (p.deleted.drop n) = m at finish ⊢
  have lengthened : side gone (if n = 0 then finished
      else lengthen finished (p.inserted.take n)).reverse =
      side gone finished.reverse ++ p.inserted.take n := by
    split
    · rename_i zero
      simp [zero]
    · exact side_lengthen change closed _
  -- On each side the shared codes stand around its own edit.
  have whole (edits : List Nat) (front : p.inserted.take n = edits.take n)
      (back : (p.inserted.drop n).drop ((p.inserted.drop n).length - m) =
        (edits.drop n).drop ((edits.drop n).length - m)) :
      p.inserted.take n ++ ((edits.drop n).take ((edits.drop n).length - m) ++
        ((p.inserted.drop n).drop ((p.inserted.drop n).length - m) ++ kept)) = edits ++ kept := by
    rw [front, back, ← List.append_assoc (List.take _ (edits.drop n)), List.take_append_drop,
      ← List.append_assoc, List.take_append_drop]
  simp only [List.reverse_cons, side_append, lengthened, List.append_assoc]
  cases gone with
  | keep => exact absurd rfl change
  | insert =>
    have deletions := whole p.deleted start finish
    simpa only [Chunk.without, side, List.flatMap_cons, List.flatMap_nil, Pending.without,
      reduceCtorEq, if_true, if_false, List.append_nil, List.nil_append] using
      congrArg (side .insert finished.reverse ++ ·) deletions
  | delete =>
    have insertions := whole p.inserted rfl rfl
    simpa only [Chunk.without, side, List.flatMap_cons, List.flatMap_nil, Pending.without,
      reduceCtorEq, if_true, if_false, List.append_nil, List.nil_append] using
      congrArg (side .delete finished.reverse ++ ·) insertions

theorem side_flush {gone : Edit} (change : gone ≠ .keep) {finished : List Chunk}
    (closed : Closed finished) {p : Pending} (counted : p.Counted) (kept : List Nat) :
    side gone (flush finished p kept).reverse =
      side gone finished.reverse ++ (p.without gone ++ kept) := by
  -- One sort of edit alone is put behind the finished chunks as it is.
  have deletions (none : p.insertions = 0) :
      side gone (⟨.keep, kept⟩ :: ⟨.delete, p.deleted⟩ :: finished).reverse =
        side gone finished.reverse ++ (p.without gone ++ kept) := by
    have inserted := counted.inserted none
    cases gone with
    | keep => exact absurd rfl change
    | insert => simp [Chunk.without, Pending.without]
    | delete => simp [Chunk.without, Pending.without, inserted]
  have insertions (none : p.deletions = 0) :
      side gone (⟨.keep, kept⟩ :: ⟨.insert, p.inserted⟩ :: finished).reverse =
        side gone finished.reverse ++ (p.without gone ++ kept) := by
    have deleted := counted.deleted none
    cases gone with
    | keep => exact absurd rfl change
    | insert => simp [Chunk.without, Pending.without, deleted]
    | delete => simp [Chunk.without, Pending.without]
  rw [flush_eq]
  split
  · split
    · exact side_factored change closed p kept
    · rename_i single
      split
      · rename_i none
        exact insertions none
      · rename_i some
        exact deletions (by simpa [some] using single)
  · split
    · exact deletions (by omega)
    · split
      · exact insertions (by omega)
      · have none : p.without gone = [] := by
          have deleted := counted.deleted (by omega)
          have inserted := counted.inserted (by omega)
          simp [Pending.without, deleted, inserted]
        rw [none]
        exact side_lengthen change closed kept

theorem closed_lengthen {finished : List Chunk} (closed : Closed finished) (codes : List Nat) :
    Closed (lengthen finished codes) := by
  cases closed with
  | nil => exact .keep _ _
  | keep => exact .keep _ _

theorem closed_flush {finished : List Chunk} (closed : Closed finished) (p : Pending)
    (kept : List Nat) : Closed (flush finished p kept) := by
  rw [flush_eq]
  split
  · split
    · exact .keep _ _
    · split <;> exact .keep _ _
  · split
    · exact .keep _ _
    · split
      · exact .keep _ _
      · exact closed_lengthen closed kept

theorem side_mergeEdits {gone : Edit} (change : gone ≠ .keep) {finished : List Chunk}
    (closed : Closed finished) {p : Pending} (counted : p.Counted) (chunks : List Chunk) :
    side gone (mergeEdits finished p chunks) =
      side gone finished.reverse ++ (p.without gone ++ side gone chunks) := by
  induction chunks generalizing finished p with
  | nil =>
    have flushed := side_flush change closed counted []
    rw [mergeEdits]
    split
    · rename_i edit before eq
      rw [eq] at flushed
      simpa using flushed
    · simpa using flushed
  | cons c rest ih =>
    obtain ⟨edit, codes⟩ := c
    rw [mergeEdits]
    split
    · rename_i keep
      dsimp only at keep
      subst keep
      rw [ih (closed_flush closed p codes) counted_none, side_flush change closed counted]
      simp [Pending.without, Pending.none, without_keep change]
    · rename_i other
      rw [ih closed counted.add, without_add change p other]
      simp

/-! Moving edits. -/

theorem endsIn?_some {whole tail body : List Nat} (ends : endsIn? whole tail = some body) :
    whole = body ++ tail := by
  unfold endsIn? at ends
  split at ends
  · rename_i isSuffix
    obtain ⟨front, rfl⟩ := List.isSuffixOf_iff_suffix.mp isSuffix
    cases ends
    simp
  · cases ends

theorem startsWith?_some {whole head body : List Nat}
    (starts : startsWith? whole head = some body) :
    whole = head ++ body := by
  unfold startsWith? at starts
  split at starts
  · rename_i isPrefix
    obtain ⟨back, rfl⟩ := List.isPrefixOf_iff_prefix.mp isPrefix
    cases starts
    simp
  · cases starts

theorem side_shiftEdits {gone : Edit} (change : gone ≠ .keep) (done : List Chunk) (moved : Bool)
    (previous : Chunk) (rest : List Chunk) :
    side gone (shiftEdits done moved previous rest).1 =
      side gone (done.reverse ++ previous :: rest) := by
  fun_induction shiftEdits done moved previous rest with
  | case1 done moved previous current next more keeps body ends ih =>
    obtain ⟨edit, codes⟩ := current
    obtain ⟨_, before⟩ := previous
    obtain ⟨_, after⟩ := next
    simp only [Bool.and_eq_true, decide_eq_true_eq] at keeps
    obtain ⟨rfl, rfl⟩ := keeps
    have eq := endsIn?_some ends
    dsimp only at eq
    subst eq
    rw [ih]
    simp only [List.reverse_cons, List.append_assoc, side_append, side_cons, without_append,
      without_keep change]
    simp only [Chunk.without]
    split <;> simp
  | case2 done moved previous current next more keeps _ body starts ih =>
    obtain ⟨edit, codes⟩ := current
    obtain ⟨_, before⟩ := previous
    obtain ⟨_, after⟩ := next
    simp only [Bool.and_eq_true, decide_eq_true_eq] at keeps
    obtain ⟨rfl, rfl⟩ := keeps
    have eq := startsWith?_some starts
    dsimp only at eq
    subst eq
    rw [ih]
    simp only [List.reverse_cons, List.append_assoc, side_append, side_cons, without_append,
      without_keep change]
    simp only [Chunk.without]
    split <;> simp
  | case3 done moved previous current next more keeps _ _ ih => simpa using ih
  | case4 done moved previous current next more keeps ih => simpa using ih
  | case5 => rfl

theorem side_tidyWithin {gone : Edit} (change : gone ≠ .keep) (rounds : Nat)
    (chunks : List Chunk) : side gone (tidyWithin rounds chunks) = side gone chunks := by
  induction rounds generalizing chunks with
  | zero => rfl
  | succ rounds ih =>
    have merged := side_mergeEdits change .nil counted_none chunks
    rw [tidyWithin]
    cases eq : mergeEdits [] .none chunks with
    | nil =>
      rw [eq] at merged
      simpa [Pending.without, Pending.none] using merged
    | cons first rest =>
      rw [eq] at merged
      have shifted := side_shiftEdits change [] false first rest
      have same : side gone (shiftEdits [] false first rest).1 = side gone chunks := by
        rw [shifted]
        simpa [Pending.without, Pending.none] using merged
      dsimp only
      split
      · rw [ih, same]
      · exact same

/-! The whole comparison. -/

/-- The script leads from one sequence to the other; codes are seen as they show. -/
structure Turns (a b : List Nat) (chunks : List Chunk) : Prop where
  old : side .insert chunks = a.map shownCode
  new : side .delete chunks = b.map shownCode

theorem Turns.append {a b a' b' : List Nat} {xs ys : List Chunk} (first : Turns a b xs)
    (second : Turns a' b' ys) : Turns (a ++ a') (b ++ b') (xs ++ ys) :=
  ⟨by simp [first.old, second.old], by simp [first.new, second.new]⟩

theorem turns_nil : Turns [] [] [] := ⟨rfl, rfl⟩

theorem turns_keep (a : List Nat) : Turns a a [.make .keep a] := by
  constructor <;> simp [Chunk.make, Chunk.without]

theorem turns_delete (a : List Nat) : Turns a [] [.make .delete a] := by
  constructor <;> simp [Chunk.make, Chunk.without]

theorem turns_insert (b : List Nat) : Turns [] b [.make .insert b] := by
  constructor <;> simp [Chunk.make, Chunk.without]

theorem turns_replace (a b : List Nat) : Turns a b [.make .delete a, .make .insert b] := by
  simpa using (turns_delete a).append (turns_insert b)

theorem Turns.tidy {a b : List Nat} {chunks : List Chunk} (turns : Turns a b chunks) :
    Turns a b (tidy chunks) := by
  unfold Diff.tidy
  constructor
  · rw [side_tidyWithin (by decide), turns.old]
  · rw [side_tidyWithin (by decide), turns.new]

theorem indexFrom_some {part whole : List Nat} {n i : Nat}
    (found : indexFrom part n whole = some i) :
    ∃ k after, i = n + k ∧ whole.drop k = part ++ after := by
  induction whole generalizing n with
  | nil =>
    unfold indexFrom at found
    split at found
    · rename_i none
      cases found
      exact ⟨0, [], rfl, by simp [none]⟩
    · cases found
  | cons x rest ih =>
    unfold indexFrom at found
    split at found
    · rename_i starts
      obtain ⟨after, eq⟩ := List.isPrefixOf_iff_prefix.mp starts
      cases found
      exact ⟨0, after, rfl, eq.symm⟩
    · obtain ⟨k, after, rfl, eq⟩ := ih found
      exact ⟨k + 1, after, by omega, eq⟩

theorem indexOf?_some {part whole : List Nat} {i : Nat} (found : indexOf? part whole = some i) :
    whole.take i ++ (part ++ whole.drop (i + part.length)) = whole := by
  obtain ⟨k, after, rfl, eq⟩ := indexFrom_some found
  have rest : whole.drop (0 + k + part.length) = after := by
    rw [← List.drop_drop, Nat.zero_add, eq, List.drop_left]
  rw [rest, ← eq, Nat.zero_add, List.take_append_drop]

def Shared (long short : List Nat) (c : Common) : Prop :=
  (long.drop c.long).take c.length = (short.drop c.short).take c.length

theorem positionsFrom_lt (part : List Nat) (n : Nat) (whole : List Nat) :
    ∀ j ∈ positionsFrom part n whole, j < n + whole.length := by
  induction whole generalizing n with
  | nil => simp [positionsFrom]
  | cons x rest ih =>
    intro j member
    have more := ih (n + 1) j
    unfold positionsFrom at member
    rw [List.length_cons]
    split at member
    · rcases List.mem_cons.mp member with rfl | member
      · omega
      · have := more member
        omega
    · have := more member
      omega

theorem take_reverse_take {l : List Nat} {s n : Nat} (within : s ≤ l.length) (le : n ≤ s) :
    (l.take s).reverse.take n = ((l.drop (s - n)).take n).reverse := by
  have length : (l.take s).length - n = s - n := by
    rw [List.length_take]
    omega
  rw [List.take_reverse, length, List.drop_take]
  congr 2
  omega

/-- A stretch grows from a place to both directions as long as the sequences agree. -/
theorem shared_around {long short : List Nat} {start j : Nat} (within : start ≤ long.length)
    (inside : j ≤ short.length) :
    Shared long short
      ⟨start - commonStart (long.take start).reverse (short.take j).reverse,
        j - commonStart (long.take start).reverse (short.take j).reverse,
        commonStart (long.drop start) (short.drop j) +
          commonStart (long.take start).reverse (short.take j).reverse⟩ := by
  have after := take_commonStart (long.drop start) (short.drop j)
  have before := take_commonStart (long.take start).reverse (short.take j).reverse
  have limits := commonStart_le (long.take start).reverse (short.take j).reverse
  rw [List.length_reverse, List.length_reverse, List.length_take, List.length_take] at limits
  generalize commonStart (long.take start).reverse (short.take j).reverse = m at before limits ⊢
  generalize commonStart (long.drop start) (short.drop j) = n at after ⊢
  rw [take_reverse_take within (by omega), take_reverse_take inside (by omega),
    List.reverse_inj] at before
  have join (l : List Nat) {s : Nat} (le : m ≤ s) :
      (l.drop (s - m)).take (n + m) = (l.drop (s - m)).take m ++ (l.drop s).take n := by
    rw [Nat.add_comm, List.take_add, List.drop_drop, Nat.sub_add_cancel le]
  unfold Shared
  rw [join long (by omega), join short (by omega), before, after]

theorem stretchAt?_shared {long short : List Nat} {start : Nat} (within : start ≤ long.length)
    {c : Common} (found : stretchAt? long short start = some c) : Shared long short c := by
  unfold stretchAt? at found
  dsimp only at found
  split at found
  · cases found
  · cases found
    -- The best stretch so far is common at every position that is tried.
    have inside : ∀ j ∈ positionsFrom ((long.drop start).take (long.length / 4)) 0 short,
        j ≤ short.length := by
      intro j member
      have := positionsFrom_lt _ _ _ j member
      omega
    generalize positionsFrom ((long.drop start).take (long.length / 4)) 0 short = places at inside ⊢
    have initial : Shared long short ⟨0, 0, 0⟩ := by simp [Shared]
    generalize (⟨0, 0, 0⟩ : Common) = best at initial ⊢
    induction places generalizing best with
    | nil => exact initial
    | cons j places ih =>
      rw [List.foldl_cons]
      apply ih (fun k member => inside k (List.mem_cons_of_mem _ member))
      split
      · exact shared_around within (inside j List.mem_cons_self)
      · exact initial

theorem longStretch?_shared {long short : List Nat} {c : Common}
    (found : longStretch? long short = some c) : Shared long short c := by
  unfold longStretch? at found
  dsimp only at found
  split at found
  · cases found
  · rename_i large
    simp only [Bool.or_eq_true, decide_eq_true_eq, not_or, Nat.not_lt] at large
    have quarter : (long.length + 3) / 4 ≤ long.length := by omega
    have half : (long.length + 1) / 2 ≤ long.length := by omega
    split at found
    · cases found
    · rename_i first _
      cases found
      exact stretchAt?_shared quarter first
    · rename_i _ second
      cases found
      exact stretchAt?_shared half second
    · rename_i first second
      split at found
      · cases found
        exact stretchAt?_shared quarter first
      · cases found
        exact stretchAt?_shared half second

theorem Turns.of_stretch {a b : List Nat} {i j n : Nat} {xs ys : List Chunk}
    (shared : (a.drop i).take n = (b.drop j).take n) (first : Turns (a.take i) (b.take j) xs)
    (second : Turns (a.drop (i + n)) (b.drop (j + n)) ys) :
    Turns a b (xs ++ .make .keep ((a.drop i).take n) :: ys) := by
  have whole := first.append ((turns_keep ((a.drop i).take n)).append second)
  have left : a.take i ++ ((a.drop i).take n ++ a.drop (i + n)) = a := by
    rw [← List.drop_drop, List.take_append_drop, List.take_append_drop]
  have right : b.take j ++ ((a.drop i).take n ++ b.drop (j + n)) = b := by
    rw [shared, ← List.drop_drop, List.take_append_drop, List.take_append_drop]
  rw [left, right] at whole
  simpa using whole

theorem compareMiddle_turns (next : List Nat → List Nat → List Chunk)
    (turns : ∀ a b, Turns a b (next a b)) (a b : List Nat) :
    Turns a b (compareMiddle next a b) := by
  unfold compareMiddle
  split
  · rename_i none
    rw [none]
    exact turns_insert b
  split
  · rename_i none
    rw [none]
    exact turns_delete a
  dsimp only
  cases found : indexOf? (if a.length > b.length then b else a)
    (if a.length > b.length then a else b) with
  | some i =>
    have whole := indexOf?_some found
    dsimp only
    by_cases shrinks : a.length > b.length
    · simp only [if_pos shrinks] at whole ⊢
      have parts := (turns_delete (a.take i)).append
        ((turns_keep b).append (turns_delete (a.drop (i + b.length))))
      rw [whole] at parts
      simpa using parts
    · simp only [if_neg shrinks] at whole ⊢
      have parts := (turns_insert (b.take i)).append
        ((turns_keep a).append (turns_insert (b.drop (i + a.length))))
      rw [whole] at parts
      simpa using parts
  | none =>
    dsimp only
    by_cases single : (if a.length > b.length then b else a).length = 1
    · rw [if_pos single]
      exact turns_replace a b
    rw [if_neg single]
    cases stretch : longStretch? (if a.length > b.length then a else b)
      (if a.length > b.length then b else a) with
    | some c =>
      have shared := longStretch?_shared stretch
      dsimp only
      by_cases shrinks : a.length > b.length
      · simp only [if_pos shrinks] at shared ⊢
        exact .of_stretch shared (turns _ _) (turns _ _)
      · simp only [if_neg shrinks] at shared ⊢
        exact .of_stretch shared.symm (turns _ _) (turns _ _)
    | none =>
      dsimp only
      cases middle? a b with
      | none => exact turns_replace a b
      | some place =>
        have parts := (turns (a.take place.1) (b.take place.2)).append
          (turns (a.drop place.1) (b.drop place.2))
        rwa [List.take_append_drop, List.take_append_drop] at parts

/-- What the sequences share at their ends is kept around the script of their middles. -/
theorem Turns.around {a b : List Nat} {chunks : List Chunk} {n m : Nat}
    (start : a.take n = b.take n)
    (finish : (a.drop n).drop ((a.drop n).length - m) = (b.drop n).drop ((b.drop n).length - m))
    (middle : Turns ((a.drop n).take ((a.drop n).length - m))
      ((b.drop n).take ((b.drop n).length - m)) chunks) :
    Turns a b
      (let chunks := if n = 0 then chunks else .make .keep (a.take n) :: chunks
      if m = 0 then chunks
      else chunks ++ [.make .keep ((a.drop n).drop ((a.drop n).length - m))]) := by
  have front : Turns (a.take n ++ (a.drop n).take ((a.drop n).length - m))
      (b.take n ++ (b.drop n).take ((b.drop n).length - m))
      (if n = 0 then chunks else .make .keep (a.take n) :: chunks) := by
    split
    · rename_i zero
      subst zero
      exact middle
    · rw [← start]
      exact (turns_keep (a.take n)).append middle
  have ends (l : List Nat) : l.take n ++ (l.drop n).take ((l.drop n).length - m) ++
      (l.drop n).drop ((l.drop n).length - m) = l := by
    rw [List.append_assoc, List.take_append_drop, List.take_append_drop]
  dsimp only
  split
  · rename_i zero
    subst zero
    simpa only [Nat.sub_zero, List.take_length, List.take_append_drop] using front
  · have back := turns_keep ((a.drop n).drop ((a.drop n).length - m))
    have whole := front.append back
    rw [ends a] at whole
    rwa [finish, ends b, ← finish] at whole

theorem compareWithin_turns (fuel : Nat) (a b : List Nat) :
    Turns a b (compareWithin fuel a b) := by
  induction fuel generalizing a b with
  | zero => exact turns_replace a b
  | succ fuel ih =>
    unfold compareWithin
    split
    · rename_i same
      subst same
      split
      · rename_i none
        rw [none]
        exact turns_nil
      · exact turns_keep a
    · have middle := compareMiddle_turns (compareWithin fuel) ih
      exact (Turns.around (take_commonStart a b) (drop_commonEnd _ _) (middle _ _)).tidy

theorem compare_turns (a b : List Nat) : Turns a b (compare a b) :=
  compareWithin_turns _ a b

end Retouch.Diff
