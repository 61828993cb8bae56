import Retouch.Proofs.Scan
import Retouch.Rule

/-! Replaced spans.
What a replacement leaves of a text are the gaps between the spans. If a text of some kind stands in
no gap and never touches the replacement, it does not come up in the result. -/
namespace Retouch

theorem splice_append (replacement : Bytes) (offset : Nat) (lead rest : Bytes) {spans : List Span}
    (behind : ∀ s ∈ spans, offset + lead.length ≤ s.start ∧ s.start ≤ s.stop) :
    splice replacement offset (lead ++ rest) spans =
      lead ++ splice replacement (offset + lead.length) rest spans := by
  cases spans with
  | nil => rfl
  | cons s more =>
    obtain ⟨first, last⟩ := behind s List.mem_cons_self
    have start : s.start - offset = lead.length + (s.start - (offset + lead.length)) := by omega
    have stop : s.stop - offset = lead.length + (s.stop - (offset + lead.length)) := by omega
    rw [splice, splice, start, stop, List.take_length_add_append, List.drop_length_add_append,
      List.append_assoc]

/-- No text of the given kind stands in a gap between the spans. -/
inductive GapFree (P : Bytes → Prop) (content : Bytes) : Nat → List Span → Prop where
  | done {pos : Nat} : (∀ start stop, pos ≤ start → ¬ OccursAt P content start stop) →
      GapFree P content pos []
  | next {pos : Nat} {s : Span} {spans : List Span} : pos ≤ s.start → s.start ≤ s.stop →
      s.stop ≤ content.length →
      (∀ start stop, pos ≤ start → stop ≤ s.start → ¬ OccursAt P content start stop) →
      GapFree P content s.stop spans → GapFree P content pos (s :: spans)

section

variable {P Q : Bytes → Prop} {content : Bytes} {pos : Nat} {spans : List Span}

theorem Scanned.gapFree (wide : ∀ start stop, OccursAt P content start stop → start < stop)
    (scanned : Scanned P content pos spans) : GapFree P content pos spans := by
  induction scanned with
  | done none => exact .done none
  | next ahead occurs first _ ih =>
    refine .next ahead occurs.bounds.1 occurs.bounds.2 (fun start stop from_ within inside => ?_) ih
    have forward := wide _ _ inside
    dsimp only at within
    exact first start stop from_ (by omega) inside

theorem Scanned.gapFree_of_free (free : ∀ start stop, ¬ OccursAt Q content start stop)
    (scanned : Scanned P content pos spans) : GapFree Q content pos spans := by
  induction scanned with
  | done => exact .done fun start stop _ => free start stop
  | next ahead occurs _ _ ih =>
    exact .next ahead occurs.bounds.1 occurs.bounds.2 (fun start stop _ _ => free start stop) ih

end

/-- Next to any texts, no text of the given kind overlaps the replacement. -/
def Untouched (P : Bytes → Prop) (replacement : Bytes) : Prop :=
  ∀ x y start stop, OccursAt P (x ++ (replacement ++ y)) start stop →
    stop ≤ x.length ∨ x.length + replacement.length ≤ start

/-- What stands in no gap and touches no replacement does not come up in the result. -/
theorem splice_free {P : Bytes → Prop} {replacement : Bytes} (untouched : Untouched P replacement)
    {before rest : Bytes} {spans : List Span}
    (free : GapFree P (before ++ rest) before.length spans) (x : Bytes) (start stop : Nat)
    (behind : x.length ≤ start) :
    ¬ OccursAt P (x ++ splice replacement before.length rest spans) start stop := by
  induction spans generalizing before rest x with
  | nil =>
    cases free with
    | done none =>
      intro occurs
      exact none _ _ (Nat.le_add_right _ _) ((occurs.of_le_start behind).append_left before)
  | cons s spans ih =>
    cases free with
    | next ahead forward inside none more =>
      intro occurs
      obtain ⟨gap, taken⟩ : ∃ gap, rest.take (s.start - before.length) = gap := ⟨_, rfl⟩
      have whole : gap ++ rest.drop (s.start - before.length) = rest := by
        rw [← taken, List.take_append_drop]
      have length : gap.length ≤ s.start - before.length := by
        rw [← taken]
        exact List.length_take_le _ _
      rw [splice, taken, ← List.append_assoc] at occurs
      rcases untouched _ _ _ _ occurs with left | right
      · -- In front of the replacement it would stand in the gap.
        have inside := (occurs.of_stop_le left).of_le_start behind
        rw [List.length_append] at left
        refine none (before.length + (start - x.length)) (before.length + (stop - x.length))
          (Nat.le_add_right _ _) (by omega) ?_
        have placed :=
          (inside.append_left before).append_right (rest.drop (s.start - before.length))
        rwa [List.append_assoc, whole] at placed
      · -- Behind the replacement it would stand in the rest.
        have passed : (before ++ rest.take (s.stop - before.length)).length = s.stop := by
          rw [List.length_append] at inside
          rw [List.length_append, List.length_take]
          omega
        have same : before ++ rest.take (s.stop - before.length) ++
            rest.drop (s.stop - before.length) = before ++ rest := by
          rw [List.append_assoc, List.take_append_drop]
        rw [← passed, ← same] at more
        refine ih more (x ++ gap ++ replacement) (by rwa [List.length_append]) ?_
        rwa [passed, List.append_assoc (x ++ gap)]

end Retouch
