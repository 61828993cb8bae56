import Retouch.Proofs.Rule.Rewriting

/-! Rules in either order.
Two rules are independent if their occurrences never overlap and neither touches the replacement of
the other. Then a hit of one rule is passed over by the other one before and behind its replacement,
and no hit is lost or made. -/
namespace Retouch

theorem starts_iff {P : Bytes → Prop} {text : Bytes} :
    Starts P text ↔ ∃ stop, OccursAt P text 0 stop := by
  constructor
  · rintro ⟨body, after, eq, holds⟩
    exact ⟨body.length, [], body, after, eq, rfl, Nat.zero_add _, holds⟩
  · rintro ⟨stop, occurs⟩
    obtain ⟨body, after, eq, _, holds⟩ := occurs.drop
    exact ⟨body, after, eq, holds⟩

/-- Texts of the two kinds never overlap, whatever content they stand in. -/
def Apart (P Q : Bytes → Prop) : Prop :=
  ∀ content start stop start' stop', OccursAt P content start stop →
    OccursAt Q content start' stop' → stop ≤ start' ∨ stop' ≤ start

section Inside

variable {P Q : Bytes → Prop} {before inside : Bytes}

theorem Apart.symm (apart : Apart P Q) : Apart Q P := by
  intro content start stop start' stop' occurs occurs'
  exact (apart content start' stop' start stop occurs' occurs).symm

theorem Apart.not_inside (apart : Apart P Q) (solid : ¬ Q []) (holds : P (before ++ inside))
    (nonempty : inside ≠ []) (rest : Bytes) : ¬ Starts Q (inside ++ rest) := by
  rintro ⟨body, after, eq, holds'⟩
  have outer : OccursAt P (before ++ (inside ++ rest)) 0 (before.length + inside.length) :=
    ⟨[], before ++ inside, rest, by simp, rfl, by simp, holds⟩
  have inner : OccursAt Q (before ++ (inside ++ rest)) before.length
      (before.length + body.length) := ⟨before, body, after, by rw [eq], rfl, rfl, holds'⟩
  have wide := inner.wide solid
  have pos := List.length_pos_iff.mpr nonempty
  rcases apart _ _ _ _ _ outer inner with left | right <;> omega

theorem Untouched.not_inside {replacement : Bytes} (untouched : Untouched Q replacement)
    (solid : ¬ Q []) (eq : replacement = before ++ inside) (nonempty : inside ≠ []) (rest : Bytes) :
    ¬ Starts Q (inside ++ rest) := by
  rintro ⟨body, after, split, holds⟩
  have occurs : OccursAt Q ([] ++ (replacement ++ rest)) before.length
      (before.length + body.length) :=
    ⟨before, body, after, by rw [eq, ← split]; simp, rfl, rfl, holds⟩
  have wide := occurs.wide solid
  have pos := List.length_pos_iff.mpr nonempty
  have length := congrArg List.length eq
  rw [List.length_append] at length
  rcases untouched [] rest _ _ occurs with left | right
  · rw [List.length_nil] at left
    omega
  · rw [List.length_nil] at right
    omega

/-- Up to the first replacement the result is the text, so what starts in front of it started there
before. -/
theorem Untouched.not_made {replacement text out : Bytes} {n : Nat} {b : UInt8}
    (untouched : Untouched Q replacement) (rewrites : Rewrites P replacement text out n)
    (none : ¬ Starts Q (b :: text)) : ¬ Starts Q (b :: out) := by
  rcases rewrites.start with rfl | ⟨gap, rest, more, rfl, rfl⟩
  · exact none
  · intro starts
    obtain ⟨stop, occurs⟩ := starts_iff.mp starts
    rw [← List.cons_append] at occurs
    rcases untouched _ _ _ _ occurs with left | right
    · apply none
      apply starts_iff.mpr
      exact ⟨stop, (occurs.of_stop_le left).append_right rest⟩
    · rw [List.length_cons] at right
      omega

end Inside

/-- Two passes over a text that come to the same in either order, with the hits that each of them
has on its own. -/
def Crosses (P Q : Bytes → Prop) (first second text : Bytes) : Prop :=
  ∃ out out' final n m, Rewrites P first text out n ∧ Rewrites Q second text out' m ∧
    Rewrites Q second out final m ∧ Rewrites P first out' final n

section Crosses

variable {P Q : Bytes → Prop} {first second : Bytes}

theorem Crosses.symm {text : Bytes} (crosses : Crosses P Q first second text) :
    Crosses Q P second first text := by
  obtain ⟨out, out', final, n, m, alone, alone', behind, behind'⟩ := crosses
  exact ⟨out', out, final, m, n, alone', alone, behind', behind⟩

theorem Crosses.hit {body rest : Bytes} (apart : Apart P Q) (solid : ¬ Q [])
    (untouched : Untouched Q first) (holds : P body) (crosses : Crosses P Q first second rest) :
    Crosses P Q first second (body ++ rest) := by
  obtain ⟨out, out', final, n, m, alone, alone', behind, behind'⟩ := crosses
  refine ⟨first ++ out, body ++ out', first ++ final, n + 1, m, .hit holds alone, ?_, ?_,
    .hit holds behind'⟩
  · apply alone'.skip
    intro before inside eq nonempty
    exact apart.not_inside solid (eq ▸ holds) nonempty rest
  · apply behind.skip
    intro before inside eq nonempty
    exact untouched.not_inside solid eq nonempty out

theorem Crosses.keep {b : UInt8} {rest : Bytes} (untouched : Untouched Q first)
    (untouched' : Untouched P second) (none : ¬ Starts P (b :: rest))
    (none' : ¬ Starts Q (b :: rest)) (crosses : Crosses P Q first second rest) :
    Crosses P Q first second (b :: rest) := by
  obtain ⟨out, out', final, n, m, alone, alone', behind, behind'⟩ := crosses
  refine ⟨b :: out, b :: out', b :: final, n, m, .keep none alone, .keep none' alone', ?_, ?_⟩
  · exact .keep (untouched.not_made alone none') behind
  · exact .keep (untouched'.not_made alone' none) behind'

theorem crosses (apart : Apart P Q) (solid : ¬ P []) (solid' : ¬ Q [])
    (untouched : Untouched Q first) (untouched' : Untouched P second) (text : Bytes) :
    Crosses P Q first second text := by
  have either : ¬ (P [] ∨ Q []) := by
    rintro (holds | holds)
    · exact solid holds
    · exact solid' holds
  -- The text is cut into hits of either kind and bytes where none of either kind starts.
  induction text using starts_induction (P := fun body => P body ∨ Q body) either with
  | nil => exact ⟨[], [], [], 0, 0, .nil, .nil, .nil, .nil⟩
  | hit body rest holds ih =>
    rcases holds with holds | holds
    · exact ih.hit apart solid' untouched holds
    · exact (ih.symm.hit apart.symm solid untouched' holds).symm
  | keep b rest none ih =>
    refine ih.keep untouched untouched' ?_ ?_
    · rintro ⟨body, after, eq, holds⟩
      exact none ⟨body, after, eq, .inl holds⟩
    · rintro ⟨body, after, eq, holds⟩
      exact none ⟨body, after, eq, .inr holds⟩

end Crosses

/-- Independent rules do the same in either order, and each has as many hits as on its own. -/
theorem Rule.Seeks.independent {r s : Rule} {P Q : Bytes → Prop} (first : r.Seeks P)
    (second : s.Seeks Q) (ends : OneEnd P) (ends' : OneEnd Q) (apart : Apart P Q)
    (untouched : Untouched Q r.replacement) (untouched' : Untouched P s.replacement)
    (content : Bytes) :
    (s.apply (r.apply content).1).1 = (r.apply (s.apply content).1).1 ∧
      (s.apply (r.apply content).1).2 = (s.apply content).2 ∧
      (r.apply (s.apply content).1).2 = (r.apply content).2 := by
  obtain ⟨out, out', final, n, m, alone, alone', behind, behind'⟩ :=
    crosses apart first.solid second.solid untouched untouched' content
  simp only [first.apply_eq ends alone, second.apply_eq ends' alone',
    second.apply_eq ends' behind, first.apply_eq ends behind', and_self]

end Retouch
