import Retouch.Proofs.Files.Workspace
import Retouch.Proofs.Regexp.FindAll

/-! Where patterns of all kinds match.
Every pattern that was accepted finds ordered spans in every text, so a rule cuts the text at them
and replaces what they hold. -/
namespace Retouch

namespace Pattern

/-- The occurrences of a text that is not empty lie one behind the other. -/
theorem occurrencesFrom_ordered {word : Bytes} (nonempty : word ≠ []) (resume offset : Nat)
    (content : Bytes) :
    Ordered resume (offset + content.length) (occurrencesFrom word resume offset content) ∧
      ∀ s ∈ occurrencesFrom word resume offset content, s.start < s.stop := by
  have wide : 0 < word.length := List.length_pos_iff.mpr nonempty
  induction content generalizing resume offset with
  | nil => exact ⟨.nil, by simp [occurrencesFrom]⟩
  | cons b rest ih =>
    rw [occurrencesFrom, List.length_cons]
    split
    · rename_i hit
      rw [Bool.and_eq_true, decide_eq_true_eq, List.isPrefixOf_iff_prefix] at hit
      have fits := hit.2.length_le
      rw [List.length_cons] at fits
      obtain ⟨ordered, forward⟩ := ih (offset + word.length) (offset + 1)
      rw [Nat.add_assoc, Nat.add_comm 1] at ordered
      refine ⟨.cons ⟨hit.1, by dsimp only; omega, by dsimp only; omega⟩ ordered fun t member => ?_,
        fun t member => ?_⟩
      · have bounds := ordered.bounds t member
        have solid := forward t member
        exact ⟨bounds.1, by dsimp only at bounds ⊢; omega, fun both => by omega⟩
      · rcases List.mem_cons.mp member with rfl | member
        · dsimp only
          omega
        · exact forward t member
    · obtain ⟨ordered, forward⟩ := ih resume (offset + 1)
      rw [Nat.add_assoc, Nat.add_comm 1] at ordered
      exact ⟨ordered, forward⟩

theorem findAll_ordered {p : Pattern} (solid : ∀ t, p = .literal t → t ≠ []) (content : Bytes) :
    Ordered 0 content.length (p.findAll content) := by
  cases p with
  | template _ _ e => exact Regexp.findAll_ordered e content
  | expression _ e => exact Regexp.findAll_ordered e content
  | literal t =>
    have ordered := (occurrencesFrom_ordered (solid t rfl) 0 0 content).1
    rwa [Nat.zero_add] at ordered

theorem compile_cases {kind : Kind} {source : Bytes} {p : Pattern}
    (accepted : compile kind source = .ok p) :
    (∃ expression e, p = .template source expression e) ∨ (∃ e, p = .expression source e) ∨
      p = .literal source ∧ source ≠ [] := by
  cases kind with
  | whitespace =>
    simp only [compile, ofTemplate] at accepted
    split at accepted
    · cases accepted
    · split at accepted
      · cases accepted
        exact .inl ⟨_, _, rfl⟩
      · cases accepted
  | regexp =>
    simp only [compile, ofExpression] at accepted
    split at accepted
    · cases accepted
    · split at accepted
      · cases accepted
        exact .inr (.inl ⟨_, rfl⟩)
      · cases accepted
  | literal =>
    simp only [compile, ofLiteral] at accepted
    split at accepted
    · cases accepted
    · rename_i nonempty
      cases accepted
      exact .inr (.inr ⟨rfl, nonempty⟩)

theorem compile_literal_ne_nil {kind : Kind} {source t : Bytes}
    (accepted : compile kind source = .ok (.literal t)) : t ≠ [] := by
  rcases compile_cases accepted with ⟨_, _, eq⟩ | ⟨_, eq⟩ | ⟨eq, nonempty⟩
  · cases eq
  · cases eq
  · cases eq
    exact nonempty

theorem compileNamed_literal {kind source t : Bytes}
    (accepted : compileNamed kind source = .ok (.literal t)) : t ≠ [] := by
  unfold compileNamed at accepted
  split at accepted
  · exact compile_literal_ne_nil accepted
  · cases accepted

end Pattern

theorem Rule.apply_pieces {r : Rule} {content : Bytes}
    (ordered : Ordered 0 content.length (r.spans content)) :
    (∃ first pieces, content = assemble first pieces ∧
      r.spans content = spansOf first.length pieces ∧
      r.apply content =
        (assemble first (pieces.map fun x => (r.replacement, x.2)), pieces.length)) ∧
    (r.spans content = [] → r.apply content = (content, 0)) := by
  constructor
  · rw [← Nat.zero_add content.length] at ordered
    obtain ⟨first, pieces, text, places, spliced⟩ := splice_pieces r.replacement ordered
    rw [Nat.zero_add] at places
    refine ⟨first, pieces, text, places, ?_⟩
    rw [apply, spliced, places, length_spansOf]
  · intro none
    simp [apply, none, splice]

/-- Every accepted pattern of any kind finds spans inside the text, each behind the one before it,
with growing starts and no empty one right at the end of another. A rule with it, or with no
pattern, cuts the text there: it keeps the gaps, puts its replacement as it stands in the place of
each match and counts the matches. Without matches the text stays as it is. -/
theorem findAll_spans {kind source : Bytes} {p : Pattern}
    (accepted : Pattern.compileNamed kind source = .ok p) (content : Bytes) :
    Ordered 0 content.length (p.findAll content) ∧
    ∀ r : Rule, r.pattern = none ∨ r.pattern = some p →
      (∃ first pieces, content = assemble first pieces ∧
        r.spans content = spansOf first.length pieces ∧
        r.apply content =
          (assemble first (pieces.map fun x => (r.replacement, x.2)), pieces.length)) ∧
      (r.spans content = [] → r.apply content = (content, 0)) := by
  have ordered : Ordered 0 content.length (p.findAll content) :=
    Pattern.findAll_ordered (fun t eq => Pattern.compileNamed_literal (eq ▸ accepted)) content
  refine ⟨ordered, fun r pattern => Rule.apply_pieces ?_⟩
  rcases pattern with none | some
  · rw [Rule.spans, none]
    exact .nil
  · rwa [Rule.spans, some]

/-- An expression with empty matches in a text with a malformed byte, and a replacement with signs
that other tools expand. -/
theorem findAll_spans_empty :
    ∃ p, Pattern.compileNamed "regexp" "a*|$" = .ok p ∧
      p.findAll (0xFF :: Bytes.ofString "baac") = [⟨0, 0⟩, ⟨1, 1⟩, ⟨2, 4⟩, ⟨5, 5⟩] ∧
      Ordered 0 5 (p.findAll (0xFF :: Bytes.ofString "baac")) ∧
      (Rule.apply ⟨"r", some p, "$1\\", []⟩ (0xFF :: Bytes.ofString "baac")).2 = 4 := by
  have isAccepted : (Pattern.compileNamed "regexp" "a*|$").toOption.isSome = true := by
    decide +kernel
  obtain ⟨p, some⟩ := Option.isSome_iff_exists.mp isAccepted
  have accepted := eq_ok_of_toOption some
  have found : p.findAll (0xFF :: Bytes.ofString "baac") = [⟨0, 0⟩, ⟨1, 1⟩, ⟨2, 4⟩, ⟨5, 5⟩] := by
    have all : (Pattern.compileNamed "regexp" "a*|$").toOption.map
        (·.findAll (0xFF :: Bytes.ofString "baac")) =
        Option.some [⟨0, 0⟩, ⟨1, 1⟩, ⟨2, 4⟩, ⟨5, 5⟩] := by
      decide +kernel
    rw [some] at all
    exact Option.some.inj all
  obtain ⟨ordered, applied⟩ := findAll_spans accepted (0xFF :: Bytes.ofString "baac")
  refine ⟨p, accepted, found, ordered, ?_⟩
  obtain ⟨⟨first, pieces, text, places, result⟩, _⟩ := applied ⟨"r", p, "$1\\", []⟩ (.inr rfl)
  rw [result]
  rw [← length_spansOf first.length pieces, ← places]
  exact congrArg List.length found

end Retouch
