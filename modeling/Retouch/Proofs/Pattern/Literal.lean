import Retouch.Proofs.Rule.Rewriting

/-! Literals are found greedily.
The search for a fixed text takes each occurrence that starts behind the ones it has taken. The
spans are determined by that: an occurrence that is left out starts inside of a span. -/
namespace Retouch

/-- Where a scan goes on behind the spans that it has taken. -/
def resumeAt (pos : Nat) (taken : List Span) : Nat := (taken.getLast?.map Span.stop).getD pos

theorem resumeAt_cons (pos : Nat) (s : Span) (taken : List Span) :
    resumeAt pos (s :: taken) = resumeAt s.stop taken := by
  cases taken with
  | nil => rfl
  | cons t taken =>
    rw [resumeAt, resumeAt, List.getLast?_cons_cons]
    cases last : (t :: taken).getLast? with
    | none => cases List.getLast?_eq_none_iff.mp last
    | some u => rfl

/- The spans are stated as a whole here, without the scan that comes to them: the conditions speak
of every way to cut the list in two. -/

/-- Occurrences from a place on, each behind the one before it, so that none starts in a gap: what
starts behind some of the spans does not start before the next one. -/
structure Greedy (P : Bytes → Prop) (content : Bytes) (pos : Nat) (spans : List Span) : Prop where
  occurs : ∀ s ∈ spans, OccursAt P content s.start s.stop
  ahead : ∀ taken s left, spans = taken ++ s :: left → resumeAt pos taken ≤ s.start
  full : ∀ taken left start stop, spans = taken ++ left → OccursAt P content start stop →
    resumeAt pos taken ≤ start → ∃ s, left.head? = some s ∧ s.start ≤ start

section Greedy

variable {P : Bytes → Prop} {content : Bytes} {pos : Nat} {spans : List Span}

theorem Scanned.greedy (scanned : Scanned P content pos spans) : Greedy P content pos spans := by
  induction scanned with
  | @done pos none =>
    refine ⟨by simp, ?_, ?_⟩
    · intro taken s left eq
      cases taken <;> cases eq
    · intro taken left start stop eq occurs behind
      obtain ⟨rfl, rfl⟩ := List.append_eq_nil_iff.mp eq.symm
      exact absurd occurs (none start stop behind)
  | @next pos start stop spans from_ occurs first _ ih =>
    refine ⟨?_, ?_, ?_⟩
    · intro s member
      rcases List.mem_cons.mp member with rfl | member
      · exact occurs
      · exact ih.occurs s member
    · intro taken s left eq
      cases taken with
      | nil =>
        cases eq
        exact from_
      | cons t taken =>
        cases eq
        rw [resumeAt_cons]
        exact ih.ahead taken s left rfl
    · intro taken left earlier other eq inside behind
      cases taken with
      | nil =>
        subst eq
        refine ⟨_, rfl, ?_⟩
        apply Nat.le_of_not_lt
        intro before
        exact first earlier other behind before inside
      | cons t taken =>
        cases eq
        rw [resumeAt_cons] at behind
        exact ih.full taken left earlier other rfl inside behind

theorem Greedy.scanned (greedy : Greedy P content pos spans) : Scanned P content pos spans := by
  induction spans generalizing pos with
  | nil =>
    apply Scanned.done
    intro start stop behind occurs
    obtain ⟨s, none, _⟩ := greedy.full [] [] start stop rfl occurs behind
    cases none
  | cons s spans ih =>
    apply Scanned.next
    · exact greedy.ahead [] s spans rfl
    · exact greedy.occurs s List.mem_cons_self
    · intro earlier other behind before occurs
      obtain ⟨t, head, le⟩ := greedy.full [] (s :: spans) earlier other rfl occurs behind
      cases head
      exact Nat.not_lt_of_le le before
    · apply ih
      constructor
      · intro t member
        exact greedy.occurs t (List.mem_cons_of_mem s member)
      · intro taken t left eq
        have later := greedy.ahead (s :: taken) t left (by rw [eq, List.cons_append])
        rwa [resumeAt_cons] at later
      · intro taken left start stop eq occurs behind
        rw [← resumeAt_cons pos] at behind
        exact greedy.full (s :: taken) left start stop (by rw [eq, List.cons_append]) occurs behind

end Greedy

/-! The search for a literal. -/

section Literal

variable {word : Bytes} (nonempty : word ≠ [])
include nonempty

-- The scan goes on from the later one of the two places, the offset and where it may resume.
theorem scanned_occurrencesFrom (resume : Nat) (before content : Bytes) :
    Scanned (· = word) (before ++ content) (max resume before.length)
      (Pattern.occurrencesFrom word resume before.length content) := by
  induction content generalizing resume before with
  | nil =>
    apply Scanned.done
    intro start stop behind occurs
    obtain ⟨body, after, eq, _, rfl⟩ := occurs.drop
    rw [List.append_nil, List.drop_eq_nil_of_le (by omega)] at eq
    exact nonempty (List.append_eq_nil_iff.mp eq.symm).1
  | cons b rest ih =>
    have one : (before ++ [b]).length = before.length + 1 := by simp
    have whole : before ++ [b] ++ rest = before ++ b :: rest := by simp
    have wide : 0 < word.length := List.length_pos_iff.mpr nonempty
    have tail (resume : Nat) := ih resume (before ++ [b])
    rw [one, whole] at tail
    rw [Pattern.occurrencesFrom]
    split
    · rename_i hit
      rw [Bool.and_eq_true, decide_eq_true_eq, List.isPrefixOf_iff_prefix] at hit
      obtain ⟨reached, after, eq⟩ := hit
      have later := tail (before.length + word.length)
      rw [Nat.max_eq_left (by omega)] at later
      rw [Nat.max_eq_right reached]
      refine .next (Nat.le_refl _) ⟨before, word, after, by rw [eq], rfl, rfl, rfl⟩ ?_ later
      intro earlier other behind ahead
      omega
    · rename_i miss
      have later := tail resume
      by_cases reached : resume ≤ before.length
      · rw [Nat.max_eq_right (by omega)] at later
        rw [Nat.max_eq_right reached]
        refine later.earlier (Nat.le_succ _) ?_
        intro start stop behind ahead occurs
        obtain rfl : start = before.length := by omega
        obtain ⟨body, after, eq, _, rfl⟩ := occurs.drop
        rw [List.drop_left] at eq
        apply miss
        rw [Bool.and_eq_true, decide_eq_true_eq, List.isPrefixOf_iff_prefix, eq]
        exact ⟨reached, List.prefix_append body after⟩
      · rw [Nat.max_eq_left (by omega)] at later
        rwa [Nat.max_eq_left (by omega)]

theorem scanned_literal (content : Bytes) :
    Scanned (· = word) content 0 (Pattern.occurrences word content) :=
  scanned_occurrencesFrom nonempty 0 [] content

theorem seeks_literal {r : Rule} (pattern : r.pattern = some (.literal word)) :
    r.Seeks (· = word) := by
  constructor
  · exact nonempty ∘ Eq.symm
  · intro content
    rw [Rule.spans, pattern]
    exact scanned_literal nonempty content

omit nonempty in
theorem oneEnd_literal (word : Bytes) : OneEnd (· = word) := by
  intro content start stop other occurs occurs'
  obtain ⟨_, _, _, rfl, rfl⟩ := occurs.drop
  obtain ⟨_, _, _, rfl, rfl⟩ := occurs'.drop
  rfl

theorem compile_literal : Pattern.compile .literal word = .ok (.literal word) := by
  rw [Pattern.compile, Pattern.ofLiteral, if_neg nonempty]

/-- A literal that is not empty is accepted, and its spans are the only greedy ones: occurrences one
behind the other with none that starts in a gap between them. Replacing the literal by itself leaves
every text as it is and counts the spans. -/
theorem findAll_literal (content : Bytes) :
    ∃ p, Pattern.compile .literal word = .ok p ∧
      (∀ spans, Greedy (· = word) content 0 spans ↔ spans = p.findAll content) ∧
      ∀ r : Rule, r.pattern = some p → r.replacement = word →
        r.apply content = (content, (p.findAll content).length) := by
  have scanned := scanned_literal nonempty content
  refine ⟨.literal word, compile_literal nonempty, ?_, ?_⟩
  · intro spans
    constructor
    · intro greedy
      exact greedy.scanned.unique (oneEnd_literal word content) scanned
    · rintro rfl
      exact scanned.greedy
  · intro r pattern same
    have rewrites := (seeks_literal nonempty pattern).rewrites (oneEnd_literal word) content
    rw [same] at rewrites
    have kept := rewrites.self
    have count : (r.apply content).2 = (Pattern.findAll (.literal word) content).length := by
      rw [Rule.apply, Rule.spans, pattern]
    rw [← count]
    exact Prod.ext kept rfl

end Literal

/-- The occurrence in the middle overlaps the first one and is left out; the last one touches the
second. -/
theorem findAll_literal_overlap :
    ∃ p, Pattern.compile .literal "aba" = .ok p ∧
      (∀ spans, Greedy (· = Bytes.ofString "aba") "ababa abaaba" 0 spans ↔
        spans = [⟨0, 3⟩, ⟨6, 9⟩, ⟨9, 12⟩]) ∧
      Rule.apply ⟨"r", some p, "aba", []⟩ "ababa abaaba" = (Bytes.ofString "ababa abaaba", 3) := by
  have nonempty : Bytes.ofString "aba" ≠ [] := by decide
  obtain ⟨p, accepted, greedy, applied⟩ := findAll_literal nonempty "ababa abaaba"
  have found : p.findAll "ababa abaaba" = [⟨0, 3⟩, ⟨6, 9⟩, ⟨9, 12⟩] := by
    rw [compile_literal nonempty] at accepted
    cases accepted
    decide
  rw [found] at greedy
  have kept := applied ⟨"r", some p, "aba", []⟩ rfl rfl
  rw [found] at kept
  exact ⟨p, accepted, greedy, kept⟩

end Retouch
