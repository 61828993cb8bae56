import Retouch.Proofs.Rule.Splice

/-! Rewriting from the left.
What a scan and a replacement make of a text together, told without offsets: a text of the sought
kind is replaced as a whole, and a byte is kept where none starts. -/
namespace Retouch

def Starts (P : Bytes → Prop) (text : Bytes) : Prop := ∃ body after, text = body ++ after ∧ P body

/-- Every text is built from its end by texts of a kind and by bytes where none of them starts. -/
theorem starts_induction {P : Bytes → Prop} (solid : ¬ P []) {motive : Bytes → Prop}
    (nil : motive [])
    (hit : ∀ body rest, P body → motive rest → motive (body ++ rest))
    (keep : ∀ b rest, ¬ Starts P (b :: rest) → motive rest → motive (b :: rest))
    (text : Bytes) : motive text := by
  induction h : text.length using Nat.strongRecOn generalizing text with
  | ind k ih =>
    by_cases starts : Starts P text
    · obtain ⟨body, rest, rfl, holds⟩ := starts
      have pos : 0 < body.length := by
        apply List.length_pos_iff.mpr
        rintro rfl
        exact solid holds
      rw [List.length_append] at h
      exact hit body rest holds (ih rest.length (by omega) rest rfl)
    · cases text with
      | nil => exact nil
      | cons b rest =>
        rw [List.length_cons] at h
        exact keep b rest starts (ih rest.length (by omega) rest rfl)

/-- One pass over a text with its result and the number of hits. A hit takes a whole text of the
kind, and a byte is passed only where none starts. -/
inductive Rewrites (P : Bytes → Prop) (replacement : Bytes) : Bytes → Bytes → Nat → Prop where
  | nil : Rewrites P replacement [] [] 0
  | hit {body rest out : Bytes} {n : Nat} : P body → Rewrites P replacement rest out n →
      Rewrites P replacement (body ++ rest) (replacement ++ out) (n + 1)
  | keep {b : UInt8} {rest out : Bytes} {n : Nat} : ¬ Starts P (b :: rest) →
      Rewrites P replacement rest out n → Rewrites P replacement (b :: rest) (b :: out) n

namespace Rewrites

variable {P : Bytes → Prop} {replacement text out : Bytes} {n : Nat}

theorem total (solid : ¬ P []) (replacement text : Bytes) :
    ∃ out n, Rewrites P replacement text out n := by
  induction text using starts_induction solid with
  | nil => exact ⟨[], 0, .nil⟩
  | hit body rest holds ih =>
    obtain ⟨out, n, tail⟩ := ih
    exact ⟨_, _, .hit holds tail⟩
  | keep b rest none ih =>
    obtain ⟨out, n, tail⟩ := ih
    exact ⟨_, _, .keep none tail⟩

theorem skip {lead : Bytes}
    (none : ∀ before inside, lead = before ++ inside → inside ≠ [] → ¬ Starts P (inside ++ text))
    (tail : Rewrites P replacement text out n) :
    Rewrites P replacement (lead ++ text) (lead ++ out) n := by
  induction lead with
  | nil => exact tail
  | cons b lead ih =>
    apply Rewrites.keep
    · exact none [] (b :: lead) rfl (List.cons_ne_nil b lead)
    · apply ih
      intro before inside eq
      exact none (b :: before) inside (by rw [eq, List.cons_append])

/-- Up to the first hit the text and the result are the same. -/
theorem start (rewrites : Rewrites P replacement text out n) :
    out = text ∨ ∃ gap rest more, text = gap ++ rest ∧ out = gap ++ (replacement ++ more) := by
  induction rewrites with
  | nil => exact .inl rfl
  | @hit body rest out n _ _ _ => exact .inr ⟨[], body ++ rest, out, rfl, rfl⟩
  | @keep b rest out n _ _ ih =>
    rcases ih with rfl | ⟨gap, tail, more, rfl, rfl⟩
    · exact .inl rfl
    · exact .inr ⟨b :: gap, tail, more, rfl, rfl⟩

theorem self {word : Bytes} (rewrites : Rewrites (· = word) word text out n) : out = text := by
  induction rewrites with
  | nil => rfl
  | hit same _ ih => rw [same, ih]
  | keep _ _ ih => rw [ih]

end Rewrites

theorem Scanned.ahead {P : Bytes → Prop} {content : Bytes} {pos : Nat} {spans : List Span}
    (scanned : Scanned P content pos spans) : ∀ s ∈ spans, pos ≤ s.start ∧ s.start ≤ s.stop := by
  induction scanned with
  | done => simp
  | @next pos start stop spans from_ occurs _ _ ih =>
    have forward := occurs.bounds.1
    intro s member
    rcases List.mem_cons.mp member with rfl | member
    · exact ⟨from_, forward⟩
    · have later := ih s member
      omega

-- A pass is a scan together with the replacement of its spans.
theorem Rewrites.scanned {P : Bytes → Prop} (solid : ¬ P []) {replacement text out : Bytes}
    {n : Nat}
    (rewrites : Rewrites P replacement text out n) (before : Bytes) :
    ∃ spans, Scanned P (before ++ text) before.length spans ∧
      splice replacement before.length text spans = out ∧ spans.length = n := by
  induction rewrites generalizing before with
  | nil =>
    refine ⟨[], .done fun start stop behind occurs => ?_, rfl, rfl⟩
    obtain ⟨body, after, eq, _, holds⟩ := occurs.drop
    rw [List.append_nil, List.drop_eq_nil_of_le behind, eq_comm, List.append_eq_nil_iff] at eq
    exact solid (eq.1 ▸ holds)
  | @hit body rest out n holds _ ih =>
    obtain ⟨spans, scanned, text, count⟩ := ih (before ++ body)
    rw [List.append_assoc, List.length_append] at scanned
    rw [List.length_append] at text
    refine ⟨⟨before.length, before.length + body.length⟩ :: spans, ?_, ?_, ?_⟩
    · refine .next (Nat.le_refl _) ⟨before, body, rest, rfl, rfl, rfl, holds⟩ ?_ scanned
      intro earlier other behind ahead
      omega
    · rw [splice, Nat.sub_self, Nat.add_sub_cancel_left, List.drop_left, text]
      rfl
    · rw [List.length_cons, count]
  | @keep b rest out n none _ ih =>
    obtain ⟨spans, scanned, text, count⟩ := ih (before ++ [b])
    have one : (before ++ [b]).length = before.length + 1 := by simp
    rw [one, List.append_assoc] at scanned
    rw [one] at text
    refine ⟨spans, scanned.earlier (Nat.le_succ _) ?_, ?_, count⟩
    · intro start stop behind ahead occurs
      obtain rfl : start = before.length := by omega
      obtain ⟨body, after, eq, _, holds⟩ := occurs.drop
      rw [List.drop_left] at eq
      exact none ⟨body, after, eq, holds⟩
    · have skipped := splice_append replacement before.length [b] rest scanned.ahead
      rw [List.cons_append, List.nil_append] at skipped
      rw [skipped]
      exact congrArg (b :: ·) text

/-- Texts of the kind that start at one place of a content end at one place, too. -/
def OneEnd (P : Bytes → Prop) : Prop :=
  ∀ content start stop other, OccursAt P content start stop → OccursAt P content start other →
    stop = other

theorem OccursAt.wide {P : Bytes → Prop} (solid : ¬ P []) {content : Bytes} {start stop : Nat}
    (occurs : OccursAt P content start stop) : start < stop := by
  obtain ⟨body, after, _, rfl, holds⟩ := occurs.drop
  have pos : 0 < body.length := by
    apply List.length_pos_iff.mpr
    rintro rfl
    exact solid holds
  omega

/-- The rule looks for texts of the kind by a scan from the left. -/
structure Rule.Seeks (r : Rule) (P : Bytes → Prop) : Prop where
  solid : ¬ P []
  scanned : ∀ content, Scanned P content 0 (r.spans content)

namespace Rule.Seeks

variable {r : Rule} {P : Bytes → Prop} (seeks : r.Seeks P)
include seeks

theorem apply_eq (ends : OneEnd P) {content out : Bytes} {n : Nat}
    (rewrites : Rewrites P r.replacement content out n) : r.apply content = (out, n) := by
  obtain ⟨spans, scanned, text, count⟩ := rewrites.scanned seeks.solid []
  have same := (seeks.scanned content).unique (ends content) scanned
  simp only [Rule.apply, same]
  rw [← text, ← count]
  rfl

theorem rewrites (ends : OneEnd P) (content : Bytes) :
    Rewrites P r.replacement content (r.apply content).1 (r.apply content).2 := by
  obtain ⟨out, n, rewrites⟩ := Rewrites.total seeks.solid r.replacement content
  rw [seeks.apply_eq ends rewrites]
  exact rewrites

end Rule.Seeks

end Retouch
