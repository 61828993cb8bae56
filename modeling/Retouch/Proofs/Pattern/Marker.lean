import Retouch.Proofs.Pattern.Template
import Retouch.Proofs.Rule.Splice

/-! Replacements that a template never touches.
A word between blanks that is no token of the template stops every occurrence that would run over
it. What remains are occurrences that start behind that word, and these are tried one by one. -/
namespace Retouch

open CodePoint Regexp

namespace Regexp.Step

/-- The steps cannot get through all the points, nor end on the way. -/
def blocked : List Step → List CodePoint → Bool
  | _, [] => false
  | [], _ => false
  | steps, c :: rest =>
    match next steps c.value with
    | none => true
    | some left => blocked left rest

/-- Wherever they start in the text, the steps cannot get through the rest of it. -/
def neverStart (steps : List Step) : Bytes → Bool
  | [] => true
  | b :: rest => blocked steps (decode (b :: rest)) && neverStart steps rest

theorem run_of_blocked {steps : List Step} {points : List CodePoint}
    (stops : blocked steps points = true) (more : List CodePoint) :
    run steps (points ++ more) = none := by
  induction points generalizing steps with
  | nil => cases stops
  | cons c points ih =>
    cases steps with
    | nil => cases stops
    | cons s steps =>
      rw [List.cons_append, run]
      cases step : next (s :: steps) c.value with
      | none => rfl
      | some left =>
        rw [blocked, step] at stops
        · exact Option.map_eq_none_iff.mpr (ih stops)
        · simp

theorem blocked_of_neverStart {steps : List Step} {before rest : Bytes} (nonempty : rest ≠ [])
    (never : neverStart steps (before ++ rest) = true) : blocked steps (decode rest) = true := by
  induction before with
  | nil =>
    obtain ⟨b, rest, rfl⟩ := List.exists_cons_of_ne_nil nonempty
    rw [List.nil_append, neverStart, Bool.and_eq_true] at never
    exact never.1
  | cons b before ih =>
    rw [List.cons_append, neverStart, Bool.and_eq_true] at never
    exact ih never.2

end Regexp.Step

theorem isValid_ascii {text : Bytes} (ascii : text.all (· < 0x80) = true) :
    isValid text = true := by
  induction text with
  | nil => rfl
  | cons b rest ih =>
    rw [List.all_cons, Bool.and_eq_true, decide_eq_true_eq] at ascii
    obtain ⟨low, ascii⟩ := ascii
    have tail := ih ascii
    have other : (b.toNat == replacement) = false := by
      simp only [UInt8.lt_iff_toNat_lt, UInt8.reduceToNat] at low
      simp only [replacement, beq_eq_false_iff_ne]
      omega
    rw [isValid_cons, read_ascii low, isMalformed, other]
    exact tail

theorem Spells.getLast? {tokens : List Bytes} {text : Bytes} (spells : Spells tokens text)
    {t : Bytes} {z : UInt8} (last : tokens.getLast? = some t) (ends : t.getLast? = some z) :
    text.getLast? = some z := by
  induction spells with
  | last =>
    cases last
    exact ends
  | @cons u gap text tokens _ _ spells ih =>
    obtain ⟨v, more, _, rfl, _⟩ := spells.starts
    rw [List.getLast?_cons_cons] at last
    rw [List.getLast?_append, List.getLast?_append, ih last]
    rfl

/-- Of two ways to split a text, the one with the shorter head splits the other's head. -/
theorem split_head {a b c d : Bytes} (eq : a ++ b = c ++ d) (le : c.length ≤ a.length) :
    ∃ u, a = c ++ u ∧ d = u ++ b := by
  rcases List.append_eq_append_iff.mp eq with ⟨excess, rfl, rfl⟩ | ⟨u, rfl, rfl⟩
  · rw [List.length_append] at le
    have none : excess = [] := List.length_eq_zero_iff.mp (by omega)
    subst none
    exact ⟨[], by simp, by simp⟩
  · exact ⟨u, rfl, rfl⟩

/-- A replacement with a word between spaces that no occurrence can run over: it is no token, no
occurrence can end in it or before it, and none can start in it or behind it. -/
structure Marked (tokens : List Bytes) (replacement before marker behind : Bytes) (z : UInt8) :
    Prop where
  split : replacement = before ++ (0x20 :: (marker ++ (0x20 :: behind)))
  nonempty : marker ≠ []
  solid : Solid marker
  absent : tokens.contains marker = false
  ends : tokens.getLast?.bind List.getLast? = some z
  early : (before ++ (0x20 :: marker)).contains z = false
  ascii : (marker ++ (0x20 :: behind)).all (· < 0x80) = true
  never : Step.neverStart (templateSteps tokens) (marker ++ (0x20 :: behind)) = true

instance (tokens : List Bytes) (replacement before marker behind : Bytes) (z : UInt8) :
    Decidable (Marked tokens replacement before marker behind z) :=
  decidable_of_iff
    (replacement = before ++ (0x20 :: (marker ++ (0x20 :: behind))) ∧ marker ≠ [] ∧
      Solid marker ∧ tokens.contains marker = false ∧
      tokens.getLast?.bind List.getLast? = some z ∧
      (before ++ (0x20 :: marker)).contains z = false ∧
      (marker ++ (0x20 :: behind)).all (· < 0x80) = true ∧
      Step.neverStart (templateSteps tokens) (marker ++ (0x20 :: behind)) = true)
    ⟨fun ⟨split, nonempty, solid, absent, ends, early, ascii, never⟩ =>
      ⟨split, nonempty, solid, absent, ends, early, ascii, never⟩,
    fun ⟨split, nonempty, solid, absent, ends, early, ascii, never⟩ =>
      ⟨split, nonempty, solid, absent, ends, early, ascii, never⟩⟩

section Marked

variable {tokens : List Bytes} {replacement before marker behind : Bytes} {z : UInt8}

theorem Marked.not_inside (marked : Marked tokens replacement before marker behind z)
    (known : ∀ t ∈ tokens, Token t) {u v : Bytes} :
    ¬ Spells tokens (u ++ (0x20 :: (marker ++ (0x20 :: v)))) := by
  intro spells
  have same := Bytes.tokens_spells (fun t member => ⟨(known t member).nonempty,
    (known t member).solid⟩) spells
  have space : isLayout 0x20 = true := rfl
  rw [Bytes.tokens_append space, Bytes.tokens_append space,
    Bytes.tokens_solid marked.solid marked.nonempty] at same
  apply Bool.eq_false_iff.mp marked.absent
  rw [List.contains_iff_mem, ← same]
  simp

/-- An occurrence that starts before the marker and ends behind the first byte of the replacement
runs over the marker. -/
theorem Marked.not_across (marked : Marked tokens replacement before marker behind z)
    (known : ∀ t ∈ tokens, Token t) {x y lead body after : Bytes}
    (eq : x ++ (replacement ++ y) = lead ++ (body ++ after))
    (starts : lead.length ≤ x.length + before.length)
    (stops : x.length < lead.length + body.length) : ¬ Spells tokens body := by
  intro spells
  obtain ⟨t, last, ends⟩ := Option.bind_eq_some_iff.mp marked.ends
  have final := spells.getLast? last ends
  have whole : (x ++ before) ++ (0x20 :: marker ++ (0x20 :: (behind ++ y))) =
      lead ++ (body ++ after) := by
    rw [← eq, marked.split]
    simp
  obtain ⟨u, head, tail⟩ := split_head whole (by rwa [List.length_append])
  rw [← List.append_assoc] at tail
  by_cases long : (u ++ (0x20 :: marker)).length < body.length
  · -- The occurrence holds the marker with both spaces.
    obtain ⟨w, rfl, rest⟩ := split_head tail (Nat.le_of_lt long)
    cases w with
    | nil => simp at long
    | cons c w =>
      rw [List.cons_append, List.cons.injEq] at rest
      rw [← rest.1] at spells
      refine marked.not_inside known (u := u) (v := w) ?_
      simpa using spells
  · -- The occurrence ends before the marker does.
    obtain ⟨w, inner, _⟩ := split_head tail.symm (Nat.le_of_not_lt long)
    have around : (lead ++ body) ++ w = x ++ (before ++ (0x20 :: marker)) := by
      rw [List.append_assoc, ← inner, ← List.append_assoc, ← head, List.append_assoc]
    obtain ⟨p, eq', part⟩ := split_head around (by rw [List.length_append]; omega)
    have nonempty : p ≠ [] := by
      rintro rfl
      have length := congrArg List.length eq'
      simp only [List.length_append, List.length_nil] at length
      omega
    have lasts := congrArg List.getLast? eq'
    rw [List.getLast?_append, List.getLast?_append, final, Option.some_or] at lasts
    have member : z ∈ p := by
      cases inside : p.getLast? with
      | none => exact absurd (List.getLast?_eq_none_iff.mp inside) nonempty
      | some c =>
        rw [inside, Option.some_or] at lasts
        cases lasts
        exact List.mem_of_getLast? inside
    apply Bool.eq_false_iff.mp marked.early
    rw [List.contains_iff_mem, part]
    exact List.mem_append_left _ member

theorem Marked.not_behind (marked : Marked tokens replacement before marker behind z)
    (nonempty : tokens ≠ []) (known : ∀ t ∈ tokens, Token t)
    (clean : ∀ t ∈ tokens, CodePoint.replacement ∉ values t) {x y lead body after : Bytes}
    (eq : x ++ (replacement ++ y) = lead ++ (body ++ after))
    (starts : x.length + before.length < lead.length)
    (inside : lead.length < x.length + replacement.length) : ¬ Spells tokens body := by
  intro spells
  have whole : lead ++ (body ++ after) =
      (x ++ (before ++ [0x20])) ++ (marker ++ (0x20 :: behind) ++ y) := by
    rw [← eq, marked.split]
    simp
  have length := congrArg List.length marked.split
  simp only [List.length_append, List.length_cons] at length
  obtain ⟨u, rfl, tail⟩ := split_head whole (by simp; omega)
  obtain ⟨v, part, rest⟩ := split_head tail (by simp at inside ⊢; omega)
  have left : v ≠ [] := by
    rintro rfl
    have short := congrArg List.length part
    simp only [List.length_append, List.length_cons, List.length_nil] at short inside
    omega
  have never := marked.never
  have ascii := marked.ascii
  rw [part] at never ascii
  rw [List.all_append, Bool.and_eq_true] at ascii
  have stops := Step.blocked_of_neverStart left never
  have valid := isValid_ascii ascii.2
  have miss := Step.run_of_blocked stops (decode y)
  rw [← decode_append valid, ← rest] at miss
  have hit := (run_templateSteps nonempty known clean (body ++ after) body.length).mpr
    ⟨body, after, rfl, rfl, spells⟩
  rw [miss] at hit
  cases hit

theorem Marked.untouched (marked : Marked tokens replacement before marker behind z)
    (nonempty : tokens ≠ []) (known : ∀ t ∈ tokens, Token t)
    (clean : ∀ t ∈ tokens, CodePoint.replacement ∉ values t) :
    Untouched (Spells tokens) replacement := by
  intro x y start stop occurs
  obtain ⟨lead, body, after, eq, rfl, rfl, spells⟩ := occurs
  by_cases left : lead.length + body.length ≤ x.length
  · exact .inl left
  · by_cases right : x.length + replacement.length ≤ lead.length
    · exact .inr right
    · by_cases early : lead.length ≤ x.length + before.length
      · exact absurd spells (marked.not_across known eq early (by omega))
      · exact absurd spells (marked.not_behind nonempty known clean eq (by omega) (by omega))

end Marked

end Retouch
