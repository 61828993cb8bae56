import Retouch.Proofs.Regexp.Search
import Retouch.Proofs.Rule.Pieces

/-! All matches of an expression.
The search goes on where a match ended. It is never caught at an empty match: what was found there
once is found there again and passed over. -/
namespace Retouch.Regexp

open CodePoint (totalWidth totalWidth_append)

theorem findAllFrom_skip {e : Expr} {last before : Option Nat} {offset : Nat}
    (lead rest : List CodePoint) (wide : ∀ c ∈ lead, 0 < c.width) :
    e.findAllFrom (offset + totalWidth lead) last before offset (lead ++ rest) =
      e.findAllFrom (offset + totalWidth lead) last (behind before lead)
        (offset + totalWidth lead) rest := by
  induction lead generalizing before offset with
  | nil => rfl
  | cons c lead ih =>
    have pos := wide c List.mem_cons_self
    have later := @ih (some c.value) (offset + c.width) fun d member =>
      wide d (List.mem_cons_of_mem _ member)
    rw [List.cons_append, Expr.findAllFrom, if_pos (by rw [totalWidth]; omega)]
    rwa [Nat.add_assoc] at later

/-- The matches from a place on, where `last` is the end of the match before it. -/
structure FoundFrom (e : Expr) (last before : Option Nat) (offset : Nat)
    (points : List CodePoint) (spans : List Span) : Prop where
  ordered : Ordered offset (offset + totalWidth points) spans
  /-- No empty match stands at the end of the one before. -/
  fresh : last = some offset → ∀ s ∈ spans, s.start = offset → s.stop ≠ offset
  /-- If that one is empty itself, the search has left its place. -/
  moved : last = some offset → e.find? before offset [] points = some ⟨offset, offset⟩ →
    ∀ s ∈ spans, offset < s.start

section FoundFrom

variable {e : Expr} {last before : Option Nat} {offset : Nat} {c : CodePoint}
  {points rest : List CodePoint} {s : Span} {spans : List Span}

theorem FoundFrom.nil : FoundFrom e last before offset points [] :=
  ⟨.nil, by simp, by simp⟩

/-- An empty match at the place itself counts unless the match before it ends there. -/
theorem FoundFrom.empty (pos : 0 < c.width)
    (more : FoundFrom e (some offset) (some c.value) (offset + c.width) rest spans) :
    FoundFrom e last before offset (c :: rest)
      (if some offset = last then spans else ⟨offset, offset⟩ :: spans) := by
  have later : ∀ t ∈ spans, offset < t.start := by
    intro t member
    have := more.ordered.bounds t member
    omega
  have ordered : Ordered offset (offset + totalWidth (c :: rest)) spans := by
    have wider := more.ordered.mono (Nat.le_add_right offset c.width)
    rwa [Nat.add_assoc, ← totalWidth] at wider
  split
  · refine ⟨ordered, fun _ t member same => ?_, fun _ _ => later⟩
    exact absurd same (Nat.ne_of_gt (later t member))
  · rename_i other
    refine ⟨.cons ⟨Nat.le_refl _, Nat.le_refl _, Nat.le_add_right _ _⟩ ordered fun t member => ?_,
      fun same => absurd same.symm other, fun same => absurd same.symm other⟩
    have := later t member
    exact ⟨by dsimp only; omega, this, by dsimp only; omega⟩

/-- A match that ends behind the place counts. If it is empty, the search finds it once more and
then leaves its place. -/
theorem FoundFrom.later {before' : Option Nat} (front : List CodePoint)
    (start : offset ≤ s.start ∧ s.start ≤ s.stop) (stop : s.stop = offset + totalWidth front)
    (nonempty : s.stop ≠ offset) (found : e.find? before offset [] (front ++ rest) = some s)
    (again : s.start = s.stop → e.find? before' s.stop [] rest = some ⟨s.stop, s.stop⟩)
    (more : FoundFrom e (some s.stop) before' s.stop rest spans) :
    FoundFrom e last before offset (front ++ rest) (s :: spans) := by
  have length : offset + totalWidth (front ++ rest) = s.stop + totalWidth rest := by
    rw [totalWidth_append, stop, Nat.add_assoc]
  have ordered := more.ordered
  rw [← length] at ordered
  refine ⟨.cons ⟨start.1, start.2, by omega⟩ ordered fun t member => ?_,
    fun _ t member same => ?_, fun _ empty => ?_⟩
  · have bounds := more.ordered.bounds t member
    have fresh := more.fresh rfl t member
    have moved : s.start = s.stop → s.stop < t.start := fun empty =>
      more.moved rfl (again empty) t member
    refine ⟨bounds.1, ?_, fun both => fresh both.2 (both.1 ▸ both.2)⟩
    by_cases empty : s.start = s.stop
    · have := moved empty
      omega
    · omega
  · rcases List.mem_cons.mp member with rfl | member
    · exact nonempty
    · have := more.ordered.bounds t member
      omega
  · rw [found] at empty
    cases empty
    exact absurd rfl nonempty

end FoundFrom

theorem eq_nil_of_totalWidth {points : List CodePoint} (wide : ∀ c ∈ points, 0 < c.width)
    (zero : totalWidth points = 0) : points = [] := by
  cases points with
  | nil => rfl
  | cons c rest =>
    have := wide c List.mem_cons_self
    rw [totalWidth] at zero
    omega

/-- A match that does not end at the place itself ends behind some of the next code points. If it
is empty, it is found again from there. -/
theorem find?_behind {e : Expr} {before : Option Nat} {offset : Nat} {c : CodePoint}
    {rest : List CodePoint} {s : Span} (wide : ∀ d ∈ c :: rest, 0 < d.width)
    (found : e.find? before offset [] (c :: rest) = some s) (away : s.stop ≠ offset) :
    ∃ inside remains, rest = inside ++ remains ∧ offset ≤ s.start ∧ s.start ≤ s.stop ∧
      s.stop = offset + totalWidth (c :: inside) ∧
      (s.start = s.stop →
        e.find? (behind before (c :: inside)) s.stop [] remains = some ⟨s.stop, s.stop⟩) := by
  obtain ⟨lead, body, remains, split, start, stop, again⟩ := find?_some (hopeless_nil _) wide found
  have width : s.stop = offset + totalWidth (lead ++ body) := by
    rw [totalWidth_append]
    omega
  have empty (same : s.start = s.stop) : body = [] := by
    refine eq_nil_of_totalWidth (fun d member => ?_) (by omega)
    apply wide
    rw [split]
    simp [member]
  cases front : lead ++ body with
  | nil =>
    rw [front] at width
    exact absurd width away
  | cons d inside =>
    rw [← List.append_assoc, front, List.cons_append] at split
    cases split
    refine ⟨inside, remains, rfl, by omega, by omega, front ▸ width, fun same => ?_⟩
    have none := empty same
    subst none
    rw [List.append_nil] at front
    rw [← front, ← same]
    exact again same.symm

/-- From every place on the matches follow one another. -/
theorem findAllFrom_found (e : Expr) (last before : Option Nat) (offset : Nat)
    (points : List CodePoint) (wide : ∀ c ∈ points, 0 < c.width) :
    FoundFrom e last before offset points (e.findAllFrom offset last before offset points) := by
  induction size : points.length using Nat.strongRecOn generalizing last before offset points with
  | ind n ih =>
    subst size
    cases points with
    | nil =>
      rw [Expr.findAllFrom]
      cases found : e.find? before offset [] [] with
      | none => exact .nil
      | some s =>
        obtain ⟨lead, body, rest, none, start, stop, _⟩ := find?_some (hopeless_nil []) wide found
        obtain ⟨rfl, rfl, rfl⟩ : lead = [] ∧ body = [] ∧ rest = [] := by simpa using none
        simp only [totalWidth, Nat.add_zero] at start stop
        dsimp only
        split
        · exact .nil
        · rename_i other
          refine ⟨.cons ⟨by omega, by omega, by omega⟩ .nil (by simp), fun same => ?_,
            fun same => ?_⟩
          all_goals exact absurd (by rw [same, start]) other
    | cons c rest =>
      have pos := wide c List.mem_cons_self
      have wideRest : ∀ d ∈ rest, 0 < d.width := fun d member =>
        wide d (List.mem_cons_of_mem _ member)
      rw [Expr.findAllFrom, if_neg (Nat.lt_irrefl _)]
      cases found : e.find? before offset [] (c :: rest) with
      | none => exact .nil
      | some s =>
        dsimp only
        by_cases here : s.stop = offset
        · obtain ⟨lead, body, _, _, start, stop, _⟩ := find?_some (hopeless_nil _) wide found
          have place : s.start = offset := by omega
          obtain ⟨_, _⟩ := s
          dsimp only at here place
          subst here place
          rw [if_pos rfl]
          exact .empty pos (ih rest.length (by simp) _ _ _ rest wideRest rfl)
        · -- The search goes on behind the code points before the end of the match.
          obtain ⟨inside, remains, rfl, from_, forward, stop, again⟩ := find?_behind wide found here
          have skipped := @findAllFrom_skip e (some s.stop) (some c.value) (offset + c.width) inside
            remains fun d member => wideRest d (List.mem_append_left _ member)
          rw [Nat.add_assoc, ← totalWidth, ← stop] at skipped
          rw [if_neg here, skipped]
          refine .later (c :: inside) ⟨from_, forward⟩ stop here found again ?_
          exact ih remains.length (by rw [List.length_cons, List.length_append]; omega)
            _ _ _ remains
            (fun d member => wideRest d (List.mem_append_right _ member)) rfl

theorem findAll_ordered (e : Expr) (text : Bytes) : Ordered 0 text.length (e.findAll text) := by
  have found := findAllFrom_found e none none 0 (CodePoint.decode text)
    (CodePoint.decode_width_pos text)
  have ordered := found.ordered
  rwa [Nat.zero_add, CodePoint.totalWidth_decode] at ordered

end Retouch.Regexp
