import Retouch.Bytes
import Retouch.Span

/-! Scans.
A scan takes occurrences from the left, each at the first place behind the one before it. -/
namespace Retouch

/-- A text of the given kind stands between two offsets of a content. -/
def OccursAt (P : Bytes → Prop) (content : Bytes) (start stop : Nat) : Prop :=
  ∃ before body after, content = before ++ (body ++ after) ∧ before.length = start ∧
    start + body.length = stop ∧ P body

theorem OccursAt.drop {P : Bytes → Prop} {content : Bytes} {start stop : Nat}
    (occurs : OccursAt P content start stop) :
    ∃ body after, content.drop start = body ++ after ∧ start + body.length = stop ∧ P body := by
  obtain ⟨before, body, after, rfl, rfl, ends, holds⟩ := occurs
  exact ⟨body, after, by rw [List.drop_left], ends, holds⟩

namespace OccursAt

variable {P : Bytes → Prop} {x y : Bytes} {start stop : Nat}

theorem bounds (occurs : OccursAt P x start stop) : start ≤ stop ∧ stop ≤ x.length := by
  obtain ⟨before, body, after, rfl, rfl, rfl, _⟩ := occurs
  simp only [List.length_append]
  omega

theorem append_right (occurs : OccursAt P x start stop) (y : Bytes) :
    OccursAt P (x ++ y) start stop := by
  obtain ⟨before, body, after, rfl, begins, ends, holds⟩ := occurs
  exact ⟨before, body, after ++ y, by simp, begins, ends, holds⟩

theorem append_left (occurs : OccursAt P y start stop) (x : Bytes) :
    OccursAt P (x ++ y) (x.length + start) (x.length + stop) := by
  obtain ⟨before, body, after, rfl, rfl, rfl, holds⟩ := occurs
  exact ⟨x ++ before, body, after, by simp, by simp, by simp [Nat.add_assoc], holds⟩

theorem of_stop_le (occurs : OccursAt P (x ++ y) start stop) (within : stop ≤ x.length) :
    OccursAt P x start stop := by
  obtain ⟨before, body, after, eq, rfl, rfl, holds⟩ := occurs
  rw [← List.append_assoc, List.append_eq_append_iff] at eq
  rcases eq with ⟨excess, eq, rfl⟩ | ⟨rest, rfl, rfl⟩
  · have length := congrArg List.length eq
    simp only [List.length_append] at length
    have none : excess = [] := List.length_eq_zero_iff.mp (by omega)
    rw [none, List.append_nil] at eq
    exact ⟨before, body, [], by simpa using eq.symm, rfl, rfl, holds⟩
  · exact ⟨before, body, rest, by simp, rfl, rfl, holds⟩

theorem of_le_start (occurs : OccursAt P (x ++ y) start stop) (behind : x.length ≤ start) :
    OccursAt P y (start - x.length) (stop - x.length) := by
  obtain ⟨before, body, after, eq, rfl, rfl, holds⟩ := occurs
  rw [List.append_eq_append_iff] at eq
  rcases eq with ⟨lead, rfl, rfl⟩ | ⟨excess, rfl, eq⟩
  · exact ⟨lead, body, after, rfl, by simp, by simp; omega, holds⟩
  · rw [List.length_append] at behind
    have none : excess = [] := List.length_eq_zero_iff.mp (by omega)
    subst none
    exact ⟨[], body, after, by simpa using eq.symm, by simp, by simp, holds⟩

end OccursAt

inductive Scanned (P : Bytes → Prop) (content : Bytes) : Nat → List Span → Prop where
  /-- There is no occurrence any more. -/
  | done {pos : Nat} : (∀ start stop, pos ≤ start → ¬ OccursAt P content start stop) →
      Scanned P content pos []
  /-- The first occurrence is taken, and the scan goes on at its end. -/
  | next {pos start stop : Nat} {spans : List Span} : pos ≤ start →
      OccursAt P content start stop →
      (∀ earlier other, pos ≤ earlier → earlier < start → ¬ OccursAt P content earlier other) →
      Scanned P content stop spans → Scanned P content pos (⟨start, stop⟩ :: spans)

namespace Scanned

variable {P : Bytes → Prop} {content : Bytes}

theorem earlier {pos later : Nat} {spans : List Span} (scanned : Scanned P content later spans)
    (le : pos ≤ later)
    (free : ∀ start stop, pos ≤ start → start < later → ¬ OccursAt P content start stop) :
    Scanned P content pos spans := by
  cases scanned with
  | done none =>
    refine .done fun start stop from_ => ?_
    by_cases before : start < later
    · exact free start stop from_ before
    · exact none start stop (Nat.le_of_not_lt before)
  | next from_ occurs first more =>
    refine .next (Nat.le_trans le from_) occurs (fun start stop pos before => ?_) more
    by_cases ahead : start < later
    · exact free start stop pos ahead
    · exact first start stop (Nat.le_of_not_lt ahead) before

/-- A scan is determined by where it starts, if each occurrence has one end. -/
theorem unique (ends : ∀ start stop other, OccursAt P content start stop →
      OccursAt P content start other → stop = other)
    {pos : Nat} {spans others : List Span} (scanned : Scanned P content pos spans)
    (other : Scanned P content pos others) : spans = others := by
  induction scanned generalizing others with
  | done none =>
    cases other with
    | done => rfl
    | next from_ occurs => exact absurd occurs (none _ _ from_)
  | @next pos start stop spans from_ occurs first _ ih =>
    cases other with
    | done none => exact absurd occurs (none _ _ from_)
    | @next _ start' stop' others from' occurs' first' more' =>
      have same : start = start' := by
        rcases Nat.lt_trichotomy start start' with lt | eq | gt
        · exact absurd occurs (first' _ _ from_ lt)
        · exact eq
        · exact absurd occurs' (first _ _ from' gt)
      subst same
      have stops := ends _ _ _ occurs occurs'
      subst stops
      rw [ih more']

/-- Every occurrence overlaps a span of the scan: none lies in a gap between them. -/
theorem covers (wide : ∀ start stop, OccursAt P content start stop → start < stop)
    {pos : Nat} {spans : List Span} (scanned : Scanned P content pos spans) {start stop : Nat}
    (from_ : pos ≤ start) (occurs : OccursAt P content start stop) :
    ∃ s ∈ spans, s.start < stop ∧ start < s.stop := by
  induction scanned with
  | done none => exact absurd occurs (none _ _ from_)
  | @next pos start' stop' spans _ _ first _ ih =>
    have forward := wide _ _ occurs
    by_cases before : start < start'
    · exact absurd occurs (first _ _ from_ before)
    · by_cases inside : start < stop'
      · exact ⟨⟨start', stop'⟩, List.mem_cons_self, by dsimp only; omega, inside⟩
      · obtain ⟨s, member, overlap⟩ := ih (Nat.le_of_not_lt inside)
        exact ⟨s, List.mem_cons_of_mem _ member, overlap⟩

end Scanned

end Retouch
