import Retouch.Proofs.Pattern.Literal
import Retouch.Proofs.Pattern.Spans
import Retouch.Proofs.Text.Boundary

/-! Spans and code points.
An expression reads whole code points, so its matches lie between boundaries of any text. A literal
is compared byte for byte and needs a well-formed text for that. -/
namespace Retouch

open CodePoint

namespace Regexp

/-- The span holds some of the code points from an offset on. -/
def Holds (offset : Nat) (points : List CodePoint) (s : Span) : Prop :=
  ∃ lead body rest, points = lead ++ (body ++ rest) ∧ s.start = offset + totalWidth lead ∧
    s.stop = s.start + totalWidth body

theorem Holds.behind {offset : Nat} {c : CodePoint} {points : List CodePoint} {s : Span}
    (holds : Holds (offset + c.width) points s) : Holds offset (c :: points) s := by
  obtain ⟨lead, body, rest, rfl, start, stop⟩ := holds
  refine ⟨c :: lead, body, rest, rfl, ?_, stop⟩
  rw [start, totalWidth, Nat.add_assoc]

theorem holds_of_find? {e : Expr} {before : Option Nat} {offset : Nat} {points : List CodePoint}
    {s : Span} (wide : ∀ c ∈ points, 0 < c.width)
    (found : e.find? before offset [] points = some s) : Holds offset points s := by
  obtain ⟨lead, body, rest, split, start, stop, _⟩ := find?_some (hopeless_nil points) wide found
  exact ⟨lead, body, rest, split, start, stop⟩

theorem holds_of_findAllFrom {e : Expr} {resume : Nat} {last before : Option Nat} {offset : Nat}
    {points : List CodePoint} (wide : ∀ c ∈ points, 0 < c.width) :
    ∀ s ∈ e.findAllFrom resume last before offset points, Holds offset points s := by
  induction points generalizing resume last before offset with
  | nil =>
    intro s member
    rw [Expr.findAllFrom] at member
    cases found : e.find? before offset [] [] with
    | none =>
      rw [found] at member
      cases member
    | some t =>
      simp only [found] at member
      split at member
      · cases member
      · rw [List.mem_singleton.mp member]
        exact holds_of_find? wide found
  | cons c rest ih =>
    have later {resume : Nat} {last : Option Nat} : ∀ s ∈ e.findAllFrom resume last (some c.value)
        (offset + c.width) rest, Holds offset (c :: rest) s := by
      intro s member
      apply Holds.behind
      exact ih (fun d inside => wide d (List.mem_cons_of_mem c inside)) s member
    intro s member
    rw [Expr.findAllFrom] at member
    split at member
    · exact later s member
    · cases found : e.find? before offset [] (c :: rest) with
      | none =>
        rw [found] at member
        cases member
      | some t =>
        have here : Holds offset (c :: rest) t := holds_of_find? wide found
        simp only [found] at member
        -- Only an empty match at the end of the one before is left out.
        split at member
        · split at member
          · exact later s member
          · rcases List.mem_cons.mp member with rfl | member
            · exact here
            · exact later s member
        · rcases List.mem_cons.mp member with rfl | member
          · exact here
          · exact later s member

theorem Holds.boundaries {text : Bytes} {s : Span} (holds : Holds 0 (decode text) s) :
    Boundary text s.start ∧ Boundary text s.stop := by
  obtain ⟨lead, body, rest, split, start, stop⟩ := holds
  rw [Nat.zero_add] at start
  constructor
  · exact ⟨lead, body ++ rest, split, start.symm⟩
  · refine ⟨lead ++ body, rest, by rw [split, List.append_assoc], ?_⟩
    rw [totalWidth_append, stop, start]

theorem findAll_boundaries (e : Expr) (text : Bytes) :
    ∀ s ∈ e.findAll text, Boundary text s.start ∧ Boundary text s.stop := by
  intro s member
  exact (holds_of_findAllFrom (decode_width_pos text) s member).boundaries

end Regexp

namespace Pattern

/-- Patterns of all kinds match between boundaries. The source matters for a literal only: the text
of any other pattern is read by code points. -/
theorem findAll_boundaries {kind : Kind} {source content : Bytes} {p : Pattern}
    (accepted : compile kind source = .ok p) (sourceValid : isValid source = true)
    (valid : isValid content = true) :
    ∀ s ∈ p.findAll content, Boundary content s.start ∧ Boundary content s.stop := by
  rcases compile_cases accepted with ⟨_, e, rfl⟩ | ⟨e, rfl⟩ | ⟨rfl, nonempty⟩
  · exact Regexp.findAll_boundaries e content
  · exact Regexp.findAll_boundaries e content
  · intro s member
    have occurs := (scanned_literal nonempty content).greedy.occurs s member
    exact boundaries_of_occursAt nonempty sourceValid valid occurs

end Pattern

end Retouch
