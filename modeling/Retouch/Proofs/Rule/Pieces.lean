import Retouch.Rule

/-! Spans and the pieces they cut a text into.
Spans in ascending order cut a text into gaps and matched texts. A replacement puts one text in
the place of every matched one and keeps the gaps. -/
namespace Retouch

/-- The second span starts behind the first one, and it is not empty at the first one's end. -/
def Span.Behind (s t : Span) : Prop :=
  s.stop ≤ t.start ∧ s.start < t.start ∧ ¬ (t.start = t.stop ∧ t.start = s.stop)

/-- The spans lie between two offsets in ascending order, without overlap. -/
structure Ordered (lo hi : Nat) (spans : List Span) : Prop where
  bounds : ∀ s ∈ spans, lo ≤ s.start ∧ s.start ≤ s.stop ∧ s.stop ≤ hi
  apart : spans.Pairwise Span.Behind

namespace Ordered

variable {lo hi : Nat} {s : Span} {spans : List Span}

theorem nil : Ordered lo hi [] := ⟨by simp, .nil⟩

theorem cons (here : lo ≤ s.start ∧ s.start ≤ s.stop ∧ s.stop ≤ hi)
    (rest : Ordered s.stop hi spans) (behind : ∀ t ∈ spans, s.Behind t) :
    Ordered lo hi (s :: spans) := by
  refine ⟨fun t member => ?_, List.pairwise_cons.mpr ⟨behind, rest.apart⟩⟩
  rcases List.mem_cons.mp member with rfl | member
  · exact here
  · have := rest.bounds t member
    omega

theorem mono {lo' : Nat} (le : lo' ≤ lo) (ordered : Ordered lo hi spans) :
    Ordered lo' hi spans := by
  refine ⟨fun t member => ?_, ordered.apart⟩
  have := ordered.bounds t member
  omega

theorem tail (ordered : Ordered lo hi (s :: spans)) : Ordered s.stop hi spans := by
  obtain ⟨behind, apart⟩ := List.pairwise_cons.mp ordered.apart
  refine ⟨fun t member => ?_, apart⟩
  have bounds := ordered.bounds t (List.mem_cons_of_mem _ member)
  exact ⟨(behind t member).1, bounds.2⟩

end Ordered

/-- The places of the matched texts, each with the gap behind it, from an offset on. -/
def spansOf (offset : Nat) : List (Bytes × Bytes) → List Span
  | [] => []
  | (matched, gap) :: rest =>
    ⟨offset, offset + matched.length⟩ :: spansOf (offset + matched.length + gap.length) rest

theorem length_spansOf (offset : Nat) (pieces : List (Bytes × Bytes)) :
    (spansOf offset pieces).length = pieces.length := by
  induction pieces generalizing offset with
  | nil => rfl
  | cons x rest ih => simp [spansOf, ih]

/-- A text behind a gap, made of matched texts and the gaps behind them. -/
def assemble (first : Bytes) (pieces : List (Bytes × Bytes)) : Bytes :=
  first ++ pieces.flatMap fun x => x.1 ++ x.2

/-- Ordered spans cut a text into pieces, and the replacement takes the place of the matched
ones. -/
theorem splice_pieces (replacement : Bytes) {offset : Nat} {rest : Bytes} {spans : List Span}
    (ordered : Ordered offset (offset + rest.length) spans) :
    ∃ first pieces, rest = assemble first pieces ∧
      spans = spansOf (offset + first.length) pieces ∧
      splice replacement offset rest spans =
        assemble first (pieces.map fun x => (replacement, x.2)) := by
  induction spans generalizing offset rest with
  | nil => exact ⟨rest, [], by simp [assemble], rfl, by simp [splice, assemble]⟩
  | cons s spans ih =>
    obtain ⟨after, forward, inside⟩ := ordered.bounds s List.mem_cons_self
    have remains : (rest.drop (s.stop - offset)).length = offset + rest.length - s.stop := by
      rw [List.length_drop]
      omega
    have tail : Ordered s.stop (s.stop + (rest.drop (s.stop - offset)).length) spans := by
      have := ordered.tail
      rwa [← Nat.add_sub_of_le inside, ← remains] at this
    obtain ⟨gap, pieces, eq, places, spliced⟩ := ih tail
    have first : (rest.take (s.start - offset)).length = s.start - offset := by
      rw [List.length_take]
      omega
    have matched : ((rest.drop (s.start - offset)).take (s.stop - s.start)).length =
        s.stop - s.start := by
      rw [List.length_take, List.length_drop]
      omega
    have behind : rest.drop (s.stop - offset) =
        (rest.drop (s.start - offset)).drop (s.stop - s.start) := by
      rw [List.drop_drop]
      congr 1
      omega
    refine ⟨rest.take (s.start - offset),
      ((rest.drop (s.start - offset)).take (s.stop - s.start), gap) :: pieces, ?_, ?_, ?_⟩
    · have whole : gap ++ pieces.flatMap (fun x => x.1 ++ x.2) =
          (rest.drop (s.start - offset)).drop (s.stop - s.start) := by
        rw [← behind, eq, assemble]
      rw [assemble, List.flatMap_cons, List.append_assoc, whole, List.take_append_drop,
        List.take_append_drop]
    · rw [spansOf, first, matched]
      have start : offset + (s.start - offset) = s.start := by omega
      have stop : s.start + (s.stop - s.start) = s.stop := by omega
      rw [start, stop, ← places]
    · rw [splice, spliced]
      simp [assemble]

/-- Rules behind others go on with the text that these have left. -/
theorem applyAll_append (first second : List Rule) (content : Bytes) :
    applyAll (first ++ second) content =
      ((applyAll second (applyAll first content).1).1,
        (applyAll first content).2 ++ (applyAll second (applyAll first content).1).2) := by
  induction first generalizing content with
  | nil => rfl
  | cons r rest ih => simp [applyAll, ih]

end Retouch
