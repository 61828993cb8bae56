import Retouch.Proofs.Regexp.Row
import Retouch.Proofs.Text.Layout

/-! Scans of a row along the bytes.
A row takes whole code points, so its scan can be followed on the text itself: a hit is passed at
once, and a miss by one code point. -/
namespace Retouch.Regexp

open CodePoint

theorem contains_read (b : UInt8) (rest : Bytes) :
    blanks.contains (read b rest).value = isLayout b := by
  by_cases ascii : b < 0x80
  · rw [read_ascii ascii, Bool.eq_iff_iff]
    simp only [blanks, CharSet.contains, List.any_cons, List.any_nil, isLayout, Bool.or_eq_true,
      Bool.and_eq_true, decide_eq_true_eq, beq_iff_eq, Bool.or_false, ← UInt8.toNat_inj,
      UInt8.reduceToNat]
    omega
  · have high : 0x80 ≤ b.toNat := by
      simpa [UInt8.lt_iff_toNat_lt] using ascii
    have above : 0x80 ≤ (read b rest).value := by
      apply Nat.le_of_not_lt
      intro below
      have same := read_value_ascii below
      omega
    have dense : isLayout b = false := by
      simp only [isLayout, Bool.or_eq_false_iff, beq_eq_false_iff_ne, ne_eq, ← UInt8.toNat_inj,
        UInt8.reduceToNat]
      omega
    rw [dense]
    simp only [blanks, CharSet.contains, List.any_cons, List.any_nil, Bool.or_false,
      Bool.or_eq_false_iff, Bool.and_eq_false_iff, decide_eq_false_iff_not]
    omega

theorem read_layout {b : UInt8} (blank : isLayout b = true) (rest : Bytes) :
    read b rest = ⟨b.toNat, 1⟩ := by
  apply read_ascii
  simp only [isLayout, Bool.or_eq_true, beq_iff_eq] at blank
  rcases blank with (((rfl | rfl) | rfl) | rfl) | rfl <;> decide

theorem run_decode {steps : List Step} {text : Bytes} {n : Nat}
    (hit : Step.run steps (decode text) = some n) :
    n ≤ text.length ∧ ∃ points, decode text = points ++ decode (text.drop n) ∧
      totalWidth points = n := by
  induction text using decode_induction generalizing steps n with
  | nil =>
    cases steps with
    | nil => cases hit; exact ⟨Nat.zero_le _, [], rfl, rfl⟩
    | cons => cases hit
  | cons b rest ih =>
    cases steps with
    | nil => cases hit; exact ⟨Nat.zero_le _, [], rfl, rfl⟩
    | cons s steps =>
      have length := length_drop_read b rest
      rw [decode_cons, Step.run] at hit
      split at hit
      · cases hit
      · obtain ⟨m, tail, rfl⟩ := Option.map_eq_some_iff.mp hit
        obtain ⟨le, points, split, sum⟩ := ih tail
        refine ⟨by omega, read b rest :: points, ?_, by rw [totalWidth, sum]⟩
        rw [decode_cons, split, List.drop_drop, List.cons_append]

theorem scan_skip {steps : List Step} {resume offset : Nat} {points rest : List CodePoint}
    (wide : ∀ c ∈ points, 0 < c.width) (ahead : offset + totalWidth points ≤ resume) :
    Step.scan steps resume offset (points ++ rest) =
      Step.scan steps resume (offset + totalWidth points) rest := by
  induction points generalizing offset with
  | nil => rfl
  | cons c points ih =>
    have pos := wide c List.mem_cons_self
    rw [totalWidth] at ahead ⊢
    rw [List.cons_append, Step.scan, if_pos (by omega),
      ih (fun d member => wide d (List.mem_cons_of_mem _ member)) (by omega), Nat.add_assoc]

theorem scan_resume {steps : List Step} {resume offset : Nat} (behind : resume ≤ offset)
    (points : List CodePoint) :
    Step.scan steps resume offset points = Step.scan steps offset offset points := by
  induction points generalizing resume offset with
  | nil => rfl
  | cons c rest ih =>
    rw [Step.scan, Step.scan, if_neg (Nat.not_lt.mpr behind), if_neg (Nat.lt_irrefl _)]
    have same : Step.scan steps resume (offset + c.width) rest =
        Step.scan steps offset (offset + c.width) rest := by
      rw [ih (by omega), ih (Nat.le_add_right _ _)]
    rw [same]

/-- The places in a text where the steps run through, when it starts at an offset. -/
def Step.scanFrom (steps : List Step) (offset : Nat) (text : Bytes) : List Span :=
  Step.scan steps offset offset (decode text)

theorem scanFrom_hit {steps : List Step} (offset : Nat) {text : Bytes} {n : Nat} (pos : 0 < n)
    (hit : Step.run steps (decode text) = some n) :
    Step.scanFrom steps offset text =
      ⟨offset, offset + n⟩ :: Step.scanFrom steps (offset + n) (text.drop n) := by
  cases text with
  | nil =>
    cases steps with
    | nil => cases hit; exact absurd pos (Nat.lt_irrefl 0)
    | cons => cases hit
  | cons b rest =>
    obtain ⟨_, points, split, sum⟩ := run_decode hit
    have wide : ∀ c ∈ points, 0 < c.width := by
      intro c member
      exact decode_width_pos (b :: rest) c (by rw [split]; exact List.mem_append_left _ member)
    have behind : Step.scan steps (offset + n) offset (points ++ decode ((b :: rest).drop n)) =
        Step.scan steps (offset + n) (offset + n) (decode ((b :: rest).drop n)) := by
      rw [scan_skip wide (by omega), sum]
    rw [← split, decode_cons, Step.scan, if_pos (by omega)] at behind
    rw [decode_cons] at hit
    rw [Step.scanFrom, decode_cons, Step.scan, if_neg (Nat.lt_irrefl _), hit]
    exact congrArg _ behind

theorem scanFrom_miss {steps : List Step} (offset : Nat) {b : UInt8} {rest : Bytes}
    (miss : Step.run steps (decode (b :: rest)) = none) :
    Step.scanFrom steps offset (b :: rest) =
      Step.scanFrom steps (offset + (read b rest).width)
        ((b :: rest).drop (read b rest).width) := by
  rw [decode_cons] at miss
  rw [Step.scanFrom, decode_cons, Step.scan, if_neg (Nat.lt_irrefl _), miss]
  exact scan_resume (Nat.le_add_right _ _) _

theorem run_decode_pos {steps : List Step} (nonempty : steps ≠ []) {text : Bytes} {n : Nat}
    (hit : Step.run steps (decode text) = some n) : 0 < n := by
  cases text with
  | nil =>
    obtain ⟨s, more, rfl⟩ := List.exists_cons_of_ne_nil nonempty
    cases hit
  | cons b rest =>
    rw [decode_cons] at hit
    exact run_pos nonempty (read_width_pos b rest) hit

/-- The scan reaches the end of every text by hits and misses. -/
theorem scan_induction {steps : List Step} (nonempty : steps ≠ []) {motive : Bytes → Prop}
    (nil : motive [])
    (hit : ∀ text n, Step.run steps (decode text) = some n → 0 < n → n ≤ text.length →
      motive (text.drop n) → motive text)
    (miss : ∀ b rest, Step.run steps (decode (b :: rest)) = none →
      motive ((b :: rest).drop (read b rest).width) → motive (b :: rest))
    (text : Bytes) : motive text := by
  induction h : text.length using Nat.strongRecOn generalizing text with
  | ind k ih =>
    cases text with
    | nil => exact nil
    | cons b rest =>
      rw [List.length_cons] at h
      cases found : Step.run steps (decode (b :: rest)) with
      | some n =>
        have pos := run_decode_pos nonempty found
        refine hit _ n found pos (run_decode found).1 (ih _ ?_ _ rfl)
        rw [List.length_drop, List.length_cons]
        omega
      | none =>
        have pos := read_width_pos b rest
        refine miss b rest found (ih _ ?_ _ rfl)
        rw [List.length_drop, List.length_cons]
        omega

/-- A run of blanks is taken whole, since the step behind it asks for something else. -/
theorem run_more {steps : List Step} (clear : Step.Clear steps) {gap rest : Bytes}
    (layout : Layout gap) (ends : Flush rest) :
    Step.run (.more :: steps) (decode (gap ++ rest)) =
      (Step.run steps (decode rest)).map (gap.length + ·) := by
  obtain ⟨s, more, rfl⟩ : ∃ s more, steps = s :: more := by
    cases steps with
    | nil => cases clear
    | cons s more => exact ⟨s, more, rfl⟩
  induction gap with
  | nil =>
    cases rest with
    | nil => rfl
    | cons b rest =>
      have dense := ends b rfl
      rw [← contains_read b rest] at dense
      rw [List.nil_append, decode_cons, Step.run, Step.run, Step.next, dense]
      simp
  | cons g gap ih =>
    have blank : isLayout g = true := layout g List.mem_cons_self
    have one : (read g (gap ++ rest)).width = 1 := by rw [read_layout blank]
    have tail := ih fun b member => layout b (List.mem_cons_of_mem _ member)
    rw [← contains_read g (gap ++ rest)] at blank
    rw [List.cons_append, decode_cons, Step.run, Step.next, if_pos blank, one]
    simp only [List.drop_succ_cons, List.drop_zero, tail, Option.map_map, List.length_cons]
    congr 1
    funext n
    simp only [Function.comp_apply]
    omega

theorem run_gap {steps : List Step} (clear : Step.Clear steps) {gap rest : Bytes}
    (layout : Layout gap) (nonempty : gap ≠ []) (ends : Flush rest) :
    Step.run (.gap :: steps) (decode (gap ++ rest)) =
      (Step.run steps (decode rest)).map (gap.length + ·) := by
  obtain ⟨g, gap, rfl⟩ := List.exists_cons_of_ne_nil nonempty
  rw [← run_more clear layout ends, List.cons_append, decode_cons]
  have blank : blanks.contains (read g (gap ++ rest)).value = true := by
    rw [contains_read]
    exact layout g List.mem_cons_self
  simp only [Step.run, Step.next, blank, if_true]

theorem run_gap_none {steps : List Step} {text : Bytes} (flush : Flush text) :
    Step.run (.gap :: steps) (decode text) = none := by
  cases text with
  | nil => rfl
  | cons b rest =>
    have dense := flush b rfl
    rw [← contains_read b rest] at dense
    rw [decode_cons, Step.run, Step.next, dense]
    rfl

theorem run_gap_iff {steps : List Step} (clear : Step.Clear steps) {text : Bytes} {n : Nat} :
    Step.run (.gap :: steps) (decode text) = some n ↔
      ∃ gap rest m, text = gap ++ rest ∧ gap ≠ [] ∧ Layout gap ∧ Flush rest ∧
        Step.run steps (decode rest) = some m ∧ n = gap.length + m := by
  constructor
  · intro hit
    obtain ⟨gap, rest, rfl, layout, flush⟩ := layout_split text
    by_cases empty : gap = []
    · rw [empty, List.nil_append, run_gap_none flush] at hit
      cases hit
    · rw [run_gap clear layout empty flush, Option.map_eq_some_iff] at hit
      obtain ⟨m, behind, rfl⟩ := hit
      exact ⟨gap, rest, m, rfl, empty, layout, flush, behind, rfl⟩
  · rintro ⟨gap, rest, m, rfl, nonempty, layout, flush, behind, rfl⟩
    rw [run_gap clear layout nonempty flush, behind]
    rfl

end Retouch.Regexp
