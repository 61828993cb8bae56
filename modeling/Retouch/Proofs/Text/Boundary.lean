import Retouch.Proofs.Scan
import Retouch.Proofs.Text.CodePoint

/-! Code point boundaries.
The places between the code points of a text are where it can be cut into well-formed pieces. No
well-formed text stands across one: its first byte starts a code point wherever it is met. -/
namespace Retouch.CodePoint

/-- A code point of the text starts at the offset, or the text ends there. -/
def Boundary (text : Bytes) (offset : Nat) : Prop :=
  ∃ lead rest, decode text = lead ++ rest ∧ totalWidth lead = offset

theorem Boundary.zero (text : Bytes) : Boundary text 0 := ⟨[], decode text, rfl, rfl⟩

theorem Boundary.behind_read {b : UInt8} {rest : Bytes} {offset : Nat}
    (inside : Boundary ((b :: rest).drop (read b rest).width) offset) :
    Boundary (b :: rest) ((read b rest).width + offset) := by
  obtain ⟨lead, more, eq, rfl⟩ := inside
  exact ⟨read b rest :: lead, more, by rw [decode_cons, eq]; rfl, rfl⟩

/-! Well-formed pieces. -/

theorem isValid_append {x : Bytes} (valid : isValid x = true) (y : Bytes) :
    isValid (x ++ y) = isValid y := by
  rw [isValid, decode_append valid, List.all_append]
  exact Eq.trans (congrArg (· && isValid y) valid) (Bool.true_and _)

theorem read_append_of_head {y : Bytes} (starts : ∀ c, y.head? = some c → isContinuation c = false)
    (b : UInt8) (rest : Bytes) : read b (rest ++ y) = read b rest := by
  have cut : (rest ++ y).takeWhile isContinuation = rest.takeWhile isContinuation := by
    cases y with
    | nil => rw [List.append_nil]
    | cons c y =>
      have stops := starts c rfl
      rw [List.takeWhile_append, List.takeWhile_cons_of_neg (by simp [stops])]
      split
      · rename_i whole
        have all := (List.takeWhile_prefix (l := rest) isContinuation).eq_of_length whole
        rw [all, List.append_nil]
      · rfl
  rw [← read_takeWhile, cut, read_takeWhile]

/-- A text is read up to a byte that continues no sequence as if it ended there. -/
theorem decode_append_of_head {y : Bytes}
    (starts : ∀ c, y.head? = some c → isContinuation c = false) (x : Bytes) :
    decode (x ++ y) = decode x ++ decode y := by
  induction x using decode_induction with
  | nil => rfl
  | cons b rest ih =>
    have inside := read_width_le_length b rest
    rw [List.cons_append, decode_cons, decode_cons, read_append_of_head starts, ← List.cons_append,
      List.drop_append_of_le_length inside, ih, List.cons_append]

theorem isValid_append_of_head {y : Bytes}
    (starts : ∀ c, y.head? = some c → isContinuation c = false) (x : Bytes) :
    isValid (x ++ y) = (isValid x && isValid y) := by
  rw [isValid, decode_append_of_head starts, List.all_append]
  rfl

theorem isValid_take_read {b : UInt8} {rest : Bytes} (well : (read b rest).isMalformed = false) :
    isValid ((b :: rest).take (read b rest).width) = true := by
  rcases read_cases b rest with malformed | ⟨tail, more, split, _, width, _, same⟩
  · rw [malformed] at well
    cases well
  · have alone := same []
    rw [List.append_nil] at alone
    have piece : (b :: rest).take (read b rest).width = b :: tail := by
      rw [width, split, List.take_succ_cons, List.take_left]
    rw [piece, isValid_cons, alone, well, width, List.drop_succ_cons, List.drop_length]
    rfl

theorem Boundary.isValid_take {text : Bytes} {offset : Nat} (valid : isValid text = true)
    (boundary : Boundary text offset) : isValid (text.take offset) = true := by
  obtain ⟨lead, rest, eq, rfl⟩ := boundary
  induction lead generalizing text with
  | nil => rfl
  | cons c lead ih =>
    cases text with
    | nil => cases eq
    | cons b text =>
      rw [isValid_cons, Bool.and_eq_true, Bool.not_eq_true'] at valid
      rw [decode_cons, List.cons_append, List.cons.injEq] at eq
      obtain ⟨rfl, eq⟩ := eq
      rw [totalWidth, List.take_add, isValid_append (isValid_take_read valid.1)]
      exact ih valid.2 eq

/-- A well-formed text is cut at a boundary exactly if the part in front is well formed as well. -/
theorem boundary_append {x y : Bytes} (valid : isValid (x ++ y) = true) :
    Boundary (x ++ y) x.length ↔ isValid x = true := by
  constructor
  · intro boundary
    have front := boundary.isValid_take valid
    rwa [List.take_left] at front
  · intro front
    exact ⟨decode x, decode y, decode_append front y, totalWidth_decode x⟩

/-! Searches for bytes. -/

/-- Every byte but a continuation byte starts a code point, even a malformed one. -/
theorem boundary_of_head {text rest : Bytes} {b : UInt8} {offset : Nat}
    (here : text.drop offset = b :: rest) (head : isContinuation b = false) :
    Boundary text offset := by
  induction text using decode_induction generalizing offset with
  | nil =>
    rw [List.drop_nil] at here
    cases here
  | cons c text ih =>
    by_cases first : offset = 0
    · subst first
      exact .zero _
    · by_cases inside : offset < (read c text).width
      · obtain ⟨d, more, eq, cont⟩ := drop_inside (Nat.pos_of_ne_zero first) inside
        rw [here, List.cons.injEq] at eq
        rw [eq.1, cont] at head
        cases head
      · obtain ⟨further, rfl⟩ := Nat.exists_eq_add_of_le (Nat.le_of_not_lt inside)
        rw [← List.drop_drop] at here
        exact (ih here).behind_read

theorem boundaries_of_occursAt {word content : Bytes} {start stop : Nat} (nonempty : word ≠ [])
    (wordValid : isValid word = true) (valid : isValid content = true)
    (occurs : OccursAt (· = word) content start stop) :
    Boundary content start ∧ Boundary content stop := by
  obtain ⟨before, _, after, rfl, rfl, rfl, rfl⟩ := occurs
  obtain ⟨b, rest, rfl⟩ := List.exists_cons_of_ne_nil nonempty
  have start : Boundary (before ++ (b :: rest ++ after)) before.length := by
    apply boundary_of_head _ (head_of_valid wordValid)
    · exact rest ++ after
    · rw [List.drop_left, List.cons_append]
  refine ⟨start, ?_⟩
  have front := (boundary_append valid).mp start
  rw [← List.append_assoc] at valid ⊢
  rw [← List.length_append]
  apply (boundary_append valid).mpr
  rwa [isValid_append front]

end Retouch.CodePoint
