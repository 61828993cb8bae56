import Retouch.Proofs.Text.Boundary
import Retouch.Proofs.Text.Encoding
import Retouch.Text.Blank

/-! White space in texts.
The fields of a text are its longest pieces without white space. A text is read the same on both
sides of white space, malformed bytes included, so fields can be put together with other white space
between them. -/
namespace Retouch

open CodePoint

namespace Bytes

theorem pieces_cons (b : UInt8) (rest : Bytes) :
    pieces (b :: rest) = (read b rest, (b :: rest).take (read b rest).width) ::
      pieces ((b :: rest).drop (read b rest).width) := by
  rw [pieces, decode_cons]
  rfl

theorem pieces_append_of_head {y : Bytes}
    (starts : ∀ c, y.head? = some c → isContinuation c = false) (x : Bytes) :
    pieces (x ++ y) = pieces x ++ pieces y := by
  induction x using decode_induction with
  | nil => rfl
  | cons b rest ih =>
    have inside := read_width_le_length b rest
    rw [List.cons_append, pieces_cons, pieces_cons, read_append_of_head starts, ← List.cons_append,
      List.drop_append_of_le_length inside, List.take_append_of_le_length inside, ih,
      List.cons_append]

def isBlankPiece (p : CodePoint × Bytes) : Bool := isBlank p.1.value

theorem flatMap_pieces (text : Bytes) : (pieces text).flatMap (·.2) = text := by
  induction text using decode_induction with
  | nil => rfl
  | cons b rest ih => rw [pieces_cons, List.flatMap_cons, ih, List.take_append_drop]

theorem values_pieces (text : Bytes) : (pieces text).map (·.1.value) = values text := by
  induction text using decode_induction with
  | nil => rfl
  | cons b rest ih => rw [pieces_cons, values_cons, List.map_cons, ih]

end Bytes

def Dense (text : Bytes) : Prop := ∀ v ∈ values text, isBlank v = false

def Edge (text : Bytes) : Prop :=
  ∀ b rest, text = b :: rest → isBlank (read b rest).value = true

theorem Edge.head {text : Bytes} (edge : Edge text) :
    ∀ c, text.head? = some c → isContinuation c = false := by
  intro c head
  obtain ⟨rest, rfl⟩ := List.head?_eq_some_iff.mp head
  have blank := edge c rest rfl
  cases cont : isContinuation c with
  | false => rfl
  | true =>
    rw [read_continuation cont] at blank
    cases blank

theorem edge_nil : Edge [] := by
  intro b rest none
  cases none

theorem edge_blank {b : UInt8} {rest : Bytes} (blank : isBlank (read b rest).value = true) :
    Edge (b :: rest) := by
  rintro c more same
  cases same
  exact blank

theorem values_append_of_head {y : Bytes}
    (starts : ∀ c, y.head? = some c → isContinuation c = false) (x : Bytes) :
    values (x ++ y) = values x ++ values y := by
  rw [values, decode_append_of_head starts, List.map_append]
  rfl

/-- The longest start of a text without white space. -/
theorem dense_split (text : Bytes) : ∃ word rest, text = word ++ rest ∧ Dense word ∧ Edge rest := by
  induction text using decode_induction with
  | nil => exact ⟨[], [], rfl, by simp [Dense, values], edge_nil⟩
  | cons b rest ih =>
    cases blank : isBlank (read b rest).value with
    | true => exact ⟨[], b :: rest, rfl, by simp [Dense, values], edge_blank blank⟩
    | false =>
      obtain ⟨word, more, split, dense, edge⟩ := ih
      have whole : b :: rest = (b :: rest).take (read b rest).width ++ word ++ more := by
        rw [List.append_assoc, ← split, List.take_append_drop]
      have points := values_cons b rest
      rw [split, values_append_of_head edge.head, ← List.cons_append] at points
      conv at points => lhs; rw [whole, values_append_of_head edge.head]
      refine ⟨_, more, whole, ?_, edge⟩
      rw [Dense, List.append_cancel_right points, List.forall_mem_cons]
      exact ⟨blank, dense⟩

/-- Every text is built from its end by white space and by whole words in front of an edge. -/
theorem blank_induction {motive : Bytes → Prop} (nil : motive [])
    (blank : ∀ b rest, isBlank (read b rest).value = true →
      motive ((b :: rest).drop (read b rest).width) → motive (b :: rest))
    (word : ∀ w rest, w ≠ [] → Dense w → Edge rest → motive rest → motive (w ++ rest))
    (text : Bytes) : motive text := by
  induction h : text.length using Nat.strongRecOn generalizing text with
  | ind n ih =>
    obtain ⟨w, rest, rfl, dense, edge⟩ := dense_split text
    by_cases some : w = []
    · subst some
      cases rest with
      | nil => exact nil
      | cons b rest =>
        have shorter := length_drop_read b rest
        have pos := read_width_pos b rest
        exact blank b rest (edge b rest rfl) (ih _ (by rw [← h, List.nil_append]; omega) _ rfl)
    · have pos := List.length_pos_iff.mpr some
      rw [List.length_append] at h
      exact word w rest some dense edge (ih _ (by omega) _ rfl)

/-! The fields of a text. -/

/-- The text consists of these words, none of them empty, with white space between each two of them
and any white space around them. -/
inductive Fielded : List Bytes → Bytes → Prop where
  | nil : Fielded [] []
  | blank {words : List Bytes} (b : UInt8) (rest : Bytes) : isBlank (read b rest).value = true →
      Fielded words ((b :: rest).drop (read b rest).width) → Fielded words (b :: rest)
  | word {words : List Bytes} (w rest : Bytes) : w ≠ [] → Dense w → Edge rest →
      Fielded words rest → Fielded (w :: words) (w ++ rest)

namespace Bytes

/-- The segments between single pieces of white space, some of them empty. -/
def blankSegments (ps : List (CodePoint × Bytes)) : List Bytes :=
  ps.foldr (fun p acc =>
    if isBlankPiece p then [] :: acc
    else match acc with
      | [] => [p.2]
      | w :: more => (p.2 ++ w) :: more) [[]]

theorem fields_eq (text : Bytes) : fields text = (blankSegments text.pieces).filter (· ≠ []) := rfl

theorem blankSegments_edge {rest : Bytes} (edge : Edge rest) :
    ∃ more, blankSegments rest.pieces = [] :: more := by
  cases rest with
  | nil => exact ⟨[], rfl⟩
  | cons b rest =>
    have blank : isBlankPiece (read b rest, (b :: rest).take (read b rest).width) = true :=
      edge b rest rfl
    rw [pieces_cons, blankSegments, List.foldr_cons, if_pos blank]
    exact ⟨_, rfl⟩

theorem blankSegments_word {ps qs : List (CodePoint × Bytes)} {more : List Bytes}
    (dense : ∀ p ∈ ps, isBlankPiece p = false) (ends : blankSegments qs = [] :: more) :
    blankSegments (ps ++ qs) = ps.flatMap (·.2) :: more := by
  induction ps with
  | nil => exact ends
  | cons p ps ih =>
    rw [List.forall_mem_cons] at dense
    have tail := ih dense.2
    rw [blankSegments] at tail ⊢
    rw [List.cons_append, List.foldr_cons, tail, dense.1]
    rfl

theorem fields_blank {b : UInt8} {rest : Bytes} (blank : isBlank (read b rest).value = true) :
    fields (b :: rest) = fields ((b :: rest).drop (read b rest).width) := by
  have here : isBlankPiece (read b rest, (b :: rest).take (read b rest).width) = true := blank
  rw [fields_eq, fields_eq, pieces_cons, blankSegments, List.foldr_cons, if_pos here]
  rfl

theorem fields_word {w rest : Bytes} (some : w ≠ []) (dense : Dense w) (edge : Edge rest) :
    fields (w ++ rest) = w :: fields rest := by
  obtain ⟨more, ends⟩ := blankSegments_edge edge
  have solid : ∀ p ∈ w.pieces, isBlankPiece p = false := by
    intro p member
    apply dense
    rw [← values_pieces]
    exact List.mem_map_of_mem member
  rw [fields_eq, fields_eq, pieces_append_of_head edge.head, blankSegments_word solid ends, ends,
    flatMap_pieces]
  simp [some]

/-- The fields are the longest pieces of a text without white space. -/
theorem fielded_fields (text : Bytes) : Fielded (fields text) text := by
  induction text using blank_induction with
  | nil => exact .nil
  | blank b rest blank ih =>
    rw [fields_blank blank]
    exact .blank b rest blank ih
  | word w rest some dense edge ih =>
    rw [fields_word some dense edge]
    exact .word w rest some dense edge ih

theorem fields_of_fielded {words : List Bytes} {text : Bytes} (fielded : Fielded words text) :
    fields text = words := by
  induction fielded with
  | nil => rfl
  | blank b rest blank _ ih => rw [fields_blank blank, ih]
  | word w rest some dense edge _ ih => rw [fields_word some dense edge, ih]

end Bytes

/-! Words with single spaces between them. -/

theorem intercalate_two {α : Type} (sep : α) (w next : List α) (words : List (List α)) :
    [sep].intercalate (w :: next :: words) = w ++ sep :: [sep].intercalate (next :: words) := by
  rw [List.intercalate_cons_cons, List.append_assoc, List.singleton_append]

theorem Fielded.dense {words : List Bytes} {text : Bytes} (fielded : Fielded words text) :
    ∀ w ∈ words, w ≠ [] ∧ Dense w := by
  induction fielded with
  | nil => simp
  | blank b rest _ _ ih => exact ih
  | word w rest some dense _ _ ih =>
    rw [List.forall_mem_cons]
    exact ⟨⟨some, dense⟩, ih⟩

theorem edge_space (rest : Bytes) : Edge (0x20 :: rest) := by
  apply edge_blank
  rw [read_ascii (by decide)]
  rfl

theorem Fielded.space {words : List Bytes} {text : Bytes} (fielded : Fielded words text) :
    Fielded words (0x20 :: text) := by
  have here : read 0x20 text = ⟨0x20, 1⟩ := read_ascii (by decide) text
  apply Fielded.blank
  · rw [here]
    rfl
  · rw [here]
    exact fielded

theorem fielded_intercalate {words : List Bytes} (dense : ∀ w ∈ words, w ≠ [] ∧ Dense w) :
    Fielded words ([0x20].intercalate words) := by
  induction words with
  | nil => exact .nil
  | cons w words ih =>
    rw [List.forall_mem_cons] at dense
    have rest := ih dense.2
    cases words with
    | nil =>
      have alone := Fielded.word w [] dense.1.1 dense.1.2 edge_nil .nil
      simpa using alone
    | cons next words =>
      rw [intercalate_two]
      exact .word w _ dense.1.1 dense.1.2 (edge_space _) rest.space

theorem values_intercalate (words : List Bytes) :
    values ([0x20].intercalate words) = [0x20].intercalate (words.map values) := by
  induction words with
  | nil => rfl
  | cons w words ih =>
    cases words with
    | nil => simp
    | cons next words =>
      have space : values (0x20 :: [0x20].intercalate (next :: words)) =
          0x20 :: values ([0x20].intercalate (next :: words)) := by
        rw [values_cons, read_ascii (by decide)]
        rfl
      rw [intercalate_two, values_append_of_head (edge_space _).head, space, ih, List.map_cons,
        List.map_cons, List.map_cons, intercalate_two]

end Retouch
