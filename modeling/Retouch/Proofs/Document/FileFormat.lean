import Retouch.Document.Format
import Retouch.Proofs.Path
import Retouch.Proofs.Text.Blank
import Retouch.Proofs.Text.Encoding

/-! Formats of files.
The format of a file is told by its last name, wherever the file is. -/
namespace Retouch

open CodePoint

namespace Bytes

theorem suffix_behind {s a b : Bytes} {x : UInt8} (apart : x ∉ s) :
    s <:+ a ++ x :: b ↔ s <:+ b := by
  constructor
  · intro ends
    rcases List.suffix_or_suffix_of_suffix ends (List.suffix_append a (x :: b)) with inside | whole
    · rcases List.suffix_cons_iff.mp inside with rfl | inside
      · exact absurd List.mem_cons_self apart
      · exact inside
    · exact absurd (whole.subset List.mem_cons_self) apart
  · intro ends
    exact (ends.trans (List.suffix_cons x b)).trans (List.suffix_append a (x :: b))

theorem suffix_append {s a b : Bytes} (apart : ∀ x ∈ a, x ∉ s) : s <:+ a ++ b ↔ s <:+ b := by
  induction a with
  | nil => exact Iff.rfl
  | cons x a ih =>
    rw [List.forall_mem_cons] at apart
    rw [← ih apart.2, List.cons_append, ← List.nil_append (x :: _), suffix_behind apart.1]

/-! Small letters. -/

theorem lowered_slash (a b : Bytes) :
    lowered (a ++ Path.slash :: b) = lowered a ++ Path.slash :: lowered b := by
  have starts : ∀ c, (Path.slash :: b).head? = some c → isContinuation c = false := by
    intro c head
    cases head
    rfl
  have here : read Path.slash b = ⟨0x2F, 1⟩ := read_ascii (by decide) b
  simp only [lowered, values, decode_append_of_head starts, decode_cons, here, List.map_append,
    List.map_cons, encodeAll_append, encodeAll_cons]
  rfl

theorem lowered_encode {v : Nat} (scalar : isScalar v = true) (same : lowerValue v = v)
    (b : Bytes) :
    lowered (encode v ++ b) = encode v ++ lowered b := by
  simp only [lowered, values, decode_encode scalar, List.map_cons, same, encodeAll_cons]

/-! White space at the ends. -/

def blankValues : List Nat :=
  [0x09, 0x0A, 0x0B, 0x0C, 0x0D, 0x20, 0x85, 0xA0, 0x1680, 0x2000, 0x2001, 0x2002, 0x2003, 0x2004,
    0x2005, 0x2006, 0x2007, 0x2008, 0x2009, 0x200A, 0x2028, 0x2029, 0x202F, 0x205F, 0x3000]

theorem mem_blankValues {v : Nat} (blank : isBlank v = true) : v ∈ blankValues := by
  simp only [isBlank, Bool.or_eq_true, Bool.and_eq_true, decide_eq_true_eq, beq_iff_eq] at blank
  simp only [blankValues, List.mem_cons, List.not_mem_nil, or_false]
  omega

theorem piece_blank (b : Bytes) :
    ∀ p ∈ pieces b, isBlankPiece p = true → p.2 = encode p.1.value := by
  induction b using decode_induction with
  | nil =>
    intro p member
    cases member
  | cons b rest ih =>
    rw [pieces_cons, List.forall_mem_cons]
    refine ⟨fun blank => ?_, ih⟩
    have other : (read b rest).value ≠ replacement := by
      intro same
      simp only [isBlankPiece, same] at blank
      cases blank
    have pos := read_width_pos b rest
    rw [encode_read (isMalformed_of_value other), ← Nat.sub_add_cancel pos, List.take_succ_cons]
    rfl

/-- The pieces without white space at their end. -/
def trimEnd (ps : List (CodePoint × Bytes)) : List (CodePoint × Bytes) :=
  (ps.reverse.dropWhile isBlankPiece).reverse

theorem trimBlanks_eq (b : Bytes) : trimBlanks b =
    (trimEnd (b.pieces.dropWhile isBlankPiece)).flatMap (·.2) := rfl

theorem dropWhile_behind {α : Type} {q : α → Bool} {x : α} (solid : q x = false)
    (front rest : List α) : (front ++ x :: rest).dropWhile q = front.dropWhile q ++ x :: rest := by
  induction front with
  | nil => rw [List.nil_append, List.dropWhile_cons, solid]; rfl
  | cons y front ih =>
    rw [List.cons_append, List.dropWhile_cons, List.dropWhile_cons]
    split
    · exact ih
    · rfl

theorem trimEnd_behind {p : CodePoint × Bytes} (solid : isBlankPiece p = false)
    (front rest : List (CodePoint × Bytes)) :
    trimEnd (front ++ p :: rest) = front ++ p :: trimEnd rest := by
  rw [trimEnd, List.reverse_append, List.reverse_cons, List.append_assoc, List.singleton_append,
    dropWhile_behind solid, List.reverse_append, List.reverse_cons, List.reverse_reverse,
    List.append_assoc, List.singleton_append]
  rfl

theorem trimEnd_blank {ps : List (CodePoint × Bytes)}
    (blank : ∀ p ∈ ps, isBlankPiece p = true) : trimEnd ps = [] := by
  rw [trimEnd, ← List.append_nil ps.reverse, List.dropWhile_append_of_pos]
  · rfl
  · intro p member
    exact blank p (List.mem_reverse.mp member)

/-- A trimmed path ends with its last name, of which only the white space behind it is gone. -/
theorem trimBlanks_slash (a b : Bytes) : ∃ lead,
    trimBlanks (a ++ Path.slash :: b) = lead ++ Path.slash :: (trimEnd b.pieces).flatMap (·.2) := by
  have starts : ∀ c, (Path.slash :: b).head? = some c → isContinuation c = false := by
    intro c head
    cases head
    rfl
  have here : read Path.slash b = ⟨0x2F, 1⟩ := read_ascii (by decide) b
  have solid : isBlankPiece (⟨0x2F, 1⟩, (Path.slash :: b).take 1) = false := rfl
  rw [trimBlanks_eq, pieces_append_of_head starts, pieces_cons, here, dropWhile_behind solid,
    trimEnd_behind solid, List.flatMap_append, List.flatMap_cons]
  exact ⟨_, rfl⟩

theorem suffix_blanks (text : Bytes) {ps : List (CodePoint × Bytes)}
    (blank : ∀ p ∈ ps, isBlankPiece p = true ∧ p.2 = encode p.1.value) :
    (".json" : Bytes) <:+ lowered (ps.flatMap (·.2) ++ text) ↔
      (".json" : Bytes) <:+ lowered text := by
  have plain : ∀ v ∈ blankValues, isScalar v = true ∧ lowerValue v = v ∧
      ∀ x ∈ encode v, x ∉ (".json" : Bytes) := by decide +kernel
  induction ps with
  | nil => exact Iff.rfl
  | cons p ps ih =>
    rw [List.forall_mem_cons] at blank
    obtain ⟨scalar, small, apart⟩ := plain p.1.value (mem_blankValues blank.1.1)
    rw [List.flatMap_cons, blank.1.2, List.append_assoc, lowered_encode scalar small,
      suffix_append apart]
    exact ih blank.2

/-- White space in front of a name is no part of its ending. -/
theorem suffix_trimEnd (b : Bytes) :
    (".json" : Bytes) <:+ lowered ((trimEnd b.pieces).flatMap (·.2)) ↔
      (".json" : Bytes) <:+ lowered (trimBlanks b) := by
  have known := piece_blank b
  rw [trimBlanks_eq]
  generalize b.pieces = ps at known ⊢
  have blank : ∀ p ∈ ps.takeWhile isBlankPiece, isBlankPiece p = true :=
    fun p member => List.all_eq_true.mp List.all_takeWhile p member
  rw [← List.takeWhile_append_dropWhile (p := isBlankPiece) (l := ps)] at known
  conv => lhs; rw [← List.takeWhile_append_dropWhile (p := isBlankPiece) (l := ps)]
  generalize ps.takeWhile isBlankPiece = front at known blank ⊢
  cases rest : ps.dropWhile isBlankPiece with
  | nil => rw [List.append_nil, trimEnd_blank blank]; rfl
  | cons p more =>
    have solid : isBlankPiece p = false := by
      have stops := List.head?_dropWhile_not isBlankPiece ps
      rw [rest] at stops
      simpa using stops
    have alone := trimEnd_behind solid [] more
    rw [List.nil_append, List.nil_append] at alone
    rw [trimEnd_behind solid, alone, List.flatMap_append]
    apply suffix_blanks
    intro p member
    exact ⟨blank p member, known p (List.mem_append_left _ member) (blank p member)⟩

end Bytes

namespace Document.Format

theorem accepts_cut {p front name : Bytes} (cut : Path.Cut p front name) (f : Format) :
    f.accepts p = f.accepts name := by
  obtain ⟨rfl, rfl | ⟨a, rfl⟩, _⟩ := cut
  · rfl
  rw [List.append_assoc, List.singleton_append]
  have ends {s : Bytes} (apart : Path.slash ∉ s) :
      s.isSuffixOf (Bytes.lowered (a ++ Path.slash :: name)) =
        s.isSuffixOf (Bytes.lowered name) := by
    rw [Bool.eq_iff_iff, List.isSuffixOf_iff_suffix, List.isSuffixOf_iff_suffix,
      Bytes.lowered_slash, Bytes.suffix_behind apart]
  cases f with
  | yaml => simp only [accepts, hasEnding, ends (by decide : Path.slash ∉ (".yaml" : Bytes)),
      ends (by decide : Path.slash ∉ (".yml" : Bytes))]
  | hcl => simp only [accepts, hasEnding, ends (by decide : Path.slash ∉ (".hcl" : Bytes))]
  | json =>
    obtain ⟨lead, trimmed⟩ := Bytes.trimBlanks_slash a name
    have apart : Path.slash ∉ (".json" : Bytes) := by decide
    rw [accepts, accepts, hasEnding, hasEnding, Bool.eq_iff_iff, List.isSuffixOf_iff_suffix,
      List.isSuffixOf_iff_suffix, trimmed, Bytes.lowered_slash, Bytes.suffix_behind apart,
      Bytes.suffix_trimEnd]

theorem ofFile?_cut {p front name : Bytes} (cut : Path.Cut p front name) :
    ofFile? p = ofFile? name := by
  simp only [ofFile?, accepts_cut cut]

end Document.Format

end Retouch
