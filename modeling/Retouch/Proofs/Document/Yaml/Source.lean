import Retouch.Document.Yaml.Source
import Retouch.Proofs.Text.Encoding

/-! Characters read from blocks.
The blocks of a text of allowed characters hold all of them, as a character that does not fit into
a block is left to the next one. -/
namespace Retouch.Document.Yaml

open CodePoint (encode encodeAll)

theorem announced_encode {v : Nat} (scalar : CodePoint.isScalar v = true) {b : UInt8} {tail : Bytes}
    (written : encode v = b :: tail) : announced b = tail.length + 1 := by
  have range := CodePoint.isScalar_iff.mp scalar
  rw [encode, if_pos scalar] at written
  unfold announced
  simp only [UInt8.lt_iff_toNat_lt, UInt8.reduceToNat]
  split at written
  · cases written
    rw [CodePoint.toNat_toUInt8 (by omega), if_pos (by omega)]
    rfl
  split at written
  · cases written
    rw [CodePoint.toNat_toUInt8 (by omega), if_neg (by omega), if_neg (by omega),
      if_pos (by omega)]
    rfl
  split at written
  · cases written
    rw [CodePoint.toNat_toUInt8 (by omega), if_neg (by omega), if_neg (by omega),
      if_neg (by omega), if_pos (by omega)]
    rfl
  · cases written
    rw [CodePoint.toNat_toUInt8 (by omega), if_neg (by omega), if_neg (by omega),
      if_neg (by omega), if_neg (by omega), if_pos (by omega)]
    rfl

theorem utf8_encode {v : Nat} (scalar : CodePoint.isScalar v = true) (text : Bytes) :
    utf8 (encode v ++ text) = some ⟨v, (encode v).length⟩ := by
  obtain ⟨b, tail, written, reads⟩ := CodePoint.read_encode scalar
  have announces := announced_encode scalar written
  have well := @CodePoint.isMalformed_encode v
  rw [written] at well ⊢
  rw [List.cons_append, utf8]
  simp only [List.length_cons] at well ⊢
  simp [announces, reads, well]

theorem readBlock_skip (encoding : Encoding) (passed : Bytes) (room : Nat) (text : Bytes) :
    readBlock encoding passed.length room (passed ++ text) =
      readBlock encoding 0 (room - passed.length) text := by
  induction passed generalizing room with
  | nil => rfl
  | cons b passed ih =>
    rw [List.length_cons, List.cons_append, readBlock, ih]
    congr 1
    omega

/-- A block holds the first characters of a text, and if it has room for any character at least
one. -/
theorem readBlock_encodeAll {cs : List Nat} (scalars : ∀ c ∈ cs, CodePoint.isScalar c = true)
    (allowed : ∀ c ∈ cs, isAllowed c = true) (room : Nat) :
    ∃ inside left, cs = inside ++ left ∧
      readBlock utf8 0 room (encodeAll cs) = some (inside, encodeAll left) ∧
      (4 ≤ room → cs ≠ [] → inside ≠ []) := by
  induction cs generalizing room with
  | nil => exact ⟨[], [], rfl, rfl, fun _ some => absurd rfl some⟩
  | cons v cs ih =>
    rw [List.forall_mem_cons] at scalars allowed
    obtain ⟨b, tail, written, _⟩ := CodePoint.read_encode scalars.1
    have reads := utf8_encode scalars.1 (encodeAll cs)
    have short : tail.length + 1 ≤ 4 := by
      have announces := announced_encode scalars.1 written
      unfold announced at announces
      repeat' split at announces
      all_goals omega
    rw [CodePoint.encodeAll_cons]
    rw [written] at reads ⊢
    rw [List.cons_append] at reads ⊢
    rw [readBlock, reads]
    by_cases fits : tail.length + 1 ≤ room
    · obtain ⟨inside, left, rfl, block, _⟩ := ih scalars.2 allowed.2 (room - 1 - tail.length)
      refine ⟨v :: inside, left, rfl, ?_, fun _ _ => List.cons_ne_nil _ _⟩
      have positive : room ≠ 0 := by omega
      have inside : ¬ room < tail.length + 1 := by omega
      simp only [List.length_cons, beq_iff_eq, positive, inside, if_false, allowed.1, Bool.not_true,
        Bool.false_eq_true, Nat.add_sub_cancel]
      rw [readBlock_skip, block]
      rfl
    · refine ⟨[], v :: cs, rfl, ?_, fun large => absurd large (by omega)⟩
      have outside : room < tail.length + 1 := by omega
      simp only [List.length_cons, outside, if_true, CodePoint.encodeAll_cons, written,
        List.cons_append, ite_self]

theorem readBlocks_encodeAll {cs : List Nat} (scalars : ∀ c ∈ cs, CodePoint.isScalar c = true)
    (allowed : ∀ c ∈ cs, isAllowed c = true) {fuel room : Nat} (enough : cs.length < fuel)
    (large : 4 ≤ room) : readBlocks utf8 fuel room (encodeAll cs) = ⟨cs, false⟩ := by
  induction fuel generalizing cs room with
  | zero => omega
  | succ fuel ih =>
    obtain ⟨inside, left, rfl, block, progress⟩ := readBlock_encodeAll scalars allowed room
    rw [readBlocks, block]
    cases left with
    | nil => simp
    | cons v left =>
      have some : encodeAll (v :: left) ≠ [] := by
        simp [CodePoint.encode_ne_nil]
      have more : readBlocks utf8 fuel blockSize (encodeAll (v :: left)) = ⟨v :: left, false⟩ := by
        have nonempty := List.length_pos_iff.mpr (progress large (by simp))
        refine ih (fun c member => scalars c (List.mem_append_right _ member))
          (fun c member => allowed c (List.mem_append_right _ member)) ?_ (by decide)
        simp only [List.length_append] at enough
        omega
      generalize encodeAll (v :: left) = rest at some more
      cases rest with
      | nil => exact absurd rfl some
      | cons b rest => simp [more]

/-- The characters of a text of allowed characters that starts with an opening brace. -/
theorem ofBytes_encodeAll {cs : List Nat} (scalars : ∀ c ∈ cs, CodePoint.isScalar c = true)
    (allowed : ∀ c ∈ cs, isAllowed c = true) (starts : cs.head? = some 0x7B) :
    Source.ofBytes (encodeAll cs) = ⟨cs, false⟩ := by
  have enough : cs.length < (encodeAll cs).length + 1 := by
    have bytes := CodePoint.length_encodeAll cs
    omega
  have blocks := readBlocks_encodeAll scalars allowed enough (show 4 ≤ blockSize by decide)
  cases cs with
  | nil => cases starts
  | cons v cs =>
    cases starts
    rw [← blocks]
    rfl

end Retouch.Document.Yaml
