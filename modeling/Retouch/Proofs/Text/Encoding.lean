import Retouch.Proofs.Text.CodePoint

/-! Reading back what was written.
The bytes of scalar values are read as these values, whatever follows. -/
namespace Retouch.CodePoint

theorem isScalar_iff {v : Nat} :
    isScalar v = true ↔ v < 0xD800 ∨ 0xE000 ≤ v ∧ v ≤ 0x10FFFF := by
  simp [isScalar]

theorem toNat_toUInt8 {n : Nat} (small : n < 0x100) : n.toUInt8.toNat = n := by
  rw [Nat.toUInt8, UInt8.toNat_ofNat']
  omega

theorem isContinuation_toUInt8 (n : Nat) : isContinuation (0x80 + n % 0x40).toUInt8 = true := by
  rw [isContinuation_iff, toNat_toUInt8 (by omega)]
  omega

theorem bits_toUInt8 (n : Nat) : bits (0x80 + n % 0x40).toUInt8 = n % 0x40 := by
  rw [bits, toNat_toUInt8 (by omega)]
  omega

theorem secondAllowed_of_limits {lead b : UInt8} (cont : isContinuation b = true)
    (limits : (lead.toNat = 0xE0 → 0xA0 ≤ b.toNat) ∧ (lead.toNat = 0xED → b.toNat ≤ 0x9F) ∧
      (lead.toNat = 0xF0 → 0x90 ≤ b.toNat) ∧ (lead.toNat = 0xF4 → b.toNat ≤ 0x8F)) :
    secondAllowed lead b = true := by
  have range := isContinuation_iff.mp cont
  unfold secondAllowed
  simp only [← UInt8.toNat_inj, UInt8.reduceToNat, UInt8.le_iff_toNat_le]
  split
  · simp; omega
  split
  · simp; omega
  split
  · simp; omega
  split
  · simp; omega
  · exact cont

/-! A lead byte with the continuation bytes that it asks for. -/

section Read

variable {lead : UInt8} {v : Nat}

theorem read_two (above : 0x80 ≤ v) (below : v < 0x800) (first : lead.toNat = 0xC0 + v / 0x40)
    (z : Bytes) : read lead ((0x80 + v % 0x40).toUInt8 :: z) = ⟨v, 2⟩ := by
  have cont := isContinuation_toUInt8 v
  have value := bits_toUInt8 v
  generalize (0x80 + v % 0x40).toUInt8 = b at *
  simp only [read, UInt8.lt_iff_toNat_lt, UInt8.reduceToNat, first, cont, value, if_true]
  rw [if_neg (by omega), if_neg (by omega), if_pos (by omega)]
  congr 1
  omega

theorem read_three (scalar : isScalar v = true) (above : 0x800 ≤ v) (below : v < 0x10000)
    (first : lead.toNat = 0xE0 + v / 0x1000) (z : Bytes) :
    read lead ((0x80 + v / 0x40 % 0x40).toUInt8 :: (0x80 + v % 0x40).toUInt8 :: z) = ⟨v, 3⟩ := by
  have range := isScalar_iff.mp scalar
  have cont := isContinuation_toUInt8 (v / 0x40)
  have cont' := isContinuation_toUInt8 v
  have value := bits_toUInt8 (v / 0x40)
  have value' := bits_toUInt8 v
  have second : secondAllowed lead (0x80 + v / 0x40 % 0x40).toUInt8 = true := by
    apply secondAllowed_of_limits cont
    rw [first, toNat_toUInt8 (by omega)]
    omega
  generalize (0x80 + v / 0x40 % 0x40).toUInt8 = b at *
  generalize (0x80 + v % 0x40).toUInt8 = c at *
  simp only [read, UInt8.lt_iff_toNat_lt, UInt8.reduceToNat, first, second, cont', value, value',
    Bool.and_self, if_true]
  rw [if_neg (by omega), if_neg (by omega), if_neg (by omega), if_pos (by omega)]
  congr 1
  omega

theorem read_four (above : 0x10000 ≤ v) (below : v ≤ 0x10FFFF)
    (first : lead.toNat = 0xF0 + v / 0x40000) (z : Bytes) :
    read lead ((0x80 + v / 0x1000 % 0x40).toUInt8 :: (0x80 + v / 0x40 % 0x40).toUInt8 ::
      (0x80 + v % 0x40).toUInt8 :: z) = ⟨v, 4⟩ := by
  have cont := isContinuation_toUInt8 (v / 0x1000)
  have cont' := isContinuation_toUInt8 (v / 0x40)
  have cont'' := isContinuation_toUInt8 v
  have value := bits_toUInt8 (v / 0x1000)
  have value' := bits_toUInt8 (v / 0x40)
  have value'' := bits_toUInt8 v
  have second : secondAllowed lead (0x80 + v / 0x1000 % 0x40).toUInt8 = true := by
    apply secondAllowed_of_limits cont
    rw [first, toNat_toUInt8 (by omega)]
    omega
  generalize (0x80 + v / 0x1000 % 0x40).toUInt8 = b at *
  generalize (0x80 + v / 0x40 % 0x40).toUInt8 = c at *
  generalize (0x80 + v % 0x40).toUInt8 = d at *
  simp only [read, UInt8.lt_iff_toNat_lt, UInt8.reduceToNat, first, second, cont', cont'', value,
    value', value'', Bool.and_self, if_true]
  rw [if_neg (by omega), if_neg (by omega), if_neg (by omega), if_neg (by omega),
    if_pos (by omega)]
  congr 1
  omega

end Read

theorem read_encode {v : Nat} (scalar : isScalar v = true) :
    ∃ b tail, encode v = b :: tail ∧ ∀ z, read b (tail ++ z) = ⟨v, tail.length + 1⟩ := by
  have range := isScalar_iff.mp scalar
  unfold encode
  rw [if_pos scalar]
  dsimp only
  split
  · refine ⟨_, [], rfl, fun z => ?_⟩
    have lead := toNat_toUInt8 (show v < 0x100 by omega)
    rw [read_ascii (by rw [UInt8.lt_iff_toNat_lt, lead]; assumption), lead]
    rfl
  split
  · exact ⟨_, _, rfl, read_two (by omega) (by omega) (toNat_toUInt8 (by omega))⟩
  split
  · exact ⟨_, _, rfl, read_three scalar (by omega) (by omega) (toNat_toUInt8 (by omega))⟩
  · exact ⟨_, _, rfl, read_four (by omega) (by omega) (toNat_toUInt8 (by omega))⟩

@[simp] theorem encodeAll_nil : encodeAll [] = [] := rfl

@[simp] theorem encodeAll_cons (v : Nat) (vs : List Nat) :
    encodeAll (v :: vs) = encode v ++ encodeAll vs := List.flatMap_cons

@[simp] theorem encodeAll_append (vs ws : List Nat) :
    encodeAll (vs ++ ws) = encodeAll vs ++ encodeAll ws := List.flatMap_append

theorem encode_ascii {v : Nat} (ascii : v < 0x80) : encode v = [v.toUInt8] := by
  have scalar : isScalar v = true := isScalar_iff.mpr (.inl (by omega))
  simp [encode, scalar, ascii]

theorem encode_ne_nil (v : Nat) : encode v ≠ [] := by
  unfold encode
  dsimp only
  generalize (if isScalar v = true then v else replacement) = w
  repeat' split
  all_goals simp

theorem length_encodeAll (vs : List Nat) : vs.length ≤ (encodeAll vs).length := by
  induction vs with
  | nil => exact Nat.zero_le _
  | cons v vs ih =>
    have pos := List.length_pos_iff.mpr (encode_ne_nil v)
    simp only [encodeAll_cons, List.length_cons, List.length_append]
    omega

theorem decode_encode {v : Nat} (scalar : isScalar v = true) (z : Bytes) :
    decode (encode v ++ z) = ⟨v, (encode v).length⟩ :: decode z := by
  obtain ⟨b, tail, written, reads⟩ := read_encode scalar
  rw [written, List.cons_append, decode_cons, reads]
  simp

theorem decode_encodeAll {vs : List Nat} (scalars : ∀ v ∈ vs, isScalar v = true) :
    decode (encodeAll vs) = vs.map fun v => ⟨v, (encode v).length⟩ := by
  induction vs with
  | nil => rfl
  | cons v vs ih =>
    rw [List.forall_mem_cons] at scalars
    simp [decode_encode scalars.1, ih scalars.2]

theorem values_encodeAll {vs : List Nat} (scalars : ∀ v ∈ vs, isScalar v = true) :
    values (encodeAll vs) = vs := by
  rw [values, decode_encodeAll scalars, List.map_map]
  exact List.map_id vs

theorem values_encode_eq_iff {v : Nat} : values (encode v) = [v] ↔ isScalar v = true := by
  constructor
  · intro back
    cases scalar : isScalar v with
    | true => rfl
    | false =>
      have sign : encode v = encode replacement := by
        simp only [encode, scalar, Bool.false_eq_true, if_false]
        rfl
      have read : values (encode replacement) = [replacement] := by decide
      rw [sign, read, List.cons.injEq] at back
      rw [← back.1] at scalar
      cases scalar
  · intro scalar
    have back := @values_encodeAll [v] (by simpa using scalar)
    simpa using back

theorem isMalformed_encode {v : Nat} :
    (⟨v, (encode v).length⟩ : CodePoint).isMalformed = false := by
  by_cases sign : v = replacement
  · subst sign
    decide
  · exact isMalformed_of_value sign

theorem isScalar_read (b : UInt8) (rest : Bytes) : isScalar (read b rest).value = true := by
  cases well : (read b rest).isMalformed with
  | true =>
    simp only [isMalformed, Bool.and_eq_true, beq_iff_eq] at well
    rw [well.1]
    rfl
  | false =>
    apply Classical.byContradiction
    intro none
    -- the bytes of another value are those of U+FFFD
    have written := encode_read well
    have sign : encode (read b rest).value = [0xEF, 0xBF, 0xBD] := by
      simp only [encode, none, if_false]
      decide
    rw [sign, List.cons.injEq] at written
    obtain ⟨rfl, tail⟩ := written
    have back : read 0xEF rest = ⟨0xFFFD, 3⟩ := by
      rw [← List.take_append_drop ((read 0xEF rest).width - 1) rest, ← tail]
      rfl
    rw [back] at none
    exact none (by decide)

/-- The values of any text are scalar values, also where its bytes are malformed. -/
theorem isScalar_values (text : Bytes) : ∀ v ∈ values text, isScalar v = true := by
  induction text using decode_induction with
  | nil => simp [values]
  | cons b rest ih =>
    rw [values_cons, List.forall_mem_cons]
    exact ⟨isScalar_read b rest, ih⟩

end Retouch.CodePoint
