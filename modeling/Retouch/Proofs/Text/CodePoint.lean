import Retouch.Text.CodePoint

/-! Reading code points.
What is read depends only on the lead byte and the continuation bytes behind it, and a code point
that is not malformed can be written back to exactly the bytes it was read from. -/
namespace Retouch.CodePoint

theorem isContinuation_iff {b : UInt8} :
    isContinuation b = true ↔ 0x80 ≤ b.toNat ∧ b.toNat ≤ 0xBF := by
  simp only [isContinuation, Bool.and_eq_true, decide_eq_true_eq, UInt8.le_iff_toNat_le,
    UInt8.reduceToNat]

theorem secondAllowed_continuation {lead b : UInt8} (allowed : secondAllowed lead b = true) :
    isContinuation b = true := by
  rw [isContinuation_iff]
  unfold secondAllowed at allowed
  repeat' split at allowed
  case isFalse => exact isContinuation_iff.mp allowed
  all_goals
    simp only [Bool.and_eq_true, decide_eq_true_eq, UInt8.le_iff_toNat_le,
      UInt8.reduceToNat] at allowed
    omega

theorem secondAllowed_eq_false {lead b : UInt8} (h : isContinuation b = false) :
    secondAllowed lead b = false := by
  cases eq : secondAllowed lead b with
  | false => rfl
  | true => exact absurd (secondAllowed_continuation eq) (by simp [h])

/-- The bytes behind the first one that continues no sequence do not count. -/
theorem read_takeWhile (b : UInt8) (rest : Bytes) :
    read b (rest.takeWhile isContinuation) = read b rest := by
  match rest with
  | [] => rfl
  | x :: rest =>
    by_cases hx : isContinuation x
    · match rest with
      | [] => simp [hx]
      | y :: rest =>
        by_cases hy : isContinuation y
        · match rest with
          | [] => simp [hx, hy]
          | z :: rest =>
            by_cases hz : isContinuation z
            · simp [hx, hy, hz, read]
            · simp [hx, hy, hz, read]
        · match rest with
          | [] => simp [hx, hy, read]
          | z :: rest => simp [hx, hy, read]
    · have second : secondAllowed b x = false := secondAllowed_eq_false (by simpa using hx)
      match rest with
      | [] => simp [hx, read]
      | [y] => simp [hx, second, read]
      | y :: z :: rest => simp [hx, second, read]

/-! What a sequence of each length is written back to. -/

theorem toUInt8_eq {n : Nat} {b : UInt8} (h : n = b.toNat) : n.toUInt8 = b := by
  subst h
  exact UInt8.ofNat_toNat

theorem bits_continuation {b : UInt8} (h : isContinuation b = true) :
    bits b < 0x40 ∧ b.toNat = 0x80 + bits b := by
  rw [isContinuation_iff] at h
  simp only [bits]
  omega

theorem encode_two {b x : UInt8} (above : ¬ b < 0xC2) (below : b < 0xE0)
    (hx : isContinuation x = true) : encode (b.toNat % 0x20 * 0x40 + bits x) = [b, x] := by
  have low := bits_continuation hx
  simp only [UInt8.lt_iff_toNat_lt, UInt8.reduceToNat] at above below
  have scalar : isScalar (b.toNat % 0x20 * 0x40 + bits x) = true := by
    simp only [isScalar, Bool.or_eq_true, Bool.and_eq_true, decide_eq_true_eq]
    omega
  have long : ¬ b.toNat % 0x20 * 0x40 + bits x < 0x80 := by omega
  have fits : b.toNat % 0x20 * 0x40 + bits x < 0x800 := by omega
  simp only [encode, scalar, if_true, if_neg long, if_pos fits]
  rw [toUInt8_eq (b := b) (by omega), toUInt8_eq (b := x) (by omega)]

/-- The second byte keeps a sequence above the values of the shorter ones, outside the surrogates
and below U+110000. -/
theorem secondAllowed_limits {b x : UInt8} (allowed : secondAllowed b x = true) :
    (b.toNat = 0xE0 → 0xA0 ≤ x.toNat) ∧ (b.toNat = 0xED → x.toNat ≤ 0x9F) ∧
      (b.toNat = 0xF0 → 0x90 ≤ x.toNat) ∧ (b.toNat = 0xF4 → x.toNat ≤ 0x8F) := by
  have behind : ∀ lead : UInt8, b.toNat = lead.toNat → secondAllowed lead x = true := by
    intro lead same
    rwa [← UInt8.toNat_inj.mp same]
  refine ⟨fun h => ?_, fun h => ?_, fun h => ?_, fun h => ?_⟩
  · have second := behind 0xE0 h
    simp [secondAllowed, UInt8.le_iff_toNat_le] at second
    omega
  · have second := behind 0xED h
    simp [secondAllowed, UInt8.le_iff_toNat_le] at second
    omega
  · have second := behind 0xF0 h
    simp [secondAllowed, UInt8.le_iff_toNat_le] at second
    omega
  · have second := behind 0xF4 h
    simp [secondAllowed, UInt8.le_iff_toNat_le] at second
    omega

theorem encode_three {b x y : UInt8} (above : ¬ b < 0xE0) (below : b < 0xF0)
    (hx : secondAllowed b x = true) (hy : isContinuation y = true) :
    encode ((b.toNat % 0x10 * 0x40 + bits x) * 0x40 + bits y) = [b, x, y] := by
  have low := bits_continuation hy
  have mid := bits_continuation (secondAllowed_continuation hx)
  have limits := secondAllowed_limits hx
  simp only [UInt8.lt_iff_toNat_lt, UInt8.reduceToNat] at above below
  generalize hv : (b.toNat % 0x10 * 0x40 + bits x) * 0x40 + bits y = v
  have scalar : isScalar v = true := by
    simp only [isScalar, Bool.or_eq_true, Bool.and_eq_true, decide_eq_true_eq]
    omega
  have long : ¬ v < 0x800 := by omega
  have fits : v < 0x10000 := by omega
  simp only [encode, scalar, if_true, if_neg (show ¬ v < 0x80 by omega), if_neg long, if_pos fits]
  rw [toUInt8_eq (b := b) (by omega), toUInt8_eq (b := x) (by omega),
    toUInt8_eq (b := y) (by omega)]

theorem encode_four {b x y z : UInt8} (above : ¬ b < 0xF0) (below : b < 0xF5)
    (hx : secondAllowed b x = true) (hy : isContinuation y = true)
    (hz : isContinuation z = true) :
    encode (((b.toNat % 0x08 * 0x40 + bits x) * 0x40 + bits y) * 0x40 + bits z)
      = [b, x, y, z] := by
  have low := bits_continuation hz
  have mid := bits_continuation hy
  have high := bits_continuation (secondAllowed_continuation hx)
  have limits := secondAllowed_limits hx
  simp only [UInt8.lt_iff_toNat_lt, UInt8.reduceToNat] at above below
  generalize hv : ((b.toNat % 0x08 * 0x40 + bits x) * 0x40 + bits y) * 0x40 + bits z = v
  have scalar : isScalar v = true := by
    simp only [isScalar, Bool.or_eq_true, Bool.and_eq_true, decide_eq_true_eq]
    omega
  have long : ¬ v < 0x10000 := by omega
  simp only [encode, scalar, if_true, if_neg (show ¬ v < 0x80 by omega),
    if_neg (show ¬ v < 0x800 by omega), if_neg long]
  rw [toUInt8_eq (b := b) (by omega), toUInt8_eq (b := x) (by omega),
    toUInt8_eq (b := y) (by omega), toUInt8_eq (b := z) (by omega)]

/-- Either the lead byte is malformed, or the code point takes continuation bytes behind it,
whatever follows them, and is written back to all the bytes it took. -/
theorem read_cases (b : UInt8) (rest : Bytes) :
    read b rest = malformed ∨ ∃ tail more, rest = tail ++ more ∧
      (∀ x ∈ tail, isContinuation x = true) ∧ (read b rest).width = tail.length + 1 ∧
      encode (read b rest).value = b :: tail ∧ ∀ z, read b (tail ++ z) = read b rest := by
  unfold read
  split
  · rename_i ascii
    refine .inr ⟨[], rest, rfl, by simp, rfl, ?_, fun _ => rfl⟩
    simp only [UInt8.lt_iff_toNat_lt, UInt8.reduceToNat] at ascii
    simp only [encode, isScalar]
    simp [show b.toNat < 0xD800 by omega, ascii]
  split
  · exact .inl rfl
  rename_i lead
  split
  · rename_i below
    split
    · split
      · rename_i x more hx
        exact .inr ⟨[x], more, rfl, by simp [hx], rfl, encode_two lead below hx,
          fun z => by simp [hx]⟩
      · exact .inl rfl
    · exact .inl rfl
  rename_i lead
  split
  · rename_i below
    split
    · split
      · rename_i x y more h
        rw [Bool.and_eq_true] at h
        exact .inr ⟨[x, y], more, rfl, by simp [secondAllowed_continuation h.1, h.2], rfl,
          encode_three lead below h.1 h.2,
          fun z => by simp [h.1, h.2]⟩
      · exact .inl rfl
    · exact .inl rfl
  rename_i lead
  split
  · rename_i below
    split
    · split
      · rename_i x y z more h
        simp only [Bool.and_eq_true] at h
        exact .inr ⟨[x, y, z], more, rfl, by simp [secondAllowed_continuation h.1.1, h.1.2, h.2],
          rfl, encode_four lead below h.1.1 h.1.2 h.2,
          fun z => by simp [h.1.1, h.1.2, h.2]⟩
      · exact .inl rfl
    · exact .inl rfl
  · exact .inl rfl

theorem read_width_pos (b : UInt8) (rest : Bytes) : 0 < (read b rest).width := by
  rcases read_cases b rest with h | ⟨tail, more, _, _, width, _, _⟩
  · rw [h]; exact Nat.one_pos
  · omega

theorem read_width_le (b : UInt8) (rest : Bytes) :
    (read b rest).width ≤ (rest.takeWhile isContinuation).length + 1 := by
  rcases read_cases b rest with h | ⟨tail, more, split, cont, width, _, _⟩
  · rw [h]; exact Nat.le_add_left 1 _
  · rw [width, split, List.takeWhile_append_of_pos cont, List.length_append]
    omega

theorem read_width_le_length (b : UInt8) (rest : Bytes) :
    (read b rest).width ≤ rest.length + 1 := by
  have near := read_width_le b rest
  have all : (rest.takeWhile isContinuation).length ≤ rest.length :=
    (List.takeWhile_sublist _).length_le
  omega

/-- Behind its first byte a code point has only continuation bytes. -/
theorem drop_inside {b : UInt8} {rest : Bytes} {k : Nat} (behind : 0 < k)
    (inside : k < (read b rest).width) :
    ∃ c more, (b :: rest).drop k = c :: more ∧ isContinuation c = true := by
  have near := read_width_le b rest
  obtain ⟨j, rfl⟩ : ∃ j, k = j + 1 := ⟨k - 1, by omega⟩
  have within : j < (rest.takeWhile isContinuation).length := by omega
  have split : (rest.takeWhile isContinuation).drop j ++ rest.dropWhile isContinuation =
      (b :: rest).drop (j + 1) := by
    rw [List.drop_succ_cons, ← List.drop_append_of_le_length (Nat.le_of_lt within),
      List.takeWhile_append_dropWhile]
  obtain ⟨c, more, eq⟩ : ∃ c more, (rest.takeWhile isContinuation).drop j = c :: more := by
    apply List.exists_cons_of_ne_nil
    intro none
    rw [List.drop_eq_nil_iff] at none
    omega
  refine ⟨c, more ++ rest.dropWhile isContinuation, by rw [← split, eq, List.cons_append], ?_⟩
  have member : c ∈ rest.takeWhile isContinuation :=
    List.mem_of_mem_drop (by rw [eq]; exact List.mem_cons_self)
  exact List.all_eq_true.mp List.all_takeWhile c member

theorem encode_read {b : UInt8} {rest : Bytes} (well : (read b rest).isMalformed = false) :
    encode (read b rest).value = b :: rest.take ((read b rest).width - 1) := by
  rcases read_cases b rest with h | ⟨tail, more, split, _, width, written, _⟩
  · rw [h] at well; cases well
  · rw [written, width, split]
    simp

theorem read_append {b : UInt8} {rest : Bytes} (well : (read b rest).isMalformed = false)
    (z : Bytes) : read b (rest ++ z) = read b rest := by
  rcases read_cases b rest with h | ⟨tail, more, split, _, _, _, same⟩
  · rw [h] at well; cases well
  · rw [split, List.append_assoc, same, ← split]

theorem read_ascii {b : UInt8} (ascii : b < 0x80) (rest : Bytes) :
    read b rest = ⟨b.toNat, 1⟩ := by
  simp [read, ascii]

theorem read_continuation {b : UInt8} (cont : isContinuation b = true) (rest : Bytes) :
    read b rest = malformed := by
  rw [isContinuation_iff] at cont
  have high : ¬ b < 0x80 := by
    simp only [UInt8.lt_iff_toNat_lt, UInt8.reduceToNat]; omega
  have low : b < 0xC2 := by
    simp only [UInt8.lt_iff_toNat_lt, UInt8.reduceToNat]; omega
  simp [read, high, low]

theorem read_value_ascii {b : UInt8} {rest : Bytes} (ascii : (read b rest).value < 0x80) :
    b.toNat = (read b rest).value := by
  rcases read_cases b rest with h | ⟨tail, more, _, _, _, written, _⟩
  · rw [h] at ascii; exact absurd ascii (by decide)
  · have scalar : isScalar (read b rest).value = true := by
      simp only [isScalar, Bool.or_eq_true, decide_eq_true_eq]
      omega
    generalize (read b rest).value = v at *
    simp only [encode, scalar, if_true, if_pos ascii, List.cons.injEq] at written
    rw [← written.1, Nat.toUInt8, UInt8.toNat_ofNat']
    omega

theorem isMalformed_of_value {c : CodePoint} (h : c.value ≠ replacement) :
    c.isMalformed = false := by
  simp [isMalformed, h]

/-! All code points of a text. -/

@[simp] theorem decode_nil : decode [] = [] := rfl

theorem decodeAfter_eq_drop (skip : Nat) (text : Bytes) :
    decodeAfter skip text = decode (text.drop skip) := by
  induction text generalizing skip with
  | nil => cases skip <;> rfl
  | cons b rest ih =>
    cases skip with
    | zero => rfl
    | succ skip => exact ih skip

theorem decode_cons (b : UInt8) (rest : Bytes) :
    decode (b :: rest) = read b rest :: decode ((b :: rest).drop (read b rest).width) := by
  have pos := read_width_pos b rest
  obtain ⟨n, width⟩ : ∃ n, (read b rest).width = n + 1 := ⟨_, (Nat.sub_add_cancel pos).symm⟩
  rw [decode, decodeAfter, decodeAfter_eq_drop, width]
  rfl

theorem values_cons (b : UInt8) (rest : Bytes) :
    values (b :: rest) =
      (read b rest).value :: values ((b :: rest).drop (read b rest).width) := by
  rw [values, decode_cons]; rfl

theorem values_ne_nil {text : Bytes} (nonempty : text ≠ []) : values text ≠ [] := by
  cases text with
  | nil => exact absurd rfl nonempty
  | cons b rest => rw [values_cons]; exact List.cons_ne_nil _ _

theorem isValid_cons (b : UInt8) (rest : Bytes) :
    isValid (b :: rest) =
      (!(read b rest).isMalformed && isValid ((b :: rest).drop (read b rest).width)) := by
  rw [isValid, decode_cons, List.all_cons]; rfl

theorem head_of_valid {b : UInt8} {rest : Bytes} (valid : isValid (b :: rest) = true) :
    isContinuation b = false := by
  cases cont : isContinuation b with
  | false => rfl
  | true =>
    rw [isValid_cons, read_continuation cont] at valid
    cases valid

theorem decode_induction {motive : Bytes → Prop} (nil : motive [])
    (cons : ∀ b rest, motive ((b :: rest).drop (read b rest).width) → motive (b :: rest))
    (text : Bytes) : motive text := by
  induction h : text.length using Nat.strongRecOn generalizing text with
  | ind n ih =>
    cases text with
    | nil => exact nil
    | cons b rest =>
      have pos := read_width_pos b rest
      refine cons b rest (ih _ ?_ _ rfl)
      rw [← h, List.length_drop, List.length_cons]
      omega

theorem length_drop_read (b : UInt8) (rest : Bytes) :
    ((b :: rest).drop (read b rest).width).length + (read b rest).width = (b :: rest).length := by
  have inside := read_width_le_length b rest
  rw [List.length_drop, List.length_cons]
  omega

theorem length_take_read (b : UInt8) (rest : Bytes) :
    ((b :: rest).take (read b rest).width).length = (read b rest).width := by
  rw [List.length_take, List.length_cons]
  exact Nat.min_eq_left (read_width_le_length b rest)

theorem length_values_le (text : Bytes) : (values text).length ≤ text.length := by
  induction text using decode_induction with
  | nil => exact Nat.zero_le _
  | cons b rest ih =>
    have pos := read_width_pos b rest
    have length := length_drop_read b rest
    rw [values_cons]
    simp only [List.length_cons] at length ih ⊢
    omega

theorem decode_width_pos (text : Bytes) : ∀ c ∈ decode text, 0 < c.width := by
  induction text using decode_induction with
  | nil => intro c member; cases member
  | cons b rest ih =>
    rw [decode_cons]
    intro c member
    rcases List.mem_cons.mp member with rfl | member
    · exact read_width_pos b rest
    · exact ih c member

/-- A well-formed text is written back from the values of its code points. -/
theorem encodeAll_values (text : Bytes) (valid : isValid text = true) :
    encodeAll (values text) = text := by
  induction text using decode_induction with
  | nil => rfl
  | cons b rest ih =>
    have pos := read_width_pos b rest
    rw [isValid_cons, Bool.and_eq_true, Bool.not_eq_true'] at valid
    have tail := ih valid.2
    have head := encode_read valid.1
    rw [encodeAll] at tail ⊢
    rw [values_cons, List.flatMap_cons, tail, head]
    obtain ⟨n, width⟩ : ∃ n, (read b rest).width = n + 1 := ⟨_, (Nat.sub_add_cancel pos).symm⟩
    simp [width]

def totalWidth : List CodePoint → Nat
  | [] => 0
  | c :: rest => c.width + totalWidth rest

theorem totalWidth_append (xs ys : List CodePoint) :
    totalWidth (xs ++ ys) = totalWidth xs + totalWidth ys := by
  induction xs with
  | nil => simp [totalWidth]
  | cons c xs ih => simp [totalWidth, ih, Nat.add_assoc]

theorem totalWidth_decode (text : Bytes) : totalWidth (decode text) = text.length := by
  induction text using decode_induction with
  | nil => rfl
  | cons b rest ih => rw [decode_cons, totalWidth, ih, Nat.add_comm, length_drop_read]

theorem decode_append {text : Bytes} (valid : isValid text = true) (z : Bytes) :
    decode (text ++ z) = decode text ++ decode z := by
  induction text using decode_induction with
  | nil => rfl
  | cons b rest ih =>
    have inside := read_width_le_length b rest
    rw [isValid_cons, Bool.and_eq_true, Bool.not_eq_true'] at valid
    rw [List.cons_append, decode_cons, decode_cons, read_append valid.1, ← List.cons_append,
      List.drop_append_of_le_length inside, ih valid.2, List.cons_append]

/-- A text starts with a well-formed one without U+FFFD once it starts with the same values. -/
theorem append_of_values {text : Bytes} {token : Bytes} (clean : replacement ∉ values token)
    {more : List Nat} (starts : values text = values token ++ more) :
    ∃ rest, text = token ++ rest := by
  induction token using decode_induction generalizing text with
  | nil => exact ⟨text, rfl⟩
  | cons b token ih =>
    rw [values_cons] at clean starts
    cases text with
    | nil => cases starts
    | cons c rest =>
      rw [values_cons, List.cons_append, List.cons.injEq] at starts
      rw [List.mem_cons, not_or] at clean
      have same := starts.1
      have written := encode_read (isMalformed_of_value (Ne.symm clean.1))
      have written' := encode_read
        (isMalformed_of_value (same ▸ Ne.symm clean.1 : (read c rest).value ≠ replacement))
      have pos := read_width_pos b token
      have pos' := read_width_pos c rest
      -- The bytes of the code point are those of its value.
      have head :
          (b :: token).take (read b token).width = (c :: rest).take (read c rest).width := by
        rw [same, written] at written'
        rw [← Nat.sub_add_cancel pos, ← Nat.sub_add_cancel pos', List.take_succ_cons,
          List.take_succ_cons, written']
      obtain ⟨tail, split⟩ := ih clean.2 starts.2
      refine ⟨tail, ?_⟩
      rw [← List.take_append_drop (read c rest).width (c :: rest), split, ← head,
        ← List.append_assoc, List.take_append_drop]

end Retouch.CodePoint
