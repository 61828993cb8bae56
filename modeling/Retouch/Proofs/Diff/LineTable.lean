import Mathlib.Data.List.Dedup
import Mathlib.Data.List.Perm.Subperm
import Mathlib.Data.List.Nodup
import Retouch.Diff.LineTable

/-! Lines and their codes.
The lines of a text make up the text. A table gives different lines different codes, and a code
leads back to its line, also in a table that has grown since. -/
namespace Retouch

namespace Bytes

theorem lines_cons (x : UInt8) (rest : Bytes) :
    lines (x :: rest) = if x = 0x0A then [x] :: lines rest
      else match lines rest with
        | [] => [[x]]
        | line :: more => (x :: line) :: more := rfl

theorem flatten_lines (b : Bytes) : b.lines.flatten = b := by
  induction b with
  | nil => rfl
  | cons x rest ih =>
    rw [lines_cons]
    split
    · simp [ih]
    · cases h : lines rest with
      | nil =>
        rw [h] at ih
        simp [← ih]
      | cons line more =>
        rw [h] at ih
        simp [← ih]

theorem lines_injective {a b : Bytes} (same : a.lines = b.lines) : a = b := by
  rw [← flatten_lines a, ← flatten_lines b, same]

/-- A line without the line feed that may end it. -/
def bare (line : Bytes) : Bytes := line.dropSuffix [0x0A]

theorem bare_terminated (word : Bytes) : bare (word ++ [0x0A]) = word := by
  have ends : ([0x0A] : Bytes).isSuffixOf (word ++ [0x0A]) = true := by simp
  simp only [bare, dropSuffix, if_pos ends]
  simp

theorem bare_open {word : Bytes} (free : 0x0A ∉ word) : bare word = word := by
  have ends : ([0x0A] : Bytes).isSuffixOf word = false := by
    rw [Bool.eq_false_iff, ne_eq, List.isSuffixOf_iff_suffix]
    rintro ⟨front, rfl⟩
    simp at free
  simp [bare, dropSuffix, ends]

theorem line_shape {b line : Bytes} (member : line ∈ b.lines) :
    ∃ word : Bytes, 0x0A ∉ word ∧ (line = word ++ [0x0A] ∨ line = word) := by
  induction b generalizing line with
  | nil => simp [lines] at member
  | cons x rest ih =>
    rw [lines_cons] at member
    split at member
    · rename_i feed
      subst feed
      rcases List.mem_cons.mp member with rfl | member
      · exact ⟨[], by simp, .inl rfl⟩
      · exact ih member
    · rename_i other
      cases h : lines rest with
      | nil =>
        rw [h] at member
        exact ⟨[x], by simpa using Ne.symm other, .inr (by simpa using member)⟩
      | cons first more =>
        rw [h] at ih member
        rcases List.mem_cons.mp member with rfl | member
        · obtain ⟨word, free, shape⟩ := ih List.mem_cons_self
          refine ⟨x :: word, by simpa using ⟨Ne.symm other, free⟩, ?_⟩
          rcases shape with rfl | rfl
          · exact .inl rfl
          · exact .inr rfl
        · exact ih (List.mem_cons_of_mem _ member)

theorem bare_line {b line : Bytes} (member : line ∈ b.lines) : 0x0A ∉ bare line := by
  obtain ⟨word, free, rfl | rfl⟩ := line_shape member
  · rwa [bare_terminated]
  · rwa [bare_open free]

theorem lines_append {word : Bytes} (free : 0x0A ∉ word) (rest : Bytes) :
    lines (word ++ 0x0A :: rest) = (word ++ [0x0A]) :: lines rest := by
  induction word with
  | nil => rfl
  | cons x word ih =>
    obtain ⟨other, free⟩ : 0x0A ≠ x ∧ 0x0A ∉ word := by simpa using free
    rw [List.cons_append, lines_cons, if_neg (Ne.symm other), ih free]
    rfl

theorem lines_terminated {rows : List Bytes} (free : ∀ row ∈ rows, 0x0A ∉ row) :
    lines (rows.flatMap (· ++ [0x0A])) = rows.map (· ++ [0x0A]) := by
  induction rows with
  | nil => rfl
  | cons row rows ih =>
    have here := free row List.mem_cons_self
    have rest := ih fun other member => free other (List.mem_cons_of_mem _ member)
    rw [List.flatMap_cons, List.append_assoc, List.singleton_append, lines_append here, rest]
    rfl

end Bytes

namespace Diff.LineTable

theorem position_code (i : Nat) : position (code i) = i := by
  unfold code position
  split <;> split <;> omega

theorem code_injective {i j : Nat} (same : code i = code j) : i = j := by
  rw [← position_code i, ← position_code j, same]

def capacity : Nat := 1112063

theorem code_le {i : Nat} (within : i < capacity) : code i ≤ 0x10FFFF := by
  unfold capacity at within
  unfold code
  split <;> omega

def Names (t : LineTable) (c : Nat) (line : Bytes) : Prop :=
  ∃ i, t.lines[i]? = some line ∧ c = code i

/-- The index knows each line of the table by its code, and nothing else. -/
def Sound (t : LineTable) : Prop :=
  ∀ line c, t.index[line]? = some c ↔ t.Names c line

def Grows (t u : LineTable) : Prop :=
  ∀ (i : Nat) (line : Bytes), t.lines[i]? = some line → u.lines[i]? = some line

variable {t u : LineTable} {line : Bytes} {c : Nat}

theorem Names.line_eq (names : t.Names c line) : t.line c = line := by
  obtain ⟨i, here, rfl⟩ := names
  rw [LineTable.line, position_code, Array.getD_eq_getD_getElem?, here]
  rfl

theorem Names.mono (grows : t.Grows u) (names : t.Names c line) : u.Names c line := by
  obtain ⟨i, here, eq⟩ := names
  exact ⟨i, grows i line here, eq⟩

theorem Names.code_le (few : t.lines.size ≤ capacity) (names : t.Names c line) :
    c ≤ 0x10FFFF := by
  obtain ⟨i, here, rfl⟩ := names
  have inside : i < t.lines.size := by
    rw [Array.getElem?_eq_some_iff] at here
    exact here.1
  exact LineTable.code_le (by omega)

theorem Grows.refl (t : LineTable) : t.Grows t := fun _ _ here => here

theorem Grows.trans {v : LineTable} (first : t.Grows u) (second : u.Grows v) : t.Grows v :=
  fun i line here => second i line (first i line here)

theorem sound_empty : empty.Sound := by
  intro line c
  simp [empty, Names]

theorem Sound.nodup (sound : t.Sound) : t.lines.toList.Nodup := by
  rw [List.nodup_iff_getElem?_ne_getElem?]
  intro i j before inside same
  obtain ⟨line, here⟩ : ∃ line, t.lines[i]? = some line := by
    have : i < t.lines.size := by
      rw [Array.length_toList] at inside
      omega
    exact ⟨t.lines[i], Array.getElem?_eq_getElem this⟩
  have there : t.lines[j]? = some line := by
    rw [← here]
    simpa using same.symm
  have first := (sound line (code i)).mpr ⟨i, here, rfl⟩
  have second := (sound line (code j)).mpr ⟨j, there, rfl⟩
  rw [first] at second
  have equal := code_injective (Option.some.inj second)
  omega

/-- One more line: the table stays sound and grows by that line at most. -/
theorem insert_spec (sound : t.Sound) (line : Bytes) :
    (t.insert line).1.Sound ∧ t.Grows (t.insert line).1 ∧
      (t.insert line).1.Names (t.insert line).2 line ∧
      ∀ l ∈ (t.insert line).1.lines, l = line ∨ l ∈ t.lines := by
  unfold insert
  cases known : t.index[line]? with
  | some c =>
    exact ⟨sound, .refl t, (sound line c).mp known, fun l member => .inr member⟩
  | none =>
    have grows : t.Grows ⟨t.lines.push line, t.index.insert line (code t.lines.size)⟩ := by
      intro i l here
      have inside : i < t.lines.size := (Array.getElem?_eq_some_iff.mp here).1
      rw [Array.getElem?_push, if_neg (by omega), here]
    have names : Names ⟨t.lines.push line, t.index.insert line (code t.lines.size)⟩
        (code t.lines.size) line := ⟨t.lines.size, by simp, rfl⟩
    refine ⟨?_, grows, names, fun l member => ?_⟩
    · intro l c
      simp only [Std.HashMap.getElem?_insert, beq_iff_eq]
      by_cases same : line = l
      · subst same
        rw [if_pos rfl]
        constructor
        · intro eq
          cases eq
          exact names
        · rintro ⟨i, here, rfl⟩
          rw [Array.getElem?_push] at here
          split at here
          · rename_i last
            rw [last]
          · have old := (sound line (code i)).mpr ⟨i, here, rfl⟩
            rw [known] at old
            cases old
      · rw [if_neg same, sound l c]
        constructor
        · exact Names.mono grows
        · rintro ⟨i, here, eq⟩
          rw [Array.getElem?_push] at here
          split at here
          · exact absurd (Option.some.inj here) same
          · exact ⟨i, here, eq⟩
    · rcases Array.mem_push.mp member with old | rfl
      · exact .inr old
      · exact .inl rfl

/-- One more line: the table then, and the codes so far with the last one first. -/
def step (s : LineTable × List Nat) (line : Bytes) : LineTable × List Nat :=
  ((s.1.insert line).1, (s.1.insert line).2 :: s.2)

theorem encode_eq (t : LineTable) (ls : List Bytes) :
    t.encode ls = ((ls.foldl step (t, [])).1, (ls.foldl step (t, [])).2.reverse) := rfl

theorem foldl_step (ls : List Bytes) (t : LineTable) (codes : List Nat) :
    ls.foldl step (t, codes) = ((t.encode ls).1, (t.encode ls).2.reverse ++ codes) := by
  induction ls generalizing t codes with
  | nil => rfl
  | cons line rest ih =>
    simp only [List.foldl_cons, encode_eq t, step, ih]
    simp

theorem encode_cons (t : LineTable) (line : Bytes) (rest : List Bytes) :
    t.encode (line :: rest) =
      (((t.insert line).1.encode rest).1,
        (t.insert line).2 :: ((t.insert line).1.encode rest).2) := by
  rw [encode_eq, List.foldl_cons, step, foldl_step]
  simp

theorem encode_spec (sound : t.Sound) (ls : List Bytes) :
    (t.encode ls).1.Sound ∧ t.Grows (t.encode ls).1 ∧
      List.Forall₂ (t.encode ls).1.Names (t.encode ls).2 ls ∧
      ∀ l ∈ (t.encode ls).1.lines, l ∈ ls ∨ l ∈ t.lines := by
  induction ls generalizing t with
  | nil => exact ⟨sound, .refl t, .nil, fun l member => .inr member⟩
  | cons line rest ih =>
    obtain ⟨kept, first, names, few⟩ := insert_spec sound line
    obtain ⟨kept', more, all, few'⟩ := ih kept
    rw [encode_cons]
    refine ⟨kept', first.trans more, .cons (names.mono more) all, fun l member => ?_⟩
    rcases few' l member with inside | inside
    · exact .inl (List.mem_cons_of_mem _ inside)
    · rcases few l inside with rfl | old
      · exact .inl List.mem_cons_self
      · exact .inr old

theorem Names.map_line {codes : List Nat} {ls : List Bytes}
    (names : List.Forall₂ t.Names codes ls) : codes.map t.line = ls := by
  induction names with
  | nil => rfl
  | cons here _ ih => rw [List.map_cons, here.line_eq, ih]

theorem Names.all_code_le (few : t.lines.size ≤ capacity) {codes : List Nat} {ls : List Bytes}
    (names : List.Forall₂ t.Names codes ls) : ∀ c ∈ codes, c ≤ 0x10FFFF := by
  induction names with
  | nil => simp
  | cons here _ ih =>
    intro c member
    rcases List.mem_cons.mp member with rfl | member
    · exact here.code_le few
    · exact ih c member

/-- A sound table of lines that are among the given ones is no longer than these without
repetitions. -/
theorem Sound.size_le (sound : t.Sound) {ls : List Bytes} (among : ∀ l ∈ t.lines, l ∈ ls) :
    t.lines.size ≤ ls.dedup.length := by
  rw [← Array.length_toList]
  have inside : t.lines.toList ⊆ ls.dedup := by
    intro l member
    exact List.mem_dedup.mpr (among l (by simpa using member))
  exact (List.subperm_of_subset sound.nodup inside).length_le

/-! Text after text. -/

/-- Encodes texts one after another: the table then, and the codes of each text. -/
def encodeEach (t : LineTable) : List Bytes → LineTable × List (List Nat)
  | [] => (t, [])
  | text :: rest =>
    (((t.encode text.lines).1.encodeEach rest).1,
      (t.encode text.lines).2 :: ((t.encode text.lines).1.encodeEach rest).2)

theorem encodeEach_append (t : LineTable) (texts more : List Bytes) :
    t.encodeEach (texts ++ more) =
      (((t.encodeEach texts).1.encodeEach more).1,
        (t.encodeEach texts).2 ++ ((t.encodeEach texts).1.encodeEach more).2) := by
  induction texts generalizing t with
  | nil => rfl
  | cons text rest ih =>
    rw [List.cons_append, encodeEach, ih]
    rfl

/-- Text after text the table stays sound and only grows, and each text becomes codes of its
lines. -/
theorem encodeEach_spec (sound : t.Sound) (texts : List Bytes) :
    (t.encodeEach texts).1.Sound ∧ t.Grows (t.encodeEach texts).1 ∧
      List.Forall₂ (fun codes text => List.Forall₂ (t.encodeEach texts).1.Names codes text.lines)
        (t.encodeEach texts).2 texts ∧
      ∀ l ∈ (t.encodeEach texts).1.lines, l ∈ texts.flatMap Bytes.lines ∨ l ∈ t.lines := by
  induction texts generalizing t with
  | nil => exact ⟨sound, .refl t, .nil, fun l member => .inr member⟩
  | cons text rest ih =>
    obtain ⟨kept, first, names, few⟩ := encode_spec sound text.lines
    obtain ⟨kept', more, all, few'⟩ := ih kept
    refine ⟨kept', first.trans more, .cons (names.imp fun _ _ => Names.mono more) all, ?_⟩
    intro l member
    rw [List.flatMap_cons, List.mem_append, or_assoc]
    rcases few' l member with later | before
    · exact .inr (.inl later)
    · rcases few l before with inside | old
      · exact .inl inside
      · exact .inr (.inr old)

theorem mem_encodeEach {texts : List Bytes} {l : Bytes}
    (member : l ∈ (empty.encodeEach texts).1.lines) : l ∈ texts.flatMap Bytes.lines := by
  obtain ⟨_, _, _, among⟩ := encodeEach_spec sound_empty texts
  rcases among l member with inside | none
  · exact inside
  · simp [empty] at none

theorem size_encodeEach_le (texts : List Bytes) :
    (empty.encodeEach texts).1.lines.size ≤ (texts.flatMap Bytes.lines).dedup.length :=
  (encodeEach_spec sound_empty texts).1.size_le fun _ => mem_encodeEach

end Diff.LineTable

end Retouch
