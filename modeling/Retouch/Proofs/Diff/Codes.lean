import Retouch.Proofs.Diff.Rendering
import Retouch.Proofs.Text.Encoding

/-! One table for many texts.
Texts that are encoded one after another share the codes of their lines. A code is a code point as
long as the table is not full, and so the codes of any lines can be written as a text and read back
as these lines. -/
namespace Retouch

namespace Diff

open Bytes (bare)
open CodePoint (isScalar encodeAll values)

namespace LineTable

/-- The lines that a text of codes stands for, unless one of them has no line. -/
def decode? (t : LineTable) (text : Bytes) : Option (List Bytes) :=
  (values text).mapM fun c => t.lines[position c]?.map bare

/-- The code was given out for the line when these texts were encoded. -/
def Given (texts : List Bytes) (outputs : List (List Nat)) (c : Nat) (line : Bytes) : Prop :=
  ∃ codes text, (codes, text) ∈ outputs.zip texts ∧ (c, line) ∈ codes.zip text.lines

variable {t u : LineTable} {line other : Bytes} {c d : Nat}

theorem code_pos (i : Nat) : 0 < code i := by
  unfold code
  split <;> omega

/-- The codes leave out the surrogates, so only a full table gives out one that is no code point. -/
theorem isScalar_code_iff {i : Nat} : isScalar (code i) = true ↔ i < capacity := by
  rw [CodePoint.isScalar_iff]
  unfold code capacity
  split <;> omega

namespace Names

theorem pos (names : t.Names c line) : 0 < c := by
  obtain ⟨i, _, rfl⟩ := names
  exact code_pos i

theorem scalar (few : t.lines.size ≤ capacity) (names : t.Names c line) : isScalar c = true := by
  obtain ⟨i, here, rfl⟩ := names
  have inside : i < t.lines.size := (Array.getElem?_eq_some_iff.mp here).1
  exact isScalar_code_iff.mpr (Nat.lt_of_lt_of_le inside few)

/-- With fewer than 2 ^ 30 lines every code fits into 31 bits. -/
theorem lt_word (few : t.lines.size < 0x40000000) (names : t.Names c line) : c < 0x80000000 := by
  obtain ⟨i, here, rfl⟩ := names
  have inside : i < t.lines.size := (Array.getElem?_eq_some_iff.mp here).1
  unfold code
  split <;> omega

theorem line_at (names : t.Names c line) : t.lines[position c]? = some line := by
  obtain ⟨i, here, rfl⟩ := names
  rw [position_code]
  exact here

/-- In a sound table there is one code for a line and one line for a code. -/
theorem eq_iff (sound : t.Sound) (names : t.Names c line) (names' : t.Names d other) :
    c = d ↔ line = other := by
  constructor
  · rintro rfl
    rw [← names.line_eq, names'.line_eq]
  · rintro rfl
    have first := (sound line c).mpr names
    have second := (sound line d).mpr names'
    rw [first] at second
    exact Option.some.inj second

end Names

theorem exists_of_forall₂_mem {α β : Type} {R : α → β → Prop} {xs : List α} {ys : List β}
    (all : List.Forall₂ R xs ys) {x : α} (member : x ∈ xs) : ∃ y, R x y := by
  induction all with
  | nil => cases member
  | cons here _ ih =>
    rcases List.mem_cons.mp member with rfl | member
    · exact ⟨_, here⟩
    · exact ih member

theorem decode?_names {codes : List Nat} {ls : List Bytes} (names : List.Forall₂ t.Names codes ls)
    (scalars : ∀ c ∈ codes, isScalar c = true) :
    t.decode? (encodeAll codes) = some (ls.map bare) := by
  rw [decode?, CodePoint.values_encodeAll scalars]
  clear scalars
  induction names with
  | nil => rfl
  | cons here _ ih =>
    rw [List.mapM_cons, here.line_at, ih]
    rfl

theorem chunkLines_names {codes : List Nat} {ls : List Bytes}
    (names : List.Forall₂ t.Names codes ls) (few : t.lines.size ≤ capacity) (edit : Edit) :
    chunkLines t (.make edit codes) = ls.map bare := by
  have shown := map_shownCode (Names.all_code_le few names)
  rw [← Names.map_line names, chunkLines, Chunk.make, shown, List.map_map]
  rfl

theorem Sound.mono (sound : t.Sound) (sound' : u.Sound) (grows : t.Grows u)
    (known : t.index[line]? = some c) : u.index[line]? = some c :=
  (sound' line c).mpr (((sound line c).mp known).mono grows)

theorem Given.names {texts : List Bytes} {outputs : List (List Nat)}
    (names : List.Forall₂ (fun codes text => List.Forall₂ t.Names codes text.lines) outputs texts)
    (given : Given texts outputs c line) : t.Names c line := by
  obtain ⟨codes, text, encoded, inside⟩ := given
  exact List.forall₂_zip (List.forall₂_zip names encoded) inside

/-- Whatever texts are encoded one after another:
the lines of the table are distinct, and its index knows each by the code of its position and knows
nothing else;
each text has a code for each of its lines, and its lines make up the text;
all codes that were given out are equal exactly if their lines are, and are small enough for a word
of 32 bits as long as the table has fewer than 2 ^ 30 lines;
no code changes when more texts are encoded;
as long as the table has at most 1112063 lines, every code is a code point, and any stretch of the
codes of a text can be written as a text and read back as its lines without their line feeds, as
a chunk of these codes is;
and the code of position 1112063 is the first one that cannot be read back. -/
theorem encodeEach_faithful (texts : List Bytes) :
    let t := (empty.encodeEach texts).1
    let outputs := (empty.encodeEach texts).2
    t.lines.toList.Nodup ∧
    (∀ (line : Bytes) (c : Nat),
      t.index[line]? = some c ↔ ∃ i, t.lines[i]? = some line ∧ c = code i) ∧
    List.Forall₂ (fun codes text => codes.length = text.lines.length ∧
      codes.map t.line = text.lines ∧ text.lines.flatten = text) outputs texts ∧
    (∀ c line d other, Given texts outputs c line → Given texts outputs d other →
      (c = d ↔ line = other)) ∧
    (∀ c line, Given texts outputs c line → t.index[line]? = some c ∧ 0 < c ∧
      (t.lines.size < 0x40000000 → c < 0x80000000)) ∧
    (∀ more : List Bytes, (∃ others, (empty.encodeEach (texts ++ more)).2 = outputs ++ others) ∧
      ∀ (line : Bytes) (c : Nat), t.index[line]? = some c →
        (empty.encodeEach (texts ++ more)).1.index[line]? = some c) ∧
    (t.lines.size ≤ 1112063 →
      (∀ codes ∈ outputs, ∀ c ∈ codes, isScalar c = true) ∧
      ∀ codes text, (codes, text) ∈ outputs.zip texts → ∀ start length,
        let piece := (codes.drop start).take length
        let lines := ((text.lines.drop start).take length).map bare
        values (encodeAll piece) = piece ∧ t.decode? (encodeAll piece) = some lines ∧
          ∀ edit, chunkLines t (.make edit piece) = lines) ∧
    ∀ i, values (CodePoint.encode (code i)) = [code i] ↔ i < 1112063 := by
  intro t outputs
  obtain ⟨sound, _, names, _⟩ := encodeEach_spec sound_empty texts
  refine ⟨sound.nodup, sound, ?_, ?_, ?_, ?_, ?_, ?_⟩
  · refine names.imp fun codes text all => ⟨all.length_eq, Names.map_line all, ?_⟩
    exact Bytes.flatten_lines text
  · intro c line d other given given'
    exact (given.names names).eq_iff sound (given'.names names)
  · intro c line given
    have here := given.names names
    exact ⟨(sound line c).mpr here, here.pos, fun few => here.lt_word few⟩
  · intro more
    obtain ⟨sound', grows, _, _⟩ := encodeEach_spec sound more
    rw [encodeEach_append]
    exact ⟨⟨_, rfl⟩, fun line c known => sound.mono sound' grows known⟩
  · intro few
    have scalars {codes : List Nat} {ls : List Bytes} (all : List.Forall₂ t.Names codes ls) :
        ∀ c ∈ codes, isScalar c = true := by
      intro c member
      obtain ⟨line, here⟩ := exists_of_forall₂_mem all member
      exact here.scalar few
    constructor
    · intro codes member
      obtain ⟨text, all⟩ := exists_of_forall₂_mem names member
      exact scalars all
    · intro codes text member start length piece lines
      have all : List.Forall₂ t.Names piece ((text.lines.drop start).take length) :=
        List.forall₂_take length (List.forall₂_drop start (List.forall₂_zip names member))
      exact ⟨CodePoint.values_encodeAll (scalars all), decode?_names all (scalars all),
        chunkLines_names all few⟩
  · intro i
    rw [CodePoint.values_encode_eq_iff]
    exact isScalar_code_iff

/-- Two texts share a line, and a stretch of the first one is read back. -/
theorem encodeEach_faithful_shared :
    let texts : List Bytes := ["a\nb\n\na", "b\na\n"]
    let t := (empty.encodeEach texts).1
    let outputs := (empty.encodeEach texts).2
    let codes := (empty.encode (Bytes.lines "a\nb\n\na")).2
    let c := ((empty.insert "a\n").1.insert "b\n").2
    t.lines.size ≤ 1112063 ∧ Given texts outputs c "b\n" ∧ t.index[("b\n" : Bytes)]? = some c ∧
      t.decode? (encodeAll ((codes.drop 1).take 2)) = some [("b" : Bytes), []] := by
  intro texts t outputs codes c
  have few : t.lines.size ≤ 1112063 :=
    Nat.le_trans (size_encodeEach_le texts) (by decide +kernel)
  have lines : Bytes.lines "a\nb\n\na" = ["a\n", "b\n", "\n", "a"] := by decide
  have listed : (codes, ("a\nb\n\na" : Bytes)) ∈ outputs.zip texts := List.mem_cons_self
  have given : Given texts outputs c "b\n" := by
    refine ⟨codes, "a\nb\n\na", listed, ?_⟩
    simp [codes, c, lines, encode_cons]
  obtain ⟨_, _, _, _, known, _, within, _⟩ := encodeEach_faithful texts
  obtain ⟨_, back, _⟩ := (within few).2 codes _ listed 1 2
  rw [lines] at back
  exact ⟨few, given, (known c _ given).1, back⟩

/-- The texts of a diff are encoded one after the other. -/
example (a b : Bytes) : (script a b).1 = (empty.encodeEach [a, b]).1 := rfl

end LineTable

end Diff

end Retouch
