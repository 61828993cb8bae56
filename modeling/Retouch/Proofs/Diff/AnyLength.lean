import Retouch.Proofs.Diff.Rendering

/-! Diffs of texts with any number of lines.
Past the capacity of the table lines can show as another one. Still every code that shows has a
line, and different texts have a diff. -/
namespace Retouch.Diff

/-- Every code of a chunk stands on one of the two sides. -/
theorem mem_sides {chunks : List Chunk} {c : Chunk} {code : Nat} (member : c ∈ chunks)
    (inside : code ∈ c.codes) : code ∈ side .insert chunks ∨ code ∈ side .delete chunks := by
  by_cases inserted : c.edit = .insert
  · right
    exact List.mem_flatMap.mpr ⟨c, member, by simpa [Chunk.without, inserted] using inside⟩
  · left
    exact List.mem_flatMap.mpr ⟨c, member, by simpa [Chunk.without, inserted] using inside⟩

theorem renderChunk_eq_nil {t : LineTable} {first last : Bool} {c : Chunk}
    (empty : renderChunk t first last c = []) : c.codes = [] := by
  have none : ∀ {mark : String} {lines : List Bytes}, marked mark lines = [] → lines = [] := by
    intro mark lines empty
    cases lines with
    | nil => rfl
    | cons line lines => simp [marked] at empty
  have lines : chunkLines t c = [] := by
    unfold renderChunk at empty
    dsimp only at empty
    split at empty
    · exact none empty
    · exact none empty
    · have trimmed := none empty
      unfold trimContext at trimmed
      dsimp only at trimmed
      by_cases short : (chunkLines t c).length ≤
          (if first then 0 else contextLines) + (if last then 0 else contextLines)
      · rwa [if_pos short] at trimmed
      · rw [if_neg short] at trimmed
        simp at trimmed
  simpa [chunkLines] using lines

theorem renderFrom_eq_nil {t : LineTable} {first : Bool} {chunks : List Chunk}
    (empty : renderFrom t first chunks = []) (gone : Edit) : side gone chunks = [] := by
  induction chunks generalizing first with
  | nil => rfl
  | cons c rest ih =>
    obtain ⟨here, behind⟩ := List.append_eq_nil_iff.mp empty
    have none := renderChunk_eq_nil here
    simp [Chunk.without, none, ih behind]

theorem script_turns (a b : Bytes) :
    Turns (LineTable.empty.encode a.lines).2
      ((LineTable.empty.encode a.lines).1.encode b.lines).2 (script a b).2 :=
  compare_turns _ _

theorem render_eq_nil_iff {a b : Bytes} : render a b = [] ↔ a = b := by
  constructor
  · intro empty
    apply Classical.byContradiction
    intro differ
    rw [render, if_neg differ] at empty
    have none : ∀ gone, side gone (script a b).2 = [] := renderFrom_eq_nil empty
    have turns := script_turns a b
    obtain ⟨namesA, namesB⟩ := script_names a b
    have old := turns.old
    have new := turns.new
    rw [none, eq_comm, List.map_eq_nil_iff] at old new
    rw [old, List.forall₂_nil_left_iff] at namesA
    rw [new, List.forall₂_nil_left_iff] at namesB
    exact differ (Bytes.lines_injective (namesA.trans namesB.symm))
  · rintro rfl
    simp [render]

theorem LineTable.Names.position_lt {t : LineTable} {c : Nat} {line : Bytes}
    (names : t.Names c line) : LineTable.position c < t.lines.size := by
  obtain ⟨i, here, rfl⟩ := names
  rw [LineTable.position_code]
  exact (Array.getElem?_eq_some_iff.mp here).1

/-- The sign for codes that are no code points is the code of a line itself. -/
theorem LineTable.Names.shown_lt {t : LineTable} {c : Nat} {line : Bytes}
    (names : t.Names c line) : LineTable.position (shownCode c) < t.lines.size := by
  have here := names.position_lt
  unfold shownCode
  split
  · have sign : LineTable.position 0xFFFD = 63484 := rfl
    rw [sign]
    unfold LineTable.position at here
    split at here <;> omega
  · exact here

theorem script_position_lt {a b : Bytes} {c : Chunk} {code : Nat} (member : c ∈ (script a b).2)
    (inside : code ∈ c.codes) : LineTable.position code < (script a b).1.lines.size := by
  have turns := script_turns a b
  obtain ⟨namesA, namesB⟩ := script_names a b
  have each {codes : List Nat} {lines : List Bytes}
      (names : List.Forall₂ (script a b).1.Names codes lines) :
      ∀ code ∈ codes.map shownCode, LineTable.position code < (script a b).1.lines.size := by
    induction names with
    | nil => simp
    | cons here _ ih =>
      intro code member
      rcases List.mem_cons.mp member with rfl | member
      · exact here.shown_lt
      · exact ih code member
  rcases mem_sides member inside with old | new
  · rw [turns.old] at old
    exact each namesA code old
  · rw [turns.new] at new
    exact each namesB code new

end Retouch.Diff
