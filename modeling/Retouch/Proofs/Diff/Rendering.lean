import Retouch.Diff
import Retouch.Proofs.Diff.LineTable
import Retouch.Proofs.Diff.Script

/-! Line diffs show a script between the lines of two texts.
Deleted and inserted lines are all shown, each on a row of its own. Only kept lines are left out,
and dots stand for them. -/
namespace Retouch.Diff

open Bytes (bare)

/-- The lines of the chunks on the side that lacks one sort of edit. -/
def lineSide (gone : Edit) (chunks : List (Edit × List Bytes)) : List Bytes :=
  chunks.flatMap fun c => if c.1 = gone then [] else c.2

def row (mark : String) (line : Bytes) : Bytes := Bytes.ofString mark ++ bare line

/-- The rows that show a chunk. Of kept lines two are shown next to a change, and where more than
these are kept, dots stand for the others. -/
inductive Shown (first last : Bool) : Edit → List Bytes → List Bytes → Prop where
  | deleted (lines : List Bytes) : Shown first last .delete lines (lines.map (row "- "))
  | inserted (lines : List Bytes) : Shown first last .insert lines (lines.map (row "+ "))
  | whole (lines : List Bytes) :
      lines.length ≤ (if first then 0 else 2) + (if last then 0 else 2) →
      Shown first last .keep lines (lines.map (row "  "))
  | cut (head hidden tail : List Bytes) : head.length = (if first then 0 else 2) → hidden ≠ [] →
      tail.length = (if last then 0 else 2) →
      Shown first last .keep (head ++ (hidden ++ tail))
        (head.map (row "  ") ++ row "  " "..." :: tail.map (row "  "))

/-- The rows that show chunks one after another; `first` tells whether nothing stands before
them. -/
inductive Listing : Bool → List (Edit × List Bytes) → List Bytes → Prop where
  | nil {first : Bool} : Listing first [] []
  | cons {first : Bool} {edit : Edit} {lines rows more : List Bytes}
      {rest : List (Edit × List Bytes)} : Shown first rest.isEmpty edit lines rows →
      Listing false rest more → Listing first ((edit, lines) :: rest) (rows ++ more)

def page (rows : List Bytes) : Bytes := rows.flatMap (· ++ [0x0A])

theorem page_append (rows more : List Bytes) : page (rows ++ more) = page rows ++ page more :=
  List.flatMap_append

theorem page_eq_nil {rows : List Bytes} (empty : page rows = []) : rows = [] := by
  cases rows with
  | nil => rfl
  | cons row rows => simp [page] at empty

/-! The rendering is such a listing. -/

theorem marked_bare (mark : String) (lines : List Bytes) :
    marked mark (lines.map bare) = page (lines.map (row mark)) := by
  simp [marked, page, row, List.flatMap_map]

theorem trimContext_shown (lines : List Bytes) (first last : Bool) :
    ∃ rows, Shown first last .keep lines rows ∧
      marked "  " (trimContext (lines.map bare) first last) = page rows := by
  unfold trimContext contextLines
  dsimp only
  rw [List.length_map]
  by_cases short : lines.length ≤ (if first then 0 else 2) + (if last then 0 else 2)
  · rw [if_pos short]
    exact ⟨_, .whole lines short, marked_bare _ _⟩
  · rw [if_neg short]
    generalize headSize : (if first then 0 else 2) = h at short ⊢
    generalize tailSize : (if last then 0 else 2) = k at short ⊢
    have inside : lines.length - k = h + (lines.length - k - h) := by omega
    have parts : lines = lines.take h ++
        ((lines.drop h).take (lines.length - k - h) ++ lines.drop (lines.length - k)) := by
      rw [inside, ← List.drop_drop, Nat.add_sub_cancel_left, List.take_append_drop,
        List.take_append_drop]
    have hidden : (lines.drop h).take (lines.length - k - h) ≠ [] := by
      intro none
      have length := congrArg List.length none
      simp only [List.length_take, List.length_drop, List.length_nil] at length
      omega
    have shown : Shown first last .keep _ _ :=
      .cut (lines.take h) _ (lines.drop (lines.length - k))
        (by rw [List.length_take, headSize]; omega) hidden
        (by rw [List.length_drop, tailSize]; omega)
    rw [← parts] at shown
    refine ⟨_, shown, ?_⟩
    have dots : bare "..." = "..." := by decide
    have trimmed : (lines.map bare).take h ++
        ("..." : Bytes) :: (lines.map bare).drop (lines.length - k) =
        (lines.take h ++ ("..." : Bytes) :: lines.drop (lines.length - k)).map bare := by
      simp [dots]
    rw [trimmed, marked_bare]
    simp

theorem renderChunk_shown (t : LineTable) (first last : Bool) (c : Chunk) :
    ∃ rows, Shown first last c.edit (c.codes.map t.line) rows ∧
      renderChunk t first last c = page rows := by
  have lines : chunkLines t c = (c.codes.map t.line).map bare := by
    simp [chunkLines, bare]
  unfold renderChunk
  rw [lines]
  cases c.edit with
  | delete => exact ⟨_, .deleted _, marked_bare _ _⟩
  | insert => exact ⟨_, .inserted _, marked_bare _ _⟩
  | keep => exact trimContext_shown _ first last

theorem renderFrom_listing (t : LineTable) (first : Bool) (chunks : List Chunk) :
    ∃ rows, Listing first (chunks.map fun c => (c.edit, c.codes.map t.line)) rows ∧
      renderFrom t first chunks = page rows := by
  induction chunks generalizing first with
  | nil => exact ⟨[], .nil, rfl⟩
  | cons c rest ih =>
    obtain ⟨rows, shown, here⟩ := renderChunk_shown t first rest.isEmpty c
    obtain ⟨more, listing, behind⟩ := ih false
    refine ⟨rows ++ more, .cons ?_ listing, ?_⟩
    · rwa [List.isEmpty_map]
    · rw [renderFrom, here, behind, page_append]

theorem lineSide_eq (t : LineTable) (gone : Edit) (chunks : List Chunk) :
    lineSide gone (chunks.map fun c => (c.edit, c.codes.map t.line)) =
      (side gone chunks).map t.line := by
  induction chunks with
  | nil => rfl
  | cons c rest ih =>
    simp only [lineSide, List.map_cons, List.flatMap_cons] at ih ⊢
    rw [ih, side_cons, List.map_append, Chunk.without]
    split <;> simp

theorem map_shownCode {codes : List Nat} (small : ∀ c ∈ codes, c ≤ 0x10FFFF) :
    codes.map shownCode = codes := by
  have each : ∀ c ∈ codes, shownCode c = id c := by
    intro c member
    have := small c member
    exact if_neg (by omega)
  rw [List.map_congr_left each, List.map_id]

theorem script_names (a b : Bytes) :
    List.Forall₂ (script a b).1.Names (LineTable.empty.encode a.lines).2 a.lines ∧
      List.Forall₂ (script a b).1.Names
        ((LineTable.empty.encode a.lines).1.encode b.lines).2 b.lines := by
  obtain ⟨_, _, names, _⟩ := LineTable.encodeEach_spec LineTable.sound_empty [a, b]
  cases names with
  | cons namesA rest =>
    cases rest with
    | cons namesB _ => exact ⟨namesA, namesB⟩

/-- The table names the lines of both texts, and the script leads from the ones to the others. -/
theorem script_lines {a b : Bytes} (few : (a.lines ++ b.lines).dedup.length ≤ LineTable.capacity) :
    (side .insert (script a b).2).map (script a b).1.line = a.lines ∧
      (side .delete (script a b).2).map (script a b).1.line = b.lines := by
  obtain ⟨namesA, namesB⟩ := script_names a b
  have size : (script a b).1.lines.size ≤ LineTable.capacity := by
    apply Nat.le_trans (LineTable.size_encodeEach_le [a, b])
    simpa using few
  have turns := compare_turns (LineTable.empty.encode a.lines).2
    ((LineTable.empty.encode a.lines).1.encode b.lines).2
  have old := map_shownCode (LineTable.Names.all_code_le size namesA)
  have new := map_shownCode (LineTable.Names.all_code_le size namesB)
  constructor
  · rw [← LineTable.Names.map_line namesA, ← old, ← turns.old]
    rfl
  · rw [← LineTable.Names.map_line namesB, ← new, ← turns.new]
    rfl

/-! What a listing tells about the texts. -/

theorem Listing.plain {first : Bool} {chunks : List (Edit × List Bytes)} {rows : List Bytes}
    (listing : Listing first chunks rows)
    (free : ∀ c ∈ chunks, ∀ line ∈ c.2, 0x0A ∉ bare line) : ∀ r ∈ rows, 0x0A ∉ r := by
  have marks : ∀ mark ∈ ["- ", "+ ", "  "], 0x0A ∉ Bytes.ofString mark := by decide
  have all {mark : String} (known : mark ∈ ["- ", "+ ", "  "]) {lines : List Bytes}
      (free : ∀ line ∈ lines, 0x0A ∉ bare line) : ∀ r ∈ lines.map (row mark), 0x0A ∉ r := by
    intro r member
    obtain ⟨line, inside, rfl⟩ := List.mem_map.mp member
    rw [row, List.mem_append, not_or]
    exact ⟨marks mark known, free line inside⟩
  induction listing with
  | nil => simp
  | @cons first edit lines rows more rest shown _ ih =>
    have here := free _ List.mem_cons_self
    have behind := ih fun c member => free c (List.mem_cons_of_mem _ member)
    intro r member
    rcases List.mem_append.mp member with member | member
    · cases shown with
      | deleted => exact all (by decide) here r member
      | inserted => exact all (by decide) here r member
      | whole => exact all (by decide) here r member
      | cut head hidden tail =>
        rcases List.mem_append.mp member with member | member
        · exact all (by decide) (fun line inside => here line (by simp [inside])) r member
        · rcases List.mem_cons.mp member with rfl | member
          · decide
          · exact all (by decide) (fun line inside => here line (by simp [inside])) r member
    · exact behind r member

theorem Listing.sides_eq {first : Bool} {chunks : List (Edit × List Bytes)}
    (listing : Listing first chunks []) : lineSide .insert chunks = lineSide .delete chunks := by
  generalize empty : ([] : List Bytes) = rows at listing
  induction listing with
  | nil => rfl
  | @cons first edit lines rows more rest shown _ ih =>
    obtain ⟨rfl, rfl⟩ := List.append_eq_nil_iff.mp empty.symm
    have behind := ih rfl
    simp only [lineSide, List.flatMap_cons] at behind ⊢
    rw [behind]
    generalize none : ([] : List Bytes) = rows at shown
    cases shown with
    | deleted => simp [List.map_eq_nil_iff.mp none.symm]
    | inserted => simp [List.map_eq_nil_iff.mp none.symm]
    | whole => rfl
    | cut => rfl

def starts (mark : String) (r : Bytes) : Bool := (Bytes.ofString mark).isPrefixOf r

theorem starts_row {mark other : String} (known : mark ∈ ["- ", "+ ", "  "])
    (known' : other ∈ ["- ", "+ ", "  "]) (line : Bytes) :
    starts mark (row other line) = decide (mark = other) := by
  simp only [List.mem_cons, List.not_mem_nil, or_false] at known known'
  rcases known with rfl | rfl | rfl <;> rcases known' with rfl | rfl | rfl <;> rfl

theorem countP_rows {mark other : String} (known : mark ∈ ["- ", "+ ", "  "])
    (known' : other ∈ ["- ", "+ ", "  "]) (lines : List Bytes) :
    (lines.map (row other)).countP (starts mark) = if mark = other then lines.length else 0 := by
  have same : starts mark ∘ row other = fun _ => decide (mark = other) :=
    funext (starts_row known known')
  rw [List.countP_map, same]
  by_cases eq : mark = other <;> simp [eq]

theorem starts_feed {mark : String} (plain : 0x0A ∉ Bytes.ofString mark) :
    starts mark ∘ (· ++ [0x0A]) = starts mark := by
  funext r
  rw [Function.comp_apply, starts, starts, Bool.eq_iff_iff, List.isPrefixOf_iff_prefix,
    List.isPrefixOf_iff_prefix, List.prefix_concat_iff]
  constructor
  · rintro (whole | inside)
    · simp [whole] at plain
    · exact inside
  · exact .inr

/-- Every added line has a row of its own, and so has every removed one. -/
theorem Listing.balance {first : Bool} {chunks : List (Edit × List Bytes)} {rows : List Bytes}
    (listing : Listing first chunks rows) :
    rows.countP (starts "+ ") + (lineSide .insert chunks).length =
      rows.countP (starts "- ") + (lineSide .delete chunks).length := by
  have added := @countP_rows "+ "
  have removed := @countP_rows "- "
  induction listing with
  | nil => rfl
  | @cons first edit lines rows more rest shown _ ih =>
    simp only [lineSide, List.flatMap_cons, List.length_append, List.countP_append] at ih ⊢
    suffices here : rows.countP (starts "+ ") + (if edit = .insert then [] else lines).length =
        rows.countP (starts "- ") + (if edit = .delete then [] else lines).length by omega
    cases shown with
    | deleted => simp [added, removed]
    | inserted => simp [added, removed]
    | whole => simp [added, removed]
    | cut head hidden tail =>
      have dots : starts "+ " (row "  " "...") = false ∧ starts "- " (row "  " "...") = false := by
        decide
      simp [added, removed, List.countP_append, dots]

/-- The diff of two texts is empty only if they are equal. Otherwise it shows a script between
their lines: kept and deleted lines make up the one text, kept and inserted lines the other. Every
change has its row, and the rows of the two sorts differ by as many as the texts have lines. The
texts may have so many different lines because each takes up a code point. -/
theorem render_faithful {a b : Bytes} (few : (a.lines ++ b.lines).dedup.length ≤ 1112063) :
    (render a b = [] ↔ a = b) ∧
    (a ≠ b → ∃ chunks rows, Listing true chunks rows ∧ lineSide .insert chunks = a.lines ∧
      lineSide .delete chunks = b.lines ∧ render a b = page rows ∧
      (render a b).lines = rows.map (· ++ [0x0A])) ∧
    ((render a b).lines.countP (starts "+ ") : Int) - (render a b).lines.countP (starts "- ") =
      b.lines.length - a.lines.length := by
  by_cases same : a = b
  · subst same
    have none : render a a = [] := by simp [render]
    simp [none, Bytes.lines]
  · obtain ⟨old, new⟩ := script_lines few
    obtain ⟨rows, listing, shown⟩ := renderFrom_listing (script a b).1 true (script a b).2
    rw [← lineSide_eq] at old new
    generalize (script a b).2.map (fun c => (c.edit, c.codes.map (script a b).1.line)) = chunks
      at old new listing
    have text : render a b = page rows := by
      rw [render, if_neg same]
      exact shown
    have plain : ∀ r ∈ rows, 0x0A ∉ r := by
      apply listing.plain
      intro c inside line member
      by_cases inserted : c.1 = .insert
      · have there : line ∈ lineSide .delete chunks :=
          List.mem_flatMap.mpr ⟨c, inside, by simpa [inserted] using member⟩
        rw [new] at there
        exact Bytes.bare_line there
      · have there : line ∈ lineSide .insert chunks :=
          List.mem_flatMap.mpr ⟨c, inside, by simpa [inserted] using member⟩
        rw [old] at there
        exact Bytes.bare_line there
    have lines : (render a b).lines = rows.map (· ++ [0x0A]) := by
      rw [text, page, Bytes.lines_terminated plain]
    refine ⟨⟨fun empty => ?_, fun eq => absurd eq same⟩,
      fun _ => ⟨chunks, rows, listing, old, new, text, lines⟩, ?_⟩
    · rw [text] at empty
      rw [page_eq_nil empty] at listing
      have sides := listing.sides_eq
      rw [old, new] at sides
      exact Bytes.lines_injective sides
    · have balance := listing.balance
      rw [lines, List.countP_map, List.countP_map, starts_feed (by decide),
        starts_feed (by decide), ← old, ← new]
      omega

/-- Two lines change places, and the last one gets its line feed. -/
theorem render_faithful_feed :
    let a : Bytes := "a\nb\nc\nd\ne\na\n\nf\n+ x"
    let b : Bytes := "a\nb\nc\nd\ne\n\na\nf\n+ x\n"
    (a.lines ++ b.lines).dedup.length ≤ 1112063 ∧ render a b ≠ [] ∧
      (render a b).lines.countP (starts "+ ") = (render a b).lines.countP (starts "- ") := by
  intro a b
  have few : (a.lines ++ b.lines).dedup.length ≤ 1112063 := by decide +kernel
  obtain ⟨empty, _, rows⟩ := render_faithful few
  have sizes : a.lines.length = 9 ∧ b.lines.length = 9 := by decide +kernel
  rw [sizes.1, sizes.2] at rows
  exact ⟨few, fun none => absurd (empty.mp none) (by decide +kernel), by omega⟩

end Retouch.Diff
