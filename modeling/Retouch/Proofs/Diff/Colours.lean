import Retouch.Console
import Retouch.Proofs.Diff.AnyLength
import Retouch.Proofs.Path.Clean

/-! Diffs in colours.
A diff is shown row by row, and the colour of a row tells which sort of chunk it comes from,
whatever the lines of the texts begin with. -/
namespace Retouch.Diff

open Bytes (bare)

def Edit.style : Edit → Style
  | .insert => .green
  | .delete => .red
  | .keep => .faint

/-- A row between the escape codes of its chunk: those of green, of red and of faint text. -/
def Edit.coloured : Edit → Bytes → Bytes
  | .insert, r => "\x1b[32m" ++ r ++ "\x1b[0m"
  | .delete, r => "\x1b[31m" ++ r ++ "\x1b[0m"
  | .keep, r => "\x1b[2m" ++ r ++ "\x1b[22m"

theorem Edit.coloured_eq (edit : Edit) (r : Bytes) : edit.coloured r = edit.style.apply true r := by
  cases edit <;>
  · rw [Style.apply, if_pos rfl, List.append_assoc]
    rfl

def Edit.mark : Edit → String
  | .insert => "+ "
  | .delete => "- "
  | .keep => "  "

def Edit.shown (colours : Bool) (edit : Edit) (r : Bytes) : Bytes :=
  if colours then edit.coloured r else r

/-- A listing whose rows are kept together with the edit of the chunk that they show. -/
inductive Traced : Bool → List (Edit × List Bytes) → List (Edit × Bytes) → Prop where
  | nil {first : Bool} : Traced first [] []
  | cons {first : Bool} {edit : Edit} {lines rows : List Bytes} {rest : List (Edit × List Bytes)}
      {more : List (Edit × Bytes)} : Shown first rest.isEmpty edit lines rows →
      Traced false rest more → Traced first ((edit, lines) :: rest) (rows.map (edit, ·) ++ more)

variable {first last : Bool} {chunks : List (Edit × List Bytes)}

theorem Listing.traced {rows : List Bytes} (listing : Listing first chunks rows) :
    ∃ traced, Traced first chunks traced ∧ traced.map (·.2) = rows := by
  induction listing with
  | nil => exact ⟨[], .nil, rfl⟩
  | @cons first edit lines rows more rest shown _ ih =>
    obtain ⟨traced, behind, same⟩ := ih
    refine ⟨_, .cons shown behind, ?_⟩
    simp [same, Function.comp_def]

/-! The sign of a row gives its chunk away. -/

theorem Shown.marked {edit : Edit} {lines rows : List Bytes}
    (shown : Shown first last edit lines rows) : ∀ r ∈ rows, ∃ line, row edit.mark line = r := by
  have all (mark : String) (lines : List Bytes) :
      ∀ r ∈ lines.map (row mark), ∃ line, row mark line = r := by
    intro r member
    obtain ⟨line, _, same⟩ := List.mem_map.mp member
    exact ⟨line, same⟩
  cases shown with
  | deleted => exact all "- " lines
  | inserted => exact all "+ " lines
  | whole => exact all "  " lines
  | cut head hidden tail =>
    intro r member
    rcases List.mem_append.mp member with before | behind
    · exact all "  " head r before
    · rcases List.mem_cons.mp behind with rfl | after
      · exact ⟨_, rfl⟩
      · exact all "  " tail r after

theorem Traced.marked {rows : List (Edit × Bytes)} (traced : Traced first chunks rows) :
    ∀ r ∈ rows, ∃ line, row r.1.mark line = r.2 := by
  induction traced with
  | nil => simp
  | cons shown _ ih =>
    intro r member
    rcases List.mem_append.mp member with here | behind
    · obtain ⟨shownRow, inside, rfl⟩ := List.mem_map.mp here
      exact shown.marked shownRow inside
    · exact ih r behind

theorem Traced.style {rows : List (Edit × Bytes)} (traced : Traced first chunks rows) :
    ∀ r ∈ rows, Console.diffStyle r.2 = r.1.style := by
  intro r member
  obtain ⟨line, same⟩ := traced.marked r member
  rw [← same]
  cases r.1 <;> rfl

/-! A page is cut into its rows again. -/

theorem page_eq_intercalate {rows : List Bytes} (some : rows ≠ []) :
    page rows = [0x0A].intercalate rows ++ [0x0A] := by
  induction rows with
  | nil => exact absurd rfl some
  | cons row rows ih =>
    cases rows with
    | nil => simp [page]
    | cons next rows =>
      have behind := ih (List.cons_ne_nil next rows)
      rw [List.intercalate_cons_of_ne_nil (List.cons_ne_nil next rows), List.append_assoc, ← behind]
      simp [page]

theorem splitOn_page {rows : List Bytes} (some : rows ≠ []) (plain : ∀ r ∈ rows, 0x0A ∉ r) :
    ((page rows).dropSuffix [0x0A]).splitOn 0x0A = rows := by
  have inside := Bytes.bare_terminated ([0x0A].intercalate rows)
  rw [bare, ← page_eq_intercalate some] at inside
  rw [inside]
  exact Bytes.splitOn_intercalate some plain

theorem text_diff_page {rows : List Bytes} (some : rows ≠ []) (plain : ∀ r ∈ rows, 0x0A ∉ r)
    (colours : Bool) : (Console.diff colours (page rows)).text =
      rows.flatMap fun r => (Console.diffStyle r).apply colours r ++ [0x0A] := by
  rw [Console.diff, splitOn_page some plain]

/-! The rows of a rendered script. -/

/-- The chunks of the script between two texts, with the lines that its codes stand for. -/
def lineScript (a b : Bytes) : List (Edit × List Bytes) :=
  (script a b).2.map fun c => (c.edit, c.codes.map (script a b).1.line)

theorem bare_script_line {a b : Bytes} {code : Nat} : 0x0A ∉ bare ((script a b).1.line code) := by
  rw [LineTable.line, Array.getD_eq_getD_getElem?]
  cases here : (script a b).1.lines[LineTable.position code]? with
  | none => decide
  | some line =>
    have listed : line ∈ [a, b].flatMap Bytes.lines :=
      LineTable.mem_encodeEach (Array.mem_of_getElem? here)
    obtain ⟨text, _, inside⟩ := List.mem_flatMap.mp listed
    exact Bytes.bare_line inside

theorem render_rows {a b : Bytes} (differ : a ≠ b) :
    ∃ rows, Listing true (lineScript a b) rows ∧ render a b = page rows ∧ rows ≠ [] ∧
      ∀ r ∈ rows, 0x0A ∉ r := by
  obtain ⟨rows, listing, shown⟩ := renderFrom_listing (script a b).1 true (script a b).2
  have text : render a b = page rows := by
    rw [render, if_neg differ]
    exact shown
  refine ⟨rows, listing, text, ?_, listing.plain ?_⟩
  · rintro rfl
    exact differ (render_eq_nil_iff.mp text)
  · intro c member line inside
    obtain ⟨chunk, _, rfl⟩ := List.mem_map.mp member
    obtain ⟨code, _, rfl⟩ := List.mem_map.mp inside
    exact bare_script_line

/-- Every row of a diff is shown with the edit of its chunk. -/
theorem text_diff_render {a b : Bytes} (differ : a ≠ b) :
    ∃ rows, Traced true (lineScript a b) rows ∧ render a b = page (rows.map (·.2)) ∧
      (∀ r ∈ rows, 0x0A ∉ r.2) ∧ ∀ colours, (Console.diff colours (render a b)).text =
        rows.flatMap fun r => r.1.shown colours r.2 ++ [0x0A] := by
  obtain ⟨rows, listing, text, some, plain⟩ := render_rows differ
  obtain ⟨traced, traces, rfl⟩ := listing.traced
  refine ⟨traced, traces, text, fun r member => plain _ (List.mem_map_of_mem member),
    fun colours => ?_⟩
  rw [text, text_diff_page some plain, List.flatMap_map]
  apply List.flatMap_congr
  intro r member
  rw [traces.style r member, Edit.shown]
  cases colours with
  | true => rw [if_pos rfl, Edit.coloured_eq]
  | false => rfl

/-- The diff of two different texts is shown row by row: without colours as it is, and in colours
with the same rows in the same order, each between the codes of the chunk of the script that it
comes from. These are green for inserted lines and for no other rows, red for deleted ones and for
no other rows, and faint for kept ones and for the dots. As long as there are codes for all their
lines, the chunks are made of the lines of the two texts. -/
theorem diff_shown_by_chunk {a b : Bytes} (differ : a ≠ b) :
    (Console.diff false (render a b)).text = render a b ∧
    ∃ rows, Traced true (lineScript a b) rows ∧
      render a b = page (rows.map (·.2)) ∧ (render a b).lines = rows.map (·.2 ++ [0x0A]) ∧
      (Console.diff true (render a b)).text =
        rows.flatMap (fun r => r.1.coloured r.2 ++ [0x0A]) ∧
      (∀ r ∈ rows, (Console.diffStyle r.2 = .green ↔ r.1 = .insert) ∧
        (Console.diffStyle r.2 = .red ↔ r.1 = .delete) ∧
        (Console.diffStyle r.2 = .faint ↔ r.1 = .keep)) ∧
      ((a.lines ++ b.lines).dedup.length ≤ 1112063 →
        lineSide .insert (lineScript a b) = a.lines ∧
          lineSide .delete (lineScript a b) = b.lines) := by
  obtain ⟨rows, traces, text, plain, shown⟩ := text_diff_render differ
  refine ⟨?_, rows, traces, text, ?_, shown true, ?_, ?_⟩
  · rw [shown, text, page, List.flatMap_map]
    rfl
  · rw [text, page, Bytes.lines_terminated (List.forall_mem_map.mpr plain), List.map_map]
    rfl
  · intro r member
    rw [traces.style r member]
    cases r.1 <;> simp [Edit.style]
  · intro few
    obtain ⟨old, new⟩ := script_lines few
    exact ⟨(lineSide_eq _ _ _).trans old, (lineSide_eq _ _ _).trans new⟩

/-- Lines that begin with signs, a bare line feed, a carriage return and a byte that is no text. -/
theorem diff_shown_by_chunk_signs :
    let a : Bytes := ("+ x\n- y\r\n" : Bytes) ++ [0xFF]
    let b : Bytes := ("- y\r\n" : Bytes) ++ 0xFF :: ("\n\n+ z" : Bytes)
    a ≠ b ∧ (Console.diff false (render a b)).text = render a b ∧
      ∃ rows, Traced true (lineScript a b) rows ∧ (Console.diff true (render a b)).text =
          rows.flatMap (fun r => r.1.coloured r.2 ++ [0x0A]) ∧
        lineSide .insert (lineScript a b) = a.lines := by
  intro a b
  have differ : a ≠ b := by decide
  have few : (a.lines ++ b.lines).dedup.length ≤ 1112063 := by decide +kernel
  obtain ⟨plain, rows, traced, _, _, coloured, _, sides⟩ := diff_shown_by_chunk differ
  exact ⟨differ, plain, rows, traced, coloured, (sides few).1⟩

end Retouch.Diff
