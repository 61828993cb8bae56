import Retouch.FileTree

/-! Entries of changed trees.
A change at one location leaves all others as they are. A file where there was nothing before
changes no path that leads somewhere. -/
namespace Retouch.FileTree

variable {t : FileTree} {cwd k l : Location} {path : Bytes} {e : Entry}

theorem ne_nil_of_entry?_none (free : t.entry? l = none) : l ≠ [] := by
  rintro rfl
  cases free

theorem find?_erase (other : k ≠ l) :
    (t.erase l).entries.find? (·.1 == k) = t.entries.find? (·.1 == k) := by
  rw [erase, List.find?_filter]
  congr 1
  funext p
  by_cases here : p.1 = k
  · simp [here, other]
  · simp [here]

theorem entry?_eraseAll (below : l ≠ []) :
    entry? (t.eraseAll l) k = if l <+: k then none else t.entry? k := by
  rw [FileTree.entry?, FileTree.entry?, eraseAll]
  dsimp only
  by_cases root : k = []
  · have apart : ¬ l <+: k := by
      rwa [root, List.prefix_nil]
    rw [if_neg apart, if_pos root, if_pos root]
  · rw [if_neg root, if_neg root, List.find?_filter]
    split
    · rename_i inside
      rw [Option.map_eq_none_iff, List.find?_eq_none]
      intro p _ same
      simp only [Bool.not_eq_true', beq_iff_eq, decide_eq_true_eq] at same
      rw [same.2, ← Bool.not_eq_true, List.isPrefixOf_iff_prefix] at same
      exact same.1 inside
    · rename_i outside
      congr 2
      funext p
      by_cases here : p.1 = k
      · have other : l.isPrefixOf k = false := by
          rwa [← Bool.not_eq_true, List.isPrefixOf_iff_prefix]
        simp [here, other]
      · simp [here]

theorem entry?_put_other (other : k ≠ l) : entry? (t.put l e) k = t.entry? k := by
  have skip : (l == k) = false := by simpa using Ne.symm other
  rw [FileTree.entry?, FileTree.entry?, put, List.find?_cons, skip]
  rw [find?_erase other]

theorem entry?_put_self (below : l ≠ []) : entry? (t.put l e) l = some e := by
  simp [FileTree.entry?, put, below]

theorem erase_of_free (free : t.entry? l = none) : t.erase l = t := by
  rw [FileTree.entry?, if_neg (ne_nil_of_entry?_none free), Option.map_eq_none_iff,
    List.find?_eq_none] at free
  have all : t.entries.filter (·.1 != l) = t.entries := by
    rw [List.filter_eq_self]
    intro p member
    simpa using free p member
  rw [erase, all]

theorem erase_put : (t.put l e).erase l = t.erase l := by
  simp [erase, put]

theorem put_put (e' : Entry) : (t.put l e).put l e' = t.put l e' := by
  rw [put, erase_put, put]

theorem walk_congr {u : FileTree} (same : ∀ k, t.entry? k = some .directory ↔
    u.entry? k = some .directory) (names : List Bytes) (from_ m : Location) :
    t.walk from_ names = .ok m ↔ u.walk from_ names = .ok m := by
  induction names generalizing from_ with
  | nil => exact Iff.rfl
  | cons name rest ih =>
    have here := same from_
    rw [walk, walk]
    cases entry : t.entry? from_ with
    | none =>
      rw [entry] at here
      cases other : u.entry? from_ with
      | none => exact Iff.rfl
      | some e =>
        cases e with
        | directory => exact absurd (here.mpr other) (by simp)
        | file mode content => simp
    | some e =>
      cases e with
      | directory =>
        rw [here.mp entry]
        dsimp only
        split
        · exact ih from_
        split
        · exact ih from_.dropLast
        split
        · exact Iff.rfl
        · exact ih (from_ ++ [name])
      | file mode content =>
        rw [entry] at here
        cases other : u.entry? from_ with
        | none => simp
        | some e' =>
          cases e' with
          | directory => exact absurd (here.mpr other) (by simp)
          | file mode' content' => simp

theorem walk_append (l : Location) (names more : List Bytes) :
    t.walk l (names ++ more) = match t.walk l names with
      | .error f => .error f
      | .ok k => t.walk k more := by
  induction names generalizing l with
  | nil => rfl
  | cons name rest ih =>
    rw [List.cons_append, walk, walk]
    split
    · rfl
    · rfl
    · split
      · exact ih l
      split
      · exact ih l.dropLast
      split
      · rfl
      · exact ih (l ++ [name])

theorem locate_ok_iff : t.locate cwd path = .ok l ↔ 0 ∉ path ∧ path ≠ [] ∧ path.length < maxPath ∧
    t.walk (if Path.isAbsolute path then [] else cwd) (path.splitOn Path.slash) = .ok l := by
  unfold locate
  split
  · simp_all
  split
  · simp_all
  split
  · rename_i long
    simp [Nat.not_lt.mpr long]
  · rename_i zeroless nonempty short
    simp [zeroless, nonempty, Nat.lt_of_not_le short]

/-- One name leads from a directory to itself, to the one above it, or below it. -/
theorem walk_single {name : Bytes} (found : t.walk k [name] = .ok l) :
    t.entry? k = some .directory ∧
      ((name = [] ∨ name = [0x2E]) ∧ l = k ∨ name = [0x2E, 0x2E] ∧ l = k.dropLast ∨
        (name ≠ [] ∧ name ≠ [0x2E] ∧ name ≠ [0x2E, 0x2E] ∧ name.length ≤ maxName) ∧
          l = k ++ [name]) := by
  unfold walk at found
  split at found
  · cases found
  · cases found
  · rename_i directory
    refine ⟨directory, ?_⟩
    split at found
    · rename_i stays
      cases found
      exact .inl ⟨by simpa using stays, rfl⟩
    split at found
    · rename_i up
      cases found
      exact .inr (.inl ⟨up, rfl⟩)
    split at found
    · cases found
    · rename_i stays up short
      cases found
      simp only [Bool.or_eq_true, decide_eq_true_eq, not_or] at stays
      exact .inr (.inr ⟨⟨stays.1, stays.2, up, Nat.le_of_not_lt short⟩, rfl⟩)

theorem locate_congr {u : FileTree} (same : ∀ k, t.entry? k = some .directory ↔
    u.entry? k = some .directory) (cwd : Location) (path : Bytes) (m : Location) :
    t.locate cwd path = .ok m ↔ u.locate cwd path = .ok m := by
  rw [locate, locate]
  split
  · exact Iff.rfl
  split
  · exact Iff.rfl
  split
  · exact Iff.rfl
  · exact walk_congr same _ _ m

theorem put_file_directories {mode : Nat} {content : Bytes}
    (free : t.entry? l ≠ some .directory) (k : Location) :
    entry? (t.put l (.file mode content)) k = some .directory ↔ t.entry? k = some .directory := by
  by_cases here : k = l
  · subst here
    have below : k ≠ [] := by
      rintro rfl
      exact free rfl
    rw [entry?_put_self below]
    constructor
    · intro file; cases file
    · intro directory; exact absurd directory free
  · rw [entry?_put_other here]

end Retouch.FileTree
