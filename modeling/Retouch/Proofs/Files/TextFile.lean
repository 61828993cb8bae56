import Retouch.Proofs.Files.Workspace
import Retouch.TextFile

/-! Reading and replacing files.
Reading changes no file. A write either fails and leaves the tree as it was, or it changes the one
location that its path leads to. -/
namespace Retouch

namespace FileTree

variable {t : FileTree} {cwd : Location} {path : Bytes}

theorem lookup_ok {l : Location} {e : Entry} :
    t.lookup cwd path = .ok (l, e) ↔ t.locate cwd path = .ok l ∧ t.entry? l = some e := by
  rw [lookup]
  cases t.locate cwd path with
  | error f => simp
  | ok m =>
    dsimp only
    constructor
    · intro found
      split at found
      · cases found
      · rename_i e' present
        cases found
        exact ⟨rfl, present⟩
    · rintro ⟨same, present⟩
      cases same
      rw [present]

end FileTree

namespace TextFile

/-- The mode that a written file gets: the one it had, or that of new files. -/
def modeAt : Option Entry → Nat
  | some (.file mode _) => mode
  | _ => defaultMode

/-- A content was written to a path: the location that the path leads to holds it, with the mode it
had, and all others are as they were. -/
structure Written (w w' : Workspace) (path content : Bytes) (m : Location) : Prop where
  located : w.tree.locate w.cwd path = .ok m
  free : w.tree.entry? m ≠ some .directory
  entry : w'.tree.entry? m = some (.file (modeAt (w.tree.entry? m)) content)
  others : ∀ k, k ≠ m → w'.tree.entry? k = w.tree.entry? k
  cwd : w'.cwd = w.cwd

theorem Written.directories {w w' : Workspace} {path content : Bytes} {m : Location}
    (written : Written w w' path content m) (k : Location) :
    w'.tree.entry? k = some .directory ↔ w.tree.entry? k = some .directory := by
  by_cases here : k = m
  · subst here
    rw [written.entry]
    constructor
    · intro file; cases file
    · intro directory; exact absurd directory written.free
  · rw [written.others k here]

/-- After a write every path leads to where it led before. -/
theorem Written.locate {w w' : Workspace} {path content : Bytes} {m : Location}
    (written : Written w w' path content m) (cwd : Location) (other : Bytes) (l : Location) :
    w'.tree.locate cwd other = .ok l ↔ w.tree.locate cwd other = .ok l :=
  FileTree.locate_congr written.directories cwd other l

theorem Written.of_kept {w v v' w' : Workspace} {path content : Bytes} {m : Location}
    (before : Kept w v) (written : Written v v' path content m) (after : Kept v' w') :
    Written w w' path content m := by
  obtain ⟨located, free, entry, others, cwd⟩ := written
  rw [before.tree] at free entry others
  rw [before.tree, before.cwd] at located
  rw [before.cwd] at cwd
  refine ⟨located, free, ?_, fun k other => ?_, after.cwd.trans cwd⟩
  · rw [after.tree, entry]
  · rw [after.tree, others k other]

theorem load_cases (path : Bytes) (w : Workspace) :
    Kept w ((load path).run.run w).2 ∧
      ((∃ e, ((load path).run.run w).1 = .error e) ∨
        ∃ l mode content, w.tree.lookup w.cwd path = .ok (l, .file mode content) ∧
          ((load path).run.run w).1 = .ok content) := by
  rw [load, run_bind, run_lift]
  dsimp only
  rw [run_bind, run_adapt, Workspace.run_readFile]
  have same : ((Workspace.debug "loading file" [("path", .text path)]).run w).2.tree.lookup
      ((Workspace.debug "loading file" [("path", .text path)]).run w).2.cwd path =
      w.tree.lookup w.cwd path := rfl
  rw [same]
  cases found : w.tree.lookup w.cwd path with
  | error f => exact ⟨⟨rfl, rfl⟩, .inl ⟨_, rfl⟩⟩
  | ok place =>
    obtain ⟨l, e⟩ := place
    cases e with
    | directory => exact ⟨⟨rfl, rfl⟩, .inl ⟨_, rfl⟩⟩
    | file mode content => exact ⟨⟨rfl, rfl⟩, .inr ⟨l, mode, content, rfl, rfl⟩⟩

theorem modeOf_cases (path : Bytes) (w : Workspace) :
    (∃ e, (modeOf path).run.run w = (.error e, w)) ∨
    ∃ mode, (modeOf path).run.run w = (.ok mode, w) ∧ ∀ m, w.tree.locate w.cwd path = .ok m →
      w.tree.entry? m ≠ some .directory → mode = modeAt (w.tree.entry? m) := by
  rw [modeOf, run_bind, run_lift, Workspace.run_stat]
  cases found : w.tree.lookup w.cwd path with
  | error f =>
    by_cases missing : f = .notFound
    · subst missing
      refine .inr ⟨defaultMode, rfl, fun m located free => ?_⟩
      cases entry : w.tree.entry? m with
      | none => rfl
      | some e =>
        have present := FileTree.lookup_ok.mpr ⟨located, entry⟩
        rw [found] at present
        cases present
    · refine .inl ⟨.checking path (.access "stat" path f), ?_⟩
      have other : (FileError.access "stat" path f).isNotFound = false := by
        simpa [FileError.isNotFound, FileError.fault] using missing
      dsimp only
      rw [other]
      rfl
  | ok place =>
    obtain ⟨l, e⟩ := place
    obtain ⟨same, present⟩ := FileTree.lookup_ok.mp found
    cases e with
    | directory =>
      refine .inr ⟨0o755, rfl, fun m located free => ?_⟩
      rw [located] at same
      cases same
      exact absurd present free
    | file mode content =>
      refine .inr ⟨mode, rfl, fun m located free => ?_⟩
      rw [located] at same
      cases same
      rw [present]
      rfl

/-- What a write does to the tree once its temporary file has been made and filled. -/
theorem written_of_temporary {w : Workspace} {path content : Bytes} {l m : Location} {mode : Nat}
    (fresh : w.tree.entry? l = none)
    (located : (w.tree.put l (.file mode content)).locate w.cwd path = .ok m)
    (free : FileTree.entry? (w.tree.put l (.file mode content)) m ≠ some .directory)
    (known : ∀ m, w.tree.locate w.cwd path = .ok m → w.tree.entry? m ≠ some .directory →
      mode = modeAt (w.tree.entry? m)) {w' : Workspace} (cwd : w'.cwd = w.cwd)
    (tree : w'.tree = ((w.tree.put l (.file mode content)).erase l).put m (.file mode content)) :
    Written w w' path content m := by
  have vacant : w.tree.entry? l ≠ some .directory := by rw [fresh]; simp
  have directories (k : Location) :
      FileTree.entry? (w.tree.put l (.file mode content)) k = some .directory ↔
        w.tree.entry? k = some .directory :=
    FileTree.put_file_directories vacant k
  have located' := (FileTree.locate_congr directories w.cwd path m).mp located
  have free' : w.tree.entry? m ≠ some .directory := fun directory =>
    free ((directories m).mpr directory)
  have below : m ≠ [] := by
    rintro rfl
    exact free' rfl
  rw [FileTree.erase_put, FileTree.erase_of_free fresh] at tree
  refine ⟨located', free', ?_, fun k other => ?_, cwd⟩
  · rw [tree, FileTree.entry?_put_self below, known m located' free']
  · rw [tree, FileTree.entry?_put_other other]

theorem write_cases [Chance] (path content : Bytes) (w : Workspace) :
    ((∃ e, ((write path content).run.run w).1 = .error e) ∧
      Kept w ((write path content).run.run w).2) ∨
    (((write path content).run.run w).1 = .ok () ∧
      ∃ m, Written w ((write path content).run.run w).2 path content m) := by
  rw [write, run_bind]
  rcases modeOf_cases path w with ⟨e, reads⟩ | ⟨mode, reads, known⟩
  · rw [reads]
    exact .inl ⟨⟨e, rfl⟩, Kept.refl w⟩
  · rw [reads]
    dsimp only
    rw [run_bind, run_adapt]
    generalize (if (Path.split path).1 = [] then [0x2E] else (Path.split path).1) = directory
    rcases Workspace.createTemporary_cases directory (Path.split path).2 w with
      ⟨e, creates⟩ | ⟨temporary, l, fresh, creates⟩
    · rw [creates]
      exact .inl ⟨⟨_, rfl⟩, Kept.refl w⟩
    · rw [creates]
      dsimp only [Except.mapError]
      have filled : ((Workspace.fill l mode content).run
          { w with tree := w.tree.put l (.file 0o600 []) }).2 =
          { w with tree := w.tree.put l (.file mode content) } :=
        congrArg (fun t => ({ w with tree := t } : Workspace)) (FileTree.put_put _)
      rw [run_bind, run_lift, filled]
      dsimp only
      rw [run_bind, run_lift]
      rcases Workspace.rename_cases temporary l path
        { w with tree := w.tree.put l (.file mode content) } with
        ⟨e, renames⟩ | ⟨m, e, located, free, present, renames⟩
      · rw [renames]
        refine .inl ⟨⟨_, rfl⟩, ?_, rfl⟩
        exact FileTree.erase_put.trans (FileTree.erase_of_free fresh)
      · rw [FileTree.entry?_put_self (FileTree.ne_nil_of_entry?_none fresh)] at present
        cases present
        rw [renames]
        exact .inr ⟨rfl, m, written_of_temporary fresh located free known rfl rfl⟩

theorem backup_cases [Chance] (path content suffix : Bytes) (w : Workspace) :
    ((∃ e, ((backup path content suffix).run.run w).1 = .error e) ∧
      Kept w ((backup path content suffix).run.run w).2) ∨
    (((backup path content suffix).run.run w).1 = .ok (backupPath path suffix) ∧
      ∃ m, Written w ((backup path content suffix).run.run w).2 (backupPath path suffix)
        content m) := by
  rw [backup, run_bind, run_adapt]
  rcases write_cases (backupPath path suffix) content w with
    ⟨⟨e, fails⟩, kept⟩ | ⟨writes, m, written⟩
  · rw [fails]
    exact .inl ⟨⟨_, rfl⟩, kept⟩
  · rw [writes]
    exact .inr ⟨rfl, m, written.of_kept (Kept.refl w) ⟨rfl, rfl⟩⟩

end TextFile

end Retouch
