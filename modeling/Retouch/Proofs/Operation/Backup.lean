import Retouch.Proofs.Files.Session
import Retouch.Proofs.Files.Writable
import Retouch.Proofs.Path

/-! Backups and the places that they are kept at.
A backup is written to the path of the target with a suffix behind it, and the target is written
after it. So a backup holds the old content unless the two paths lead to one place, and that takes a
suffix with a slash. -/
namespace Retouch

theorem Bytes.splitOn_extend (sep : UInt8) (b : Bytes) :
    ∃ pieces last, splitOn sep b = pieces ++ [last] ∧
      ∀ more, sep ∉ more → splitOn sep (b ++ more) = pieces ++ [last ++ more] := by
  induction b with
  | nil => exact ⟨[], [], rfl, fun more free => splitOn_of_free free⟩
  | cons x b ih =>
    obtain ⟨pieces, last, eq, extend⟩ := ih
    unfold splitOn at eq extend ⊢
    by_cases here : x = sep
    · exact ⟨[] :: pieces, last, by simp [here, eq], fun more free => by
        simp [here, extend more free]⟩
    · cases pieces with
      | nil =>
        exact ⟨[], x :: last, by simp [here, eq], fun more free => by
          simp [here, extend more free]⟩
      | cons piece pieces =>
        exact ⟨(x :: piece) :: pieces, last, by simp [here, eq], fun more free => by
          simp [here, extend more free]⟩

namespace FileTree

variable {t : FileTree} {cwd l k : Location} {path : Bytes}

/-- What is appended to the path of a file without a slash leads to another place. -/
theorem locate_suffix {mode : Nat} {content suffix : Bytes} (located : t.locate cwd path = .ok l)
    (present : t.entry? l = some (.file mode content)) (written : suffix ≠ [])
    (free : Path.slash ∉ suffix) : t.locate cwd (path ++ suffix) ≠ .ok l := by
  intro again
  obtain ⟨_, nonempty, _, walks⟩ := locate_ok_iff.mp located
  obtain ⟨_, _, _, walks'⟩ := locate_ok_iff.mp again
  have start : Path.isAbsolute (path ++ suffix) = Path.isAbsolute path := by
    obtain ⟨x, rest, rfl⟩ := List.exists_cons_of_ne_nil nonempty
    rfl
  obtain ⟨names, name, split, extend⟩ := Bytes.splitOn_extend Path.slash path
  rw [start, extend suffix free, walk_append] at walks'
  rw [split, walk_append] at walks
  split at walks
  · cases walks
  · rename_i k reached
    rw [reached] at walks'
    obtain ⟨directory, ends⟩ := walk_single walks
    obtain ⟨_, ends'⟩ := walk_single walks'
    rcases ends with ⟨_, rfl⟩ | ⟨rfl, rfl⟩ | ⟨_, rfl⟩
    · -- the path of a file does not end with a step that stays
      rw [directory] at present
      cases present
    · rcases ends' with ⟨stays, _⟩ | ⟨up, _⟩ | ⟨_, below⟩
      · simp at stays
      · exact written (List.append_right_eq_self.mp up)
      · have lengths := congrArg List.length below
        simp only [List.length_dropLast, List.length_append, List.length_singleton] at lengths
        omega
    · rcases ends' with ⟨_, same⟩ | ⟨_, above⟩ | ⟨_, below⟩
      · simp at same
      · have lengths := congrArg List.length above
        simp only [List.length_dropLast, List.length_append, List.length_singleton] at lengths
        omega
      · rw [List.append_cancel_left_eq, List.singleton_inj] at below
        exact written (List.append_right_eq_self.mp below.symm)

end FileTree

/-- A replacer that leaves the files alone and tells the content that it was given. -/
structure Replacer.Faithful (r : Replacer) : Prop where
  gentle : r.Gentle
  initial : ∀ rules content w p,
    ((r.replace rules content).run.run w).1 = .ok p → p.initial = content

theorem Replacer.faithful_standard : Replacer.standard.Faithful := by
  refine ⟨gentle_standard, fun rules content w p replaces => ?_⟩
  rw [(Operation.replace_standard rules content w).1] at replaces
  cases replaces
  rfl

namespace TextFile

/-- A path that leads to a file is loaded exactly with the content there. -/
theorem load_ok_iff {w : Workspace} {path content : Bytes} {m : Location} {mode : Nat}
    {held : Bytes} (located : w.tree.locate w.cwd path = .ok m)
    (present : w.tree.entry? m = some (.file mode held)) :
    ((load path).run.run w).1 = .ok content ↔ held = content := by
  rw [load_ok (FileTree.lookup_ok.mpr ⟨located, present⟩), Except.ok.injEq]

theorem locate_backupPath {t : FileTree} {cwd l : Location} {path suffix : Bytes} {mode : Nat}
    {content : Bytes} (located : t.locate cwd path = .ok l)
    (present : t.entry? l = some (.file mode content)) (free : Path.slash ∉ suffix) :
    t.locate cwd (backupPath path suffix) ≠ .ok l := by
  unfold backupPath
  split
  · exact FileTree.locate_suffix located present (by decide) (by decide)
  · rename_i written
    exact FileTree.locate_suffix located present written free

end TextFile

namespace Operation

open TextFile (Written backupPath)

/-- A run without an error that tells of a backup has written it, and then the target. -/
theorem execute_saved [Chance] {o : Operation} (faithful : o.replacer.Faithful) {w w' : Workspace}
    {out : Outcome} (run : o.execute.run w = (out, w')) (done : out.error = none)
    (told : out.result.backupPath ≠ []) :
    ∃ l mode p v m, w.tree.lookup w.cwd o.target = .ok (l, .file mode p.initial) ∧
      out.result.replacement = some p ∧ p.initial ≠ p.modified ∧
      out.result.backupPath = backupPath o.target o.backupSuffix ∧
      Written w v (backupPath o.target o.backupSuffix) p.initial m ∧
      ∃ m', Written v w' o.target p.modified m' := by
  rcases o.execute_cases w with ⟨_, stops⟩ | ⟨_, stops, _⟩ |
    ⟨l, mode, content, kept, v, prepared, still, ⟨_, stops⟩ | ⟨p, u, replaces, concludes⟩⟩
  · rw [run, done] at stops
    cases stops
  · rw [run, done] at stops
    cases stops
  · rw [run, done] at stops
    cases stops
  have quiet := faithful.gentle kept content v
  have initial := faithful.initial kept content v p (by rw [replaces])
  rw [replaces] at quiet
  rw [run] at concludes
  rcases o.conclude_cases ⟨o.target, .transformed, some p, skippedNames o.rules kept, []⟩ p u with
    ⟨_, ⟨names, stops⟩, _⟩ | ⟨_, stops, _⟩ | ⟨_, x, before, stores⟩
  · rw [← concludes] at stops
    cases stops
    cases done
  · rw [← concludes] at stops
    cases stops
    exact absurd rfl told
  rw [stores] at concludes
  rcases o.store_cases ⟨o.target, .transformed, some p, skippedNames o.rules kept, []⟩ p x with
    ⟨⟨e, fails⟩, _⟩ | ⟨y, path, saved, ⟨⟨e, fails⟩, _⟩ | ⟨writes, m', written⟩⟩
  · rw [← concludes] at fails
    cases fails
    cases done
  · rw [← concludes] at fails
    cases fails
    cases done
  rw [← concludes] at writes written
  cases writes
  cases saved with
  | none _ _ => exact absurd rfl told
  | @backup m asked backedUp =>
    rw [Bool.and_eq_true, Replacement.wasModified, bne_iff_ne] at asked
    have loaded := prepared.loaded
    rw [← initial] at loaded
    exact ⟨l, mode, p, y, m, loaded, rfl, asked.2, rfl,
      backedUp.of_kept ((still.trans quiet).trans before) (Kept.refl y), m', written⟩

/-- After a run without an error that tells of a backup, the target holds the new content. The
backup holds the old one exactly if its path led to another place than the target, and that is
always so if the suffix has no slash. -/
theorem execute_backup [Chance] {o : Operation} (faithful : o.replacer.Faithful) {w w' : Workspace}
    {out : Outcome} (run : o.execute.run w = (out, w')) (done : out.error = none)
    (told : out.result.backupPath ≠ []) :
    ∃ l mode content p, w.tree.lookup w.cwd o.target = .ok (l, .file mode content) ∧
      out.result.replacement = some p ∧
      out.result.backupPath = backupPath o.target o.backupSuffix ∧
      ((TextFile.load o.target).run.run w').1 = .ok p.modified ∧
      (((TextFile.load out.result.backupPath).run.run w').1 = .ok content ↔
        w.tree.locate w.cwd out.result.backupPath ≠ .ok l) ∧
      (Path.slash ∉ o.backupSuffix →
        ((TextFile.load out.result.backupPath).run.run w').1 = .ok content) := by
  obtain ⟨l, mode, p, v, m, loaded, replaced, differ, path, backedUp, m', written⟩ :=
    execute_saved faithful run done told
  obtain ⟨located, present⟩ := FileTree.lookup_ok.mp loaded
  have cwd := written.cwd.trans backedUp.cwd
  have leads (other : Bytes) (k : Location) :
      w'.tree.locate w'.cwd other = .ok k ↔ w.tree.locate w.cwd other = .ok k := by
    rw [cwd, written.locate, backedUp.locate]
  have here : m' = l := by
    have target := written.located
    rw [backedUp.cwd, backedUp.locate, located] at target
    exact (Except.ok.inj target).symm
  subst here
  have reads : ((TextFile.load out.result.backupPath).run.run w').1 = .ok p.initial ↔
      w.tree.locate w.cwd out.result.backupPath ≠ .ok m' := by
    have backup := (leads _ m).mpr backedUp.located
    rw [path, backedUp.located, ne_eq, Except.ok.injEq]
    by_cases same : m = m'
    · subst same
      rw [TextFile.load_ok_iff backup written.entry]
      exact iff_of_false (Ne.symm differ) (not_not_intro rfl)
    · have entry := (written.others m same).trans backedUp.entry
      rw [TextFile.load_ok_iff backup entry]
      exact iff_of_true rfl same
  refine ⟨m', mode, p.initial, p, loaded, replaced, path, ?_, reads, fun free => ?_⟩
  · rw [TextFile.load_ok_iff ((leads _ _).mpr located) written.entry]
  · rw [reads, path]
    exact TextFile.locate_backupPath located present free

/-- A suffix with a step back, to a file beside the target. -/
theorem execute_backup_beside :
    let _ : Chance := .always 7
    let o : Operation :=
      { target := "f", rules := [⟨"r", some (.literal "a"), "b", []⟩], backup := true
        backupSuffix := "x/../g" }
    let w : Workspace := ⟨⟨[(["f"], .file 0o600 "ca"), (["fx"], .directory)]⟩, [], []⟩
    let w' := (o.execute.run w).2
    o.check = .ok () ∧ (o.execute.run w).1.error = none ∧
      (o.execute.run w).1.result.backupPath = "fx/../g" ∧
      ((TextFile.load "fx/../g").run.run w').1 = .ok "ca" := by
  intro _ o w w'
  have done : (o.execute.run w).1.error = none := by decide +kernel
  have path : (o.execute.run w).1.result.backupPath = "fx/../g" := by decide +kernel
  obtain ⟨l, mode, content, p, loaded, _, _, _, reads, _⟩ := execute_backup
    Replacer.faithful_standard (Prod.eta (o.execute.run w)).symm done (by rw [path]; decide)
  have place : w.tree.lookup w.cwd o.target = .ok (["f"], .file 0o600 "ca") :=
    eq_ok_of_toOption (by decide +kernel)
  have elsewhere : w.tree.locate w.cwd "fx/../g" = .ok ["g"] :=
    eq_ok_of_toOption (by decide +kernel)
  rw [place] at loaded
  cases loaded
  rw [path, elsewhere] at reads
  exact ⟨rfl, done, path, reads.mpr (by rw [ne_eq, Except.ok.injEq]; decide)⟩

/-- A suffix that leads back to the target: the backup is gone with the write of the target. -/
theorem execute_backup_lost :
    let _ : Chance := .always 7
    let o : Operation :=
      { target := "f", rules := [⟨"r", some (.literal "a"), "b", []⟩], backup := true
        backupSuffix := "x/../f" }
    let w : Workspace := ⟨⟨[(["f"], .file 0o644 "a"), (["fx"], .directory)]⟩, [], []⟩
    let w' := (o.execute.run w).2
    o.check = .ok () ∧ (o.execute.run w).1.error = none ∧
      (o.execute.run w).1.result.backupPath = "fx/../f" ∧
      ((TextFile.load "f").run.run w).1 = .ok "a" ∧
      ((TextFile.load "fx/../f").run.run w').1 = .ok "b" := by
  intro _ o w w'
  exact ⟨rfl, by decide +kernel, by decide +kernel, eq_ok_of_toOption (by decide +kernel),
    eq_ok_of_toOption (by decide +kernel)⟩

end Operation

end Retouch
