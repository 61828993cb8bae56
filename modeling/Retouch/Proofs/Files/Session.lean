import Retouch.Proofs.Operation.Execution
import Retouch.Task

/-! What a whole session does to the files.
Every call comes down to writes, one after another, of the files that its answer tells of. So
invariants of single writes hold over any mix of calls, failed ones among them. -/
namespace Retouch

open TextFile (Written)

/-- Contents were written to paths, one after another, and nothing else happened to the files. -/
inductive Stores : Workspace → List (Bytes × Bytes) → Workspace → Prop where
  | nothing {w w' : Workspace} : Kept w w' → Stores w [] w'
  | file {w v w' : Workspace} {path content : Bytes} {m : Location}
      {files : List (Bytes × Bytes)} : Written w v path content m → Stores v files w' →
      Stores w ((path, content) :: files) w'

namespace Stores

variable {w v w' : Workspace} {files more : List (Bytes × Bytes)}

theorem of_written {path content : Bytes} {m : Location} (written : Written w w' path content m) :
    Stores w [(path, content)] w' :=
  .file written (.nothing (Kept.refl w'))

theorem of_kept (before : Kept w v) (stores : Stores v files w') : Stores w files w' := by
  cases stores with
  | nothing kept => exact .nothing (before.trans kept)
  | file written rest => exact .file (written.of_kept before (Kept.refl _)) rest

theorem append (first : Stores w files v) (second : Stores v more w') :
    Stores w (files ++ more) w' := by
  induction first with
  | nothing kept => exact second.of_kept kept
  | file written _ ih => exact .file written (ih second)

theorem cwd (stores : Stores w files w') : w'.cwd = w.cwd := by
  induction stores with
  | nothing kept => exact kept.cwd
  | file written _ ih => exact ih.trans written.cwd

theorem directories (stores : Stores w files w') (k : Location) :
    w'.tree.entry? k = some .directory ↔ w.tree.entry? k = some .directory := by
  induction stores with
  | nothing kept => rw [kept.tree]
  | file written _ ih => exact ih.trans (written.directories k)

theorem file_stays (stores : Stores w files w') {k : Location} {mode : Nat} {content : Bytes}
    (present : w.tree.entry? k = some (.file mode content)) :
    ∃ content', w'.tree.entry? k = some (.file mode content') := by
  induction stores generalizing content with
  | nothing kept => exact ⟨content, by rw [kept.tree, present]⟩
  | @file w v _ _ _ m _ written _ ih =>
    by_cases here : k = m
    · subst here
      have entry := written.entry
      rw [present] at entry
      exact ih entry
    · exact ih ((written.others k here).trans present)

theorem changed (stores : Stores w files w') {k : Location}
    (differ : w'.tree.entry? k ≠ w.tree.entry? k) :
    ∃ file ∈ files, w.tree.locate w.cwd file.1 = .ok k := by
  induction stores with
  | nothing kept => exact absurd (by rw [kept.tree]) differ
  | @file w v w' path content m files written _ ih =>
    by_cases here : k = m
    · subst here
      exact ⟨_, List.mem_cons_self, written.located⟩
    · rw [← written.others k here] at differ
      obtain ⟨file, member, located⟩ := ih differ
      rw [written.cwd, written.locate] at located
      exact ⟨file, List.mem_cons_of_mem _ member, located⟩

end Stores

/-! Calls and what their answers tell. -/

/-- The files that an operation wrote: the old content behind the path of its backup, and the new
one of its target. -/
def Result.stored (r : Result) : List (Bytes × Bytes) :=
  match r.replacement with
  | none => []
  | some p =>
    (if r.backupPath = [] then [] else [(r.backupPath, p.initial)]) ++
      if r.stage = .written then [(r.target, p.modified)] else []

def Replacer.Gentle (r : Replacer) : Prop :=
  ∀ rules content w, Kept w ((r.replace rules content).run.run w).2

theorem Replacer.gentle_standard : Replacer.standard.Gentle := fun rules content w =>
  (Operation.replace_standard rules content w).2

inductive Call where
  | write (path content : Bytes)
  | backup (path content suffix : Bytes)
  | execute (operation : Operation)
  | run (operations : List Operation)

inductive Answer where
  | write (outcome : Except TextFile.Error Unit)
  | backup (outcome : Except TextFile.Error Bytes)
  | execute (outcome : Operation.Outcome)
  | run (results : List Result) (failure : Option (TaskError Operation.Error))

namespace Call

def operations : Call → List Operation
  | .write .. | .backup .. => []
  | .execute o => [o]
  | .run os => os

def perform [Chance] : Call → StateM Workspace Answer
  | .write path content => return .write (← (TextFile.write path content).run)
  | .backup path content suffix => return .backup (← (TextFile.backup path content suffix).run)
  | .execute o => return .execute (← o.execute)
  | .run os => do
    let (results, failure) ← Task.runAll (os.map Task.ofOperation)
    return .run results failure

def stored : Call → Answer → List (Bytes × Bytes)
  | .write path content, .write (.ok _) => [(path, content)]
  | .backup path content suffix, .backup (.ok _) => [(TextFile.backupPath path suffix, content)]
  | .execute _, .execute outcome => outcome.result.stored
  | .run _, .run results _ => results.flatMap Result.stored
  | _, _ => []

end Call

def session [Chance] : List Call → StateM Workspace (List Answer)
  | [] => return []
  | c :: calls => do
    let answer ← c.perform
    return answer :: (← session calls)

/-- The files that the calls of a session wrote, by their answers. -/
def storedBy (calls : List Call) (answers : List Answer) : List (Bytes × Bytes) :=
  (calls.zip answers).flatMap fun x => x.1.stored x.2

/-! Each call is the writes that its answer tells of. -/

theorem backupPath_ne_nil (path suffix : Bytes) : TextFile.backupPath path suffix ≠ [] := by
  rw [TextFile.backupPath, ne_eq, List.append_eq_nil_iff]
  rintro ⟨_, empty⟩
  split at empty
  · cases empty
  · contradiction

namespace Operation

theorem Saved.stores {o : Operation} {p : Replacement} {w v : Workspace} {path : Bytes}
    (saved : o.Saved p w v path) :
    Stores w (if path = [] then [] else [(path, p.initial)]) v := by
  cases saved with
  | none _ kept => exact .nothing kept
  | backup _ written =>
    rw [if_neg (backupPath_ne_nil _ _)]
    exact .of_written written

theorem conclude_stores [Chance] {o : Operation} {r : Result} {p : Replacement}
    (target : r.target = o.target)
    (stage : r.stage = .transformed) (replacement : r.replacement = some p)
    (backup : r.backupPath = []) (w : Workspace) :
    Stores w ((o.conclude r p).run w).1.result.stored ((o.conclude r p).run w).2 := by
  have unwritten : r.stored = [] := by simp [Result.stored, replacement, backup, stage]
  rcases o.conclude_cases r p w with
    ⟨_, ⟨names, stops⟩, kept⟩ | ⟨_, stops, kept⟩ | ⟨_, v, before, stores⟩
  · rw [stops, unwritten]
    exact .nothing kept
  · rw [stops, unwritten]
    exact .nothing kept
  · rw [stores]
    rcases o.store_cases r p v with
      ⟨⟨e, fails⟩, kept⟩ | ⟨u, path, saved, ⟨⟨e, fails⟩, kept⟩ | ⟨writes, m, written⟩⟩
    · rw [fails, unwritten]
      exact .nothing (before.trans kept)
    · rw [fails]
      have tells := (saved.stores.of_kept before).append (.nothing kept)
      simpa [Result.stored, replacement, stage] using tells
    · rw [writes]
      have tells := (saved.stores.of_kept before).append (.of_written written)
      simpa [Result.stored, replacement, target] using tells

theorem execute_stores [Chance] {o : Operation} (gentle : o.replacer.Gentle) (w : Workspace) :
    Stores w (o.execute.run w).1.result.stored (o.execute.run w).2 := by
  obtain ⟨kept, ⟨e, fails⟩ | ⟨_, _, content, _, reads⟩⟩ := TextFile.load_cases o.target w
  · rw [execute, run_then, fails]
    exact .nothing kept
  · rw [execute, run_then, reads]
    dsimp only
    cases Rule.filter o.target o.rules with
    | error e => exact .nothing kept
    | ok rules =>
      dsimp only
      rw [run_then, run_then]
      have noted := Workspace.quiet_forIn (skippedNames o.rules rules)
        (fun rule => o.quiet_note .debug "rule does not apply to target" [("rule", .text rule)])
        ((TextFile.load o.target).run.run w).2
      have before := kept.trans (noted.trans (gentle rules content _))
      split
      · exact .nothing before
      · exact (conclude_stores rfl rfl rfl rfl _).of_kept before

end Operation

/-- If each task tells of its writes, then a run tells of them in the order of the tasks. -/
theorem Task.runAll_stores {ε α : Type} {told : α → List (Bytes × Bytes)} {tasks : List (Task ε α)}
    (tells : ∀ t ∈ tasks, ∀ w, Stores w (told (t.run.run w).1.1) (t.run.run w).2) (w : Workspace) :
    Stores w (((runAll tasks).run w).1.1.flatMap told) ((runAll tasks).run w).2 := by
  induction tasks generalizing w with
  | nil => exact .nothing (Kept.refl w)
  | cons t rest ih =>
    rw [runAll, Operation.run_then, Operation.run_then]
    generalize start :
      ((Workspace.debug "starting operation" [("operation", .text t.name)]).run w).2 = v
    have started : Kept w v := start ▸ Workspace.quiet_record _ w
    have ran := (tells t List.mem_cons_self v).of_kept started
    rcases result : t.run.run v with ⟨⟨a, _ | e⟩, u⟩ <;> rw [result] at ran
    · have completed := Workspace.quiet_record
        ⟨.debug, "operation complete", [("operation", .text t.name)]⟩ u
      have others := ih (fun s member => tells s (List.mem_cons_of_mem t member))
        ((Workspace.debug "operation complete" [("operation", .text t.name)]).run u).2
      exact ran.append (others.of_kept completed)
    · rw [← List.append_nil (told a)] at ran
      exact ran

theorem Call.perform_stores [Chance] {c : Call} (gentle : ∀ o ∈ c.operations, o.replacer.Gentle)
    (w : Workspace) :
    Stores w (c.stored (c.perform.run w).1) (c.perform.run w).2 := by
  cases c with
  | write path content =>
    rw [perform, Operation.run_then]
    rcases TextFile.write_cases path content w with ⟨⟨e, fails⟩, kept⟩ | ⟨writes, m, written⟩
    · rw [fails]
      exact .nothing kept
    · rw [writes]
      exact .of_written written
  | backup path content suffix =>
    rw [perform, Operation.run_then]
    rcases TextFile.backup_cases path content suffix w with
      ⟨⟨e, fails⟩, kept⟩ | ⟨saves, m, written⟩
    · rw [fails]
      exact .nothing kept
    · rw [saves]
      exact .of_written written
  | execute o => exact Operation.execute_stores (gentle o List.mem_cons_self) w
  | run os =>
    refine Task.runAll_stores (fun t member v => ?_) w
    obtain ⟨o, listed, rfl⟩ := List.mem_map.mp member
    exact Operation.execute_stores (gentle o listed) v

theorem session_stores [Chance] {calls : List Call}
    (gentle : ∀ c ∈ calls, ∀ o ∈ c.operations, o.replacer.Gentle) (w : Workspace) :
    Stores w (storedBy calls ((session calls).run w).1) ((session calls).run w).2 := by
  induction calls generalizing w with
  | nil => exact .nothing (Kept.refl w)
  | cons c calls ih =>
    have first := Call.perform_stores (gentle c List.mem_cons_self) w
    have rest := ih (fun d member => gentle d (List.mem_cons_of_mem c member)) (c.perform.run w).2
    exact first.append rest

/-- After any calls, failed or not, whose replacers leave the files alone:
nothing happened to the files but the writes that the answers tell of, each to its own place;
the directories are those from before; no file has gone, and each has its mode still;
a new file stands where a path leads that was written successfully;
in particular no temporary file is left;
and the next write either fails and leaves the tree as it is, or changes only the place of its path,
which then has the content, under the mode it had or that of new files. -/
theorem session_files [Chance] {calls : List Call}
    (gentle : ∀ c ∈ calls, ∀ o ∈ c.operations, o.replacer.Gentle) {w w' : Workspace}
    {answers : List Answer} (run : (session calls).run w = (answers, w')) :
    Stores w (storedBy calls answers) w' ∧
    (∀ k, w'.tree.entry? k = some .directory ↔ w.tree.entry? k = some .directory) ∧
    (∀ k mode content, w.tree.entry? k = some (.file mode content) →
      ∃ content', w'.tree.entry? k = some (.file mode content')) ∧
    (∀ k, w.tree.entry? k = none → w'.tree.entry? k ≠ none →
      ∃ file ∈ storedBy calls answers, w.tree.locate w.cwd file.1 = .ok k) ∧
    (∀ directory base number,
      w.tree.entry? (directory ++ [Workspace.temporaryName base number]) = none →
      (∀ file ∈ storedBy calls answers,
        w.tree.locate w.cwd file.1 ≠ .ok (directory ++ [Workspace.temporaryName base number])) →
      w'.tree.entry? (directory ++ [Workspace.temporaryName base number]) = none) ∧
    ∀ path content outcome w'', (TextFile.write path content).run.run w' = (outcome, w'') →
      ((∃ e, outcome = .error e) ∧ w''.tree = w'.tree) ∨
      (outcome = .ok () ∧ ∃ m, w'.tree.locate w'.cwd path = .ok m ∧
        w''.tree.entry? m = some (.file (TextFile.modeAt (w'.tree.entry? m)) content) ∧
        ∀ k, k ≠ m → w''.tree.entry? k = w'.tree.entry? k) := by
  have stores := session_stores gentle w
  rw [run] at stores
  have asked : ∀ k, w.tree.entry? k = none → w'.tree.entry? k ≠ none →
      ∃ file ∈ storedBy calls answers, w.tree.locate w.cwd file.1 = .ok k := by
    intro k free present
    exact stores.changed (by rwa [free])
  refine ⟨stores, stores.directories, fun k mode content present => stores.file_stays present,
    asked, ?_, ?_⟩
  · intro directory base number free unasked
    apply Classical.byContradiction
    intro present
    obtain ⟨file, member, located⟩ := asked _ free present
    exact unasked file member located
  · intro path content outcome w'' writes
    have cases := TextFile.write_cases path content w'
    rw [writes] at cases
    rcases cases with ⟨fails, kept⟩ | ⟨succeeds, m, written⟩
    · exact .inl ⟨fails, kept.tree⟩
    · exact .inr ⟨succeeds, m, written.located, written.entry, written.others⟩

/-- Writes onto a directory and below a file fail; a new file, a changed one with its backup and an
operation without a target follow. -/
theorem session_files_mixed :
    let _ : Chance := .always 7
    let w : Workspace := ⟨⟨[(["d"], .directory), (["f"], .file 0o600 "ca")]⟩, [], []⟩
    let o : Operation :=
      { target := "f", rules := [⟨"r", some (.literal "a"), "b", []⟩], backup := true }
    let calls : List Call := [.write "d" "x", .write "f/x" "y", .write "n" "new", .execute o,
      .run [{ o with target := "absent" }, o]]
    let files : List (Bytes × Bytes) := [("n", "new"), ("f.orig", "ca"), ("f", "cb")]
    let w' := ((session calls).run w).2
    storedBy calls ((session calls).run w).1 = files ∧
      w'.tree.entry? ["d"] = some .directory ∧
      (∃ content, w'.tree.entry? ["f"] = some (.file 0o600 content)) ∧
      w'.tree.entry? [".d.7.tmp"] = none := by
  intro _ w o calls files w'
  have stored : storedBy calls ((session calls).run w).1 = files := by decide +kernel
  have gentle : ∀ c ∈ calls, ∀ o ∈ c.operations, o.replacer.Gentle := by
    intro c member p listed
    simp only [calls, List.mem_cons, List.not_mem_nil, or_false] at member
    rcases member with rfl | rfl | rfl | rfl | rfl <;>
      simp only [Call.operations, List.mem_cons, List.not_mem_nil, or_false] at listed
    · subst listed
      exact Replacer.gentle_standard
    · rcases listed with rfl | rfl <;> exact Replacer.gentle_standard
  have elsewhere : (files.all fun file => (w.tree.locate w.cwd file.1).toOption !=
      some [Workspace.temporaryName "d" 7]) = true := by decide +kernel
  obtain ⟨_, directories, kept, _, temporaries, _⟩ :=
    session_files gentle (Prod.eta ((session calls).run w)).symm
  refine ⟨stored, (directories ["d"]).mpr (by decide +kernel),
    kept ["f"] 0o600 "ca" (by decide +kernel), ?_⟩
  refine temporaries [] "d" 7 (by decide +kernel) fun file member located => ?_
  rw [stored] at member
  have differ := List.all_eq_true.mp elsewhere file member
  rw [located] at differ
  simp [Except.toOption] at differ

end Retouch
