import Retouch.Operation
import Retouch.Proofs.Files.TextFile

/-! What one run of an operation can come to.
A run stops at the first step that fails. Files change in its last two steps only: the backup and
the write of the target. -/
namespace Retouch.Operation

open TextFile (Written)

/-- The target was read, and the rules for it are known. -/
structure Prepared (o : Operation) (w : Workspace) (l : Location) (mode : Nat) (content : Bytes)
    (kept : List Rule) : Prop where
  loaded : w.tree.lookup w.cwd o.target = .ok (l, .file mode content)
  filtered : Rule.filter o.target o.rules = .ok kept

def transformedResult (o : Operation) (kept : List Rule) (content : Bytes) : Result where
  target := o.target
  stage := .transformed
  replacement := some (replaceAll kept content)
  skipped := skippedNames o.rules kept
  backupPath := []

/-- The old content was kept where that is asked for. -/
inductive Saved (o : Operation) (p : Replacement) (w v : Workspace) : Bytes → Prop where
  | none : (o.backup && p.wasModified) = false → Kept w v → Saved o p w v []
  | backup {m : Location} : (o.backup && p.wasModified) = true →
      Written w v (TextFile.backupPath o.target o.backupSuffix) p.initial m →
      Saved o p w v (TextFile.backupPath o.target o.backupSuffix)

/-- What one run of an operation can come to, and the workspace that it leaves. -/
inductive Ran (o : Operation) (w : Workspace) : Outcome → Workspace → Prop where
  | unloaded {e : TextFile.Error} {w' : Workspace} : Kept w w' →
      Ran o w ⟨Result.fresh o.target, some (.loading e)⟩ w'
  | unfiltered {e : FilterError} {w' : Workspace} : Kept w w' →
      Ran o w ⟨{ Result.fresh o.target with stage := .loaded }, some (.filtering e)⟩ w'
  | unmatched {l : Location} {mode : Nat} {content : Bytes} {kept : List Rule}
      {names : List Bytes} {w' : Workspace} : o.Prepared w l mode content kept →
      o.strict = true → Kept w w' →
      Ran o w ⟨o.transformedResult kept content, some (.unmatched names)⟩ w'
  | dry {l : Location} {mode : Nat} {content : Bytes} {kept : List Rule} {w' : Workspace} :
      o.Prepared w l mode content kept → o.dryRun = true → Kept w w' →
      Ran o w ⟨o.transformedResult kept content, none⟩ w'
  | unsaved {l : Location} {mode : Nat} {content : Bytes} {kept : List Rule} {e : TextFile.Error}
      {w' : Workspace} : o.Prepared w l mode content kept → o.dryRun = false → Kept w w' →
      Ran o w ⟨o.transformedResult kept content, some (.backingUp e)⟩ w'
  | unwritten {l : Location} {mode : Nat} {content : Bytes} {kept : List Rule} {path : Bytes}
      {e : TextFile.Error} {v w' : Workspace} : o.Prepared w l mode content kept →
      o.dryRun = false → o.Saved (replaceAll kept content) w v path → Kept v w' →
      Ran o w
        ⟨{ o.transformedResult kept content with backupPath := path }, some (.writing e)⟩ w'
  | written {l m : Location} {mode : Nat} {content : Bytes} {kept : List Rule} {path : Bytes}
      {v w' : Workspace} : o.Prepared w l mode content kept → o.dryRun = false →
      o.Saved (replaceAll kept content) w v path →
      Written v w' o.target (replaceAll kept content).modified m →
      Ran o w
        ⟨{ o.transformedResult kept content with backupPath := path, stage := .written }, none⟩ w'

theorem Ran.strict_of_unmatched {o : Operation} {w w' : Workspace} {out : Outcome} {e : Error}
    (ran : o.Ran w out w') (failed : out.error = some e) (unmatched : e.isUnmatched = true) :
    o.strict = true := by
  cases ran with
  | unmatched _ strict => exact strict
  | dry | written => cases failed
  | unloaded | unfiltered | unsaved | unwritten =>
    cases failed
    cases unmatched

/-! The steps of a run. -/

theorem run_then {α β : Type} (x : StateM Workspace α) (f : α → StateM Workspace β)
    (w : Workspace) : (x >>= f).run w = (f (x.run w).1).run (x.run w).2 := rfl

theorem quiet_note (o : Operation) (level : Level) (message : String)
    (fields : List (String × FieldValue)) : Quiet (o.note level message fields) :=
  Workspace.quiet_record _

theorem replace_standard (rules : List Rule) (content : Bytes) (w : Workspace) :
    ((Replacer.standard.replace rules content).run.run w).1 = .ok (replaceAll rules content) ∧
      Kept w ((Replacer.standard.replace rules content).run.run w).2 := by
  obtain ⟨w', kept, runs⟩ :=
    Workspace.run_record_forIn Bytes (replacementEvents (replaceAll rules content)) w
  have whole : (Replacer.standard.replace rules content).run.run w =
      (.ok (replaceAll rules content), w') := by
    change (forIn _ _ _ >>= fun _ => _ : Work Bytes Replacement).run.run w = _
    rw [run_bind, runs]
    rfl
  rw [whole]
  exact ⟨rfl, kept⟩

def replaceTarget [Chance] (o : Operation) (r : Result) (p : Replacement) :
    StateM Workspace Outcome := do
  match ← (TextFile.write o.target p.modified).run with
  | .error e => return ⟨r, some (.writing e)⟩
  | .ok _ => return ⟨{ r with stage := .written }, none⟩

theorem replaceTarget_cases [Chance] (o : Operation) (r : Result) (p : Replacement)
    (w : Workspace) :
    ((∃ e, ((o.replaceTarget r p).run w).1 = ⟨r, some (.writing e)⟩) ∧
      Kept w ((o.replaceTarget r p).run w).2) ∨
    (((o.replaceTarget r p).run w).1 = ⟨{ r with stage := .written }, none⟩ ∧
      ∃ m, Written w ((o.replaceTarget r p).run w).2 o.target p.modified m) := by
  rw [replaceTarget, run_then]
  rcases TextFile.write_cases o.target p.modified w with ⟨⟨e, fails⟩, kept⟩ | ⟨writes, written⟩
  · rw [fails]
    exact .inl ⟨⟨e, rfl⟩, kept⟩
  · rw [writes]
    exact .inr ⟨rfl, written⟩

theorem store_eq [Chance] (o : Operation) (r : Result) (p : Replacement) :
    o.store r p =
      if o.backup && p.wasModified then do
        match ← (TextFile.backup o.target p.initial o.backupSuffix).run with
        | .error e => return ⟨r, some (.backingUp e)⟩
        | .ok path => o.replaceTarget { r with backupPath := path } p
      else o.replaceTarget { r with backupPath := [] } p := rfl

theorem store_cases [Chance] (o : Operation) (r : Result) (p : Replacement) (w : Workspace) :
    ((∃ e, ((o.store r p).run w).1 = ⟨r, some (.backingUp e)⟩) ∧
      Kept w ((o.store r p).run w).2) ∨
    ∃ v path, o.Saved p w v path ∧
      (((∃ e, ((o.store r p).run w).1 = ⟨{ r with backupPath := path }, some (.writing e)⟩) ∧
        Kept v ((o.store r p).run w).2) ∨
      (((o.store r p).run w).1 = ⟨{ r with backupPath := path, stage := .written }, none⟩ ∧
        ∃ m, Written v ((o.store r p).run w).2 o.target p.modified m)) := by
  rw [store_eq]
  split
  · rename_i asked
    rw [run_then]
    rcases TextFile.backup_cases o.target p.initial o.backupSuffix w with
      ⟨⟨e, fails⟩, kept⟩ | ⟨saves, m, written⟩
    · rw [fails]
      exact .inl ⟨⟨e, rfl⟩, kept⟩
    · rw [saves]
      exact .inr ⟨_, _, .backup asked written, o.replaceTarget_cases _ p _⟩
  · rename_i unasked
    exact .inr ⟨w, [], .none (by simpa using unasked) (Kept.refl w), o.replaceTarget_cases _ p w⟩

theorem Saved.of_kept {o : Operation} {p : Replacement} {w v v' : Workspace} {path : Bytes}
    (before : Kept w v) (saved : o.Saved p v v' path) : o.Saved p w v' path := by
  cases saved with
  | none unasked kept => exact .none unasked (before.trans kept)
  | backup asked written => exact .backup asked (written.of_kept before (Kept.refl v'))

theorem conclude_cases [Chance] (o : Operation) (r : Result) (p : Replacement) (w : Workspace) :
    (o.strict = true ∧ (∃ names, ((o.conclude r p).run w).1 = ⟨r, some (.unmatched names)⟩) ∧
      Kept w ((o.conclude r p).run w).2) ∨
    (o.dryRun = true ∧ ((o.conclude r p).run w).1 = ⟨r, none⟩ ∧
      Kept w ((o.conclude r p).run w).2) ∨
    (o.dryRun = false ∧ ∃ v, Kept w v ∧ (o.conclude r p).run w = (o.store r p).run v) := by
  rw [conclude, run_then, run_then]
  have first := o.quiet_note .debug "applied rules"
    [("replacements", .number p.count), ("modified", .flag p.wasModified)] w
  have second := Workspace.quiet_forIn p.unmatched
    (fun rule => o.quiet_note .warn "rule matched nothing" [("rule", .text rule)])
    ((o.note .debug "applied rules"
      [("replacements", .number p.count), ("modified", .flag p.wasModified)]).run w).2
  have kept := first.trans second
  split
  · rename_i asked
    rw [Bool.and_eq_true] at asked
    exact .inl ⟨asked.1, ⟨_, rfl⟩, kept⟩
  · split
    · rename_i dry
      exact .inr (.inl ⟨dry, rfl, kept.trans (o.quiet_note _ _ _ _)⟩)
    · rename_i wet
      exact .inr (.inr ⟨by simpa using wet, _, kept, rfl⟩)

/-- The run from where the rules for the target are known, with any replacer. -/
theorem execute_filtered [Chance] {o : Operation} {w : Workspace} {content : Bytes}
    {kept : List Rule}
    (reads : ((TextFile.load o.target).run.run w).1 = .ok content)
    (filtered : Rule.filter o.target o.rules = .ok kept) :
    ∃ v, Kept w v ∧ o.execute.run w = ((o.replacer.replace kept content).run >>= fun
      | .error m => pure
        ⟨⟨o.target, .loaded, none, skippedNames o.rules kept, []⟩, some (.applying m)⟩
      | .ok p => o.conclude
        ⟨o.target, .transformed, some p, skippedNames o.rules kept, []⟩ p).run v := by
  have loaded := (TextFile.load_cases o.target w).1
  rw [execute, run_then, reads]
  dsimp only
  rw [filtered]
  dsimp only
  rw [run_then]
  refine ⟨_, loaded.trans ?_, rfl⟩
  exact Workspace.quiet_forIn _ (fun rule => o.quiet_note _ _ _) _

/-- A run fails before the rules are applied, or it goes on with what the replacer made of the
content. -/
theorem execute_cases [Chance] (o : Operation) (w : Workspace) :
    (∃ e, (o.execute.run w).1.error = some (.loading e)) ∨
    (∃ e, (o.execute.run w).1.error = some (.filtering e) ∧
      Rule.filter o.target o.rules = .error e) ∨
    ∃ l mode content kept v, o.Prepared w l mode content kept ∧ Kept w v ∧
      ((∃ m, (o.execute.run w).1.error = some (.applying m)) ∨
      ∃ p u, (o.replacer.replace kept content).run.run v = (.ok p, u) ∧ o.execute.run w =
        (o.conclude ⟨o.target, .transformed, some p, skippedNames o.rules kept, []⟩ p).run u) := by
  obtain ⟨_, ⟨e, fails⟩ | ⟨l, mode, content, loaded, reads⟩⟩ := TextFile.load_cases o.target w
  · refine .inl ⟨e, ?_⟩
    rw [execute, run_then, fails]
    rfl
  refine .inr ?_
  cases filtered : Rule.filter o.target o.rules with
  | error e =>
    refine .inl ⟨e, ?_, rfl⟩
    rw [execute, run_then, reads]
    dsimp only
    rw [filtered]
    rfl
  | ok kept =>
    obtain ⟨v, still, eq⟩ := execute_filtered reads filtered
    refine .inr ⟨l, mode, content, kept, v, ⟨loaded, filtered⟩, still, ?_⟩
    rw [eq, run_then]
    rcases (o.replacer.replace kept content).run.run v with ⟨m | p, u⟩
    · exact .inl ⟨m, rfl⟩
    · exact .inr ⟨p, u, rfl, rfl⟩

theorem execute_prepared [Chance] {o : Operation} (standard : o.replacer = .standard)
    {w : Workspace}
    {content : Bytes} {rules : List Rule}
    (reads : ((TextFile.load o.target).run.run w).1 = .ok content)
    (filtered : Rule.filter o.target o.rules = .ok rules) :
    ∃ v, Kept w v ∧ o.execute.run w =
      (o.conclude (o.transformedResult rules content) (replaceAll rules content)).run v := by
  obtain ⟨v, still, eq⟩ := execute_filtered reads filtered
  rw [eq, run_then, standard, (replace_standard rules content v).1]
  exact ⟨_, still.trans (replace_standard rules content v).2, rfl⟩

/-- A run with the standard replacer comes to one of the outcomes above. -/
theorem execute_ran [Chance] (o : Operation) (standard : o.replacer = .standard) (w : Workspace) :
    o.Ran w (o.execute.run w).1 (o.execute.run w).2 := by
  obtain ⟨kept, ⟨e, fails⟩ | ⟨l, mode, content, loaded, reads⟩⟩ := TextFile.load_cases o.target w
  · rw [execute, run_then, fails]
    exact .unloaded kept
  · cases filtered : Rule.filter o.target o.rules with
    | error e =>
      rw [execute, run_then, reads]
      dsimp only
      rw [filtered]
      exact .unfiltered kept
    | ok rules =>
      have prepared : o.Prepared w l mode content rules := ⟨loaded, filtered⟩
      obtain ⟨v, before, eq⟩ := execute_prepared standard reads filtered
      rw [eq]
      rcases o.conclude_cases (o.transformedResult rules content) (replaceAll rules content) v with
        ⟨strict, ⟨names, stops⟩, after⟩ | ⟨dry, stops, after⟩ | ⟨wet, u, after, stores⟩
      · rw [stops]
        exact .unmatched prepared strict (before.trans after)
      · rw [stops]
        exact .dry prepared dry (before.trans after)
      · have quiet := before.trans after
        rw [stores]
        rcases o.store_cases (o.transformedResult rules content) (replaceAll rules content) u with
          ⟨⟨e, fails⟩, still⟩ | ⟨x, path, saved, ⟨⟨e, fails⟩, still⟩ | ⟨writes, m, written⟩⟩
        · rw [fails]
          exact .unsaved prepared wet (quiet.trans still)
        · rw [fails]
          exact .unwritten prepared wet (saved.of_kept quiet) still
        · rw [writes]
          exact .written prepared wet (saved.of_kept quiet) written

end Retouch.Operation
