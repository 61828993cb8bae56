import Retouch.Proofs.Operation.Execution

/-! Safety of a run.
A run that fails keeps the target, a dry run keeps everything, and a run that succeeds changes the
target by its rules and nothing else but the backup. -/
namespace Retouch

theorem modified_replaceAll (rules : List Rule) (content : Bytes) :
    (replaceAll rules content).modified = rules.foldl (fun c r => (r.apply c).1) content := by
  have step : ∀ (rules : List Rule) (content : Bytes),
      (applyAll rules content).1 = rules.foldl (fun c r => (r.apply c).1) content := by
    intro rules
    induction rules with
    | nil => intro content; rfl
    | cons r rest ih => intro content; exact ih (r.apply content).1
  exact step rules content

namespace Operation

open TextFile (Written backupPath)

/-- The places that may differ once the old content has been kept: only that of the backup, and only
if the content is to change. -/
def MayDiffer (o : Operation) (w : Workspace) (p : Replacement) (k : Location) : Prop :=
  o.backup = true ∧ p.initial ≠ p.modified ∧
    w.tree.locate w.cwd (backupPath o.target o.backupSuffix) = .ok k

section Saved

variable {o : Operation} {w v : Workspace} {l : Location} {mode : Nat} {content : Bytes}
  {kept : List Rule} {path : Bytes}

theorem Saved.cwd {p : Replacement} (saved : o.Saved p w v path) : v.cwd = w.cwd := by
  cases saved with
  | none _ still => exact still.cwd
  | backup _ written => exact written.cwd

theorem Saved.differ {p : Replacement} (saved : o.Saved p w v path) {k : Location}
    (differ : v.tree.entry? k ≠ w.tree.entry? k) : o.MayDiffer w p k := by
  cases saved with
  | none _ still => exact absurd (by rw [still.tree]) differ
  | @backup m asked written =>
    rw [Bool.and_eq_true, Replacement.wasModified, bne_iff_ne] at asked
    by_cases here : k = m
    · subst here
      exact ⟨asked.1, asked.2, written.located⟩
    · exact absurd (written.others k here) differ

/-- Keeping the old content leaves the target alone, even if the path of the backup leads to it:
then the same content is put there with the same mode. -/
theorem Saved.lookup (prepared : o.Prepared w l mode content kept)
    (saved : o.Saved (replaceAll kept content) w v path) :
    v.tree.lookup w.cwd o.target = .ok (l, .file mode content) := by
  obtain ⟨located, present⟩ := FileTree.lookup_ok.mp prepared.loaded
  cases saved with
  | none _ still => rw [still.tree, prepared.loaded]
  | @backup m _ written =>
    rw [FileTree.lookup_ok]
    refine ⟨(written.locate w.cwd o.target l).mpr located, ?_⟩
    by_cases here : l = m
    · subst here
      rw [written.entry, present]
      rfl
    · rw [written.others l here, present]

end Saved

section Ran

variable {o : Operation} {w w' : Workspace} {out : Outcome}

theorem Ran.cwd (ran : o.Ran w out w') : w'.cwd = w.cwd := by
  cases ran with
  | unloaded still => exact still.cwd
  | unfiltered still => exact still.cwd
  | unmatched _ _ still => exact still.cwd
  | dry _ _ still => exact still.cwd
  | unsaved _ _ still => exact still.cwd
  | unwritten _ _ saved still => exact still.cwd.trans saved.cwd
  | written _ _ saved written => exact written.cwd.trans saved.cwd

theorem Ran.unchanged (ran : o.Ran w out w')
    (early : (∃ e, out.error = some (.loading e)) ∨ (∃ e, out.error = some (.filtering e)) ∨
      (∃ names, out.error = some (.unmatched names)) ∨ o.dryRun = true) : w'.tree = w.tree := by
  cases ran with
  | unloaded still => exact still.tree
  | unfiltered still => exact still.tree
  | unmatched _ _ still => exact still.tree
  | dry _ _ still => exact still.tree
  | unsaved _ _ still => exact still.tree
  | unwritten _ wet | written _ wet => simp [wet] at early

theorem Ran.failed (ran : o.Ran w out w') (failed : out.error ≠ none) :
    w'.tree.lookup w.cwd o.target = w.tree.lookup w.cwd o.target ∧
      ∀ k, w'.tree.entry? k ≠ w.tree.entry? k → o.backup = true ∧
        w.tree.locate w.cwd (backupPath o.target o.backupSuffix) = .ok k := by
  have same (still : Kept w w') : w'.tree.lookup w.cwd o.target = w.tree.lookup w.cwd o.target ∧
      ∀ k, w'.tree.entry? k ≠ w.tree.entry? k → o.backup = true ∧
        w.tree.locate w.cwd (backupPath o.target o.backupSuffix) = .ok k := by
    rw [still.tree]
    exact ⟨rfl, fun k differ => absurd rfl differ⟩
  cases ran with
  | unloaded still => exact same still
  | unfiltered still => exact same still
  | unmatched _ _ still => exact same still
  | unsaved _ _ still => exact same still
  | unwritten prepared _ saved still =>
    rw [still.tree, saved.lookup prepared, prepared.loaded]
    refine ⟨rfl, fun k differ => ?_⟩
    obtain ⟨asked, _, located⟩ := saved.differ differ
    exact ⟨asked, located⟩
  | dry | written => exact absurd rfl failed

theorem Ran.succeeded (ran : o.Ran w out w') (done : out.error = none) (wet : o.dryRun = false) :
    ∃ l mode content kept modified, w.tree.lookup w.cwd o.target = .ok (l, .file mode content) ∧
      Rule.filter o.target o.rules = .ok kept ∧
      modified = kept.foldl (fun c r => (r.apply c).1) content ∧
      w'.tree.lookup w.cwd o.target = .ok (l, .file mode modified) ∧
      ∀ k, k ≠ l → w'.tree.entry? k ≠ w.tree.entry? k → o.backup = true ∧ content ≠ modified ∧
        w.tree.locate w.cwd (backupPath o.target o.backupSuffix) = .ok k := by
  cases ran with
  | unloaded | unfiltered | unmatched | unsaved | unwritten => cases done
  | dry _ dry => rw [dry] at wet; cases wet
  | @written l m mode content kept _ v _ prepared _ saved written =>
    obtain ⟨located, present⟩ := FileTree.lookup_ok.mp (saved.lookup prepared)
    have here : m = l := by
      have other := written.located
      rw [saved.cwd, located] at other
      cases other
      rfl
    subst here
    refine ⟨m, mode, content, kept, _, prepared.loaded, prepared.filtered,
      modified_replaceAll kept content, ?_, fun k other differ => ?_⟩
    · rw [FileTree.lookup_ok]
      refine ⟨(written.locate w.cwd o.target m).mpr located, ?_⟩
      rw [written.entry, present]
      rfl
    · rw [written.others k other] at differ
      exact saved.differ differ

/-- If the rules have nothing left to do after themselves, a second run changes no file: neither the
target nor a backup of the first run. -/
theorem Ran.repeated {w₁ w₂ : Workspace} {out₁ out₂ : Outcome} {kept : List Rule}
    (first : o.Ran w out₁ w₁) (second : o.Ran w₁ out₂ w₂) (done₁ : out₁.error = none)
    (done₂ : out₂.error = none) (filtered : Rule.filter o.target o.rules = .ok kept)
    (settled : ∀ c, kept.foldl (fun c r => (r.apply c).1)
      (kept.foldl (fun c r => (r.apply c).1) c) = kept.foldl (fun c r => (r.apply c).1) c)
    (k : Location) : w₂.tree.entry? k = w₁.tree.entry? k := by
  cases dry : o.dryRun with
  | true => rw [second.unchanged (.inr (.inr (.inr dry)))]
  | false =>
    obtain ⟨l, mode, content, _, _, _, filtered₁, rfl, found, _⟩ := first.succeeded done₁ dry
    obtain ⟨l', mode', content', _, _, loaded, filtered₂, rfl, after, others⟩ :=
      second.succeeded done₂ dry
    rw [filtered] at filtered₁ filtered₂
    cases filtered₁
    cases filtered₂
    rw [first.cwd] at loaded after
    rw [found] at loaded
    cases loaded
    rw [settled] at after others
    by_cases here : k = l
    · rw [here, (FileTree.lookup_ok.mp after).2, (FileTree.lookup_ok.mp found).2]
    · apply Classical.byContradiction
      intro differ
      exact (others k here differ).2.1 rfl

theorem Ran.stages (ran : o.Ran w out w') :
    (out.result.stage = .start ↔ ∃ e, out.error = some (.loading e)) ∧
    (out.result.stage = .loaded ↔ ∃ e, out.error = some (.filtering e)) ∧
    (out.result.stage = .written ↔ out.error = none ∧ o.dryRun = false) ∧
    (out.result.stage = .transformed ↔ (∃ names, out.error = some (.unmatched names)) ∨
      (∃ e, out.error = some (.backingUp e)) ∨ (∃ e, out.error = some (.writing e)) ∨
      out.error = none ∧ o.dryRun = true) ∧
    (out.result.replacement.isSome ↔
      out.result.stage = .transformed ∨ out.result.stage = .written) := by
  cases ran with
  | unloaded => simp [Result.fresh]
  | unfiltered => simp [Result.fresh]
  | unmatched => simp [transformedResult]
  | dry _ dry => simp [transformedResult, dry]
  | unsaved => simp [transformedResult]
  | unwritten => simp [transformedResult]
  | written _ wet => simp [transformedResult, wet]

end Ran

/-- One run with the standard replacer:
a failed load, failed filters, unmatched rules and dry runs change nothing;
after any error the target is as it was and only the backup may differ;
without an error and not dry, the target holds what the rules for it made of its content, under its
old mode, and nothing else differs but the backup of a changed content;
and the result tells how far the run got. -/
theorem execute_safe [Chance] {o : Operation} (standard : o.replacer = .standard) {w w' : Workspace}
    {out : Outcome} (run : o.execute.run w = (out, w')) :
    w'.cwd = w.cwd ∧
    ((∃ e, out.error = some (.loading e)) ∨ (∃ e, out.error = some (.filtering e)) ∨
      (∃ names, out.error = some (.unmatched names)) ∨ o.dryRun = true → w'.tree = w.tree) ∧
    (out.error ≠ none →
      w'.tree.lookup w.cwd o.target = w.tree.lookup w.cwd o.target ∧
      ∀ k, w'.tree.entry? k ≠ w.tree.entry? k → o.backup = true ∧
        w.tree.locate w.cwd (backupPath o.target o.backupSuffix) = .ok k) ∧
    (out.error = none → o.dryRun = false →
      ∃ l mode content kept modified, w.tree.lookup w.cwd o.target = .ok (l, .file mode content) ∧
        Rule.filter o.target o.rules = .ok kept ∧
        modified = kept.foldl (fun c r => (r.apply c).1) content ∧
        w'.tree.lookup w.cwd o.target = .ok (l, .file mode modified) ∧
        ∀ k, k ≠ l → w'.tree.entry? k ≠ w.tree.entry? k → o.backup = true ∧ content ≠ modified ∧
          w.tree.locate w.cwd (backupPath o.target o.backupSuffix) = .ok k) ∧
    (out.result.stage = .start ↔ ∃ e, out.error = some (.loading e)) ∧
    (out.result.stage = .loaded ↔ ∃ e, out.error = some (.filtering e)) ∧
    (out.result.stage = .written ↔ out.error = none ∧ o.dryRun = false) ∧
    (out.result.stage = .transformed ↔ (∃ names, out.error = some (.unmatched names)) ∨
      (∃ e, out.error = some (.backingUp e)) ∨ (∃ e, out.error = some (.writing e)) ∨
      out.error = none ∧ o.dryRun = true) ∧
    (out.result.replacement.isSome ↔
      out.result.stage = .transformed ∨ out.result.stage = .written) := by
  have ran := o.execute_ran standard w
  rw [run] at ran
  exact ⟨ran.cwd, ran.unchanged, ran.failed, ran.succeeded, ran.stages⟩

/-- A changed file with a backup. -/
theorem execute_safe_backup :
    let _ : Chance := .always 7
    let o : Operation :=
      { target := "f", rules := [⟨"r", some (.literal "a"), "b", []⟩], backup := true }
    let w : Workspace := ⟨⟨[(["f"], .file 0o600 "ca"), (["g"], .file 0o644 "a")]⟩, [], []⟩
    o.check = .ok () ∧ (o.execute.run w).1.error = none ∧
      (o.execute.run w).2.tree.lookup [] "f" = .ok (["f"], .file 0o600 "cb") ∧
      (o.execute.run w).2.tree.entry? ["g"] = some (.file 0o644 "a") := by
  intro _ o w
  have standard : o.replacer = .standard := rfl
  have run := (Prod.eta (o.execute.run w)).symm
  have done : (o.execute.run w).1.error = none := by decide +kernel
  obtain ⟨_, _, _, succeeded, _⟩ := execute_safe standard run
  obtain ⟨l, mode, content, kept, modified, loaded, filtered, eq, after, others⟩ :=
    succeeded done rfl
  have place : w.tree.lookup w.cwd o.target = .ok (["f"], .file 0o600 "ca") :=
    eq_ok_of_toOption (by decide +kernel)
  rw [place] at loaded
  cases loaded
  cases filtered
  have text : modified = "cb" := by rw [eq]; decide +kernel
  subst text
  refine ⟨rfl, done, after, ?_⟩
  have initially : w.tree.entry? ["g"] = some (.file 0o644 "a") := by decide +kernel
  rw [← initially]
  apply Classical.byContradiction
  intro differ
  obtain ⟨_, _, located⟩ := others ["g"] (by decide) differ
  have elsewhere : w.tree.locate w.cwd (backupPath o.target o.backupSuffix) = .ok ["f.orig"] :=
    eq_ok_of_toOption (by decide +kernel)
  rw [elsewhere] at located
  exact absurd (Except.ok.inj located) (by decide)

end Operation

end Retouch
