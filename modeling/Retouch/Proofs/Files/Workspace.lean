import Retouch.Proofs.Files.FileTree
import Retouch.Workspace

/-! Steps of the work, one at a time.
Each access to a file either fails and leaves the workspace as it was, or does one change to the
tree. What is recorded on the way does not count. -/
namespace Retouch

/-! Running steps. -/

section Run

variable {ε ε' α β : Type} (w : Workspace)

theorem eq_ok_of_toOption {x : Except ε α} {a : α} (some : x.toOption = some a) : x = .ok a := by
  cases x with
  | error e => cases some
  | ok b => exact congrArg _ (Option.some.inj some)

theorem run_bind (x : Work ε α) (f : α → Work ε β) :
    (x >>= f).run.run w = match x.run.run w with
      | (.ok a, w') => (f a).run.run w'
      | (.error e, w') => (.error e, w') := by
  change (match x.run.run w with | (a, w') => ExceptT.bindCont f a w') = _
  rcases x.run.run w with ⟨_ | _, w'⟩ <;> rfl

theorem run_lift (x : StateM Workspace α) :
    (liftM x : Work ε α).run.run w = (.ok (x.run w).1, (x.run w).2) := rfl

theorem run_adapt (x : Work ε α) (f : ε → ε') :
    (x.adapt f).run.run w = ((x.run.run w).1.mapError f, (x.run.run w).2) := rfl

theorem run_get_bind (f : Workspace → Work ε α) : (get >>= f).run.run w = (f w).run.run w := rfl

end Run

/-- The files and the working directory are as they were. -/
structure Kept (w w' : Workspace) : Prop where
  tree : w'.tree = w.tree
  cwd : w'.cwd = w.cwd

namespace Kept

theorem refl (w : Workspace) : Kept w w := ⟨rfl, rfl⟩

theorem symm {w w' : Workspace} (kept : Kept w w') : Kept w' w := ⟨kept.tree.symm, kept.cwd.symm⟩

theorem trans {w w' w'' : Workspace} (first : Kept w w') (second : Kept w' w'') : Kept w w'' :=
  ⟨second.tree.trans first.tree, second.cwd.trans first.cwd⟩

end Kept

def Quiet {α : Type} (step : StateM Workspace α) : Prop := ∀ w, Kept w (step.run w).2

namespace Workspace

theorem quiet_record (e : Event) : Quiet (record e) := fun _ => ⟨rfl, rfl⟩

theorem run_silently {α : Type} (step : StateM Workspace α) (w : Workspace) :
    (silently step).run w = ((step.run { w with events := [] }).1,
      { (step.run { w with events := [] }).2 with events := w.events }) := rfl

theorem quiet_forIn {α : Type} (xs : List α) {step : α → StateM Workspace Unit}
    (quiet : ∀ x, Quiet (step x)) :
    Quiet (forIn xs PUnit.unit fun x _ => do step x; pure (ForInStep.yield PUnit.unit)) := by
  induction xs with
  | nil => exact Kept.refl
  | cons x xs ih =>
    intro w
    have first := quiet x w
    have rest := ih ((step x).run w).2
    rw [List.forIn_cons]
    exact first.trans rest

theorem run_record_forIn (ε : Type) (events : List Event) (w : Workspace) :
    ∃ w', Kept w w' ∧ (forIn events PUnit.unit fun e _ => do
      liftM (record e); pure (ForInStep.yield PUnit.unit) : Work ε PUnit).run.run w =
        (.ok PUnit.unit, w') := by
  induction events generalizing w with
  | nil => exact ⟨w, Kept.refl w, rfl⟩
  | cons e events ih =>
    obtain ⟨w', kept, runs⟩ := ih ((record e).run w).2
    refine ⟨w', (quiet_record e w).trans kept, ?_⟩
    rw [List.forIn_cons, ← runs]
    rfl

/-! Accesses to files. -/

theorem run_stat (path : Bytes) (w : Workspace) :
    (stat path).run.run w = match w.tree.lookup w.cwd path with
      | .error f => (.error (.access "stat" path f), w)
      | .ok (_, e) => (.ok e, w) := by
  rw [stat, run_get_bind]
  rcases w.tree.lookup w.cwd path with _ | ⟨_, _⟩ <;> rfl

theorem run_readFile (path : Bytes) (w : Workspace) :
    (readFile path).run.run w = match w.tree.lookup w.cwd path with
      | .error f => (.error (.access "open" path f), w)
      | .ok (_, .directory) => (.error (.access "read" path .isDirectory), w)
      | .ok (_, .file _ content) => (.ok content, w) := by
  rw [readFile, run_get_bind]
  rcases w.tree.lookup w.cwd path with _ | ⟨_, _ | _⟩ <;> rfl

theorem freshTemporary_free {t : FileTree} {cwd : Location} {directory base : Bytes}
    {fuel : Nat} {number : UInt32} {path : Bytes} {l : Location}
    (found : freshTemporary t cwd directory base fuel number = .ok (path, l)) :
    t.entry? l = none := by
  induction fuel generalizing number with
  | zero => cases found
  | succ fuel ih =>
    rw [freshTemporary] at found
    split at found
    · cases found
    · split at found
      · exact ih found
      · rename_i free
        cases found
        simpa using free

theorem createTemporary_cases [Chance] (directory base : Bytes) (w : Workspace) :
    (∃ e, (createTemporary directory base).run.run w = (.error e, w)) ∨
    ∃ path l, w.tree.entry? l = none ∧ (createTemporary directory base).run.run w =
      (.ok (path, l), { w with tree := w.tree.put l (.file 0o600 []) }) := by
  rw [createTemporary, run_get_bind]
  cases found : freshTemporary w.tree w.cwd directory base UInt32.size (Chance.number w) with
  | error e => exact .inl ⟨e, rfl⟩
  | ok place =>
    obtain ⟨path, l⟩ := place
    exact .inr ⟨path, l, freshTemporary_free found, rfl⟩

theorem rename_cases (source : Bytes) (l : Location) (target : Bytes) (w : Workspace) :
    (∃ e, (rename source l target).run.run w = (.error e, w)) ∨
    ∃ m e, w.tree.locate w.cwd target = .ok m ∧ w.tree.entry? m ≠ some .directory ∧
      w.tree.entry? l = some e ∧ (rename source l target).run.run w =
        (.ok (), { w with tree := (w.tree.erase l).put m e }) := by
  rw [rename, run_get_bind]
  cases located : w.tree.locate w.cwd target with
  | error f => exact .inl ⟨_, rfl⟩
  | ok m =>
    dsimp only
    split
    · exact .inl ⟨_, rfl⟩
    · rename_i e present free
      exact .inr ⟨m, e, rfl, free, present, rfl⟩
    · exact .inl ⟨_, rfl⟩

end Workspace

end Retouch
