import Mathlib.Data.List.Nodup
import Retouch.Filter
import Retouch.Proofs.Files.Writable
import Retouch.Proofs.Operation.Safety
import Retouch.Proofs.Rule.Pieces
import Retouch.Task

/-! Two passes over a file and one pass with the joined rules.
Each rule sees what the rule before it left, in one pass through memory and in two passes through
the file. Filtering and the account of skipped rules go rule by rule, as no two rules share a
name. -/
namespace Retouch

namespace Rule

/-- Whether a rule is for a path, as far as that can be told. -/
def fits (path : Bytes) (r : Rule) : Bool :=
  match r.appliesTo path with
  | .ok answer => answer
  | .error _ => false

theorem filter_append {path : Bytes} {first second kept : List Rule} :
    filter path (first ++ second) = .ok kept ↔ ∃ kept₁ kept₂,
      filter path first = .ok kept₁ ∧ filter path second = .ok kept₂ ∧ kept = kept₁ ++ kept₂ := by
  induction first generalizing kept with
  | nil => simp [filter]
  | cons r rest ih =>
    rw [List.cons_append, filter, filter]
    cases r.appliesTo path with
    | error e => simp
    | ok applies =>
      dsimp only
      cases joined : filter path (rest ++ second) with
      | error e =>
        simp only [reduceCtorEq, false_iff]
        rintro ⟨kept₁, kept₂, head, tail, _⟩
        cases alone : filter path rest with
        | error e => rw [alone] at head; cases head
        | ok more =>
          have whole := ih.mpr ⟨more, kept₂, alone, tail, rfl⟩
          rw [joined] at whole
          cases whole
      | ok all =>
        obtain ⟨kept₁, kept₂, head, tail, rfl⟩ := ih.mp joined
        rw [head, tail]
        cases applies <;> simp [eq_comm]

theorem filter_eq {path : Bytes} {rules kept : List Rule}
    (filtered : filter path rules = .ok kept) :
    kept = rules.filter (fits path) := by
  induction rules generalizing kept with
  | nil =>
    cases filtered
    rfl
  | cons r rest ih =>
    rw [filter] at filtered
    cases applies : r.appliesTo path with
    | error e => rw [applies] at filtered; cases filtered
    | ok answer =>
      rw [applies] at filtered
      cases others : filter path rest with
      | error e => rw [others] at filtered; cases filtered
      | ok more =>
        rw [others] at filtered
        cases filtered
        cases answer <;> simp [fits, applies, ih others]

theorem validateFrom_ok_iff {index : Nat} {seen : List Bytes} {rules : List Rule} :
    validateFrom index seen rules = .ok () ↔
      (∀ r ∈ rules, r.name ≠ [] ∧ r.pattern ≠ none ∧ r.name ∉ seen) ∧ (rules.map name).Nodup := by
  induction rules generalizing index seen with
  | nil => simp [validateFrom]
  | cons r rest ih =>
    unfold validateFrom
    split
    · simp_all
    split
    · simp_all
    split
    · simp_all
    · rename_i named patterned unseen
      rw [ih, List.forall_mem_cons, List.map_cons, List.nodup_cons]
      simp only [Option.isNone_iff_eq_none] at patterned
      constructor
      · rintro ⟨others, distinct⟩
        refine ⟨⟨⟨named, patterned, unseen⟩, fun s member => ?_⟩, ?_, distinct⟩
        · obtain ⟨named', patterned', fresh⟩ := others s member
          exact ⟨named', patterned', fun old => fresh (List.mem_cons_of_mem _ old)⟩
        · intro again
          obtain ⟨s, member, same⟩ := List.mem_map.mp again
          exact (others s member).2.2 (by rw [same]; exact List.mem_cons_self)
      · rintro ⟨⟨_, others⟩, single, distinct⟩
        refine ⟨fun s member => ?_, distinct⟩
        obtain ⟨named', patterned', fresh⟩ := others s member
        refine ⟨named', patterned', fun old => ?_⟩
        rcases List.mem_cons.mp old with same | old
        · exact single (by rw [← same]; exact List.mem_map_of_mem member)
        · exact fresh old

theorem validate_ok_iff {rules : List Rule} :
    validate rules = .ok () ↔
      (∀ r ∈ rules, r.name ≠ [] ∧ r.pattern ≠ none) ∧ (rules.map name).Nodup := by
  rw [validate, validateFrom_ok_iff]
  simp

end Rule

theorem count_append (first second : List RuleCount) (a b c d : Bytes) :
    Replacement.count ⟨a, b, first ++ second⟩ =
      Replacement.count ⟨a, c, first⟩ + Replacement.count ⟨c, d, second⟩ := by
  induction first with
  | nil => simp [Replacement.count]
  | cons r rest ih =>
    simp only [Replacement.count, List.cons_append, List.foldr_cons] at ih ⊢
    omega

namespace Operation

open TextFile (CanWrite Written)

theorem check_ok_iff {o : Operation} (standard : o.replacer = .standard) :
    o.check = .ok () ↔ o.target ≠ [] ∧ Rule.validate o.rules = .ok () := by
  unfold check
  rw [standard]
  split
  · simp_all
  · rename_i named
    change ((Rule.validate o.rules).mapError _).mapError _ = _ ↔ _
    cases Rule.validate o.rules <;> simp [Except.mapError, named]

/-- The skipped rules are those that are not for the target. -/
theorem skippedNames_eq {path : Bytes} {rules kept : List Rule}
    (distinct : (rules.map Rule.name).Nodup) (filtered : Rule.filter path rules = .ok kept) :
    skippedNames rules kept = (rules.filter fun r => !r.fits path).map (·.name) := by
  have eq := Rule.filter_eq filtered
  subst eq
  unfold skippedNames
  split
  · rename_i same
    have all := List.length_filter_eq_length_iff.mp same.symm
    rw [List.filter_eq_nil_iff.mpr]
    · rfl
    · intro r member
      simp [all r member]
  · congr 1
    apply List.filter_congr
    intro r member
    rw [Bool.not_inj_iff, Bool.eq_iff_iff, List.any_eq_true]
    constructor
    · rintro ⟨s, inside, same⟩
      obtain ⟨listed, fits⟩ := List.mem_filter.mp inside
      rwa [← List.inj_on_of_nodup_map distinct listed member (beq_iff_eq.mp same)]
    · intro fits
      exact ⟨r, List.mem_filter.mpr ⟨member, fits⟩, beq_self_eq_true _⟩

/-- The rules are applied and the result is written, without a check and without a backup. -/
structure Plain (o : Operation) : Prop where
  standard : o.replacer = .standard
  lenient : o.strict = false
  unsaved : o.backup = false
  wet : o.dryRun = false

def finished (o : Operation) (kept : List Rule) (content : Bytes) : Result :=
  { o.transformedResult kept content with stage := .written }

namespace Plain

variable {o : Operation} {w : Workspace} {l : Location} {mode : Nat} {content : Bytes}
  {kept : List Rule}

theorem conclude_eq [Chance] (plain : o.Plain) (r : Result) (p : Replacement) (w : Workspace) :
    ∃ v, Kept w v ∧
      (o.conclude r p).run w = (o.replaceTarget { r with backupPath := [] } p).run v := by
  rcases o.conclude_cases r p w with ⟨strict, _⟩ | ⟨dry, _⟩ | ⟨_, v, before, eq⟩
  · rw [plain.lenient] at strict
    cases strict
  · rw [plain.wet] at dry
    cases dry
  · refine ⟨v, before, ?_⟩
    rw [eq, store_eq, plain.unsaved]
    rfl

theorem execute_eq [Chance] (plain : o.Plain) (prepared : o.Prepared w l mode content kept) :
    ∃ v, Kept w v ∧ o.execute.run w = (o.replaceTarget (o.transformedResult kept content)
      (replaceAll kept content)).run v := by
  obtain ⟨v, before, eq⟩ :=
    execute_prepared plain.standard (TextFile.load_ok prepared.loaded) prepared.filtered
  obtain ⟨u, after, eq'⟩ := plain.conclude_eq (o.transformedResult kept content)
    (replaceAll kept content) v
  exact ⟨u, before.trans after, eq.trans eq'⟩

/-- Once the target has been read and the filters have no fault, only the write can fail, and that
depends on the number that is drawn for it. -/
theorem execute_ends [Chance] (plain : o.Plain) (prepared : o.Prepared w l mode content kept) :
    ∃ v, Kept w v ∧
      ((∃ r e w', o.execute.run w = (⟨r, some e⟩, w') ∧ ¬ CanWrite w o.target (Chance.number v)) ∨
      ∃ w', o.execute.run w = (⟨o.finished kept content, none⟩, w') ∧
        CanWrite w o.target (Chance.number v) ∧
        Written w w' o.target (replaceAll kept content).modified l) := by
  obtain ⟨v, before, eq⟩ := plain.execute_eq prepared
  refine ⟨v, before, ?_⟩
  have writes := TextFile.write_ok_iff o.target (replaceAll kept content).modified v
  rw [eq, replaceTarget, run_then]
  rcases TextFile.write_cases o.target (replaceAll kept content).modified v with
    ⟨⟨e, fails⟩, _⟩ | ⟨ends, m, written⟩
  · rw [fails] at writes ⊢
    refine .inl ⟨_, _, _, rfl, fun can => ?_⟩
    cases writes.mpr (can.of_kept before)
  · have can := (writes.mp ends).of_kept before.symm
    rw [ends]
    have written' := written.of_kept before (Kept.refl _)
    have here := written'.located
    rw [(FileTree.lookup_ok.mp prepared.loaded).1] at here
    cases here
    exact .inr ⟨_, rfl, can, written'⟩

theorem prepared_of_done [Chance] (plain : o.Plain) (done : (o.execute.run w).1.error = none) :
    ∃ l mode content kept, o.Prepared w l mode content kept := by
  have ran := o.execute_ran plain.standard w
  have wet := plain.wet
  generalize o.execute.run w = x at ran done
  obtain ⟨out, w'⟩ := x
  dsimp only at ran done
  cases ran with
  | unloaded | unfiltered | unmatched | unsaved | unwritten => cases done
  | dry _ dry => rw [wet] at dry; cases dry
  | written prepared => exact ⟨_, _, _, _, prepared⟩

theorem written_of_done [Chance] (plain : o.Plain) (prepared : o.Prepared w l mode content kept)
    (done : (o.execute.run w).1.error = none) :
    ∃ w', o.execute.run w = (⟨o.finished kept content, none⟩, w') ∧
      Written w w' o.target (replaceAll kept content).modified l := by
  obtain ⟨_, _, ⟨r, e, w', run, _⟩ | ⟨w', run, _, written⟩⟩ := plain.execute_ends prepared
  · rw [run] at done
    cases done
  · exact ⟨w', run, written⟩

theorem done_of_canWrite [Chance] (plain : o.Plain) (prepared : o.Prepared w l mode content kept)
    (can : ∀ n, CanWrite w o.target n) : (o.execute.run w).1.error = none := by
  obtain ⟨_, _, ⟨_, _, _, _, cannot⟩ | ⟨w', run, _⟩⟩ := plain.execute_ends prepared
  · exact absurd (can _) cannot
  · rw [run]

theorem canWrite_of_done [Chance] (plain : o.Plain) (done : (o.execute.run w).1.error = none) :
    ∃ v, CanWrite w o.target (Chance.number v) := by
  obtain ⟨l, mode, content, kept, prepared⟩ := plain.prepared_of_done done
  obtain ⟨v, _, ⟨r, e, w', run, _⟩ | ⟨_, _, can, _⟩⟩ := plain.execute_ends prepared
  · rw [run] at done
    cases done
  · exact ⟨v, can⟩

end Plain

theorem Prepared.of_kept {o : Operation} {w v : Workspace} {l : Location} {mode : Nat}
    {content : Bytes} {kept : List Rule} (prepared : o.Prepared w l mode content kept)
    (still : Kept w v) : o.Prepared v l mode content kept :=
  ⟨by rw [still.tree, still.cwd, prepared.loaded], prepared.filtered⟩

theorem Prepared.again {o : Operation} {w v : Workspace} {l : Location} {mode : Nat}
    {content content' : Bytes} {kept kept' : List Rule}
    (prepared : o.Prepared w l mode content kept) (written : Written w v o.target content' l)
    {o' : Operation} (same : o'.target = o.target)
    (filtered : Rule.filter o.target o'.rules = .ok kept') :
    o'.Prepared v l mode content' kept' := by
  obtain ⟨located, present⟩ := FileTree.lookup_ok.mp prepared.loaded
  refine ⟨?_, same ▸ filtered⟩
  rw [same, FileTree.lookup_ok, written.cwd, written.locate, written.entry, present]
  exact ⟨located, rfl⟩

theorem Prepared.samePlaces {o : Operation} {w v : Workspace} {l : Location} {mode : Nat}
    {content content' : Bytes} {kept : List Rule} (prepared : o.Prepared w l mode content kept)
    (written : Written w v o.target content' l) : FileTree.SamePlaces w.tree v.tree := by
  refine ⟨fun k => ?_, fun k => (written.directories k).symm⟩
  by_cases here : k = l
  · subst here
    rw [written.entry, (FileTree.lookup_ok.mp prepared.loaded).2]
    simp
  · rw [written.others k here]

end Operation

theorem Task.run_ofOperation [Chance] (o : Operation) (w : Workspace) : (ofOperation o).run.run w =
    (((o.execute.run w).1.result, (o.execute.run w).1.error), (o.execute.run w).2) := rfl

/-- A task that succeeds is followed by the others, and one that fails is the last. -/
theorem Task.runAll_cons {ε α : Type} (t : Task ε α) (rest : List (Task ε α)) (w : Workspace) :
    ∃ v, Kept w v ∧
      (∀ a e u, t.run.run v = ((a, some e), u) →
        (runAll (t :: rest)).run w = (([a], some ⟨t.name, e⟩), u)) ∧
      ∀ a u, t.run.run v = ((a, none), u) → ∃ u', Kept u u' ∧ (runAll (t :: rest)).run w =
        ((a :: ((runAll rest).run u').1.1, ((runAll rest).run u').1.2),
          ((runAll rest).run u').2) := by
  refine ⟨((Workspace.debug "starting operation" [("operation", .text t.name)]).run w).2,
    Workspace.quiet_record _ w, fun a e u fails => ?_, fun a u succeeds => ?_⟩
  · rw [runAll, Operation.run_then, Operation.run_then, fails]
    rfl
  · refine ⟨((Workspace.debug "operation complete" [("operation", .text t.name)]).run u).2,
      Workspace.quiet_record _ u, ?_⟩
    rw [runAll, Operation.run_then, Operation.run_then, succeeds]
    rfl

namespace Operation

open TextFile (CanWrite Short)

/-- Two runs over a file, one after the other: the second one starts with what the first one
wrote. They end without a fault unless a number is drawn that leaves no room. -/
theorem Plain.runAll_pair [Chance] {o o' : Operation} (plain : o.Plain) (plain' : o'.Plain)
    (same : o'.target = o.target) {w : Workspace} {l : Location} {mode : Nat} {content : Bytes}
    {kept kept' : List Rule} (prepared : o.Prepared w l mode content kept)
    (filtered : Rule.filter o.target o'.rules = .ok kept') {results : List Result}
    {fault : Option (TaskError Error)} {v : Workspace}
    (run : (Task.runAll [.ofOperation o, .ofOperation o']).run w = ((results, fault), v)) :
    ((∀ n, CanWrite w o.target n) → fault = none) ∧
    (fault = none →
      results = [o.finished kept content,
        o'.finished kept' (replaceAll kept content).modified] ∧
      (∀ k, k ≠ l → v.tree.entry? k = w.tree.entry? k) ∧
      v.tree.entry? l =
        some (.file mode (replaceAll kept' (replaceAll kept content).modified).modified)) := by
  obtain ⟨w₁, start, stop, follow⟩ :=
    Task.runAll_cons (.ofOperation o) [.ofOperation o'] w
  have prepared₁ := prepared.of_kept start
  -- the first run
  obtain ⟨_, _, ⟨r, e, u, fails, cannot⟩ | ⟨u, ends, can, written⟩⟩ := plain.execute_ends prepared₁
  · rw [stop r e u (by rw [Task.run_ofOperation, fails])] at run
    cases run
    exact ⟨fun can => absurd ((can _).of_kept start) cannot, fun done => by cases done⟩
  obtain ⟨u', between, both⟩ := follow _ u (by rw [Task.run_ofOperation, ends])
  rw [both] at run
  obtain ⟨w₂, start', stop', follow'⟩ := Task.runAll_cons (.ofOperation o') [] u'
  have prepared₂ : o'.Prepared w₂ l mode (replaceAll kept content).modified kept' :=
    ((prepared₁.again written same filtered).of_kept between).of_kept start'
  have still {n : UInt32} (can : CanWrite w o.target n) : CanWrite w₂ o'.target n := by
    rw [same]
    exact (((can.of_kept start).congr (prepared₁.samePlaces written) written.cwd).of_kept
      between).of_kept start'
  -- the second run
  obtain ⟨_, _, ⟨r, e, v', fails, cannot⟩ | ⟨v', ends', _, written'⟩⟩ :=
    plain'.execute_ends prepared₂
  · rw [stop' r e v' (by rw [Task.run_ofOperation, fails])] at run
    cases run
    exact ⟨fun can => absurd (still (can _)) cannot, fun done => by cases done⟩
  · obtain ⟨v'', after, last⟩ := follow' _ v' (by rw [Task.run_ofOperation, ends'])
    rw [last] at run
    cases run
    refine ⟨fun _ => rfl, fun _ => ⟨rfl, fun k other => ?_, ?_⟩⟩
    · change v''.tree.entry? k = _
      rw [after.tree, written'.others k other, start'.tree, between.tree, written.others k other,
        start.tree]
    · change v''.tree.entry? l = _
      rw [after.tree, written'.entry, (FileTree.lookup_ok.mp prepared₂.loaded).2]
      rfl

/-- Once the joined rules have been run over a file without an error, a run of the first rules and
then of the others is accepted, whatever numbers are drawn for its temporary files. It has no error
either where the name of a temporary file is never too long, or where no number makes the single run
fail. Whenever it has none, it leaves the same files, and the rules, the number of replacements and
the skipped rules of the one run are those of the two. -/
theorem runAll_joined [Chance] {o : Operation} (plain : o.Plain) {first second : List Rule}
    (joined : o.rules = first ++ second) (accepted : o.check = .ok ()) {w w' : Workspace}
    {out : Outcome} (run : o.execute.run w = (out, w')) (done : out.error = none) :
    let before := { o with rules := first }
    let behind := { o with rules := second }
    before.check = .ok () ∧ behind.check = .ok () ∧
    ∀ [Chance] (results : List Result) (fault : Option (TaskError Error)) (v : Workspace),
      (Task.runAll [.ofOperation before, .ofOperation behind]).run w = ((results, fault), v) →
      (Short o.target ∨ (∀ [Chance], (o.execute.run w).1.error = none) → fault = none) ∧
      (fault = none → ∃ r₁ r₂, results = [r₁, r₂] ∧
        (∀ k, v.tree.entry? k = w'.tree.entry? k) ∧
        out.result.skipped = r₁.skipped ++ r₂.skipped ∧
        ∃ p p₁ p₂, out.result.replacement = some p ∧ r₁.replacement = some p₁ ∧
          r₂.replacement = some p₂ ∧ p.rules = p₁.rules ++ p₂.rules ∧
          p.count = p₁.count + p₂.count ∧ p.modified = p₂.modified) := by
  intro before behind
  have plain₁ : before.Plain := ⟨plain.standard, plain.lenient, plain.unsaved, plain.wet⟩
  have plain₂ : behind.Plain := ⟨plain.standard, plain.lenient, plain.unsaved, plain.wet⟩
  obtain ⟨named, valid⟩ := (check_ok_iff plain.standard).mp accepted
  rw [joined, Rule.validate_ok_iff, List.map_append] at valid
  obtain ⟨each, distinct⟩ := valid
  have distinct₁ := (List.nodup_append.mp distinct).1
  have distinct₂ := (List.nodup_append.mp distinct).2.1
  refine ⟨(check_ok_iff plain₁.standard).mpr ⟨named, Rule.validate_ok_iff.mpr ⟨?_, distinct₁⟩⟩,
    (check_ok_iff plain₂.standard).mpr ⟨named, Rule.validate_ok_iff.mpr ⟨?_, distinct₂⟩⟩, ?_⟩
  · exact fun r member => each r (List.mem_append_left _ member)
  · exact fun r member => each r (List.mem_append_right _ member)
  -- the single run
  have ended : (o.execute.run w).1.error = none := by rw [run]; exact done
  obtain ⟨l, mode, content, kept, prepared⟩ := plain.prepared_of_done ended
  obtain ⟨n, can⟩ := plain.canWrite_of_done ended
  obtain ⟨w₁, run', written⟩ := plain.written_of_done prepared ended
  rw [run] at run'
  cases run'
  have filtered := prepared.filtered
  rw [joined, Rule.filter_append] at filtered
  obtain ⟨kept₁, kept₂, filtered₁, filtered₂, rfl⟩ := filtered
  -- the two runs
  intro chance results fault v runs
  have prepared₁ : before.Prepared w l mode content kept₁ := ⟨prepared.loaded, filtered₁⟩
  obtain ⟨ends, same⟩ := plain₁.runAll_pair plain₂ rfl prepared₁ filtered₂ runs
  refine ⟨fun roomy => ends ?_, fun none => ?_⟩
  · rcases roomy with short | always
    · exact short.canWrite can
    · intro m
      let _ : Chance := .always m
      exact (plain.canWrite_of_done always).choose_spec
  obtain ⟨rfl, others, here⟩ := same none
  have both := applyAll_append kept₁ kept₂ content
  refine ⟨_, _, rfl, fun k => ?_, ?_, _, _, _, rfl, rfl, rfl, ?_, ?_, ?_⟩
  · by_cases other : k = l
    · rw [other, here, written.entry, (FileTree.lookup_ok.mp prepared.loaded).2]
      simp [replaceAll, both, TextFile.modeAt]
    · rw [others k other, written.others k other]
  · change skippedNames o.rules _ = skippedNames first kept₁ ++ skippedNames second kept₂
    rw [skippedNames_eq (by rw [joined, List.map_append]; exact distinct) prepared.filtered,
      skippedNames_eq distinct₁ filtered₁, skippedNames_eq distinct₂ filtered₂, joined,
      List.filter_append, List.map_append]
  · simp [replaceAll, both]
  · simp only [replaceAll, both]
    exact count_append _ _ _ _ _ _
  · simp [replaceAll, both]

/-- The second pass replaces what the first one put in, and a rule for other files is skipped. The
three temporary files have different numbers. -/
theorem runAll_joined_chain :
    let first : List Rule := [⟨"r", some (.literal "a"), "bb", []⟩,
      ⟨"s", some (.literal "b"), "x", "*.rs"⟩]
    let second : List Rule := [⟨"t", some (.literal "b"), "c", "f*"⟩]
    let o : Operation := { target := "f", rules := first ++ second }
    let w : Workspace := ⟨⟨[(["f"], .file 0o600 "ca")]⟩, [], []⟩
    let _ : Chance := ⟨fun w => w.events.length.toUInt32⟩
    o.check = .ok () ∧ (o.execute.run w).1.error = none ∧
      ∃ r₁ r₂ v, (Task.runAll [.ofOperation { o with rules := first },
          .ofOperation { o with rules := second }]).run w = (([r₁, r₂], none), v) ∧
        v.tree.entry? ["f"] = some (.file 0o600 "ccc") ∧
        r₁.skipped ++ r₂.skipped = (["s"] : List Bytes) := by
  intro first second o w _
  have done : (o.execute.run w).1.error = none := by decide +kernel
  have short : Short o.target := ⟨by decide, by decide⟩
  obtain ⟨_, _, joined⟩ :=
    runAll_joined ⟨rfl, rfl, rfl, rfl⟩ rfl rfl (Prod.eta (o.execute.run w)).symm done
  obtain ⟨⟨⟨results, fault⟩, v⟩, runs⟩ : ∃ x, (Task.runAll [.ofOperation { o with rules := first },
      .ofOperation { o with rules := second }]).run w = x := ⟨_, rfl⟩
  obtain ⟨ends, same⟩ := joined _ _ _ runs
  obtain ⟨r₁, r₂, rfl, files, skipped, _⟩ := same (ends (.inl short))
  refine ⟨rfl, done, r₁, r₂, v, ?_, ?_, ?_⟩
  · rw [runs, ends (.inl short)]
  · rw [files]
    decide +kernel
  · rw [← skipped]
    decide +kernel

end Operation

end Retouch
