import Retouch.Proofs.CommandLine.Shown
import Retouch.Proofs.Filter
import Retouch.Proofs.Operation.Accounting

/-! The report of a command and what it did to the files.
A command that transforms a file shows an opening, the outcomes of its rules and, if there was no
fault, a closing. The closing of a run that was not dry tells of success, and then the target holds
what the rules made of its content. -/
namespace Retouch

namespace Operation

/-- A run without an error has a replacement, and the target holds it unless the run was dry. -/
theorem Ran.done {o : Operation} {w w' : Workspace} {out : Outcome} (ran : o.Ran w out w')
    (done : out.error = none) :
    ∃ l mode content kept, o.Prepared w l mode content kept ∧
      out.result.replacement = some (replaceAll kept content) ∧ (o.dryRun = false →
        w'.tree.lookup w.cwd o.target =
          .ok (l, .file mode (replaceAll kept content).modified)) := by
  have succeeded := ran.succeeded done
  have made : ∃ l mode content kept, o.Prepared w l mode content kept ∧
      out.result.replacement = some (replaceAll kept content) := by
    cases ran with
    | unloaded | unfiltered | unmatched | unsaved | unwritten => cases done
    | dry prepared | written prepared => exact ⟨_, _, _, _, prepared, rfl⟩
  obtain ⟨l, mode, content, kept, prepared, replaced⟩ := made
  refine ⟨l, mode, content, kept, prepared, replaced, fun wet => ?_⟩
  obtain ⟨l', mode', content', kept', _, loaded, filtered, rfl, after, _⟩ := succeeded wet
  rw [prepared.loaded] at loaded
  rw [prepared.filtered] at filtered
  cases loaded
  cases filtered
  rw [modified_replaceAll]
  exact after

theorem Ran.target {o : Operation} {w w' : Workspace} {out : Outcome} (ran : o.Ran w out w') :
    out.result.target = o.target := by
  cases ran <;> rfl

theorem Ran.skipped_mem {o : Operation} {w w' : Workspace} {out : Outcome} (ran : o.Ran w out w')
    {name : Bytes} (member : name ∈ out.result.skipped) : ∃ r ∈ o.rules, r.name = name := by
  have listed {kept : List Rule} (inside : name ∈ skippedNames o.rules kept) :
      ∃ r ∈ o.rules, r.name = name := by
    unfold skippedNames at inside
    split at inside
    · cases inside
    · obtain ⟨r, among, same⟩ := List.mem_map.mp inside
      exact ⟨r, (List.mem_filter.mp among).1, same⟩
  cases ran with
  | unloaded | unfiltered => cases member
  | unmatched | dry | unsaved | unwritten | written => exact listed member

theorem Ran.applied_mem {o : Operation} {w w' : Workspace} {out : Outcome} (ran : o.Ran w out w')
    {p : Replacement} (replaced : out.result.replacement = some p) {c : RuleCount}
    (member : c ∈ p.rules) : ∃ r ∈ o.rules, r.name = c.name := by
  have listed {l : Location} {mode : Nat} {content : Bytes} {kept : List Rule}
      (prepared : o.Prepared w l mode content kept)
      (same : some (replaceAll kept content) = some p) :
      ∃ r ∈ o.rules, r.name = c.name := by
    cases same
    have inside : c.name ∈ (applyAll kept content).2.map (·.name) := List.mem_map_of_mem member
    rw [applyAll_names, Rule.filter_eq prepared.filtered] at inside
    obtain ⟨r, among, same⟩ := List.mem_map.mp inside
    exact ⟨r, (List.mem_filter.mp among).1, same⟩
  cases ran with
  | unloaded | unfiltered => cases replaced
  | unmatched prepared | dry prepared | unsaved prepared | unwritten prepared | written prepared =>
    exact listed prepared replaced

end Operation

theorem Task.runAll_single [Chance] (o : Operation) (w : Workspace) :
    ∃ v u, Kept w v ∧ Kept (o.execute.run v).2 u ∧
      (runAll [ofOperation o]).run w = (([(o.execute.run v).1.result],
        (o.execute.run v).1.error.map fun e => ⟨o.name, e⟩), u) := by
  rw [runAll, Operation.run_then, Operation.run_then]
  generalize start :
    ((Workspace.debug "starting operation" [("operation", .text (ofOperation o).name)]).run w).2 = v
  have started : Kept w v := start ▸ Workspace.quiet_record _ w
  refine ⟨v, ?_⟩
  rw [Task.run_ofOperation]
  rcases o.execute.run v with ⟨⟨result, _ | e⟩, u⟩
  · exact ⟨_, started, Workspace.quiet_record
      ⟨.debug, "operation complete", [("operation", .text o.name)]⟩ u, rfl⟩
  · exact ⟨u, started, Kept.refl u, rfl⟩

namespace CommandLine

/-- All that is shown of a run, in order. -/
def told (colours : Bool) (c : Config) (o : Operation) (r : Result) (fault : Option Failure) :
    List Output :=
  opening colours c o ++ reported colours r ++
    match fault with
    | some _ => []
    | none => closing colours o.dryRun r

section Told

variable (colours : Bool) (c : Config) {o : Operation} {r : Result}

theorem told_failed {fault : Option Failure} (failed : fault ≠ none) :
    told colours c o r fault = opening colours c o ++ reported colours r := by
  cases fault with
  | none => exact absurd rfl failed
  | some e => exact List.append_nil _

theorem told_done : shownText (told colours c o r none) =
    shownText (opening colours c o ++ reported colours r) ++
      shownText (closing colours o.dryRun r) := shownText_append _ _

theorem isModified_iff :
    r.isModified = true ↔ ∃ p, r.replacement = some p ∧ p.initial ≠ p.modified := by
  unfold Result.isModified
  cases r.replacement <;> simp [Replacement.wasModified]

theorem text_closing_rows {p : Replacement} (replaced : r.replacement = some p)
    (differ : p.initial ≠ p.modified) :
    ∃ rows, Diff.Traced true (Diff.lineScript p.initial p.modified) rows ∧
      r.diff = Diff.page (rows.map (·.2)) ∧
      shownText (closing colours true r) =
        0x0A :: (rows.flatMap (fun row => row.1.shown colours row.2 ++ [0x0A]) ++ 0x0A ::
          (infoLine colours ("Dry run, " ++ Path.base r.target ++ " was not written") ++
            [0x0A])) := by
  obtain ⟨rows, traced, text, _, shown⟩ := Diff.text_diff_render differ
  have diff : r.diff = Diff.render p.initial p.modified := by rw [Result.diff, replaced]
  refine ⟨rows, traced, diff.trans text, ?_⟩
  rw [text_closing_changed colours (isModified_iff.mpr ⟨p, replaced, differ⟩), diff, shown]

variable {c} {w w' : Workspace} {out : Operation.Outcome}

theorem unsigned_front (ran : o.Ran w out w') (unbroken : Unbroken c o) :
    Unsigned (shownText (opening colours c o ++ reported colours out.result)) := by
  rw [shownText_append]
  apply (unsigned_opening colours unbroken).append
  apply unsigned_reported
  · intro name member
    obtain ⟨r, listed, rfl⟩ := ran.skipped_mem member
    exact unbroken.names r listed
  · intro p replaced count member
    obtain ⟨r, listed, same⟩ := ran.applied_mem replaced member
    exact same ▸ unbroken.names r listed

/-- The line of success is one of the lines exactly if there was no fault and the run was not
dry. -/
theorem successLine_told_iff (ran : o.Ran w out w') (unbroken : Unbroken c o)
    (fault : Option Failure) :
    successLine colours (Path.base o.target) ++ [0x0A] ∈
        (shownText (told colours c o out.result fault)).lines ↔
      fault = none ∧ o.dryRun = false := by
  have front := unsigned_front colours ran unbroken
  have target := ran.target
  cases fault with
  | some e =>
    rw [told_failed colours c (Option.some_ne_none e)]
    simpa using front.not_success colours _
  | none =>
    rw [told_done]
    cases o.dryRun with
    | true =>
      have closed : Unsigned (shownText (closing colours true out.result)) := by
        apply unsigned_closing_dry
        · rw [target]
          exact unbroken.target
        · intro modified
          obtain ⟨p, replaced, differ⟩ := isModified_iff.mp modified
          rw [Result.diff, replaced]
          exact unsigned_diff colours differ
      simpa using (front.append closed).not_success colours _
    | false =>
      rw [text_closing_wet, target, ← List.append_assoc]
      have whole : (keptLine colours out.result.backupPath).Whole := by
        unfold keptLine
        split
        · exact .inl rfl
        · exact .inr ⟨_, rfl⟩
      simpa using successLine_mem_lines colours (front.whole.append whole)
        (Path.free_base unbroken.target)

/-- What a run without an error loaded and made of it, what it wrote, and how the text of its report
goes on behind the outcomes of the rules. -/
theorem told_finished (ran : o.Ran w out w') (done : out.error = none) (c : Config) :
    let text := shownText (told colours c o out.result none)
    let front := shownText (opening colours c o ++ reported colours out.result)
    let name := Path.base o.target
    ∃ l mode content kept p, w.tree.lookup w.cwd o.target = .ok (l, .file mode content) ∧
      Rule.filter o.target o.rules = .ok kept ∧ out.result.replacement = some p ∧
      p.initial = content ∧ p.modified = kept.foldl (fun c r => (r.apply c).1) content ∧
      (∀ chunk ∈ (Diff.script content p.modified).2, ∀ code ∈ chunk.codes,
        Diff.LineTable.position code < (Diff.script content p.modified).1.lines.size) ∧
      (o.dryRun = false → w'.tree.lookup w.cwd o.target = .ok (l, .file mode p.modified) ∧
        text = front ++ (keptLine colours out.result.backupPath ++
          (successLine colours name ++ [0x0A]))) ∧
      (o.dryRun = true → content = p.modified →
        text = front ++ (infoLine colours ("No changes for " ++ name) ++ [0x0A])) ∧
      (o.dryRun = true → content ≠ p.modified → out.result.diff ≠ [] ∧
        ∃ rows, Diff.Traced true (Diff.lineScript content p.modified) rows ∧
          out.result.diff = Diff.page (rows.map (·.2)) ∧
          text = front ++ 0x0A :: (rows.flatMap (fun row => row.1.shown colours row.2 ++ [0x0A]) ++
            0x0A :: (infoLine colours ("Dry run, " ++ name ++ " was not written") ++ [0x0A]))) := by
  intro text front name
  obtain ⟨l, mode, content, rules, prepared, replaced, written⟩ := ran.done done
  have target := ran.target
  have goes : text = front ++ shownText (closing colours o.dryRun out.result) := told_done colours c
  refine ⟨l, mode, content, rules, _, prepared.loaded, prepared.filtered, replaced, rfl,
    modified_replaceAll rules content, fun chunk member code inside =>
      Diff.script_position_lt member inside, fun wet => ⟨written wet, ?_⟩, fun dry same => ?_,
    fun dry differ => ?_⟩
  · rw [goes, wet, text_closing_wet, target]
  · have unchanged : out.result.isModified = false := by
      rw [Bool.eq_false_iff, ne_eq, isModified_iff]
      rintro ⟨p, again, differ⟩
      rw [replaced] at again
      cases again
      exact differ same
    rw [goes, dry, text_closing_same colours unchanged, target]
  · obtain ⟨rows, traced, diff, shown⟩ := text_closing_rows colours replaced differ
    refine ⟨?_, rows, traced, diff, by rw [goes, dry, shown, target]⟩
    rw [Result.diff, replaced]
    exact mt Diff.render_eq_nil_iff.mp differ

end Told

/-! The run of a transformation. -/

theorem run_work {α β : Type} (x : StateM Workspace α) (f : α → Session β) (s : Screen)
    (w : Workspace) :
    (((liftM x : Session α) >>= f).run s).run w = ((f (x.run w).1).run s).run (x.run w).2 := rfl

theorem run_behind {α : Type} {step : Session Unit} {outputs : Bool → List Output}
    (tells : Tells step outputs) (f : Session α) (s : Screen) (w : Workspace) :
    ∃ s' w', Said (outputs s.colours) s s' w w' ∧
      ((step >>= fun _ => f).run s).run w = (f.run s').run w' :=
  ⟨_, _, tells s w, rfl⟩

theorem transform_unplanned [Chance] {i : Invocation} {w v : Workspace} {e : Failure}
    (plans : (planned i).run.run w = (.error e, v)) (s : Screen) :
    ((transform i).run s).run w = ((some e, s), v) := by
  rw [transform, run_work, plans]
  rfl

theorem transform_planned [Chance] {i : Invocation} {w v : Workspace} {c : Config} {o : Operation}
    (plans : (planned i).run.run w = (.ok (c, o), v)) (s : Screen) :
    ∃ u s' w', Kept v u ∧ Kept (o.execute.run u).2 w' ∧
      ((transform i).run s).run w =
        (((o.execute.run u).1.error.map fun e => .task ⟨o.name, e⟩, s'), w') ∧
      s'.text = s.text ++ shownText (told s.colours c o (o.execute.run u).1.result
        ((o.execute.run u).1.error.map fun e => .task ⟨o.name, e⟩)) := by
  rw [transform, run_work, plans]
  dsimp only
  obtain ⟨s₁, w₁, opens, eq⟩ := run_behind (Tells.header c.origin) _ s v
  rw [eq]
  obtain ⟨s₂, w₂, starts, eq⟩ :=
    run_behind (Tells.startTarget ⟨o.target, o.rules.length, o.dryRun⟩) _ s₁ w₁
  rw [eq, run_work]
  obtain ⟨u, w₃, before, after, eq⟩ := Task.runAll_single o w₂
  rw [eq]
  dsimp only
  obtain ⟨s₃, w₄, reports, eq⟩ :=
    run_behind (Tells.forIn [(o.execute.run u).1.result] tells_report) _ s₂ w₃
  rw [eq]
  obtain ⟨s₄, w₅, ends, eq⟩ := run_behind Tells.endTarget _ s₃ w₄
  rw [eq]
  rw [opens.colours] at starts
  rw [starts.colours, opens.colours] at reports
  have quiet := (opens.kept.trans starts.kept).trans before
  have done := (after.trans reports.kept).trans ends.kept
  have text : s₄.text = s.text ++ shownText (opening s.colours c o ++
      reported s.colours (o.execute.run u).1.result) := by
    rw [ends.text, reports.text, starts.text, opens.text]
    simp [opening, shownText]
  have colours : s₄.colours = s.colours := by
    rw [ends.colours, reports.colours, starts.colours, opens.colours]
  refine ⟨u, ?_⟩
  cases failed : (o.execute.run u).1.error with
  | some e => exact ⟨s₄, w₅, quiet, done, rfl, by rw [text]; simp [told]⟩
  | none =>
    obtain ⟨s₅, w₆, closes, eq⟩ := run_behind
      (Tells.forIn [(o.execute.run u).1.result] (tells_conclude o.dryRun)) (pure none) s₄ w₅
    refine ⟨s₅, w₆, quiet, done.trans closes.kept, eq, ?_⟩
    rw [closes.text, text, colours]
    simp [told, shownText]

/-! Plans. -/

theorem planned_cases (i : Invocation) (w : Workspace) :
    Kept w ((planned i).run.run w).2 ∧ ∀ c o, ((planned i).run.run w).1 = .ok (c, o) →
      ∃ target, operationOf i.settings c target = .ok o := by
  have kept := configured_kept i.settings w
  rw [planned_eq, run_bind]
  rcases configures : (configured i.settings).run.run w with ⟨_ | c', v⟩ <;>
    rw [configures] at kept
  · exact ⟨kept, fun c o plans => by cases plans⟩
  · dsimp only at kept ⊢
    split
    · exact ⟨kept, fun c o plans => by cases plans⟩
    · rw [run_get_bind]
      split
      · exact ⟨kept, fun c o plans => by cases plans⟩
      · rename_i made
        refine ⟨kept, fun c o plans => ?_⟩
        cases plans
        exact ⟨_, made⟩

theorem operationOf_checked {s : Settings} {c : Config} {target : Bytes} {o : Operation}
    (made : operationOf s c target = .ok o) : o.dryRun = s.dryRun ∧ o.check = .ok () := by
  unfold operationOf at made
  cases rules : c.compile with
  | error e => rw [rules] at made; cases made
  | ok compiled =>
    rw [rules] at made
    dsimp only [Except.mapError, bind, Except.bind] at made
    split at made
    · cases made
    · rename_i checked
      cases made
      refine ⟨rfl, ?_⟩
      split at checked
      · cases checked
      · assumption

theorem run_transform [Chance] {e : Surroundings} {arguments : List Bytes} {i : Invocation}
    (means : Invocation.ofArguments arguments = .ok i) (asked : i.command = .transform)
    (helpless : i.settings.help = false) (tree : FileTree) (cwd : Location) :
    let ended := ((transform i).run ⟨e.colours, .start, []⟩).run ⟨tree, cwd, []⟩
    let exit := (run e arguments).run ⟨tree, cwd, []⟩
    exit.1.code = (if ended.1.1 = none then 0 else 1) ∧ exit.1.stdout = ended.1.2.text ∧
      exit.2.tree = ended.2.tree := by
  intro ended exit
  have performs : perform e.build i = transform i := by
    rw [perform, helpless, asked]
    rfl
  have exits : exit = (.ofFault e ended.1.2.text
      (logLines e.time (if i.settings.debug then .debug else .info) ended.2.events) ended.1.1,
      { ended.2 with events := [] }) := by
    change ((run e arguments).run _ : Exit × Workspace) = _
    rw [run, means]
    dsimp only
    rw [performs]
    rfl
  rw [exits]
  cases ended.1.1 with
  | none => exact ⟨rfl, rfl, rfl⟩
  | some f => exact ⟨rfl, rfl, rfl⟩

/-- Without a plan nothing is shown and nothing is done. -/
theorem transform_refused [Chance] {i : Invocation} {tree : FileTree} {cwd : Location} {e : Failure}
    {v : Workspace} (plans : (planned i).run.run ⟨tree, cwd, []⟩ = (.error e, v)) (colours : Bool) :
    let ended := ((transform i).run ⟨colours, .start, []⟩).run ⟨tree, cwd, []⟩
    ended.1.1 = some e ∧ ended.1.2.text = [] ∧ ended.2.tree = tree := by
  intro ended
  have kept := (planned_cases i ⟨tree, cwd, []⟩).1
  rw [plans] at kept
  have ends : ended = ((some e, ⟨colours, .start, []⟩), v) := transform_unplanned plans _
  rw [ends]
  exact ⟨rfl, rfl, kept.tree⟩

/-- What a plan comes to: one run of an operation, whose rules all have patterns. -/
theorem transform_performs [Chance] {i : Invocation} {tree : FileTree} {cwd : Location} {c : Config}
    {o : Operation} {v : Workspace}
    (plans : (planned i).run.run ⟨tree, cwd, []⟩ = (.ok (c, o), v)) (colours : Bool) :
    let ended := ((transform i).run ⟨colours, .start, []⟩).run ⟨tree, cwd, []⟩
    ∃ u, Kept ⟨tree, cwd, []⟩ u ∧ o.Ran u (o.execute.run u).1 (o.execute.run u).2 ∧
      o.dryRun = i.settings.dryRun ∧ (∀ rule ∈ o.rules, rule.pattern ≠ none) ∧
      ended.1.1 = (o.execute.run u).1.error.map (fun e => .task ⟨o.name, e⟩) ∧
      ended.1.2.text = shownText (told colours c o (o.execute.run u).1.result ended.1.1) ∧
      ended.2.tree = (o.execute.run u).2.tree := by
  intro ended
  obtain ⟨kept, checked⟩ := planned_cases i ⟨tree, cwd, []⟩
  rw [plans] at kept checked
  obtain ⟨target, made⟩ := checked c o rfl
  obtain ⟨dry, accepted⟩ := operationOf_checked made
  have standard := (planned_ok plans).2.2
  have valid := ((Operation.check_ok_iff standard).mp accepted).2
  obtain ⟨u, s', w', before, behind, ends, shown⟩ := transform_planned plans ⟨colours, .start, []⟩
  change ended = _ at ends
  rw [ends]
  exact ⟨u, kept.trans before, o.execute_ran standard u, dry,
    fun rule member => ((Rule.validate_ok_iff.mp valid).1 rule member).2, rfl, shown, behind.tree⟩

/-- The report of a transformation agrees with what happened to the files:
a dry run changes nothing, and neither does a command that has no plan, which shows nothing either;
with a plan, the shown text is that of one run of the operation, whose rules all have patterns;
after a fault it stops behind the outcomes of the rules, and the target is as it was;
if nothing that is quoted breaks a line, the line of success is one of the lines exactly if there
was no fault and the run was not dry;
without a fault there is a replacement to tell of, and all lines of its diff are known;
if the run was not dry, the text ends with the line of success, and the target holds what the rules
made of its content, under its old mode;
a dry run shows its diff exactly if the content would change, and then the diff is not empty;
and the exit code of the program tells of the fault. -/
theorem transform_reports [Chance] (tree : FileTree) (cwd : Location) (colours : Bool)
    (i : Invocation) :
    let start : Workspace := ⟨tree, cwd, []⟩
    let ended := ((transform i).run ⟨colours, .start, []⟩).run start
    let fault := ended.1.1
    let text := ended.1.2.text
    let after := ended.2.tree
    (i.settings.dryRun = true → after = tree) ∧
    (∀ e, ((planned i).run.run start).1 = .error e → fault = some e ∧ text = [] ∧ after = tree) ∧
    (∀ c o, ((planned i).run.run start).1 = .ok (c, o) →
      (∀ rule ∈ o.rules, rule.pattern ≠ none) ∧ ∃ v out, Kept start v ∧ (o.execute.run v).1 = out ∧
      let front := shownText (opening colours c o ++ reported colours out.result)
      let name := Path.base o.target
      fault = out.error.map (fun e => .task ⟨o.name, e⟩) ∧
      (fault ≠ none → text = front ∧ after.lookup cwd o.target = tree.lookup cwd o.target) ∧
      (Unbroken c o → (successLine colours name ++ [0x0A] ∈ text.lines ↔
        fault = none ∧ i.settings.dryRun = false)) ∧
      (fault = none → ∃ l mode content kept p,
        tree.lookup cwd o.target = .ok (l, .file mode content) ∧
        Rule.filter o.target o.rules = .ok kept ∧ out.result.replacement = some p ∧
        p.initial = content ∧ p.modified = kept.foldl (fun c r => (r.apply c).1) content ∧
        (∀ chunk ∈ (Diff.script content p.modified).2, ∀ code ∈ chunk.codes,
          Diff.LineTable.position code < (Diff.script content p.modified).1.lines.size) ∧
        (i.settings.dryRun = false →
          after.lookup cwd o.target = .ok (l, .file mode p.modified) ∧
          text = front ++ (keptLine colours out.result.backupPath ++
            (successLine colours name ++ [0x0A]))) ∧
        (i.settings.dryRun = true → content = p.modified →
          text = front ++ (infoLine colours ("No changes for " ++ name) ++ [0x0A])) ∧
        (i.settings.dryRun = true → content ≠ p.modified → out.result.diff ≠ [] ∧
          ∃ rows, Diff.Traced true (Diff.lineScript content p.modified) rows ∧
            out.result.diff = Diff.page (rows.map (·.2)) ∧
            text = front ++ 0x0A ::
              (rows.flatMap (fun row => row.1.shown colours row.2 ++ [0x0A]) ++
              0x0A :: (infoLine colours ("Dry run, " ++ name ++ " was not written") ++ [0x0A]))))) ∧
    ∀ time build arguments, Invocation.ofArguments arguments = .ok i → i.command = .transform →
      i.settings.help = false →
      let exit := (run ⟨colours, time, build⟩ arguments).run start
      exit.1.code = (if fault = none then 0 else 1) ∧ exit.1.stdout = text ∧
        exit.2.tree = after := by
  intro start ended fault text after
  have exits (time build arguments) (means : Invocation.ofArguments arguments = .ok i)
      (asked : i.command = .transform) (helpless : i.settings.help = false) :=
    run_transform (e := ⟨colours, time, build⟩) means asked helpless tree cwd
  rcases plans : (planned i).run.run start with ⟨e | ⟨c, o⟩, v⟩
  · obtain ⟨failed, silent, still⟩ := transform_refused plans colours
    refine ⟨fun _ => still, fun e' same => ?_, fun c o made => ?_, exits⟩
    · cases same
      exact ⟨failed, silent, still⟩
    · cases made
  · obtain ⟨u, quiet, ran, dry, patterns, faults, texts, files⟩ := transform_performs plans colours
    change fault = _ at faults
    change text = shownText (told colours c o _ fault) at texts
    change after = _ at files
    have faultless : fault = none ↔ (o.execute.run u).1.error = none := by
      rw [faults, Option.map_eq_none_iff]
    rw [← dry]
    refine ⟨fun dry => ?_, fun e failed => ?_, fun c' o' plan => ?_, exits⟩
    · rw [files, ran.unchanged (.inr (.inr (.inr dry))), quiet.tree]
    · cases failed
    cases plan
    refine ⟨patterns, u, _, quiet, rfl, faults, fun failed => ?_, fun unbroken => ?_,
      fun done => ?_⟩
    · have same := (ran.failed (mt faultless.mpr failed)).1
      rw [quiet.cwd, quiet.tree, ← files] at same
      exact ⟨by rw [texts, told_failed colours c failed], same⟩
    · rw [texts]
      exact successLine_told_iff colours ran unbroken fault
    · have finished := told_finished colours ran (faultless.mp done) c
      rw [← done, ← texts, ← files, quiet.tree, quiet.cwd] at finished
      exact finished

/-- A file is changed, and the report tells of it. -/
theorem transform_reports_change :
    let _ : Chance := .always 7
    let rules := Preset.ofLines ["target: src/a.rs", "rules:", "- name: r", "  kind: literal",
      "  match: x", "  replace: y", ""]
    let tree : FileTree := ⟨[(["w"], .directory), (["w", "rules.yaml"], .file 0o644 rules),
      (["w", "src"], .directory), (["w", "src", "a.rs"], .file 0o600 "ax")]⟩
    let i : Invocation := ⟨.transform, { Settings.initial with config := "rules.yaml" }, []⟩
    let ended := ((transform i).run ⟨false, .start, []⟩).run ⟨tree, ["w"], []⟩
    let exit := (run ⟨false, [], ⟨[], [], [], [], [], false⟩⟩ ["--config", "rules.yaml"]).run
      ⟨tree, ["w"], []⟩
    ended.1.1 = none ∧ exit.1.code = 0 ∧ exit.1.stdout = ended.1.2.text ∧
    ∃ (c : Config) (o : Operation) (out : Operation.Outcome) (p : Replacement),
      Unbroken c o ∧ successLine false (Path.base o.target) ++ [0x0A] ∈ ended.1.2.text.lines ∧
      ended.1.2.text = shownText (opening false c o ++ reported false out.result) ++
        (keptLine false out.result.backupPath ++
          (successLine false (Path.base o.target) ++ [0x0A])) ∧
      out.result.replacement = some p ∧
      ∃ l mode, ended.2.tree.lookup ["w"] o.target = .ok (l, .file mode p.modified) := by
  intro _ rules tree i
  have means : Invocation.ofArguments ["--config", "rules.yaml"] = .ok i :=
    eq_ok_of_toOption (by decide +kernel)
  have evaluated : (((transform i).run ⟨false, .start, []⟩).run ⟨tree, ["w"], []⟩).1.1.isNone ∧
      ((planned i).run.run ⟨tree, ["w"], []⟩).1.toOption.any (fun p =>
        !(Path.base p.1.location).contains 0x0A && !p.2.target.contains 0x0A &&
          p.2.rules.all fun r => !r.name.contains 0x0A) := by decide +kernel
  obtain ⟨_, _, made, exits⟩ := transform_reports tree ["w"] false i
  generalize ((transform i).run ⟨false, .start, []⟩).run ⟨tree, ["w"], []⟩ = ended at *
  have done : ended.1.1 = none := by simpa using evaluated.1
  obtain ⟨code, stdout, _⟩ := exits [] ⟨[], [], [], [], [], false⟩ _ means rfl rfl
  refine ⟨done, code.trans (if_pos done), stdout, ?_⟩
  rcases plans : ((planned i).run.run ⟨tree, ["w"], []⟩).1 with e | ⟨c, o⟩
  · simp [plans, Except.toOption] at evaluated
  · have unbroken : Unbroken c o := by
      have free := evaluated.2
      simp only [plans, Except.toOption, Option.any_some, Bool.and_eq_true, Bool.not_eq_true',
        List.contains_eq_mem, decide_eq_false_iff_not, List.all_eq_true] at free
      exact ⟨free.1.1, free.1.2, free.2⟩
    obtain ⟨_, _, out, _, _, _, _, told, finished⟩ := made c o plans
    obtain ⟨l, mode, content, kept, p, _, _, replaced, _, _, _, wet, _⟩ := finished done
    obtain ⟨written, text⟩ := wet rfl
    exact ⟨c, o, out, p, unbroken, (told unbroken).mpr ⟨done, rfl⟩, text, replaced, l, mode,
      written⟩

/-- A dry run with a rule whose name holds the line of success between line feeds. -/
theorem transform_reports_quoted :
    let _ : Chance := .always 7
    let rules := Preset.ofLines ["target: a.rs", "rules:",
      "- name: \"r\\n✅ Successfully updated loops in a.rs\\n\"", "  kind: literal",
      "  match: x", "  replace: y", ""]
    let tree : FileTree := ⟨[(["w"], .directory), (["w", "rules.yaml"], .file 0o644 rules),
      (["w", "a.rs"], .file 0o600 "a")]⟩
    let settings := { Settings.initial with config := "rules.yaml", dryRun := true }
    let ended := ((transform ⟨.transform, settings, []⟩).run ⟨false, .start, []⟩).run
      ⟨tree, ["w"], []⟩
    ended.1.1 = none ∧ ended.2.tree = tree ∧
      successLine false "a.rs" ++ [0x0A] ∈ ended.1.2.text.lines := by
  intro _
  decide +kernel

end CommandLine

end Retouch
