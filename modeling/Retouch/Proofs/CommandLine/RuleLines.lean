import Retouch.Proofs.CommandLine.Report
import Retouch.Proofs.Operation.Accounting

/-! The lines of a report.
A report tells of the skipped rules first and then of the applied ones. So each rule has one line,
but the lines follow the list of rules only if no rule for the target stands before one that is not.
-/
namespace Retouch

/-- A replacer that refuses rules of one name, and counts for each rule that it applies, in order.
-/
structure Replacer.Counts (r : Replacer) : Prop where
  distinct : ∀ rules, r.validate rules = .ok () → (rules.map (·.name)).Nodup
  counted : ∀ rules content w p, ((r.replace rules content).run.run w).1 = .ok p →
    p.rules.map (·.name) = rules.map (·.name)

theorem Replacer.counts_standard : Replacer.standard.Counts := by
  constructor
  · intro rules valid
    change (Rule.validate rules).mapError _ = _ at valid
    cases checks : Rule.validate rules with
    | error e => rw [checks] at valid; cases valid
    | ok _ => exact (Rule.validate_ok_iff.mp checks).2
  · intro rules content w p replaces
    rw [(Operation.replace_standard rules content w).1] at replaces
    cases replaces
    exact applyAll_names rules content

/-- With those that fail a test put first, a list of distinct names stays as it is exactly if none
of them comes behind one that passes. -/
theorem map_filter_append_eq_iff {α β : Type} {f : α → β} {l : List α} (p : α → Bool)
    (distinct : (l.map f).Nodup) :
    (l.filter fun a => !p a).map f ++ (l.filter p).map f = l.map f ↔
      l.Pairwise fun a b => p a = true → p b = true := by
  induction l with
  | nil => simp
  | cons a l ih =>
    rw [List.map_cons, List.nodup_cons] at distinct
    rw [List.pairwise_cons]
    cases passes : p a with
    | false => simp [passes, ih distinct.2]
    | true =>
      simp only [List.filter_cons, passes, Bool.not_true, Bool.false_eq_true, if_false, if_true,
        List.map_cons, forall_const]
      constructor
      · intro same
        cases fail : l.filter fun a => !p a with
        | nil =>
          have all : ∀ b ∈ l, p b = true := by simpa using List.filter_eq_nil_iff.mp fail
          exact ⟨all, List.pairwise_of_forall_mem_list fun _ _ b member _ => all b member⟩
        | cons b others =>
          -- the first name would be that of a later element
          rw [fail] at same
          have listed : b ∈ l := (List.mem_filter.mp (fail ▸ List.mem_cons_self)).1
          rw [← (List.cons.inj same).1] at distinct
          exact absurd (List.mem_map_of_mem listed) distinct.1
      · rintro ⟨all, _⟩
        rw [List.filter_eq_nil_iff.mpr (by simpa using all), List.filter_eq_self.mpr all]
        rfl

namespace Operation

theorem check_validates {o : Operation} (accepted : o.check = .ok ()) :
    o.replacer.validate o.rules = .ok () := by
  unfold check at accepted
  split at accepted
  · cases accepted
  · cases valid : o.replacer.validate o.rules with
    | error m => rw [valid] at accepted; cases accepted
    | ok _ => rfl

theorem store_result [Chance] (o : Operation) (r : Result) (p : Replacement) (w : Workspace) :
    ((o.store r p).run w).1.result.replacement = r.replacement ∧
      ((o.store r p).run w).1.result.skipped = r.skipped := by
  rcases o.store_cases r p w with
    ⟨⟨e, fails⟩, _⟩ | ⟨_, _, _, ⟨⟨e, fails⟩, _⟩ | ⟨writes, _⟩⟩
  · rw [fails]
    exact ⟨rfl, rfl⟩
  · rw [fails]
    exact ⟨rfl, rfl⟩
  · rw [writes]
    exact ⟨rfl, rfl⟩

theorem conclude_result [Chance] (o : Operation) (r : Result) (p : Replacement) (w : Workspace) :
    ((o.conclude r p).run w).1.result.replacement = r.replacement ∧
      ((o.conclude r p).run w).1.result.skipped = r.skipped := by
  rcases o.conclude_cases r p w with ⟨_, ⟨_, stops⟩, _⟩ | ⟨_, stops, _⟩ | ⟨_, v, _, stores⟩
  · rw [stops]
    exact ⟨rfl, rfl⟩
  · rw [stops]
    exact ⟨rfl, rfl⟩
  · rw [stores]
    exact o.store_result r p v

/-- A replacement comes from the replacer, with the rules for the target. -/
theorem execute_replaced [Chance] {o : Operation} {w : Workspace} {p : Replacement}
    (replaced : (o.execute.run w).1.result.replacement = some p) :
    ∃ kept content v, Rule.filter o.target o.rules = .ok kept ∧
      ((o.replacer.replace kept content).run.run v).1 = .ok p ∧
      (o.execute.run w).1.result.skipped = skippedNames o.rules kept := by
  obtain ⟨_, ⟨e, fails⟩ | ⟨_, _, content, _, reads⟩⟩ := TextFile.load_cases o.target w
  · rw [execute, run_then, fails] at replaced
    cases replaced
  cases filtered : Rule.filter o.target o.rules with
  | error e =>
    rw [execute, run_then, reads] at replaced
    dsimp only at replaced
    rw [filtered] at replaced
    cases replaced
  | ok kept =>
    obtain ⟨v, _, eq⟩ := execute_filtered reads filtered
    rw [eq, run_then] at replaced ⊢
    refine ⟨kept, content, v, rfl, ?_⟩
    revert replaced
    rcases (o.replacer.replace kept content).run.run v with ⟨m | q, u⟩
    · intro replaced
      cases replaced
    · intro replaced
      obtain ⟨whole, skipped⟩ := o.conclude_result
        ⟨o.target, .transformed, some q, skippedNames o.rules kept, []⟩ q u
      rw [whole] at replaced
      cases replaced
      exact ⟨rfl, skipped⟩

end Operation

namespace CommandLine

def outcomes (r : Result) (p : Replacement) : List RuleOutcome :=
  r.skipped.map (fun name => ⟨name, 0, true⟩) ++ p.rules.map fun c => ⟨c.name, c.hits, false⟩

def unmatchedNotice (colours : Bool) (name : Bytes) : Output :=
  Console.notice colours .warning ("rule " ++ name ++ " matched nothing")

theorem reported_eq {r : Result} {p : Replacement} (replaced : r.replacement = some p)
    (colours : Bool) :
    reported colours r = (outcomes r p).map (fun x => (Console.start.rule colours x).2) ++
      p.unmatched.map (unmatchedNotice colours) := by
  simp only [reported, replaced, outcomes, List.map_append, List.map_map, ← List.map_eq_flatMap,
    List.append_assoc]
  rfl

theorem outcomes_marked (r : Result) (p : Replacement) :
    (outcomes r p).map (fun x => (x.name, x.skipped)) =
      r.skipped.map (·, true) ++ (p.rules.map (·.name)).map (·, false) := by
  simp [outcomes, Function.comp_def]

/-- The report of a run that has a replacement shows one line for each rule: first the rules that
are not for the target, then those that are, both in the order of the rules, and behind them a
warning for each applied rule that matched nothing, in that order too. The lines follow the list of
rules exactly if every rule behind one that is for the target is for the target as well. -/
theorem report_lines [Chance] {o : Operation} (counts : o.replacer.Counts)
    (accepted : o.check = .ok ())
    {w w' : Workspace} {out : Operation.Outcome} (run : o.execute.run w = (out, w'))
    {p : Replacement} (replaced : out.result.replacement = some p) :
    let lines := outcomes out.result p
    (∀ s v, (((report out.result).run s).run v).1.2.text = s.text ++
      shownText (lines.map (fun x => (Console.start.rule s.colours x).2) ++
        p.unmatched.map (unmatchedNotice s.colours))) ∧
    (lines.map (·.name)).Perm (o.rules.map (·.name)) ∧
    lines.map (fun x => (x.name, x.skipped)) =
      (o.rules.filter fun r => !r.fits o.target).map (fun r => (r.name, true)) ++
        (o.rules.filter (Rule.fits o.target)).map (fun r => (r.name, false)) ∧
    (lines.map (·.name) = o.rules.map (·.name) ↔
      o.rules.Pairwise fun r s => r.fits o.target = true → s.fits o.target = true) ∧
    p.unmatched.Sublist (o.rules.map (·.name)) ∧
    ∀ c ∈ p.rules, p.unmatched.count c.name = if c.hits = 0 then 1 else 0 := by
  intro lines
  have distinct := counts.distinct _ (Operation.check_validates accepted)
  obtain rfl : (o.execute.run w).1 = out := congrArg Prod.fst run
  obtain ⟨kept, content, v, filtered, replaces, skipped⟩ := Operation.execute_replaced replaced
  have applied := counts.counted _ _ _ _ replaces
  rw [Operation.skippedNames_eq distinct filtered] at skipped
  rw [Rule.filter_eq filtered] at applied
  have marked : lines.map (fun x => (x.name, x.skipped)) =
      (o.rules.filter fun r => !r.fits o.target).map (fun r => (r.name, true)) ++
        (o.rules.filter (Rule.fits o.target)).map (fun r => (r.name, false)) := by
    rw [outcomes_marked, skipped, applied]
    simp [Function.comp_def]
  have names : lines.map (·.name) = (o.rules.filter fun r => !r.fits o.target).map (·.name) ++
      (o.rules.filter (Rule.fits o.target)).map (·.name) := by
    simpa [Function.comp_def] using congrArg (List.map Prod.fst) marked
  have inOrder : (p.rules.map (·.name)).Sublist (o.rules.map (·.name)) := by
    rw [applied]
    exact List.filter_sublist.map _
  constructor
  · intro s v
    rw [← reported_eq replaced]
    exact (tells_report _ s v).text
  constructor
  · rw [names, ← List.map_append]
    exact (List.perm_append_comm.trans (List.filter_append_perm _ _)).map _
  constructor
  · exact marked
  constructor
  · rw [names]
    exact map_filter_append_eq_iff _ distinct
  constructor
  · exact (List.filter_sublist.map _).trans inOrder
  · intro c member
    rw [Replacement.unmatched, count_map_filter (distinct.sublist inOrder) _ member]
    simp

/-- Skipped rules before applied ones: the lines follow the rules. -/
theorem report_lines_three :
    let _ : Chance := .always 7
    let o : Operation :=
      { target := "f.rs"
        rules := [⟨"r", some (.literal "a"), "b", "*.go"⟩, ⟨"s", some (.literal "a"), "c", []⟩,
          ⟨"t", some (.literal "x"), "y", "*.rs"⟩] }
    let w : Workspace := ⟨⟨[(["f.rs"], .file 0o644 "a")]⟩, [], []⟩
    let result := (o.execute.run w).1.result
    o.check = .ok () ∧ ∃ p, result.replacement = some p ∧
      (outcomes result p).map (·.name) = o.rules.map (·.name) ∧
      (((report result).run ⟨false, .start, []⟩).run w).1.2.text =
        shownText ((outcomes result p).map (fun x => (Console.start.rule false x).2) ++
          p.unmatched.map (unmatchedNotice false)) := by
  intro _ o w result
  have made : result.replacement.isSome := by decide +kernel
  obtain ⟨p, replaced⟩ := Option.isSome_iff_exists.mp made
  have inOrder : o.rules.Pairwise fun r s =>
      r.fits o.target = true → s.fits o.target = true := by decide +kernel
  rcases run : o.execute.run w with ⟨out, w'⟩
  have same : result = out.result := congrArg (·.1.result) run
  clear_value result
  subst same
  obtain ⟨text, _, _, follows, _⟩ := report_lines Replacer.counts_standard rfl run replaced
  have shown := text ⟨false, .start, []⟩ w
  rw [List.nil_append] at shown
  exact ⟨rfl, p, replaced, follows.mpr inOrder, shown⟩

/-- An applied rule before a skipped one: the line of the second rule comes first. -/
theorem report_lines_swapped :
    let _ : Chance := .always 7
    let o : Operation :=
      { target := "f.rs"
        rules := [⟨"r", some (.literal "a"), "b", []⟩, ⟨"s", some (.literal "a"), "c", "*.go"⟩] }
    let w : Workspace := ⟨⟨[(["f.rs"], .file 0o644 "a")]⟩, [], []⟩
    let result := (o.execute.run w).1.result
    let text := (((report result).run ⟨false, .start, []⟩).run w).1.2.text
    let applied : Bytes := Console.ruleLine false ⟨"r", 1, false⟩ ++ [0x0A]
    let skipped : Bytes := Console.ruleLine false ⟨"s", 0, true⟩ ++ [0x0A]
    o.check = .ok () ∧ result.replacement.isSome ∧ text = skipped ++ applied ∧
      text ≠ applied ++ skipped := by
  intro _
  decide +kernel

end CommandLine

end Retouch
