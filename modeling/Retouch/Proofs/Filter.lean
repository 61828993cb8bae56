import Retouch.CommandLine
import Retouch.Proofs.Config.Loading
import Retouch.Proofs.Operation.Execution
import Retouch.Proofs.Path
import Retouch.Proofs.Text.CodePoint

/-! Which rules a command applies.
The rules of a command are filtered for its target in full, not for the target as it is written. A
relative glob can then only match the last name. -/
namespace Retouch

namespace Glob

/-- A glob that begins with a plain character or with one for any character of a name, as no path
from the root does. -/
def isRelative : Bytes → Bool
  | [] => false
  | b :: _ => b != 0x2A && b != 0x5B && b != 0x7B && b != 0x5C && b != separator

theorem pointAt_ne_separator {b : UInt8} (rest : Bytes) (plain : b ≠ separator) :
    (pointAt (b :: rest)).value ≠ separator.toNat := by
  intro same
  rcases CodePoint.read_cases b rest with bad | ⟨tail, more, _, _, _, encoded, _⟩
  · rw [pointAt, bad] at same
    exact absurd same (by decide)
  · rw [show (CodePoint.read b rest).value = separator.toNat from same] at encoded
    exact plain (List.cons.inj encoded).1.symm

theorem stepBound_pos (glob path : Bytes) : ∃ n, stepBound glob path = n + 1 := by
  have places : 0 < (glob.length + 1) * (path.length + 1) :=
    Nat.mul_pos (Nat.succ_pos _) (Nat.succ_pos _)
  exact Nat.exists_eq_succ_of_ne_zero
    (Nat.ne_of_gt (Nat.mul_pos (Nat.pow_pos places) (Nat.succ_pos _)))

theorem step_relative {glob : Bytes} (relative : isRelative glob = true)
    (expand : Bytes → State → Except Fault Bool) (path : Bytes) :
    step expand glob (separator :: path) ⟨0, 0, true, none, none⟩ = .stuck 0 := by
  cases glob with
  | nil => cases relative
  | cons b rest =>
    simp only [isRelative, Bool.and_eq_true, bne_iff_ne] at relative
    obtain ⟨⟨⟨⟨star, bracket⟩, brace⟩, escape⟩, plain⟩ := relative
    have apart := pointAt_ne_separator rest plain
    have here : (pointAt (separator :: path)).value = separator.toNat := rfl
    by_cases any : b = 0x3F
    · simp [step, any, here]
    · simp [step, star, any, bracket, brace, escape, literalStep, here, apart]

/-- Matching a relative glob with a path from the root ends at the first byte. -/
theorem match?_relative {glob : Bytes} (relative : isRelative glob = true)
    (valid : isValid glob = true) (path : Bytes) :
    match? glob (separator :: path) = .ok false := by
  obtain ⟨n, bound⟩ := stepBound_pos glob (separator :: path)
  rw [match?, matchWithin, bound, run, step_relative relative]
  simp [retreat, valid]

end Glob

namespace Rule

variable {path : Bytes} {r : Rule}

theorem filter_ok_iff {rules : List Rule} :
    (∃ kept, filter path rules = .ok kept) ↔ ∀ r ∈ rules, ∃ b, r.appliesTo path = .ok b := by
  induction rules with
  | nil => simp [filter]
  | cons first rest ih =>
    rw [List.forall_mem_cons, ← ih, filter]
    cases first.appliesTo path with
    | error e => simp
    | ok b => cases filter path rest <;> simp

theorem mem_filter_iff {rules kept : List Rule} (filtered : filter path rules = .ok kept) :
    r ∈ kept ↔ r ∈ rules ∧ r.appliesTo path = .ok true := by
  induction rules generalizing kept with
  | nil =>
    cases filtered
    simp
  | cons first rest ih =>
    rw [filter] at filtered
    cases applies : first.appliesTo path with
    | error e => rw [applies] at filtered; cases filtered
    | ok b =>
      rw [applies] at filtered
      dsimp only at filtered
      cases others : filter path rest with
      | error e => rw [others] at filtered; cases filtered
      | ok more =>
        rw [others] at filtered
        cases filtered
        have tail := ih others
        by_cases same : r = first
        · subst same
          cases b <;> simp [applies, tail]
        · cases b <;> simp [same, tail]

section Globs

variable (written : r.files ≠ []) (valid : Glob.isValid r.files = true)
include written valid

theorem appliesTo_true_iff :
    r.appliesTo path = .ok true ↔ Glob.match? r.files path = .ok true ∨
      Glob.match? r.files path = .ok false ∧ Glob.match? r.files (Path.base path) = .ok true := by
  rw [appliesTo, if_neg written, valid]
  rcases Glob.match? r.files path with _ | _ | _
  · simp
  · rcases Glob.match? r.files (Path.base path) with _ | _ <;> simp
  · simp

theorem appliesTo_ok_iff :
    (∃ b, r.appliesTo path = .ok b) ↔ ∃ b, Glob.match? r.files path = .ok b := by
  rw [appliesTo, if_neg written, valid]
  rcases Glob.match? r.files path with _ | _ | _
  · simp
  · rcases Glob.match? r.files (Path.base path) with _ | _ <;> simp
  · simp

end Globs

theorem isValid_of_appliesTo {b : Bool} (applies : r.appliesTo path = .ok b)
    (written : r.files ≠ []) : Glob.isValid r.files = true := by
  rw [appliesTo, if_neg written] at applies
  split at applies
  · cases applies
  · rename_i valid
    simpa using valid

/-- What it takes that a rule for a target as written is one for the target in full: a relative glob
has to match the last name, any other one that or the whole. -/
def KeptInFull (target full : Bytes) (r : Rule) : Prop :=
  if Glob.isRelative r.files then
    r.appliesTo target = .ok true → Glob.match? r.files (Path.base full) = .ok true
  else ∃ whole, Glob.match? r.files full = .ok whole ∧ (r.appliesTo target = .ok true →
    whole = true ∨ Glob.match? r.files (Path.base full) = .ok true)

theorem keptInFull_iff {target rest : Bytes} (written : r.files ≠ [])
    (valid : Glob.isValid r.files = true) :
    r.KeptInFull target (Path.slash :: rest) ↔
      (∃ b, r.appliesTo (Path.slash :: rest) = .ok b) ∧
      (r.appliesTo target = .ok true → r.appliesTo (Path.slash :: rest) = .ok true) := by
  have fits : r.appliesTo (Path.slash :: rest) = .ok true ↔ _ := appliesTo_true_iff written valid
  rw [KeptInFull, appliesTo_ok_iff written valid, fits]
  split
  · rename_i relative
    rw [show Path.slash = Glob.separator from rfl, Glob.match?_relative relative valid rest]
    simp
  · rcases Glob.match? r.files (Path.slash :: rest) with _ | _ | _ <;> simp

theorem filter_full_iff {target rest : Bytes} {rules kept : List Rule}
    (filtered : filter target rules = .ok kept) :
    (∃ kept', filter (Path.slash :: rest) rules = .ok kept' ∧ ∀ r ∈ kept, r ∈ kept') ↔
      ∀ r ∈ rules, r.files ≠ [] → r.KeptInFull target (Path.slash :: rest) := by
  have applied := filter_ok_iff.mp ⟨kept, filtered⟩
  constructor
  · rintro ⟨kept', full, sub⟩ r member written
    obtain ⟨b, applies⟩ := applied r member
    rw [keptInFull_iff written (isValid_of_appliesTo applies written)]
    refine ⟨filter_ok_iff.mp ⟨kept', full⟩ r member, fun fits => ?_⟩
    exact ((mem_filter_iff full).mp (sub r ((mem_filter_iff filtered).mpr ⟨member, fits⟩))).2
  · intro survive
    have each : ∀ r ∈ rules, (∃ b, r.appliesTo (Path.slash :: rest) = .ok b) ∧
        (r.appliesTo target = .ok true → r.appliesTo (Path.slash :: rest) = .ok true) := by
      intro r member
      by_cases written : r.files = []
      · have always : r.appliesTo (Path.slash :: rest) = .ok true := by
          rw [appliesTo, if_pos written]
        exact ⟨⟨true, always⟩, fun _ => always⟩
      · obtain ⟨b, applies⟩ := applied r member
        exact (keptInFull_iff written (isValid_of_appliesTo applies written)).mp
          (survive r member written)
    obtain ⟨kept', full⟩ := filter_ok_iff.mpr fun r member => (each r member).1
    refine ⟨kept', full, fun r member => ?_⟩
    obtain ⟨listed, fits⟩ := (mem_filter_iff filtered).mp member
    exact (mem_filter_iff full).mpr ⟨listed, (each r listed).2 fits⟩

end Rule

theorem Operation.Ran.replacement {o : Operation} {w w' : Workspace} {out : Outcome}
    (ran : o.Ran w out w') {p : Replacement} (replaced : out.result.replacement = some p) :
    ∃ kept content, Rule.filter o.target o.rules = .ok kept ∧ p = replaceAll kept content := by
  cases ran with
  | unloaded => cases replaced
  | unfiltered => cases replaced
  | unmatched prepared | dry prepared | unsaved prepared | unwritten prepared | written prepared =>
    cases replaced
    exact ⟨_, _, prepared.filtered, rfl⟩

namespace CommandLine

theorem configured_kept (s : Settings) (w : Workspace) :
    Kept w ((configured s).run.run w).2 := by
  rw [configured]
  split
  · exact (Config.run_load s.config w).2
  · dsimp only
    split <;> exact ⟨rfl, rfl⟩

def targetOf (i : Invocation) (c : Config) : Bytes := if i.target = [] then c.target else i.target

theorem operationOf_ok {s : Settings} {c : Config} {target : Bytes} {o : Operation}
    (made : operationOf s c target = .ok o) : o.target = target ∧ o.replacer = .standard := by
  unfold operationOf at made
  cases rules : c.compile with
  | error e => rw [rules] at made; cases made
  | ok compiled =>
    rw [rules] at made
    dsimp only [Except.mapError, bind, Except.bind] at made
    split at made
    · cases made
    · cases made
      exact ⟨rfl, rfl⟩

theorem planned_eq (i : Invocation) : planned i = do
    let c ← configured i.settings
    if targetOf i c = [] then throw .noTarget
    match operationOf i.settings c
        (Path.absolute (Location.path (← get).cwd) (targetOf i c)) with
    | .error e => throw e
    | .ok o => return (c, o) := rfl

theorem planned_ok {i : Invocation} {w w' : Workspace} {c : Config} {o : Operation}
    (plans : (planned i).run.run w = (.ok (c, o), w')) :
    targetOf i c ≠ [] ∧ o.target = Path.absolute (Location.path w.cwd) (targetOf i c) ∧
      o.replacer = .standard := by
  have kept := configured_kept i.settings w
  rw [planned_eq, run_bind] at plans
  rcases configures : (configured i.settings).run.run w with ⟨_ | c', v⟩ <;>
    rw [configures] at plans kept
  · cases plans
  · dsimp only at plans kept
    split at plans
    · cases plans
    · rename_i named
      rw [run_get_bind] at plans
      split at plans
      · cases plans
      · rename_i made
        cases plans
        rw [kept.cwd] at made
        exact ⟨named, operationOf_ok made⟩

/-- All rules for the target as it was given are among those that a command keeps exactly if each
rule with a glob is for the target in full too: a relative glob has to match the last name, any
other one has to match that or the whole path. The last name is the one that was given, unless that
is a step to another directory. The rules that are kept are the ones that are applied. -/
theorem planned_filter [Chance] {i : Invocation} {w w' : Workspace} {c : Config} {o : Operation}
    {kept : List Rule} (plans : (planned i).run.run w = (.ok (c, o), w'))
    (filtered : Rule.filter (targetOf i c) o.rules = .ok kept) :
    ((∃ kept', Rule.filter o.target o.rules = .ok kept' ∧ ∀ r ∈ kept, r ∈ kept') ↔
      ∀ r ∈ o.rules, r.files ≠ [] → r.KeptInFull (targetOf i c) o.target) ∧
    (Path.base (targetOf i c) ≠ "." → Path.base (targetOf i c) ≠ ".." →
      Path.base o.target = Path.base (targetOf i c)) ∧
    ∀ v p, (o.execute.run v).1.result.replacement = some p → ∃ kept' content,
      Rule.filter o.target o.rules = .ok kept' ∧ p = replaceAll kept' content := by
  obtain ⟨named, target, standard⟩ := planned_ok plans
  have rooted : Path.isAbsolute (Location.path w.cwd) = true := rfl
  refine ⟨?_, fun here up => ?_, fun v p replaced => ?_⟩
  · obtain ⟨rest, full⟩ := Path.absolute_eq_cons rooted (targetOf i c)
    rw [target, full]
    exact Rule.filter_full_iff filtered
  · rw [target]
    exact Path.base_absolute rooted named here up
  · exact (o.execute_ran standard v).replacement replaced

theorem planned_single {i : Invocation} {w : Workspace} {target glob : Bytes}
    (evaluated : (((planned i).run.run w).1.toOption.any fun x =>
      targetOf i x.1 == target && x.2.rules.map (·.files) == [glob]) = true) :
    ∃ c o w' r, (planned i).run.run w = (.ok (c, o), w') ∧ targetOf i c = target ∧
      o.rules = [r] ∧ r.files = glob := by
  rcases plans : (planned i).run.run w with ⟨_ | ⟨c, o⟩, w'⟩ <;> rw [plans] at evaluated
  · cases evaluated
  · simp only [Except.toOption, Option.any_some, Bool.and_eq_true, beq_iff_eq] at evaluated
    obtain ⟨given, globs⟩ := evaluated
    obtain ⟨r, listed, glob⟩ := List.map_eq_singleton_iff.mp globs
    exact ⟨c, o, w', r, rfl, given, listed, glob⟩

/-- A rule for files with a name stays. -/
theorem planned_filter_name :
    let rules := Preset.ofLines ["target: src/a.rs", "rules:", "- name: r", "  kind: literal",
      "  match: x", "  replace: y", "  files: a.*", ""]
    let w : Workspace := ⟨⟨[(["w"], .directory), (["w", "rules.yaml"], .file 0o644 rules),
      (["w", "src"], .directory), (["w", "src", "a.rs"], .file 0o644 "x")]⟩, ["w"], []⟩
    let i : Invocation := ⟨.transform, { Settings.initial with config := "rules.yaml" }, []⟩
    ∃ c o w' r, (planned i).run.run w = (.ok (c, o), w') ∧ o.rules = [r] ∧
      Rule.filter (targetOf i c) o.rules = .ok [r] ∧
      ∃ kept, Rule.filter o.target o.rules = .ok kept ∧ r ∈ kept := by
  intro rules w i
  let _ : Chance := .always 7
  obtain ⟨c, o, w', r, plans, given, listed, glob⟩ :=
    @planned_single i w "src/a.rs" "a.*" (by decide +kernel)
  have written : r.files ≠ [] := by rw [glob]; decide
  have last : Glob.match? r.files (Path.base (targetOf i c)) = .ok true := by
    rw [glob, given]
    exact eq_ok_of_toOption (by decide +kernel)
  have fits : r.appliesTo (targetOf i c) = .ok true := by
    rw [Rule.appliesTo_true_iff written (by rw [glob]; decide +kernel)]
    refine .inr ⟨?_, last⟩
    rw [glob, given]
    exact eq_ok_of_toOption (by decide +kernel)
  have filtered : Rule.filter (targetOf i c) o.rules = .ok [r] := by
    rw [listed, Rule.filter, fits]
    rfl
  obtain ⟨exactly, base, _⟩ := planned_filter plans filtered
  have same : Path.base o.target = Path.base (targetOf i c) :=
    base (by rw [given]; decide +kernel) (by rw [given]; decide +kernel)
  obtain ⟨kept, keeps, all⟩ := exactly.mpr (by
    intro s member _
    rw [listed, List.mem_singleton] at member
    rw [member, Rule.KeptInFull, glob, if_pos (by decide), same, ← glob]
    exact fun _ => last)
  exact ⟨c, o, w', r, plans, listed, filtered, kept, keeps, all r List.mem_cons_self⟩

/-- A rule for the files of a directory is left out, though the target lies there. -/
theorem planned_filter_lost :
    let rules := Preset.ofLines ["target: src/a.rs", "rules:", "- name: r", "  kind: literal",
      "  match: x", "  replace: y", "  files: src/*.rs", ""]
    let w : Workspace := ⟨⟨[(["w"], .directory), (["w", "rules.yaml"], .file 0o644 rules),
      (["w", "src"], .directory), (["w", "src", "a.rs"], .file 0o644 "x")]⟩, ["w"], []⟩
    let i : Invocation := ⟨.transform, { Settings.initial with config := "rules.yaml" }, []⟩
    ∃ c o w' r, (planned i).run.run w = (.ok (c, o), w') ∧
      Rule.filter (targetOf i c) o.rules = .ok [r] ∧
      ¬ ∃ kept, Rule.filter o.target o.rules = .ok kept ∧ r ∈ kept := by
  intro rules w i
  obtain ⟨c, o, w', r, plans, given, listed, glob⟩ :=
    @planned_single i w "src/a.rs" "src/*.rs" (by decide +kernel)
  obtain ⟨_, target, _⟩ := planned_ok plans
  have full : o.target = "/w/src/a.rs" := by
    rw [target, given]
    decide +kernel
  have written : r.files ≠ [] := by rw [glob]; decide
  have valid : Glob.isValid r.files = true := by rw [glob]; decide +kernel
  have fits : r.appliesTo (targetOf i c) = .ok true := by
    rw [Rule.appliesTo_true_iff written valid, glob, given]
    exact .inl (eq_ok_of_toOption (by decide +kernel))
  refine ⟨c, o, w', r, plans, ?_, ?_⟩
  · rw [listed, Rule.filter, fits]
    rfl
  · rintro ⟨kept, keeps, member⟩
    obtain ⟨_, applies⟩ := (Rule.mem_filter_iff keeps).mp member
    rw [Rule.appliesTo_true_iff written valid, glob, full] at applies
    rcases applies with whole | ⟨_, last⟩
    · exact absurd (congrArg Except.toOption whole) (by decide +kernel)
    · exact absurd (congrArg Except.toOption last) (by decide +kernel)

end CommandLine

end Retouch
