import Retouch.Proofs.Config.Validation
import Retouch.Proofs.Glob.Matching

/-! Globs that are accepted and fail.
A glob is checked when a rule file is read, and it is matched once the target has been loaded. A run
fails by its filters only if a rule has a glob that is not steady. Such a glob can pass the check
and still have a fault when it is matched. -/
namespace Retouch

namespace Rule

theorem filter_error {path : Bytes} {rules : List Rule} {e : FilterError}
    (fails : filter path rules = .error e) : ∃ r ∈ rules, r.appliesTo path = .error e := by
  induction rules with
  | nil => cases fails
  | cons r rest ih =>
    rw [filter] at fails
    split at fails
    · rename_i here
      cases fails
      exact ⟨r, List.mem_cons_self, here⟩
    · split at fails
      · rename_i later
        cases fails
        obtain ⟨s, member, there⟩ := ih later
        exact ⟨s, List.mem_cons_of_mem r member, there⟩
      · cases fails

/-- A well-formed glob that has a fault is not steady. -/
theorem appliesTo_error {path : Bytes} {r : Rule}
    (valid : r.files ≠ [] → Glob.isValid r.files = true) {e : FilterError}
    (fails : r.appliesTo path = .error e) :
    r.files ≠ [] ∧ Glob.isSteady r.files = false ∧ e = .badMatch r.name r.files := by
  by_cases written : r.files = []
  · rw [appliesTo, if_pos written] at fails
    cases fails
  · refine ⟨written, ?_, ?_⟩
    · rw [← Bool.not_eq_true]
      intro steady
      obtain ⟨b, applies⟩ :=
        (appliesTo_ok_iff written (valid written)).mpr (Glob.match?_steady steady path)
      rw [applies] at fails
      cases fails
    · rw [appliesTo, if_neg written, valid written] at fails
      simp only [Bool.not_true, Bool.false_eq_true, if_false] at fails
      split at fails
      · cases fails
        rfl
      · cases fails
      · split at fails <;> cases fails

end Rule

namespace Operation

theorem conclude_unfiltered [Chance] (o : Operation) (r : Result) (p : Replacement) (w : Workspace)
    (e : FilterError) : ((o.conclude r p).run w).1.error ≠ some (.filtering e) := by
  rcases o.conclude_cases r p w with ⟨_, ⟨names, stops⟩, _⟩ | ⟨_, stops, _⟩ | ⟨_, v, _, stores⟩
  · rw [stops]; simp
  · rw [stops]; simp
  · rw [stores]
    rcases o.store_cases r p v with
      ⟨⟨e, fails⟩, _⟩ | ⟨_, _, _, ⟨⟨e, fails⟩, _⟩ | ⟨writes, _⟩⟩
    · rw [fails]; simp
    · rw [fails]; simp
    · rw [writes]; simp

/-- A run says that its filters failed only if they did, whatever the replacer. -/
theorem filter_of_execute [Chance] {o : Operation} {w : Workspace} {e : FilterError}
    (fails : (o.execute.run w).1.error = some (.filtering e)) :
    Rule.filter o.target o.rules = .error e := by
  rcases o.execute_cases w with ⟨_, stops⟩ | ⟨_, stops, filters⟩ |
    ⟨_, _, _, _, _, _, _, ⟨_, stops⟩ | ⟨p, u, _, concludes⟩⟩
  · rw [stops] at fails
    cases fails
  · rw [stops] at fails
    cases fails
    exact filters
  · rw [stops] at fails
    cases fails
  · rw [concludes] at fails
    exact absurd fails (o.conclude_unfiltered _ p u e)

end Operation

namespace Config

/-- The rules of an accepted configuration have no other fault than a glob that is not steady. -/
theorem filter_error_validated {c : Config} {rules : List Rule} (accepted : c.validate.2 = none)
    (compiles : c.validate.1.compile = .ok rules) {path : Bytes} {e : FilterError}
    (fails : Rule.filter path rules = .error e) :
    ∃ r ∈ c.rules, r.files ≠ [] ∧ Glob.isSteady r.files = false ∧
      e = .badMatch r.name r.files := by
  obtain ⟨_, sound, _⟩ := validate_none_iff.mp accepted
  obtain ⟨rule, member, stops⟩ := Rule.filter_error fails
  obtain ⟨r, listed, name, _, files, _⟩ :=
    RuleEntry.becomes_of_mem (compile_validated_ok accepted compiles) member
  have fault := Rule.appliesTo_error (by rw [files]; exact (sound r listed).glob) stops
  rw [files, name] at fault
  exact ⟨r, listed, fault⟩

/-- If the rules of an accepted configuration cannot be filtered for a path, or a run with them
fails by its filters, then a rule has a glob that is not steady, and the fault names it. So with
steady globs there is no such fault: not for any path, content or replacer. -/
theorem execute_filtering [Chance] {c : Config} {rules : List Rule} (accepted : c.validate.2 = none)
    (compiles : c.validate.1.compile = .ok rules) :
    (∀ path e, Rule.filter path rules = .error e → ∃ r ∈ c.rules, r.files ≠ [] ∧
      Glob.isSteady r.files = false ∧ e = .badMatch r.name r.files) ∧
    (∀ o : Operation, o.rules = rules → ∀ w e, (o.execute.run w).1.error = some (.filtering e) →
      ∃ r ∈ c.rules, r.files ≠ [] ∧ Glob.isSteady r.files = false ∧
        e = .badMatch r.name r.files) ∧
    ((∀ r ∈ c.rules, r.files ≠ [] → Glob.isSteady r.files = true) →
      (∀ path, ∃ kept, Rule.filter path rules = .ok kept) ∧
      ∀ o : Operation, o.rules = rules → ∀ w e,
        (o.execute.run w).1.error ≠ some (.filtering e)) := by
  have blames (path : Bytes) (e : FilterError) (fails : Rule.filter path rules = .error e) :=
    filter_error_validated accepted compiles fails
  have runs (o : Operation) (same : o.rules = rules) (w : Workspace) (e : FilterError)
      (fails : (o.execute.run w).1.error = some (.filtering e)) :=
    blames o.target e (same ▸ Operation.filter_of_execute fails)
  refine ⟨blames, runs, fun steady => ⟨fun path => ?_, fun o same w e fails => ?_⟩⟩
  · cases filtered : Rule.filter path rules with
    | ok kept => exact ⟨kept, rfl⟩
    | error e =>
      obtain ⟨r, member, written, unsteady, _⟩ := blames path e filtered
      rw [steady r member written] at unsteady
      cases unsteady
  · obtain ⟨r, member, written, unsteady, _⟩ := runs o same w e fails
    rw [steady r member written] at unsteady
    cases unsteady

/-- Alternatives and classes beside each other are steady. -/
theorem execute_filtering_steady :
    let _ : Chance := .always 7
    let r : RuleEntry := ⟨"r", "literal", "a", "b", "**/\x7ba,b\x7d[!x-z].rs"⟩
    let c : Config := { Config.empty with rules := [r] }
    c.validate.2 = none ∧ ∃ rules, c.validate.1.compile = .ok rules ∧
      (∀ path, ∃ kept, Rule.filter path rules = .ok kept) ∧
      ∀ target w e, (({ target := target, rules := rules } : Operation).execute.run w).1.error ≠
        some (.filtering e) := by
  intro _ r c
  have accepted : c.validate.2 = none := by decide +kernel
  have steady : ∀ r ∈ c.rules, r.files ≠ [] → Glob.isSteady r.files = true := by decide +kernel
  refine ⟨accepted, ?_⟩
  rcases compiles : c.validate.1.compile with e | rules
  · have made : c.validate.1.compile.toOption.isSome = true := by decide +kernel
    rw [compiles] at made
    cases made
  · obtain ⟨_, _, never⟩ := execute_filtering accepted compiles
    obtain ⟨filters, runs⟩ := never steady
    exact ⟨rules, rfl, filters, fun target w e => runs _ rfl w e⟩

/-- A class that holds the end of a group around it passes the check. The run then fails behind the
load, as the end of the group is looked for without regard to the class. -/
theorem execute_filtering_class :
    let _ : Chance := .always 7
    let r : RuleEntry := ⟨"r", "literal", "a", "b", "\x7ba,[\x7d]\x7d"⟩
    let c : Config := { Config.empty with rules := [r] }
    let w : Workspace := ⟨⟨[(["b"], .file 0o644 "a")]⟩, [], []⟩
    c.validate.2 = none ∧ ∃ rules, c.validate.1.compile = .ok rules ∧
      Rule.filter "b" rules = .error (.badMatch "r" "\x7ba,[\x7d]\x7d") ∧
      (({ target := "b", rules := rules } : Operation).execute.run w).1.error =
        some (.filtering (.badMatch "r" "\x7ba,[\x7d]\x7d")) := by
  intro _ r c w
  have accepted : c.validate.2 = none := by decide +kernel
  have kind : Pattern.Kind.ofWritten? r.kind = some .literal := by decide +kernel
  have compiles : c.validate.1.compile = .ok [⟨"r", some (.literal "a"), "b", r.files⟩] := by
    obtain ⟨name, _, replacement, files⟩ := r.inFull_same
    rw [compile, validate_rules accepted]
    simp only [c, List.map_cons, List.map_nil, compileEntries, RuleEntry.compileNamed_inFull kind,
      name, replacement, files]
    rfl
  have fails : (({ target := "b", rules := [⟨"r", some (.literal "a"), "b", r.files⟩] } :
      Operation).execute.run w).1.error = some (.filtering (.badMatch "r" r.files)) := by
    decide +kernel
  have filters := Operation.filter_of_execute fails
  exact ⟨accepted, _, compiles, filters, fails⟩

end Config

end Retouch
