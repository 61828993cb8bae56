import Retouch.Proofs.Filter
import Retouch.Proofs.Operation.Joined

/-! Every rule is accounted for.
The skipped rules are found again from their names, once the others are known. As no two rules share
a name, what is skipped and what is applied divide the rules between them. -/
namespace Retouch

theorem applyAll_names (rules : List Rule) (content : Bytes) :
    (applyAll rules content).2.map (·.name) = rules.map (·.name) := by
  induction rules generalizing content with
  | nil => rfl
  | cons r rest ih => exact congrArg (r.name :: ·) (ih (r.apply content).1)

namespace Rule

variable {path : Bytes} {r : Rule}

theorem fits_iff : r.fits path = true ↔ r.appliesTo path = .ok true := by
  unfold fits
  cases r.appliesTo path <;> simp

/-- A rule of which it can be told whether it is for a path is not for it exactly if it has a glob
that matches neither the path nor the last name. -/
theorem not_fits_iff (told : ∃ b, r.appliesTo path = .ok b) :
    r.fits path = false ↔ r.files ≠ [] ∧ Glob.match? r.files path ≠ .ok true ∧
      Glob.match? r.files (Path.base path) ≠ .ok true := by
  rw [← Bool.not_eq_true, fits_iff]
  by_cases written : r.files = []
  · simp [appliesTo, written]
  · obtain ⟨b, applies⟩ := told
    have valid := isValid_of_appliesTo applies written
    obtain ⟨whole, answers⟩ := (appliesTo_ok_iff written valid).mp ⟨b, applies⟩
    rw [appliesTo_true_iff written valid, answers]
    cases whole <;> simp [written]

end Rule

theorem count_map_filter {α β : Type} [BEq β] [LawfulBEq β] {f : α → β} {l : List α}
    (distinct : (l.map f).Nodup) (p : α → Bool) {a : α} (member : a ∈ l) :
    ((l.filter p).map f).count (f a) = if p a then 1 else 0 := by
  rw [(distinct.sublist (List.filter_sublist.map f)).count]
  congr 1
  rw [List.mem_map, eq_iff_iff]
  constructor
  · rintro ⟨b, inside, same⟩
    obtain ⟨listed, holds⟩ := List.mem_filter.mp inside
    rwa [← List.inj_on_of_nodup_map distinct listed member same]
  · intro holds
    exact ⟨a, List.mem_filter.mpr ⟨member, holds⟩, rfl⟩

namespace Operation

theorem Ran.transformed {o : Operation} {w w' : Workspace} {out : Outcome} (ran : o.Ran w out w')
    (reached : out.result.stage = .transformed ∨ out.result.stage = .written) :
    ∃ kept content, Rule.filter o.target o.rules = .ok kept ∧
      out.result.replacement = some (replaceAll kept content) ∧
      out.result.skipped = skippedNames o.rules kept := by
  cases ran with
  | unloaded | unfiltered => simp [Result.fresh] at reached
  | unmatched prepared | dry prepared | unsaved prepared | unwritten prepared | written prepared =>
    exact ⟨_, _, prepared.filtered, rfl, rfl⟩

/-- Once the rules have been applied, the name of each rule is in exactly one of two lists, and once
there: that of the skipped rules and that of the applied ones. Both are in the order of the rules. A
rule is skipped exactly if it has a glob that matches neither the target nor its last name, and no
skipped rule is among those that matched nothing. -/
theorem execute_accounts [Chance] {o : Operation} (standard : o.replacer = .standard)
    (accepted : o.check = .ok ()) {w w' : Workspace} {out : Outcome}
    (run : o.execute.run w = (out, w'))
    (reached : out.result.stage = .transformed ∨ out.result.stage = .written) :
    ∃ p, out.result.replacement = some p ∧
      (∀ r ∈ o.rules,
        (out.result.skipped.count r.name = 1 ∧ (p.rules.map (·.name)).count r.name = 0) ∨
        (out.result.skipped.count r.name = 0 ∧ (p.rules.map (·.name)).count r.name = 1)) ∧
      out.result.skipped.Sublist (o.rules.map (·.name)) ∧
      (p.rules.map (·.name)).Sublist (o.rules.map (·.name)) ∧
      (∀ r ∈ o.rules, r.name ∈ out.result.skipped ↔ r.files ≠ [] ∧
        Glob.match? r.files o.target ≠ .ok true ∧
        Glob.match? r.files (Path.base o.target) ≠ .ok true) ∧
      ∀ name ∈ p.unmatched, name ∉ out.result.skipped := by
  have valid := ((check_ok_iff standard).mp accepted).2
  have distinct := (Rule.validate_ok_iff.mp valid).2
  have ran := o.execute_ran standard w
  rw [run] at ran
  obtain ⟨kept, content, filtered, replaced, skipped⟩ := ran.transformed reached
  rw [skippedNames_eq distinct filtered] at skipped
  have applied : (replaceAll kept content).rules.map (·.name) =
      (o.rules.filter (Rule.fits o.target)).map (·.name) := by
    rw [← Rule.filter_eq filtered]
    exact applyAll_names kept content
  have aside {r : Rule} (member : r ∈ o.rules) :=
    count_map_filter distinct (fun s => !s.fits o.target) member
  have inside {r : Rule} (member : r ∈ o.rules) :=
    count_map_filter distinct (Rule.fits o.target) member
  have member_skipped {r : Rule} (member : r ∈ o.rules) :
      r.name ∈ out.result.skipped ↔ r.fits o.target = false := by
    rw [skipped, ← List.one_le_count_iff, aside member]
    cases r.fits o.target <;> simp
  refine ⟨_, replaced, fun r member => ?_, ?_, ?_, fun r member => ?_,
    fun name unmatched again => ?_⟩
  · rw [applied, skipped, aside member, inside member]
    cases r.fits o.target <;> simp
  · rw [skipped]
    exact List.filter_sublist.map _
  · rw [applied]
    exact List.filter_sublist.map _
  · rw [member_skipped member]
    exact Rule.not_fits_iff (Rule.filter_ok_iff.mp ⟨kept, filtered⟩ r member)
  · -- a rule that matched nothing was applied, so it fits the target
    have listed : name ∈ (replaceAll kept content).rules.map (·.name) :=
      List.map_subset _ (List.filter_subset_self _) unmatched
    rw [applied] at listed
    obtain ⟨r, fitting, rfl⟩ := List.mem_map.mp listed
    obtain ⟨listed, fits⟩ := List.mem_filter.mp fitting
    rw [(member_skipped listed).mp again] at fits
    cases fits

/-- One rule is for other files, one matches and one does not. -/
theorem execute_accounts_three :
    let _ : Chance := .always 7
    let o : Operation :=
      { target := "src/f.rs"
        rules := [⟨"r", some (.literal "a"), "b", "*.go"⟩, ⟨"s", some (.literal "a"), "c", "f.*"⟩,
          ⟨"t", some (.literal "x"), "y", []⟩] }
    let w : Workspace := ⟨⟨[(["src"], .directory), (["src", "f.rs"], .file 0o644 "a")]⟩, [], []⟩
    o.check = .ok () ∧ (o.execute.run w).1.result.stage = .written ∧
      (o.execute.run w).1.result.skipped = ["r"] ∧
      ∃ p, (o.execute.run w).1.result.replacement = some p ∧
        (p.rules.map (·.name)).count ("s" : Bytes) = 1 ∧ ("r" : Bytes) ∉ p.unmatched := by
  intro _ o w
  have written : (o.execute.run w).1.result.stage = .written := by decide +kernel
  have skipped : (o.execute.run w).1.result.skipped = ["r"] := by decide +kernel
  obtain ⟨p, replaced, once, _, _, _, apart⟩ :=
    execute_accounts rfl rfl (Prod.eta (o.execute.run w)).symm (.inr written)
  refine ⟨rfl, written, skipped, p, replaced, ?_, fun unmatched => ?_⟩
  · rcases once ⟨"s", some (.literal "a"), "c", "f.*"⟩ (by simp [o]) with ⟨twice, _⟩ | ⟨_, applied⟩
    · rw [skipped] at twice
      exact absurd twice (by decide)
    · exact applied
  · exact apart _ unmatched (by rw [skipped]; decide)

end Operation

end Retouch
