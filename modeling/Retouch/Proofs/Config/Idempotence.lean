import Retouch.Proofs.Config.Validation
import Retouch.Proofs.Path.Clean

/-! Checking a configuration again.
A check writes while it still reads: the rules before the first fault have their kinds in full, and
so has the rule with the fault where its glob is to blame. The second check takes the same way
through what the first one left. -/
namespace Retouch

namespace RuleEntry

theorem inFull_inFull (r : RuleEntry) : r.inFull.inFull = r.inFull := by
  cases kind : Pattern.Kind.ofWritten? r.kind with
  | none => simp only [inFull, kind]
  | some k =>
    have again := r.ofWritten?_inFull.trans kind
    rw [inFull_eq again, inFull_eq kind]

theorem Sound.inFull {r : RuleEntry} (sound : r.Sound) : r.inFull.Sound := by
  obtain ⟨k, kind⟩ := sound.ofWritten?
  have known : Pattern.Kind.ofWritten? r.inFull.kind ≠ none := by
    rw [r.ofWritten?_inFull, kind]
    exact Option.some_ne_none k
  obtain ⟨name, search, _, files⟩ := r.inFull_same
  constructor
  · rw [name]
    exact sound.named
  · rw [search]
    exact sound.searching
  · exact Pattern.Kind.ofName?_ne_none_iff.mp known
  · rw [files]
    exact sound.glob

end RuleEntry

namespace Config

theorem validateEntries_twice (index : Nat) (seen : List Bytes) (rules : List RuleEntry) :
    validateEntries index seen (validateEntries index seen rules).1 =
      validateEntries index seen rules := by
  induction rules generalizing index seen with
  | nil => rfl
  | cons r rest ih =>
    by_cases good : r.Sound ∧ r.name ∉ seen
    · have name := r.inFull_same.1
      have good' : r.inFull.Sound ∧ r.inFull.name ∉ seen :=
        ⟨good.1.inFull, by rw [name]; exact good.2⟩
      rw [validateEntries_good good, validateEntries_good good', name, ih, r.inFull_inFull]
    · obtain ⟨r', e, _, _, refused⟩ := validateEntries_refused index good
      obtain ⟨first, second⟩ := refused rest
      rw [first, second]

/-- The first fault divides the rules: those before it are in full, those behind it as they were. -/
theorem validateEntries_fault {index : Nat} {seen : List Bytes} {rules : List RuleEntry} {e : Error}
    (fails : (validateEntries index seen rules).2 = some e) :
    ∃ before r after r', rules = before ++ r :: after ∧
      ((∀ s ∈ before, s.Sound ∧ s.name ∉ seen) ∧ (before.map (·.name)).Nodup) ∧
      ¬(r.Sound ∧ r.name ∉ seen ∧ r.name ∉ before.map (·.name)) ∧
      e.About (index + before.length) r ∧ Left r r' e ∧
      (validateEntries index seen rules).1 = before.map RuleEntry.inFull ++ r' :: after := by
  induction rules generalizing index seen with
  | nil => cases fails
  | cons first rest ih =>
    by_cases good : first.Sound ∧ first.name ∉ seen
    · rw [validateEntries_good good] at fails ⊢
      obtain ⟨before, r, after, r', rfl, ⟨sound, distinct⟩, bad, about, left, written⟩ := ih fails
      obtain ⟨sound, fresh⟩ := apart_cons_iff.mp sound
      refine ⟨first :: before, r, after, r', rfl, ⟨?_, ?_⟩, ?_, ?_, left, ?_⟩
      · rw [List.forall_mem_cons]
        exact ⟨good, sound⟩
      · rw [List.map_cons, List.nodup_cons]
        exact ⟨fresh, distinct⟩
      · rintro ⟨sound, unseen, other⟩
        rw [List.map_cons, List.mem_cons, not_or] at other
        refine bad ⟨sound, ?_, other.2⟩
        rw [List.mem_cons, not_or]
        exact ⟨other.1, unseen⟩
      · rwa [List.length_cons, Nat.add_comm before.length, ← Nat.add_assoc]
      · rw [written]
        rfl
    · obtain ⟨r', e', about, left, refused⟩ := validateEntries_refused index good
      rw [(refused rest).1] at fails ⊢
      cases fails
      refine ⟨[], first, rest, r', rfl, ⟨by simp, List.nodup_nil⟩, ?_, about, left, rfl⟩
      exact fun sound => good ⟨sound.1, sound.2.1⟩

theorem validateEntries_ne_nil {index : Nat} {seen : List Bytes} {rules : List RuleEntry}
    (some : rules ≠ []) : (validateEntries index seen rules).1 ≠ [] := by
  obtain ⟨r, rest, rfl⟩ := List.exists_cons_of_ne_nil some
  by_cases good : r.Sound ∧ r.name ∉ seen
  · rw [validateEntries_good good]
    exact List.cons_ne_nil _ _
  · obtain ⟨r', e, _, _, refused⟩ := validateEntries_refused index good
    rw [(refused rest).1]
    exact List.cons_ne_nil _ _

/-- A second check finds the same as the first one and changes nothing more.
After a check without a fault only the kinds are in full and a target that was given is clean.
A fault leaves the target alone. If there are rules, it belongs to the first one that is not sound
or repeats a name: the kinds before that rule are in full, the rules behind it are as they were, and
its own kind is in full only if its glob is to blame. -/
theorem validate_twice (c : Config) :
    c.validate.1.validate = c.validate ∧
    (c.validate.2 = none → c.validate.1 =
      { c with
        rules := c.rules.map RuleEntry.inFull
        target := if c.target = [] then [] else Path.clean c.target }) ∧
    (∀ e, c.validate.2 = some e →
      (c.rules = [] ∧ e = .noRules ∧ c.validate.1 = c) ∨
      ∃ before r after r', c.rules = before ++ r :: after ∧
        ((∀ s ∈ before, s.Sound) ∧ (before.map (·.name)).Nodup) ∧
        ¬(r.Sound ∧ r.name ∉ before.map (·.name)) ∧ e.About before.length r ∧
        c.validate.1 = { c with rules := before.map RuleEntry.inFull ++ r' :: after } ∧
        (r' = r ∨ r' = r.inFull ∧ e = .invalidGlob r.name r.files)) := by
  by_cases empty : c.rules = []
  · have refused : c.validate = (c, some .noRules) := by rw [validate, if_pos empty]
    rw [refused]
    refine ⟨refused, fun none => (by cases none), fun e fails => .inl ⟨empty, ?_, rfl⟩⟩
    exact (Option.some.inj fails).symm
  have checked := validate_eq empty
  refine ⟨?_, validate_accepted, ?_⟩
  · have again := validateEntries_twice 0 [] c.rules
    rw [checked, validate_eq (validateEntries_ne_nil empty), again]
    cases fault : (validateEntries 0 [] c.rules).2 with
    | some e => rfl
    | none =>
      by_cases unset : c.target = []
      · simp [unset]
      · simp [unset, Path.clean_ne_nil, Path.clean_clean]
  · intro e fails
    rw [checked] at fails ⊢
    dsimp only at fails ⊢
    obtain ⟨before, r, after, r', rules, ⟨sound, distinct⟩, bad, about, left, written⟩ :=
      validateEntries_fault fails
    rw [Nat.zero_add] at about
    refine .inr ⟨before, r, after, r', rules, ⟨fun s member => (sound s member).1, distinct⟩, ?_,
      about, ?_, left⟩
    · exact fun good => bad ⟨good.1, List.not_mem_nil, good.2⟩
    · rw [written, fails]
      rfl

/-- The first rule is in full, the second one as well for its glob, and the third one is not read.
-/
theorem validate_twice_glob :
    let c : Config := ⟨"a/../b", true, [], false, [⟨"r", " Literal ", "x", "y", []⟩,
      ⟨"s", "REGEXP", "x", "y", "["⟩, ⟨"t", "LITERAL", "x", "y", []⟩], []⟩
    let left : Config := ⟨"a/../b", true, [], false, [⟨"r", "literal", "x", "y", []⟩,
      ⟨"s", "regexp", "x", "y", "["⟩, ⟨"t", "LITERAL", "x", "y", []⟩], []⟩
    c.validate = (left, some (.invalidGlob "s" "[")) ∧
      left.validate = (left, some (.invalidGlob "s" "[")) := by
  intro c left
  have first : c.validate = (left, some (.invalidGlob "s" "[")) := by decide +kernel
  have again := (validate_twice c).1
  rw [first] at again
  exact ⟨first, again⟩

end Config

end Retouch
