import Retouch.Proofs.CommandLine.Report

/-! Rules are checked three times: when a rule file is read, when their patterns are made, and when
an operation is made of them. What passes the first check can fail the second only by its pattern,
and never fails the third. -/
namespace Retouch

namespace Pattern

theorem Kind.ofName?_name (k : Kind) : Kind.ofName? (Bytes.ofString k.name) = some k := by
  cases k <;> rfl

theorem Kind.ofWritten?_name (k : Kind) : ofWritten? (Bytes.ofString k.name) = some k := by
  cases k <;> decide

theorem Kind.ofName?_ne_none_iff {name : Bytes} :
    Kind.ofName? name ≠ none ↔
      name = [] ∨ name = "whitespace" ∨ name = "regexp" ∨ name = "literal" := by
  unfold Kind.ofName?
  split
  · simp_all
  · rename_i written
    rw [← Option.isSome_iff_ne_none, List.find?_isSome]
    simp only [List.mem_cons, List.not_mem_nil, or_false, exists_eq_or_imp, exists_eq_left,
      beq_iff_eq, Kind.name, written, false_or]
    exact or_congr eq_comm (or_congr eq_comm eq_comm)

/-- A source that is not empty is refused for what it says. -/
theorem compile_error {kind : Kind} {source : Bytes} (written : source ≠ []) {cause : Error}
    (fails : compile kind source = .error cause) :
    (∀ name, cause ≠ .unknownKind name) ∧ cause ≠ .emptyExpression ∧ cause ≠ .emptyLiteral := by
  cases kind with
  | whitespace =>
    simp only [compile, ofTemplate] at fails
    split at fails
    · cases fails
      simp
    · split at fails <;> cases fails
      simp
  | regexp =>
    simp only [compile, ofExpression, if_neg written] at fails
    split at fails <;> cases fails
    simp
  | literal =>
    simp only [compile, ofLiteral, if_neg written] at fails
    cases fails

end Pattern

namespace RuleEntry

/-- What a rule file has to say of a rule. -/
structure Sound (r : RuleEntry) : Prop where
  named : r.name ≠ []
  searching : r.search ≠ []
  kind : (r.kind.trimBlanks.lowered = [] ∨ r.kind.trimBlanks.lowered = "whitespace" ∨
    r.kind.trimBlanks.lowered = "regexp" ∨ r.kind.trimBlanks.lowered = "literal")
  glob : r.files ≠ [] → Glob.isValid r.files = true

theorem Sound.ofWritten? {r : RuleEntry} (sound : r.Sound) :
    ∃ k, Pattern.Kind.ofWritten? r.kind = some k :=
  Option.ne_none_iff_exists'.mp (Pattern.Kind.ofName?_ne_none_iff.mpr sound.kind)

def inFull (r : RuleEntry) : RuleEntry :=
  match Pattern.Kind.ofWritten? r.kind with
  | some k => { r with kind := Bytes.ofString k.name }
  | none => r

theorem inFull_eq {r : RuleEntry} {k : Pattern.Kind}
    (kind : Pattern.Kind.ofWritten? r.kind = some k) :
    r.inFull = { r with kind := Bytes.ofString k.name } := by
  simp only [inFull, kind]

theorem ofWritten?_inFull (r : RuleEntry) :
    Pattern.Kind.ofWritten? r.inFull.kind = Pattern.Kind.ofWritten? r.kind := by
  cases kind : Pattern.Kind.ofWritten? r.kind with
  | none => simp only [inFull, kind]
  | some k =>
    rw [inFull_eq kind]
    exact Pattern.Kind.ofWritten?_name k

theorem compileNamed_inFull {r : RuleEntry} {k : Pattern.Kind}
    (kind : Pattern.Kind.ofWritten? r.kind = some k) :
    Pattern.compileNamed r.inFull.kind r.inFull.search = Pattern.compile k r.search := by
  simp only [inFull, kind, Pattern.compileNamed, Pattern.Kind.ofName?_name]

def Becomes (r : RuleEntry) (rule : Rule) : Prop :=
  rule.name = r.name ∧ rule.replacement = r.replacement ∧ rule.files = r.files ∧
    ∃ k p, Pattern.Kind.ofWritten? r.kind = some k ∧ Pattern.compile k r.search = .ok p ∧
      rule.pattern = some p

theorem becomes_of_mem {written : List RuleEntry} {rules : List Rule}
    (paired : List.Forall₂ Becomes written rules) {rule : Rule} (member : rule ∈ rules) :
    ∃ r ∈ written, r.Becomes rule := by
  induction paired with
  | nil => cases member
  | cons head _ ih =>
    rcases List.mem_cons.mp member with rfl | later
    · exact ⟨_, List.mem_cons_self, head⟩
    · obtain ⟨r, listed, becomes⟩ := ih later
      exact ⟨r, List.mem_cons_of_mem _ listed, becomes⟩

theorem inFull_same (r : RuleEntry) : r.inFull.name = r.name ∧ r.inFull.search = r.search ∧
    r.inFull.replacement = r.replacement ∧ r.inFull.files = r.files := by
  unfold inFull
  split <;> exact ⟨rfl, rfl, rfl, rfl⟩

end RuleEntry

namespace Config

theorem apart_cons_iff {P : RuleEntry → Prop} {seen : List Bytes} {r : RuleEntry}
    {rest : List RuleEntry} :
    (∀ s ∈ rest, P s ∧ s.name ∉ r.name :: seen) ↔
      (∀ s ∈ rest, P s ∧ s.name ∉ seen) ∧ r.name ∉ rest.map (·.name) := by
  simp only [List.mem_cons, not_or, List.mem_map, not_exists, not_and]
  constructor
  · intro all
    exact ⟨fun s member => ⟨(all s member).1, (all s member).2.2⟩,
      fun s member => (all s member).2.1⟩
  · rintro ⟨all, other⟩ s member
    exact ⟨(all s member).1, other s member, (all s member).2⟩

theorem validateEntries_cons (index : Nat) (seen : List Bytes) (r : RuleEntry)
    (rest : List RuleEntry) : validateEntries index seen (r :: rest) =
      if r.name = [] then (r :: rest, some (.unnamed index))
      else if r.name ∈ seen then (r :: rest, some (.duplicate index r.name))
      else if r.search = [] then (r :: rest, some (.noSearch r.name))
      else match Pattern.Kind.ofWritten? r.kind with
        | none => (r :: rest, some (.unknownKind r.name r.kind))
        | some k =>
          if r.files ≠ [] && !Glob.isValid r.files then
            ({ r with kind := Bytes.ofString k.name } :: rest, some (.invalidGlob r.name r.files))
          else
            ({ r with kind := Bytes.ofString k.name } ::
              (validateEntries (index + 1) (r.name :: seen) rest).1,
              (validateEntries (index + 1) (r.name :: seen) rest).2) := rfl

/-- A sound rule with a name of its own is written in full, and the others are checked behind it. -/
theorem validateEntries_good {index : Nat} {seen : List Bytes} {r : RuleEntry}
    (good : r.Sound ∧ r.name ∉ seen) (rest : List RuleEntry) :
    validateEntries index seen (r :: rest) =
      (r.inFull :: (validateEntries (index + 1) (r.name :: seen) rest).1,
        (validateEntries (index + 1) (r.name :: seen) rest).2) := by
  obtain ⟨sound, unseen⟩ := good
  obtain ⟨k, kind⟩ := sound.ofWritten?
  have valid : ¬(r.files ≠ [] && !Glob.isValid r.files) = true := by simpa using sound.glob
  rw [validateEntries_cons, if_neg sound.named, if_neg unseen, if_neg sound.searching, kind]
  dsimp only
  rw [if_neg valid, RuleEntry.inFull_eq kind]

/-- The faults that a rule with an index can be refused for. -/
def Error.About (index : Nat) (r : RuleEntry) (e : Error) : Prop :=
  e = .unnamed index ∨ e = .duplicate index r.name ∨ e = .noSearch r.name ∨
    e = .unknownKind r.name r.kind ∨ e = .invalidGlob r.name r.files

def Left (r r' : RuleEntry) (e : Error) : Prop :=
  r' = r ∨ r' = r.inFull ∧ e = .invalidGlob r.name r.files

/-- Any other rule is refused, and again when what is left of it is checked. -/
theorem validateEntries_refused (index : Nat) {seen : List Bytes} {r : RuleEntry}
    (bad : ¬(r.Sound ∧ r.name ∉ seen)) :
    ∃ r' e, e.About index r ∧ Left r r' e ∧ ∀ rest,
      validateEntries index seen (r :: rest) = (r' :: rest, some e) ∧
      validateEntries index seen (r' :: rest) = (r' :: rest, some e) := by
  -- a rule that is left as it is gets the same answer again
  have same {e : Error} (about : e.About index r)
      (refused : ∀ rest, validateEntries index seen (r :: rest) = (r :: rest, some e)) :
      ∃ r' e, e.About index r ∧ Left r r' e ∧ ∀ rest,
        validateEntries index seen (r :: rest) = (r' :: rest, some e) ∧
        validateEntries index seen (r' :: rest) = (r' :: rest, some e) :=
    ⟨r, e, about, .inl rfl, fun rest => ⟨refused rest, refused rest⟩⟩
  by_cases unnamed : r.name = []
  · apply same (.inl rfl)
    intro rest
    rw [validateEntries_cons, if_pos unnamed]
  by_cases again : r.name ∈ seen
  · apply same (.inr (.inl rfl))
    intro rest
    rw [validateEntries_cons, if_neg unnamed, if_pos again]
  by_cases empty : r.search = []
  · apply same (.inr (.inr (.inl rfl)))
    intro rest
    rw [validateEntries_cons, if_neg unnamed, if_neg again, if_pos empty]
  cases kind : Pattern.Kind.ofWritten? r.kind with
  | none =>
    apply same (.inr (.inr (.inr (.inl rfl))))
    intro rest
    rw [validateEntries_cons, if_neg unnamed, if_neg again, if_neg empty, kind]
  | some k =>
    by_cases invalid : (r.files ≠ [] && !Glob.isValid r.files) = true
    · refine ⟨r.inFull, _, .inr (.inr (.inr (.inr rfl))), .inr ⟨rfl, rfl⟩, fun rest => ?_⟩
      have known := r.ofWritten?_inFull.trans kind
      obtain ⟨name, search, _, files⟩ := r.inFull_same
      constructor
      · rw [validateEntries_cons, if_neg unnamed, if_neg again, if_neg empty, kind]
        simp only [if_pos invalid, RuleEntry.inFull_eq kind]
      · rw [validateEntries_cons, name, search, files, if_neg unnamed, if_neg again,
          if_neg empty, known]
        simp only [if_pos invalid, RuleEntry.inFull_eq kind]
    · exfalso
      have valid : r.files ≠ [] → Glob.isValid r.files = true := by simpa using invalid
      have known : Pattern.Kind.ofWritten? r.kind ≠ none := by
        rw [kind]
        exact Option.some_ne_none k
      exact bad ⟨⟨unnamed, empty, Pattern.Kind.ofName?_ne_none_iff.mp known, valid⟩, again⟩

theorem validateEntries_none_iff {index : Nat} {seen : List Bytes} {rules : List RuleEntry} :
    (validateEntries index seen rules).2 = none ↔
      (∀ r ∈ rules, r.Sound ∧ r.name ∉ seen) ∧ (rules.map (·.name)).Nodup := by
  induction rules generalizing index seen with
  | nil => exact iff_of_true rfl (by simp)
  | cons r rest ih =>
    by_cases good : r.Sound ∧ r.name ∉ seen
    · rw [validateEntries_good good, ih, apart_cons_iff, List.forall_mem_cons, and_iff_right good,
        List.map_cons, List.nodup_cons, and_assoc]
    · obtain ⟨_, _, _, _, refused⟩ := validateEntries_refused index good
      rw [(refused rest).1]
      exact iff_of_false (Option.some_ne_none _) fun all => good (all.1 r List.mem_cons_self)

theorem validateEntries_rules {index : Nat} {seen : List Bytes} {rules : List RuleEntry}
    (accepted : (validateEntries index seen rules).2 = none) :
    (validateEntries index seen rules).1 = rules.map RuleEntry.inFull := by
  induction rules generalizing index seen with
  | nil => rfl
  | cons r rest ih =>
    have good := (validateEntries_none_iff.mp accepted).1 r List.mem_cons_self
    rw [validateEntries_good good] at accepted ⊢
    rw [List.map_cons, ih accepted]

theorem validate_eq {c : Config} (some : c.rules ≠ []) : c.validate =
    ({ c with
      rules := (validateEntries 0 [] c.rules).1
      target := if (validateEntries 0 [] c.rules).2.isNone && c.target ≠ [] then
        Path.clean c.target else c.target }, (validateEntries 0 [] c.rules).2) := by
  rw [validate, if_neg some]

theorem validate_none_iff {c : Config} :
    c.validate.2 = none ↔ c.rules ≠ [] ∧ (∀ r ∈ c.rules, r.Sound) ∧
      (c.rules.map (·.name)).Nodup := by
  by_cases empty : c.rules = []
  · simp [validate, empty]
  · rw [validate_eq empty, validateEntries_none_iff]
    simp [empty]

theorem validate_accepted {c : Config} (accepted : c.validate.2 = none) : c.validate.1 =
    { c with
      rules := c.rules.map RuleEntry.inFull
      target := if c.target = [] then [] else Path.clean c.target } := by
  have some := (validate_none_iff.mp accepted).1
  rw [validate_eq some] at accepted ⊢
  dsimp only at accepted ⊢
  rw [validateEntries_rules accepted, accepted]
  by_cases unset : c.target = []
  · simp [unset]
  · simp [unset]

theorem validate_rules {c : Config} (accepted : c.validate.2 = none) :
    c.validate.1.rules = c.rules.map RuleEntry.inFull := by
  rw [validate_accepted accepted]

/-! The patterns are made in order, up to the first one that cannot be made. -/

theorem compileEntries_ok {rules : List RuleEntry} {compiled : List Rule}
    (compiles : compileEntries rules = .ok compiled) :
    List.Forall₂ (fun r rule => ∃ p, Pattern.compileNamed r.kind r.search = .ok p ∧
      rule = ⟨r.name, some p, r.replacement, r.files⟩) rules compiled := by
  induction rules generalizing compiled with
  | nil =>
    cases compiles
    exact .nil
  | cons r rest ih =>
    rw [compileEntries] at compiles
    split at compiles
    · cases compiles
    · rename_i p pattern
      split at compiles
      · cases compiles
      · rename_i others
        cases compiles
        exact .cons ⟨p, pattern, rfl⟩ (ih others)

theorem compileEntries_error {rules : List RuleEntry} {e : CompileError}
    (fails : compileEntries rules = .error e) :
    ∃ before r after, rules = before ++ r :: after ∧
      (∀ s ∈ before, ∃ p, Pattern.compileNamed s.kind s.search = .ok p) ∧ e.rule = r.name ∧
      Pattern.compileNamed r.kind r.search = .error e.cause := by
  induction rules with
  | nil => cases fails
  | cons r rest ih =>
    rw [compileEntries] at fails
    split at fails
    · rename_i pattern
      cases fails
      exact ⟨[], r, rest, rfl, by simp, rfl, pattern⟩
    · rename_i p pattern
      split at fails
      · rename_i others
        cases fails
        obtain ⟨before, s, after, rfl, compiled, named, first⟩ := ih others
        refine ⟨r :: before, s, after, rfl, ?_, named, first⟩
        rw [List.forall_mem_cons]
        exact ⟨⟨p, pattern⟩, compiled⟩
      · cases fails

theorem compileEntries_named {rules : List RuleEntry} {compiled : List Rule}
    (compiles : compileEntries rules = .ok compiled) :
    compiled.map (·.name) = rules.map (·.name) ∧ ∀ rule ∈ compiled, rule.pattern ≠ none := by
  have paired := compileEntries_ok compiles
  clear compiles
  induction paired with
  | nil => simp
  | cons head _ ih =>
    obtain ⟨p, _, rfl⟩ := head
    simpa using ih

structure Named (c : Config) : Prop where
  named : ∀ r ∈ c.rules, r.name ≠ []
  distinct : (c.rules.map (·.name)).Nodup

theorem Named.validate {c : Config} (each : c.Named) {rules : List Rule}
    (compiles : c.compile = .ok rules) : Rule.validate rules = .ok () := by
  obtain ⟨names, patterns⟩ := compileEntries_named compiles
  rw [Rule.validate_ok_iff, names]
  refine ⟨fun rule member => ⟨fun unnamed => ?_, patterns rule member⟩, each.distinct⟩
  have listed : rule.name ∈ c.rules.map (·.name) := by
    rw [← names]
    exact List.mem_map_of_mem member
  obtain ⟨r, member, same⟩ := List.mem_map.mp listed
  exact each.named r member (same.trans unnamed)

theorem named_validated {c : Config} (accepted : c.validate.2 = none) : c.validate.1.Named := by
  obtain ⟨_, sound, distinct⟩ := validate_none_iff.mp accepted
  have rules := validate_rules accepted
  constructor
  · rw [rules]
    intro r member
    obtain ⟨s, listed, rfl⟩ := List.mem_map.mp member
    rw [s.inFull_same.1]
    exact (sound s listed).named
  · rw [rules, List.map_map]
    have names : (fun r : RuleEntry => r.name) ∘ RuleEntry.inFull = (·.name) :=
      funext fun r => r.inFull_same.1
    rw [names]
    exact distinct

theorem compile_validated_ok {c : Config} (accepted : c.validate.2 = none) {rules : List Rule}
    (compiles : c.validate.1.compile = .ok rules) :
    List.Forall₂ RuleEntry.Becomes c.rules rules := by
  obtain ⟨_, sound, _⟩ := validate_none_iff.mp accepted
  have paired := compileEntries_ok compiles
  rw [validate_rules accepted, List.forall₂_map_left_iff] at paired
  refine ((List.forall₂_and_left _ _).mpr ⟨sound, paired⟩).imp ?_
  rintro r _ ⟨sound, p, pattern, rfl⟩
  obtain ⟨k, kind⟩ := sound.ofWritten?
  rw [RuleEntry.compileNamed_inFull kind] at pattern
  obtain ⟨name, _, replacement, files⟩ := r.inFull_same
  exact ⟨name, replacement, files, k, p, kind, pattern, rfl⟩

/-- The first rule that is not compiled is refused for what its pattern says. -/
theorem compile_validated_error {c : Config} (accepted : c.validate.2 = none) {e : CompileError}
    (fails : c.validate.1.compile = .error e) :
    ∃ before r after k, c.rules = before ++ r :: after ∧
      (∀ s ∈ before, ∃ rule, s.Becomes rule) ∧ e.rule = r.name ∧
      Pattern.Kind.ofWritten? r.kind = some k ∧ Pattern.compile k r.search = .error e.cause ∧
      (∀ name, e.cause ≠ .unknownKind name) ∧ e.cause ≠ .emptyExpression ∧
      e.cause ≠ .emptyLiteral := by
  obtain ⟨_, sound, _⟩ := validate_none_iff.mp accepted
  obtain ⟨before, r, after, rules, compiled, named, first⟩ := compileEntries_error fails
  rw [validate_rules accepted, List.map_eq_append_iff] at rules
  obtain ⟨before', rest, whole, rfl, rest_eq⟩ := rules
  obtain ⟨r', after', rfl, rfl, _⟩ := List.map_eq_cons_iff.mp rest_eq
  rw [whole, List.forall_mem_append, List.forall_mem_cons] at sound
  obtain ⟨sound, here, _⟩ := sound
  obtain ⟨k, kind⟩ := here.ofWritten?
  rw [RuleEntry.compileNamed_inFull kind] at first
  rw [r'.inFull_same.1] at named
  refine ⟨before', r', after', k, whole, fun s member => ?_, named, kind, first,
    Pattern.compile_error here.searching first⟩
  obtain ⟨k, kind⟩ := (sound s member).ofWritten?
  obtain ⟨p, pattern⟩ := compiled _ (List.mem_map_of_mem member)
  rw [RuleEntry.compileNamed_inFull kind] at pattern
  exact ⟨⟨s.name, some p, s.replacement, s.files⟩, rfl, rfl, rfl, k, p, kind, pattern, rfl⟩

theorem load_validated {path : Bytes} {w w' : Workspace} {c : Config}
    (loads : (load path).run.run w = (.ok c, w')) :
    ∃ parsed : Config, parsed.validate = (c, none) := by
  have found := (run_load path w).1
  rw [loads] at found
  obtain ⟨_, _, text, _, reads⟩ := loaded_ok_iff.mp found.symm
  obtain ⟨_, parsed, _, _, accepted⟩ := ofText_ok_iff.mp reads
  exact ⟨parsed.placed path, accepted⟩

end Config

namespace CommandLine

theorem named_listings : Preset.listings.Named := by
  constructor <;> decide

/-- Whatever its origin, a configuration gives each rule a name of its own. -/
theorem configured_named {s : Settings} {w w' : Workspace} {c : Config}
    (configures : (configured s).run.run w = (.ok c, w')) : c.Named := by
  unfold configured at configures
  split at configures
  · rw [run_adapt] at configures
    rcases loads : (Config.load s.config).run.run w with ⟨_ | c', v⟩ <;> rw [loads] at configures
    · cases configures
    · cases configures
      obtain ⟨parsed, accepted⟩ := Config.load_validated loads
      have valid : parsed.validate.2 = none := by rw [accepted]
      have named := Config.named_validated valid
      rwa [accepted] at named
  · dsimp only at configures
    split at configures
    · cases configures
    · rename_i chosen
      cases configures
      simp only [Preset.get?, Preset.all, List.find?_cons, List.find?_nil] at chosen
      split at chosen
      · cases chosen
        exact named_listings
      · cases chosen

theorem operationOf_accepted {s : Settings} {c : Config} (each : c.Named) {target : Bytes}
    (given : target ≠ []) (e : Operation.Refusal) :
    operationOf s c target ≠ .error (.operation e) := by
  unfold operationOf
  cases compiles : c.compile with
  | error cause => simp [Except.mapError, bind, Except.bind]
  | ok rules =>
    have valid := each.validate compiles
    dsimp only [Except.mapError, bind, Except.bind]
    rw [(Operation.check_ok_iff rfl).mpr ⟨given, valid⟩]
    intro fails
    cases fails

theorem configured_error {s : Settings} {w w' : Workspace} {e : Operation.Refusal}
    (fails : (configured s).run.run w = (.error (.operation e), w')) : False := by
  unfold configured at fails
  split at fails
  · rw [run_adapt] at fails
    rcases loads : (Config.load s.config).run.run w with ⟨_ | c', v⟩ <;> rw [loads] at fails <;>
      cases fails
  · dsimp only at fails
    split at fails <;> cases fails

theorem planned_accepted (i : Invocation) (w : Workspace) (e : Operation.Refusal) :
    ((planned i).run.run w).1 ≠ .error (.operation e) := by
  rw [planned_eq, run_bind]
  rcases configures : (configured i.settings).run.run w with ⟨f | c, v⟩
  · intro same
    cases same
    exact configured_error configures
  · dsimp only
    split
    · intro none
      cases none
    · rename_i named
      rw [run_get_bind]
      have given : Path.absolute (Location.path v.cwd) (targetOf i c) ≠ [] := by
        have rooted : Path.isAbsolute (Location.path v.cwd) = true := rfl
        obtain ⟨rest, full⟩ := Path.absolute_eq_cons rooted (targetOf i c)
        rw [full]
        exact List.cons_ne_nil _ _
      have accepted := @operationOf_accepted i.settings c (configured_named configures) _ given e
      split
      · rename_i made
        intro same
        cases same
        exact accepted made
      · intro same
        cases same

/-- The checks agree. A configuration is accepted exactly if it has rules, each with a name of its
own, something to look for, a known kind and a glob that is well formed if there is one. The rules
of an accepted configuration are then compiled up to the first one whose pattern is refused, which
is never for want of a kind or a text, or they are all compiled, each with its name, replacement and
glob; and then any operation of them with a target is accepted. So no command fails because its
operation is refused. -/
theorem validators_agree [Chance] (c : Config) :
    (c.validate.2 = none ↔ c.rules ≠ [] ∧ (∀ r ∈ c.rules, r.Sound) ∧
      (c.rules.map (·.name)).Nodup) ∧
    (c.validate.2 = none →
      (∀ e, c.validate.1.compile = .error e → ∃ before r after k,
        c.rules = before ++ r :: after ∧ (∀ s ∈ before, ∃ rule, s.Becomes rule) ∧
        e.rule = r.name ∧ Pattern.Kind.ofWritten? r.kind = some k ∧
        Pattern.compile k r.search = .error e.cause ∧ (∀ name, e.cause ≠ .unknownKind name) ∧
        e.cause ≠ .emptyExpression ∧ e.cause ≠ .emptyLiteral) ∧
      ∀ rules, c.validate.1.compile = .ok rules →
        List.Forall₂ RuleEntry.Becomes c.rules rules ∧
        ∀ o : Operation, o.replacer = .standard → o.rules = rules → o.target ≠ [] →
          o.check = .ok ()) ∧
    ∀ (i : Invocation) (s : Screen) (w : Workspace) (e : Operation.Refusal),
      (((transform i).run s).run w).1.1 ≠ some (.operation e) := by
  refine ⟨Config.validate_none_iff, fun accepted => ⟨fun e fails => ?_, fun rules compiles => ?_⟩,
    fun i s w e => ?_⟩
  · exact Config.compile_validated_error accepted fails
  · refine ⟨Config.compile_validated_ok accepted compiles, fun o standard same given => ?_⟩
    rw [Operation.check_ok_iff standard, same]
    exact ⟨given, (Config.named_validated accepted).validate compiles⟩
  · rcases plans : (planned i).run.run w with ⟨f | ⟨c, o⟩, v⟩
    · rw [transform_unplanned plans s]
      intro same
      cases same
      exact planned_accepted i w e (by rw [plans])
    · obtain ⟨u, s', w', _, _, ends, _⟩ := transform_planned plans s
      rw [ends]
      cases (o.execute.run u).1.error <;> simp

/-- A rule whose kind is written with blanks and capitals is compiled, and one with an open group
behind it is refused. -/
theorem validators_agree_group :
    let good : RuleEntry := ⟨"a", " Literal\t", "x", "y", "*.rs"⟩
    let bad : RuleEntry := ⟨"b", "regexp", "(", "z", []⟩
    let c : Config := { Config.empty with rules := [good] }
    let d : Config := { Config.empty with rules := [good, bad] }
    c.validate.2 = none ∧ d.validate.2 = none ∧
      (∃ rule, c.validate.1.compile = .ok [rule] ∧ good.Becomes rule ∧
        ∀ target ≠ [], ({ target := target, rules := [rule] } : Operation).check = .ok ()) ∧
      ∃ e before r after, d.validate.1.compile = .error e ∧ d.rules = before ++ r :: after ∧
        e.rule = r.name ∧ ∀ s ∈ before, ∃ rule, s.Becomes rule := by
  intro good bad c d
  let _ : Chance := .always 7
  have accepts : c.validate.2 = none := by decide +kernel
  have accepts' : d.validate.2 = none := by decide +kernel
  refine ⟨accepts, accepts', ?_, ?_⟩
  · obtain ⟨_, agree, _⟩ := validators_agree c
    rcases compiles : c.validate.1.compile with e | rules
    · have made : c.validate.1.compile.toOption.isSome = true := by decide +kernel
      rw [compiles] at made
      cases made
    · obtain ⟨paired, checked⟩ := (agree accepts).2 rules compiles
      cases paired with
      | cons head tail =>
        cases tail
        exact ⟨_, rfl, head, fun target given => checked _ rfl rfl given⟩
  · obtain ⟨_, agree, _⟩ := validators_agree d
    rcases fails : d.validate.1.compile with e | rules
    · obtain ⟨before, r, after, k, whole, compiled, named, _⟩ := (agree accepts').1 e fails
      exact ⟨e, before, r, after, rfl, whole, named, compiled⟩
    · have refused : d.validate.1.compile.toOption.isNone = true := by decide +kernel
      rw [fails] at refused
      cases refused

end CommandLine

end Retouch
