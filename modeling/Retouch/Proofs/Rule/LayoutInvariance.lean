import Retouch.Proofs.Pattern.Template
import Retouch.Proofs.Rule.Splice
import Retouch.Proofs.Text.Collapse

/-! Rules do not see layout.
On texts that are laid out alike, rules with templates match equally often and leave texts that are
again laid out alike. The two scans are followed side by side: they are at a hit or a miss in both
texts at once, although their offsets differ. -/
namespace Retouch

open CodePoint Regexp

/-! Side by side over one occurrence. -/

/-- Steps that start outside layout, read no single blank, and pass runs of blanks as a whole. -/
def Firm : List Step → Prop
  | [] => True
  | .point v :: steps => blanks.contains v = false ∧ Firm steps
  | .gap :: steps => Step.Clear steps ∧ Firm steps
  | .more :: _ => False

theorem firm_points {vs : List Nat} (solid : ∀ v ∈ vs, blanks.contains v = false)
    {steps : List Step} (firm : Firm steps) : Firm (vs.map .point ++ steps) := by
  induction vs with
  | nil => exact firm
  | cons v vs ih =>
    exact ⟨solid v List.mem_cons_self, ih fun u member => solid u (List.mem_cons_of_mem _ member)⟩

theorem firm_templateSteps {tokens : List Bytes} (known : ∀ t ∈ tokens, Token t) :
    Firm (templateSteps tokens) := by
  induction tokens with
  | nil => trivial
  | cons t rest ih =>
    have solid := contains_of_solid (known t List.mem_cons_self).solid
    cases rest with
    | nil => rw [templateSteps_singleton]; exact firm_points solid trivial
    | cons t' rest =>
      rw [templateSteps_cons]
      refine firm_points solid ⟨templateSteps_clear (known t' (by simp)) rest, ih ?_⟩
      exact fun u member => known u (List.mem_cons_of_mem _ member)

theorem run_layout {steps : List Step} (clear : Step.Clear steps) {b : UInt8}
    (blank : isLayout b = true) (rest : Bytes) : Step.run steps (decode (b :: rest)) = none := by
  cases steps with
  | nil => cases clear
  | cons s steps =>
    rw [← contains_read b rest] at blank
    rw [decode_cons, Step.run, Step.next_of_clear clear blank]

/-- Steps that run through in one text run through in the other, and behind them the texts are still
laid out alike. -/
theorem run_alike {steps : List Step} (firm : Firm steps) {x y : Bytes} (alike : Alike x y)
    {n : Nat} (hit : Step.run steps (decode x) = some n) :
    ∃ m, Step.run steps (decode y) = some m ∧ Alike (x.drop n) (y.drop m) := by
  induction steps generalizing x y n with
  | nil =>
    rw [Step.run, Option.some.injEq] at hit
    subst hit
    exact ⟨0, by rw [Step.run], alike⟩
  | cons s steps ih =>
    cases s with
    | point v =>
      cases alike.paired with
      | nil => cases hit
      | @solid b x y dense inner =>
        obtain ⟨same, _, behind⟩ := inner.read b
        rw [decode_cons, Step.run] at hit
        split at hit
        · cases hit
        · rename_i left step
          have rest : left = steps := by
            simp only [Step.next] at step
            split at step
            · cases step; rfl
            · cases step
          subst rest
          obtain ⟨k, tail, rfl⟩ := Option.map_eq_some_iff.mp hit
          obtain ⟨m, tail', alike'⟩ := ih firm.2 behind tail
          refine ⟨(read b x).width + m, ?_, ?_⟩
          · rw [decode_cons, Step.run, ← same, step]
            simp [tail']
          · rwa [List.drop_drop, List.drop_drop] at alike'
      | @gap g _ _ _ _ _ eq _ layout nonempty _ _ _ _ _ =>
        subst eq
        obtain ⟨b, g, rfl⟩ := List.exists_cons_of_ne_nil nonempty
        have clear : Step.Clear (.point v :: steps) := firm.1
        rw [List.cons_append, run_layout clear (layout b List.mem_cons_self)] at hit
        cases hit
    | gap =>
      cases alike.paired with
      | nil => cases hit
      | solid dense =>
        rw [run_gap_none (flush_cons dense _)] at hit
        cases hit
      | @gap g h x y _ _ eq eq' layout nonempty flush layout' nonempty' flush' inner =>
        subst eq eq'
        rw [run_gap firm.1 layout nonempty flush] at hit
        obtain ⟨k, tail, rfl⟩ := Option.map_eq_some_iff.mp hit
        obtain ⟨m, tail', alike'⟩ := ih firm.2 inner tail
        refine ⟨h.length + m, ?_, ?_⟩
        · rw [run_gap firm.1 layout' nonempty' flush', tail']
          rfl
        · rwa [List.drop_length_add_append, List.drop_length_add_append]
    | more => cases firm

/-! Side by side over the whole text. -/

theorem scanFrom_bounds {steps : List Step} (nonempty : steps ≠ []) (offset : Nat) (text : Bytes) :
    ∀ s ∈ Step.scanFrom steps offset text, offset ≤ s.start ∧ s.start ≤ s.stop := by
  induction text using scan_induction nonempty generalizing offset with
  | nil => intro s member; cases member
  | hit text n hit pos _ ih =>
    intro s member
    rw [scanFrom_hit offset pos hit] at member
    rcases List.mem_cons.mp member with rfl | member
    · exact ⟨Nat.le_refl _, Nat.le_add_right _ _⟩
    · have later := ih (offset + n) s member
      omega
  | miss b rest miss ih =>
    intro s member
    rw [scanFrom_miss offset miss] at member
    have later := ih (offset + (read b rest).width) s member
    omega

/-- A text that starts at an offset after a rule with these steps. -/
def rewriteFrom (steps : List Step) (replacement : Bytes) (offset : Nat) (text : Bytes) : Bytes :=
  splice replacement offset text (Step.scanFrom steps offset text)

section Rewrite

variable {steps : List Step} (replacement : Bytes) (offset : Nat)

theorem rewriteFrom_hit {text : Bytes} {n : Nat} (pos : 0 < n)
    (hit : Step.run steps (decode text) = some n) :
    rewriteFrom steps replacement offset text =
      replacement ++ rewriteFrom steps replacement (offset + n) (text.drop n) := by
  rw [rewriteFrom, scanFrom_hit offset pos hit, splice, Nat.sub_self, List.take_zero,
    List.nil_append, Nat.add_sub_cancel_left]
  rfl

theorem rewriteFrom_miss (nonempty : steps ≠ []) {b : UInt8} {rest : Bytes}
    (miss : Step.run steps (decode (b :: rest)) = none) :
    rewriteFrom steps replacement offset (b :: rest) =
      (b :: rest).take (read b rest).width ++
        rewriteFrom steps replacement (offset + (read b rest).width)
          ((b :: rest).drop (read b rest).width) := by
  have taken := length_take_read b rest
  have behind := scanFrom_bounds nonempty (offset + (read b rest).width)
    ((b :: rest).drop (read b rest).width)
  rw [← taken] at behind
  have moved := splice_append replacement offset _ ((b :: rest).drop (read b rest).width) behind
  rw [List.take_append_drop, taken] at moved
  rw [rewriteFrom, scanFrom_miss offset miss, moved]
  rfl

theorem rewriteFrom_layout (clear : Step.Clear steps) {gap : Bytes} (layout : Layout gap)
    (rest : Bytes) :
    Step.scanFrom steps offset (gap ++ rest) = Step.scanFrom steps (offset + gap.length) rest ∧
      rewriteFrom steps replacement offset (gap ++ rest) =
        gap ++ rewriteFrom steps replacement (offset + gap.length) rest := by
  have nonempty := clear.ne_nil
  induction gap generalizing offset with
  | nil => exact ⟨rfl, rfl⟩
  | cons b gap ih =>
    have blank : isLayout b = true := layout b List.mem_cons_self
    have miss := run_layout clear blank (gap ++ rest)
    have one : (read b (gap ++ rest)).width = 1 := by rw [read_layout blank]
    obtain ⟨scan, text⟩ := ih (offset + 1) fun c member => layout c (List.mem_cons_of_mem _ member)
    have length : offset + (b :: gap).length = offset + 1 + gap.length := by
      rw [List.length_cons]
      omega
    rw [List.cons_append, scanFrom_miss offset miss,
      rewriteFrom_miss replacement offset nonempty miss, one, length]
    exact ⟨scan, congrArg (b :: ·) text⟩

end Rewrite

/-- In texts that are laid out alike the steps are found equally often, and the results are laid out
alike again, wherever the texts start. -/
theorem rewriteFrom_alike {steps : List Step} (firm : Firm steps) (clear : Step.Clear steps)
    (replacement : Bytes) {x y : Bytes} (alike : Alike x y) (i j : Nat) :
    (Step.scanFrom steps i x).length = (Step.scanFrom steps j y).length ∧
      Alike (rewriteFrom steps replacement i x) (rewriteFrom steps replacement j y) := by
  have nonempty := clear.ne_nil
  induction h : x.length using Nat.strongRecOn generalizing x y i j with
  | ind k ih =>
    cases alike.paired with
    | nil => exact ⟨rfl, rfl⟩
    | @gap g g' x y _ _ eq eq' layout nonempty' _ layout' nonempty'' _ inner =>
      subst eq eq'
      have pos := List.length_pos_iff.mpr nonempty'
      rw [List.length_append] at h
      obtain ⟨scan, text⟩ := rewriteFrom_layout replacement i clear layout x
      obtain ⟨scan', text'⟩ := rewriteFrom_layout replacement j clear layout' y
      obtain ⟨hits, behind⟩ := ih x.length (by omega) inner (i + g.length) (j + g'.length) rfl
      rw [scan, scan', text, text']
      exact ⟨hits, behind.gaps layout nonempty' layout' nonempty''⟩
    | @solid b x y dense inner =>
      rw [List.length_cons] at h
      cases found : Step.run steps (decode (b :: x)) with
      | some n =>
        obtain ⟨m, found', behind⟩ := run_alike firm alike found
        have pos := run_decode_pos nonempty found
        have pos' := run_decode_pos nonempty found'
        obtain ⟨hits, text⟩ := ih ((b :: x).drop n).length
          (by rw [List.length_drop, List.length_cons]; omega) behind (i + n) (j + m) rfl
        rw [scanFrom_hit i pos found, scanFrom_hit j pos' found',
          rewriteFrom_hit replacement i pos found, rewriteFrom_hit replacement j pos' found']
        exact ⟨by simp only [List.length_cons, hits], text.append replacement⟩
      | none =>
        have found' : Step.run steps (decode (b :: y)) = none := by
          cases other : Step.run steps (decode (b :: y)) with
          | none => rfl
          | some m =>
            obtain ⟨n, hit, _⟩ := run_alike firm alike.symm other
            rw [found] at hit
            cases hit
        obtain ⟨same, taken, behind⟩ := inner.read b
        have pos := read_width_pos b x
        obtain ⟨hits, text⟩ := ih ((b :: x).drop (read b x).width).length
          (by rw [List.length_drop, List.length_cons]; omega) behind (i + (read b x).width)
          (j + (read b x).width) rfl
        rw [scanFrom_miss i found, scanFrom_miss j found',
          rewriteFrom_miss replacement i nonempty found,
          rewriteFrom_miss replacement j nonempty found', ← same, taken]
        exact ⟨hits, text.append _⟩

/-! Rules one after another. -/

def Rule.HasTemplate (r : Rule) : Prop :=
  ∃ source p, Pattern.compile .whitespace source = .ok p ∧ r.pattern = some p

theorem apply_alike {r : Rule} (template : r.HasTemplate) {x y : Bytes} (alike : Alike x y) :
    (r.apply x).2 = (r.apply y).2 ∧ Alike (r.apply x).1 (r.apply y).1 := by
  obtain ⟨source, p, accepted, pattern⟩ := template
  obtain ⟨nonempty, known, finds⟩ := compile_template accepted
  have clear : Step.Clear (templateSteps source.tokens) := by
    obtain ⟨t, rest, eq⟩ := List.exists_cons_of_ne_nil nonempty
    rw [eq]
    exact templateSteps_clear (known t (by rw [eq]; exact List.mem_cons_self)) rest
  have whole := rewriteFrom_alike (firm_templateSteps known) clear r.replacement alike 0 0
  simp only [Rule.apply, Rule.spans, pattern, finds]
  exact whole

theorem applyAll_alike {rules : List Rule} (templates : ∀ r ∈ rules, r.HasTemplate) {x y : Bytes}
    (alike : Alike x y) :
    (applyAll rules x).2 = (applyAll rules y).2 ∧
      Alike (applyAll rules x).1 (applyAll rules y).1 := by
  induction rules generalizing x y with
  | nil => exact ⟨rfl, alike⟩
  | cons r rest ih =>
    obtain ⟨hits, step⟩ := apply_alike (templates r List.mem_cons_self) alike
    obtain ⟨counts, text⟩ := ih (fun s member => templates s (List.mem_cons_of_mem _ member)) step
    refine ⟨?_, text⟩
    simp only [applyAll, hits, counts]

/-- Rules with templates do the same to texts that are laid out alike: each matches equally often,
so that the total and the unmatched rules agree, and the results are laid out alike. -/
theorem replaceAll_alike {rules : List Rule} (templates : ∀ r ∈ rules, r.HasTemplate) {x y : Bytes}
    (alike : Alike x y) :
    (replaceAll rules x).rules = (replaceAll rules y).rules ∧
      (replaceAll rules x).count = (replaceAll rules y).count ∧
      (replaceAll rules x).unmatched = (replaceAll rules y).unmatched ∧
      Alike (replaceAll rules x).modified (replaceAll rules y).modified := by
  obtain ⟨counts, text⟩ := applyAll_alike templates alike
  have same : (replaceAll rules x).rules = (replaceAll rules y).rules := counts
  exact ⟨same, by rw [Replacement.count, Replacement.count, same],
    by rw [Replacement.unmatched, Replacement.unmatched, same], text⟩

/-- The second rule matches only what the first one and the layout behind it leave together. -/
theorem replaceAll_alike_chain :
    ∃ p q, Pattern.compile .whitespace "a b" = .ok p ∧ Pattern.compile .whitespace "z c" = .ok q ∧
      Alike "a  b\tc" "a\n\tb\r\n c" ∧
      (replaceAll [⟨"first", some p, "z ", []⟩, ⟨"second", some q, [], []⟩] "a\n\tb\r\n c").rules =
        [⟨"first", 1⟩, ⟨"second", 1⟩] := by
  obtain ⟨p, accepted⟩ : ∃ p, Pattern.compile .whitespace "a b" = .ok p :=
    compile_template_accepts (by decide) (by decide) (by decide)
  obtain ⟨q, accepted'⟩ : ∃ p, Pattern.compile .whitespace "z c" = .ok p :=
    compile_template_accepts (by decide) (by decide) (by decide)
  have alike : Alike "a  b\tc" "a\n\tb\r\n c" := by
    rw [Alike]
    decide
  have templates : ∀ r ∈ ([⟨"first", some p, "z ", []⟩, ⟨"second", some q, [], []⟩] : List Rule),
      r.HasTemplate := by
    intro r member
    simp only [List.mem_cons, List.not_mem_nil, or_false] at member
    rcases member with rfl | rfl
    · exact ⟨_, p, accepted, rfl⟩
    · exact ⟨_, q, accepted', rfl⟩
  have counts : (replaceAll [⟨"first", some p, "z ", []⟩, ⟨"second", some q, [], []⟩]
      "a  b\tc").rules = [⟨"first", 1⟩, ⟨"second", 1⟩] := by
    simp only [replaceAll, applyAll, Rule.apply, Rule.spans, (compile_template accepted).2.2,
      (compile_template accepted').2.2]
    decide +kernel
  exact ⟨p, q, accepted, accepted', alike, (replaceAll_alike templates alike).1.symm.trans counts⟩

end Retouch
