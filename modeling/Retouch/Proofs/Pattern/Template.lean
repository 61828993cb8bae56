import Retouch.Pattern
import Retouch.Proofs.Pattern.TemplateRow
import Retouch.Proofs.Regexp.RowScan
import Retouch.Proofs.Scan

/-! The meaning of a template.
A template matches where its tokens are spelled out byte for byte with some layout between each two
of them. No byte of it is read in any other way, and the text may be malformed. -/
namespace Retouch

open CodePoint Regexp

/-! Points of a token. -/

theorem run_points_append (points rest : List CodePoint) (steps : List Step) :
    Step.run ((points.map (·.value)).map .point ++ steps) (points ++ rest) =
      (Step.run steps rest).map (totalWidth points + ·) := by
  induction points with
  | nil => simp [totalWidth]
  | cons c points ih =>
    simp only [List.map_cons, List.cons_append, Step.run, Step.next, if_true, ih, Option.map_map,
      totalWidth]
    congr 1
    funext n
    simp only [Function.comp_apply, Nat.add_assoc]

theorem values_of_run_points {vs : List Nat} {steps : List Step} {points : List CodePoint} {n : Nat}
    (hit : Step.run (vs.map .point ++ steps) points = some n) :
    ∃ more, points.map (·.value) = vs ++ more := by
  induction vs generalizing points n with
  | nil => exact ⟨_, rfl⟩
  | cons v vs ih =>
    cases points with
    | nil => cases hit
    | cons c points =>
      simp only [List.map_cons, List.cons_append, Step.run, Step.next] at hit
      by_cases same : c.value = v
      · rw [if_pos same] at hit
        obtain ⟨m, tail, _⟩ := Option.map_eq_some_iff.mp hit
        obtain ⟨more, eq⟩ := ih tail
        exact ⟨more, by rw [List.map_cons, eq, same, List.cons_append]⟩
      · rw [if_neg same] at hit
        cases hit

theorem run_token {token : Bytes} (valid : isValid token = true)
    (clean : replacement ∉ values token) {steps : List Step} {text : Bytes} {n : Nat} :
    Step.run ((values token).map .point ++ steps) (decode text) = some n ↔
      ∃ rest m, text = token ++ rest ∧ Step.run steps (decode rest) = some m ∧
        n = token.length + m := by
  have runs : ∀ rest, Step.run ((values token).map .point ++ steps) (decode (token ++ rest)) =
      (Step.run steps (decode rest)).map (token.length + ·) := by
    intro rest
    rw [decode_append valid, values, run_points_append, totalWidth_decode]
  constructor
  · intro hit
    obtain ⟨more, starts⟩ := values_of_run_points hit
    obtain ⟨rest, rfl⟩ := append_of_values clean starts
    rw [runs, Option.map_eq_some_iff] at hit
    obtain ⟨m, behind, rfl⟩ := hit
    exact ⟨rest, m, rfl, behind, rfl⟩
  · rintro ⟨rest, m, rfl, behind, rfl⟩
    rw [runs, behind]
    rfl

theorem contains_of_solid {text : Bytes} (solid : Solid text) :
    ∀ v ∈ values text, blanks.contains v = false := by
  induction text using decode_induction with
  | nil => intro v member; cases member
  | cons b rest ih =>
    intro v member
    rw [values_cons, List.mem_cons] at member
    rcases member with rfl | member
    · rw [contains_read]
      exact solid b List.mem_cons_self
    · exact ih (fun x inside => solid x (List.mem_of_mem_drop inside)) v member

/-! Steps of a template. -/

structure Token (t : Bytes) : Prop where
  nonempty : t ≠ []
  solid : Solid t
  valid : isValid t = true

theorem Token.values_cons {t : Bytes} (token : Token t) :
    ∃ v vs, values t = v :: vs ∧ blanks.contains v = false := by
  obtain ⟨v, vs, eq⟩ := List.exists_cons_of_ne_nil (values_ne_nil token.nonempty)
  exact ⟨v, vs, eq, contains_of_solid token.solid v (by rw [eq]; exact List.mem_cons_self)⟩

theorem Token.head {b : UInt8} {rest : Bytes} (token : Token (b :: rest)) :
    isContinuation b = false ∧ isLayout b = false := by
  exact ⟨head_of_valid token.valid, token.solid b List.mem_cons_self⟩

def templateSteps (tokens : List Bytes) : List Step := Step.ofTokens (tokens.map values)

theorem templateSteps_cons (t t' : Bytes) (rest : List Bytes) :
    templateSteps (t :: t' :: rest) =
      (values t).map .point ++ .gap :: templateSteps (t' :: rest) := rfl

theorem templateSteps_singleton (t : Bytes) :
    templateSteps [t] = (values t).map .point ++ [] := (List.append_nil _).symm

theorem templateSteps_clear {t : Bytes} (token : Token t) (rest : List Bytes) :
    Step.Clear (templateSteps (t :: rest)) := by
  obtain ⟨v, vs, eq, clear⟩ := token.values_cons
  cases rest with
  | nil => rw [templateSteps_singleton, eq]; exact clear
  | cons t' rest => rw [templateSteps_cons, eq]; exact clear

/-! Occurrences of a template. -/

theorem Spells.head {tokens : List Bytes} {text : Bytes} (spells : Spells tokens text)
    (known : ∀ t ∈ tokens, Token t) :
    ∃ b rest, text = b :: rest ∧ isContinuation b = false ∧ isLayout b = false := by
  obtain ⟨t, more, rest, rfl, rfl⟩ := spells.starts
  have token := known t List.mem_cons_self
  obtain ⟨b, tail, rfl⟩ := List.exists_cons_of_ne_nil token.nonempty
  exact ⟨b, tail ++ rest, rfl, token.head⟩

/-- A template runs through exactly where its tokens are spelled out. Greed makes no difference: the
run of blanks that it takes is the only one that is followed by a token. -/
theorem run_templateSteps {tokens : List Bytes} (nonempty : tokens ≠ [])
    (known : ∀ t ∈ tokens, Token t) (clean : ∀ t ∈ tokens, replacement ∉ values t) (text : Bytes)
    (n : Nat) :
    Step.run (templateSteps tokens) (decode text) = some n ↔
      ∃ body after, text = body ++ after ∧ body.length = n ∧ Spells tokens body := by
  induction tokens generalizing text n with
  | nil => exact absurd rfl nonempty
  | cons t rest ih =>
    have token := known t List.mem_cons_self
    have pure := clean t List.mem_cons_self
    cases rest with
    | nil =>
      rw [templateSteps_singleton, run_token token.valid pure]
      constructor
      · rintro ⟨after, m, rfl, none, rfl⟩
        rw [Step.run, Option.some.injEq] at none
        exact ⟨t, after, rfl, by omega, .last⟩
      · rintro ⟨body, after, rfl, rfl, spells⟩
        cases spells with
        | last => exact ⟨after, 0, rfl, by rw [Step.run], rfl⟩
        | cons _ _ none => cases none
    | cons t' rest =>
      have others : ∀ u ∈ t' :: rest, Token u := fun u member =>
        known u (List.mem_cons_of_mem _ member)
      have tail := ih (by simp) others fun u member => clean u (List.mem_cons_of_mem _ member)
      have clear := templateSteps_clear (known t' (by simp)) rest
      rw [templateSteps_cons, run_token token.valid pure]
      constructor
      · rintro ⟨behind, m, rfl, hit, rfl⟩
        obtain ⟨gap, left, k, rfl, empty, layout, _, inner, rfl⟩ := (run_gap_iff clear).mp hit
        obtain ⟨body, after, rfl, rfl, spells⟩ := (tail left k).mp inner
        exact ⟨t ++ (gap ++ body), after, by simp, by simp, .cons empty layout spells⟩
      · rintro ⟨body, after, rfl, rfl, spells⟩
        cases spells with
        | @cons _ gap body _ empty layout spells =>
          have inner := (tail (body ++ after) body.length).mpr ⟨body, after, rfl, rfl, spells⟩
          have flush : Flush (body ++ after) := by
            obtain ⟨b, more, rfl, _, dense⟩ := spells.head others
            exact flush_cons dense _
          exact ⟨gap ++ (body ++ after), gap.length + body.length, by simp, (run_gap_iff clear).mpr
            ⟨gap, body ++ after, _, rfl, empty, layout, flush, inner, rfl⟩, by simp⟩

theorem templateSteps_ne_nil {tokens : List Bytes} (nonempty : tokens ≠ [])
    (known : ∀ t ∈ tokens, Token t) : templateSteps tokens ≠ [] := by
  obtain ⟨t, rest, rfl⟩ := List.exists_cons_of_ne_nil nonempty
  exact (templateSteps_clear (known t List.mem_cons_self) rest).ne_nil

theorem scanned_templateSteps {tokens : List Bytes} (nonempty : tokens ≠ [])
    (known : ∀ t ∈ tokens, Token t) (clean : ∀ t ∈ tokens, replacement ∉ values t)
    (before text : Bytes) :
    Scanned (Spells tokens) (before ++ text) before.length
      (Step.scanFrom (templateSteps tokens) before.length text) := by
  have steps := templateSteps_ne_nil nonempty known
  have runs := run_templateSteps nonempty known clean
  induction text using scan_induction steps generalizing before with
  | nil =>
    refine .done fun start stop ahead occurs => ?_
    obtain ⟨body, after, eq, _, spells⟩ := occurs.drop
    obtain ⟨b, rest, rfl, _⟩ := spells.head known
    rw [List.append_nil, List.drop_eq_nil_of_le ahead] at eq
    cases eq
  | hit text n hit pos inside ih =>
    obtain ⟨body, after, rfl, rfl, spells⟩ := (runs text n).mp hit
    rw [scanFrom_hit before.length pos hit]
    refine .next (Nat.le_refl _) ⟨before, body, after, rfl, rfl, rfl, spells⟩ ?_ ?_
    · intro earlier other ahead behind
      omega
    · have tail := ih (before ++ body)
      rw [List.drop_left, List.append_assoc, List.length_append] at tail
      rwa [List.drop_left]
  | miss b rest miss ih =>
    rw [scanFrom_miss before.length miss]
    have tail := ih (before ++ (b :: rest).take (read b rest).width)
    rw [List.append_assoc, List.take_append_drop, List.length_append, length_take_read] at tail
    refine tail.earlier (Nat.le_add_right _ _) fun start stop ahead within occurs => ?_
    obtain ⟨body, after, eq, _, spells⟩ := occurs.drop
    obtain ⟨k, rfl⟩ : ∃ k, start = before.length + k := ⟨start - before.length, by omega⟩
    rw [List.drop_length_add_append] at eq
    by_cases first : k = 0
    · subst first
      have hit := (runs (b :: rest) body.length).mpr ⟨body, after, eq, rfl, spells⟩
      rw [miss] at hit
      cases hit
    · -- Inside a code point there are only continuation bytes.
      obtain ⟨c, more, eq', cont⟩ := drop_inside (by omega) (by omega : k < (read b rest).width)
      obtain ⟨d, tail, rfl, lead, _⟩ := spells.head known
      rw [eq'] at eq
      cases eq
      rw [cont] at lead
      cases lead

theorem occursAt_unique {tokens : List Bytes} (nonempty : tokens ≠ [])
    (known : ∀ t ∈ tokens, Token t) (clean : ∀ t ∈ tokens, replacement ∉ values t)
    (content : Bytes) (start stop other : Nat)
    (occurs : OccursAt (Spells tokens) content start stop)
    (occurs' : OccursAt (Spells tokens) content start other) : stop = other := by
  have runs := run_templateSteps nonempty known clean (content.drop start)
  obtain ⟨body, after, eq, rfl, spells⟩ := occurs.drop
  obtain ⟨body', after', eq', rfl, spells'⟩ := occurs'.drop
  have hit := (runs body.length).mpr ⟨body, after, eq, rfl, spells⟩
  have hit' := (runs body'.length).mpr ⟨body', after', eq', rfl, spells'⟩
  rw [hit, Option.some.injEq] at hit'
  rw [hit']

theorem occursAt_wide {tokens : List Bytes} (known : ∀ t ∈ tokens, Token t) {content : Bytes}
    {start stop : Nat} (occurs : OccursAt (Spells tokens) content start stop) : start < stop := by
  obtain ⟨body, after, _, rfl, spells⟩ := occurs.drop
  obtain ⟨b, rest, rfl, _⟩ := spells.head known
  rw [List.length_cons]
  omega

/-! Templates that are accepted. -/

/-- An accepted template has tokens, and it is searched for by the scan for their steps. -/
theorem compile_template {source : Bytes} {p : Pattern}
    (accepted : Pattern.compile .whitespace source = .ok p) :
    source.tokens ≠ [] ∧ (∀ t ∈ source.tokens, Token t) ∧
      ∀ content, p.findAll content = Step.scanFrom (templateSteps source.tokens) 0 content := by
  have solid : ∀ t ∈ source.tokens, t ≠ [] := fun t => Bytes.tokens_ne_nil
  rw [Pattern.compile, Pattern.ofTemplate] at accepted
  split at accepted
  · cases accepted
  · rename_i tokens nonempty
    dsimp only at accepted
    split at accepted
    · rename_i e parsed
      cases accepted
      obtain ⟨valid, rfl⟩ := parse_templateExpression nonempty solid parsed
      have known : ∀ t ∈ source.tokens, Token t := fun t member =>
        ⟨solid t member, Bytes.solid_tokens source t member, valid t member⟩
      refine ⟨nonempty, known, fun content => ?_⟩
      have nonempty' : source.tokens.map values ≠ [] := by simpa using nonempty
      have solid' : ∀ vs ∈ source.tokens.map values, vs ≠ [] := by
        intro vs member
        obtain ⟨t, inside, rfl⟩ := List.mem_map.mp member
        exact values_ne_nil (solid t inside)
      refine findAll_row (row_rowExpr nonempty' solid') (apart_ofTokens ?_)
        (ofTokens_ne_nil nonempty' solid') content
      intro vs member
      obtain ⟨t, inside, rfl⟩ := List.mem_map.mp member
      exact (known t inside).values_cons
    · cases accepted

/-- A template is accepted once it has tokens, all of them are well formed, and it is not too
large. -/
theorem compile_template_accepts {source : Bytes} (nonempty : source.tokens ≠ [])
    (valid : ∀ t ∈ source.tokens, isValid t = true)
    (small : (Pattern.templateExpression source.tokens).length ≤ maxSize) :
    ∃ p, Pattern.compile .whitespace source = .ok p := by
  have parsed := parse_templateExpression_ok nonempty (fun t => Bytes.tokens_ne_nil) valid small
  rw [Pattern.compile, Pattern.ofTemplate]
  split
  · contradiction
  · dsimp only
    rw [parsed]
    exact ⟨_, rfl⟩

theorem values_tokens_subset {text t : Bytes} {v : Nat}
    (valid : ∀ u ∈ text.tokens, isValid u = true) (member : t ∈ text.tokens)
    (inside : v ∈ values t) : v ∈ values text := by
  induction text using layout_induction with
  | nil => cases member
  | layout x rest kind ih =>
    rw [Bytes.tokens_layout kind] at valid member
    have one : (read x rest).width = 1 := by rw [read_layout kind]
    rw [CodePoint.values_cons, one]
    exact List.mem_cons_of_mem _ (ih valid member)
  | word w rest solid nonempty edge ih =>
    rw [Bytes.tokens_word solid nonempty edge] at valid member
    rw [values, decode_append (valid w List.mem_cons_self), List.map_append, List.mem_append]
    rcases List.mem_cons.mp member with rfl | member
    · exact .inl inside
    · exact .inr (ih (fun u other => valid u (List.mem_cons_of_mem _ other)) member)

/-- An accepted template is found exactly where a scan from the left meets its tokens, byte for byte
and with some layout between each two of them. The tokens are the longest pieces of the template
without layout bytes. An occurrence has one end, and none is missed: each overlaps one that is
reported. U+FFFD is left out because it matches malformed bytes as well. -/
theorem findAll_template {source : Bytes} {p : Pattern}
    (accepted : Pattern.compile .whitespace source = .ok p)
    (clean : replacement ∉ values source) (content : Bytes) :
    (∀ spans, Scanned (Spells source.tokens) content 0 spans ↔ spans = p.findAll content) ∧
    (∀ start stop other, OccursAt (Spells source.tokens) content start stop →
      OccursAt (Spells source.tokens) content start other → stop = other) ∧
    (∀ start stop, OccursAt (Spells source.tokens) content start stop →
      ∃ s ∈ p.findAll content, s.start < stop ∧ start < s.stop) ∧
    (∀ t ∈ source.tokens, t ≠ [] ∧ Solid t) ∧
    ∃ lead body trail, source = lead ++ (body ++ trail) ∧ Layout lead ∧ Layout trail ∧
      Spells source.tokens body := by
  obtain ⟨nonempty, known, finds⟩ := compile_template accepted
  have pure : ∀ t ∈ source.tokens, replacement ∉ values t := fun t member inside =>
    clean (values_tokens_subset (fun u other => (known u other).valid) member inside)
  have scanned := scanned_templateSteps nonempty known pure [] content
  rw [List.nil_append, List.length_nil, ← finds content] at scanned
  have ends := occursAt_unique nonempty known pure content
  refine ⟨fun spans => ⟨fun other => other.unique ends scanned, fun eq => eq ▸ scanned⟩, ends, ?_,
    fun t member => ⟨(known t member).nonempty, (known t member).solid⟩, ?_⟩
  · intro start stop occurs
    refine scanned.covers ?_ (Nat.zero_le start) occurs
    intro start stop occurs
    exact occursAt_wide known occurs
  · obtain ⟨lead, body, trail, eq, before, behind, spells⟩ := Bytes.spells_tokens source
    rcases spells with ⟨none, _⟩ | spells
    · exact absurd none nonempty
    · exact ⟨lead, body, trail, eq, before, behind, spells⟩

/-- Signs that mean something in a regular expression stand for themselves, next to malformed
bytes too. -/
theorem findAll_template_signs :
    ∃ p, Pattern.compile .whitespace " a.+ (b\n" = .ok p ∧ replacement ∉ values " a.+ (b\n" ∧
      Scanned (Spells (Bytes.tokens " a.+ (b\n"))
        ("a.+(b a.+\t\n(b" ++ (0xFF :: 0xC3 :: Bytes.ofString "a.+ (b aa+ (b")) 0
        [⟨6, 13⟩, ⟨15, 21⟩] := by
  obtain ⟨p, accepted⟩ : ∃ p, Pattern.compile .whitespace " a.+ (b\n" = .ok p :=
    compile_template_accepts (by decide) (by decide) (by decide)
  have clean : replacement ∉ values " a.+ (b\n" := by decide
  have found : p.findAll ("a.+(b a.+\t\n(b" ++ (0xFF :: 0xC3 :: Bytes.ofString "a.+ (b aa+ (b")) =
      [⟨6, 13⟩, ⟨15, 21⟩] := by
    rw [(compile_template accepted).2.2]
    decide +kernel
  exact ⟨p, accepted, clean, ((findAll_template accepted clean _).1 _).mpr found.symm⟩

end Retouch
