import Retouch.Proofs.Pattern.Literal
import Retouch.Proofs.Pattern.Marker

/-! Rules that leave nothing to do.
A rule whose pattern never touches its replacement leaves a text without occurrences, and on such a
text it does nothing. Other rules keep the text free of them if their replacements are untouched,
too. -/
namespace Retouch

open CodePoint

def FreeOf (P : Bytes → Prop) (content : Bytes) : Prop :=
  ∀ start stop, ¬ OccursAt P content start stop

/-- The rule looks for a template with these tokens, by a scan from the left. -/
structure Rule.LooksFor (r : Rule) (tokens : List Bytes) : Prop where
  known : ∀ t ∈ tokens, Token t
  scanned : ∀ content, Scanned (Spells tokens) content 0 (r.spans content)

namespace Rule

variable {r : Rule} {tokens : List Bytes}

theorem looksFor_of_compile {source : Bytes} {p : Pattern}
    (accepted : Pattern.compile .whitespace source = .ok p)
    (clean : ∀ t ∈ source.tokens, CodePoint.replacement ∉ values t) (pattern : r.pattern = some p) :
    r.LooksFor source.tokens := by
  obtain ⟨nonempty, known, finds⟩ := compile_template accepted
  refine ⟨known, fun content => ?_⟩
  have scanned := scanned_templateSteps nonempty known clean [] content
  simp only [spans, pattern, finds]
  exact scanned

theorem LooksFor.seeks (looks : r.LooksFor tokens) : r.Seeks (Spells tokens) := by
  constructor
  · intro spells
    obtain ⟨b, rest, eq, _⟩ := spells.head looks.known
    cases eq
  · exact looks.scanned

namespace Seeks

variable {P : Bytes → Prop} (seeks : r.Seeks P)
include seeks

/-- After a rule whose pattern does not touch its replacement, no occurrence is left. -/
theorem apply_free (untouched : Untouched P r.replacement) (content : Bytes) :
    FreeOf P (r.apply content).1 := by
  intro start stop
  have free : GapFree P ([] ++ content) ([] : Bytes).length (r.spans content) :=
    (seeks.scanned content).gapFree fun _ _ occurs => occurs.wide seeks.solid
  exact splice_free untouched free [] start stop (Nat.zero_le start)

/-- What does not occur before a rule and does not touch its replacement does not occur after it. -/
theorem apply_keeps_free {Q : Bytes → Prop} (untouched : Untouched Q r.replacement)
    {content : Bytes} (free : FreeOf Q content) : FreeOf Q (r.apply content).1 := by
  intro start stop
  have gaps : GapFree Q ([] ++ content) ([] : Bytes).length (r.spans content) :=
    (seeks.scanned content).gapFree_of_free free
  exact splice_free untouched gaps [] start stop (Nat.zero_le start)

theorem apply_of_free {content : Bytes} (free : FreeOf P content) :
    r.apply content = (content, 0) := by
  have none : r.spans content = [] := by
    cases spans : r.spans content with
    | nil => rfl
    | cons s more =>
      have scanned := seeks.scanned content
      rw [spans] at scanned
      cases scanned with
      | next _ occurs => exact absurd occurs (free _ _)
  simp only [apply, none]
  rfl

end Seeks

end Rule

/-! Literals and templates. -/

/-- The texts that a pattern stands for: a literal for itself, and a template for its tokens with
some layout between each two. Templates with U+FFFD are left out: it matches malformed bytes as
well. -/
inductive Pattern.StandsFor : Pattern → (Bytes → Prop) → Prop where
  | literal {word : Bytes} {p : Pattern} : compile .literal word = .ok p → StandsFor p (· = word)
  | template {source : Bytes} {p : Pattern} : compile .whitespace source = .ok p →
      CodePoint.replacement ∉ values source → StandsFor p (Spells source.tokens)

theorem clean_tokens {source : Bytes} {p : Pattern}
    (accepted : Pattern.compile .whitespace source = .ok p)
    (clean : CodePoint.replacement ∉ values source) :
    ∀ t ∈ source.tokens, CodePoint.replacement ∉ values t := by
  intro t member inside
  obtain ⟨_, known, _⟩ := compile_template accepted
  exact clean (values_tokens_subset (fun u other => (known u other).valid) member inside)

namespace Pattern.StandsFor

variable {p : Pattern} {P : Bytes → Prop}

theorem seeks (stands : p.StandsFor P) {r : Rule} (pattern : r.pattern = some p) : r.Seeks P := by
  cases stands with
  | @literal word _ accepted =>
    have nonempty : word ≠ [] := by
      rintro rfl
      cases accepted
    rw [compile_literal nonempty] at accepted
    cases accepted
    exact seeks_literal nonempty pattern
  | template accepted clean =>
    exact (Rule.looksFor_of_compile accepted (clean_tokens accepted clean) pattern).seeks

theorem oneEnd (stands : p.StandsFor P) : OneEnd P := by
  cases stands with
  | literal => exact oneEnd_literal _
  | template accepted clean =>
    obtain ⟨nonempty, known, _⟩ := compile_template accepted
    exact occursAt_unique nonempty known (clean_tokens accepted clean)

end Pattern.StandsFor

/-- A rule with a literal or a template that does not touch its replacement, whatever stands around
it, finds nothing in its own results and leaves them as they are. -/
theorem Rule.apply_settled {r : Rule} {p : Pattern} {P : Bytes → Prop} (stands : p.StandsFor P)
    (pattern : r.pattern = some p) (untouched : Untouched P r.replacement) (content : Bytes) :
    r.apply (r.apply content).1 = ((r.apply content).1, 0) := by
  have seeks := stands.seeks pattern
  apply seeks.apply_of_free
  exact seeks.apply_free untouched content

theorem untouched_byte (b : UInt8) : Untouched (· = [b]) [] := by
  intro x y start stop occurs
  obtain ⟨body, after, _, rfl, rfl⟩ := occurs.drop
  simp only [List.length_cons, List.length_nil]
  omega

/-! A loop whose body is narrowed, and a byte that is taken out. -/

def wideLoop : Bytes := "for l in xs \x7b out.push(Wide \x7b l \x7d); \x7d"

def narrowLoop : Bytes := "for l in xs \x7b out.push(Narrow \x7b l \x7d); \x7d"

/-- The loop in two layouts, the second one right behind the first. -/
def wideLoops : Bytes :=
  "for l in xs \x7b
  out.push(Wide \x7b l \x7d);\n\x7dfor l in xs \x7b out.push(Wide \x7b\tl \x7d); \x7d"

theorem apply_settled_loop :
    (∃ p, p.StandsFor (Spells wideLoop.tokens) ∧ Untouched (Spells wideLoop.tokens) narrowLoop ∧
      let r : Rule := ⟨"loop", some p, narrowLoop, []⟩
      r.apply wideLoops = (narrowLoop ++ narrowLoop, 2) ∧
        r.apply (r.apply wideLoops).1 = ((r.apply wideLoops).1, 0)) ∧
    ∃ p, p.StandsFor (· = Bytes.ofString "-") ∧ Untouched (· = Bytes.ofString "-") [] ∧
      let r : Rule := ⟨"dashes", some p, [], []⟩
      r.apply "a--b" = (Bytes.ofString "ab", 2) ∧
        r.apply (r.apply "a--b").1 = ((r.apply "a--b").1, 0) := by
  constructor
  · obtain ⟨p, accepted⟩ : ∃ p, Pattern.compile .whitespace wideLoop = .ok p :=
      compile_template_accepts (by decide +kernel) (by decide +kernel) (by decide +kernel)
    obtain ⟨nonempty, known, finds⟩ := compile_template accepted
    have clean : CodePoint.replacement ∉ values wideLoop := by decide +kernel
    have marked : Marked wideLoop.tokens narrowLoop "for l in xs \x7b" "out.push(Narrow"
        "\x7b l \x7d); \x7d" 0x7D := by decide +kernel
    have stands : p.StandsFor (Spells wideLoop.tokens) := .template accepted clean
    have untouched := marked.untouched nonempty known (clean_tokens accepted clean)
    refine ⟨p, stands, untouched, ?_, Rule.apply_settled stands rfl untouched wideLoops⟩
    simp only [Rule.apply, Rule.spans, finds]
    decide +kernel
  · have stands : (Pattern.literal "-").StandsFor (· = Bytes.ofString "-") :=
      .literal (compile_literal (by decide))
    have untouched : Untouched (· = Bytes.ofString "-") [] := untouched_byte 0x2D
    refine ⟨_, stands, untouched, by decide, ?_⟩
    exact Rule.apply_settled stands rfl untouched "a--b"

end Retouch
