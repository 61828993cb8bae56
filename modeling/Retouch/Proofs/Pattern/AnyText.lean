import Retouch.Proofs.Pattern.Template
import Retouch.Proofs.Text.Boundary
import Retouch.Proofs.Text.Collapse

/-! Any text as a template.
Quoting a token takes the meaning from all its signs, so a text is refused as a template only if it
has no token, if it is malformed, or if it is too large. -/
namespace Retouch

open CodePoint Regexp

/-- A text is well formed exactly if its tokens are. -/
theorem isValid_iff_tokens (text : Bytes) :
    isValid text = true ↔ ∀ t ∈ text.tokens, isValid t = true := by
  induction text using layout_induction with
  | nil => simp [isValid, Bytes.tokens]
  | layout x rest kind ih =>
    have byte := x.toNat_lt
    have well : (⟨x.toNat, 1⟩ : CodePoint).isMalformed = false := by
      apply isMalformed_of_value
      simp only [replacement]
      omega
    rw [Bytes.tokens_layout kind, ← ih, isValid_cons, read_layout kind, well]
    rfl
  | word w rest solid nonempty edge ih =>
    have starts : ∀ c, rest.head? = some c → isContinuation c = false :=
      fun c head => isContinuation_layout (edge c head)
    rw [Bytes.tokens_word solid nonempty edge, List.forall_mem_cons, ← ih,
      isValid_append_of_head starts, Bool.and_eq_true]

theorem tokens_eq_nil_iff (text : Bytes) : text.tokens = [] ↔ Layout text := by
  induction text using layout_induction with
  | nil => simp [Layout, Bytes.tokens]
  | layout x rest kind ih => simp [Bytes.tokens_layout kind, ih, Layout, kind]
  | word w rest solid nonempty edge ih =>
    rw [Bytes.tokens_word solid nonempty edge]
    refine iff_of_false (List.cons_ne_nil _ _) fun layout => ?_
    obtain ⟨x, w, rfl⟩ := List.exists_cons_of_ne_nil nonempty
    have dense := solid x List.mem_cons_self
    rw [layout x List.mem_cons_self] at dense
    cases dense

namespace Regexp

def literalExpr (text : Bytes) : Expr := Expr.seqAll ((values text).map fun v => .set (.single v))

def gapExpr : Expr := .plus (.set blanks) true

/-- The expression of literal texts with a run of blanks between each two of them. -/
def spacedExpr (tokens : List Bytes) : Expr :=
  Expr.seqAll ((tokens.map literalExpr).intersperse gapExpr)

theorem toExpr_literalPart (text : Bytes) :
    (literalPart (values text)).toExpr = literalExpr text := by
  simp [literalPart, literalExpr, Piece.toExpr, Function.comp_def]

theorem rowExpr_values (tokens : List Bytes) : rowExpr (tokens.map values) = spacedExpr tokens := by
  have parts : (rowParts (tokens.map values)).map Piece.toExpr =
      (tokens.map literalExpr).intersperse gapExpr := by
    induction tokens with
    | nil => rfl
    | cons t rest ih =>
      cases rest with
      | nil => simp [rowParts, toExpr_literalPart]
      | cons t' rest =>
        simp only [List.map_cons, rowParts, List.intersperse_cons_cons, toExpr_literalPart] at ih ⊢
        rw [ih]
        rfl
  rw [rowExpr, parts, spacedExpr]

theorem parse_anyBlanks : parse Pattern.anyBlanks = .ok gapExpr := by
  have strict : ([] : Bytes).head? ≠ some 0x3F := by decide
  have reads := readParts_gap Pattern.anyBlanks plain_start strict
  rw [if_neg (by decide), List.append_nil] at reads
  have kept : (State.start.withGap []).stored = 6 := rfl
  have low : State.gapPart.measure.height ≤ maxHeight := by decide
  have size : State.gapPart.measure.size ≤ maxSize := by decide
  have room : 6 ≤ maxStored := by decide
  rcases parse_of_plain (plain_start.withGap []) low reads with eq | ⟨_, full | large⟩
  · exact eq
  · omega
  · exact absurd large (Nat.not_lt.mpr size)

theorem parse_escapeToken {t : Bytes} (nonempty : t ≠ []) (valid : isValid t = true)
    (small : (Pattern.escapeToken t).length ≤ maxSize) :
    parse (Pattern.escapeToken t) = .ok (literalExpr t) := by
  have single : Pattern.templateExpression [t] = Pattern.escapeToken t := by
    simp [Pattern.templateExpression, List.intercalate]
  rw [← single] at small ⊢
  rw [parse_templateExpression_ok (by simp) (by simpa using nonempty) (by simpa using valid) small,
    rowExpr_values]
  rfl

end Regexp

namespace Pattern

open Regexp

theorem message_badTemplate (e : Regexp.Error) :
    (Error.badTemplate e).message ≠ "template is empty" := by
  intro same
  have lengths := congrArg List.length same
  have front : ("compiling template: " : Bytes).length = 20 := by decide
  have whole : ("template is empty" : Bytes).length = 17 := by decide
  rw [Error.message, List.length_append, front, whole] at lengths
  omega

theorem ofTemplate_tokens {source : Bytes} (nonempty : source.tokens ≠ []) :
    ofTemplate source = match parse (templateExpression source.tokens) with
      | .ok e => .ok (.template source (templateExpression source.tokens) e)
      | .error e => .error (.badTemplate e) := by
  rw [ofTemplate]
  split
  · contradiction
  · rfl

theorem ofTemplate_empty_iff (source : Bytes) :
    (∃ e, ofTemplate source = .error e ∧ e.message = "template is empty") ↔ Layout source := by
  rw [← tokens_eq_nil_iff]
  by_cases none : source.tokens = []
  · rw [ofTemplate, none]
    exact iff_of_true ⟨_, rfl, rfl⟩ rfl
  · rw [ofTemplate_tokens none]
    refine iff_of_false ?_ none
    rintro ⟨e, fails, told⟩
    split at fails
    · cases fails
    · cases fails
      exact message_badTemplate _ told

/-- Any text can be a template. It is refused as empty exactly if it is layout. Any other text is
refused exactly if it is malformed, or perhaps if its expression has more bytes than an expression
may have steps. An accepted one is read as its tokens, whatever signs they hold, with a run of
blanks between each two of them. -/
theorem ofTemplate_any (source : Bytes) :
    let expression := templateExpression source.tokens
    ((∃ e, ofTemplate source = .error e ∧ e.message = "template is empty") ↔ Layout source) ∧
    (¬Layout source → isValid source = false → ∃ e, ofTemplate source = .error (.badTemplate e) ∧
      (e.fault = .badEncoding ∨ e.fault = .tooLarge ∧ maxSize < expression.length)) ∧
    (¬Layout source → isValid source = true →
      (ofTemplate source = .ok (.template source expression (spacedExpr source.tokens)) ∧
        parse expression = .ok (spacedExpr source.tokens)) ∨
      ∃ e, ofTemplate source = .error (.badTemplate e) ∧ e.fault = .tooLarge ∧
        maxSize < expression.length) ∧
    parse anyBlanks = .ok gapExpr ∧
    ∀ t ∈ source.tokens, isValid t = true → (escapeToken t).length ≤ maxSize →
      parse (escapeToken t) = .ok (literalExpr t) := by
  intro expression
  refine ⟨ofTemplate_empty_iff source, ?_, ?_, parse_anyBlanks, fun t member =>
    parse_escapeToken (Bytes.tokens_ne_nil member)⟩
  · intro filled malformed
    have nonempty := mt (tokens_eq_nil_iff source).mp filled
    rw [ofTemplate_tokens nonempty]
    rcases parse_templateExpression_cases nonempty (fun t => Bytes.tokens_ne_nil) with
      ⟨valid, _⟩ | ⟨e, fails, ⟨encoding, _⟩ | large⟩
    · rw [← isValid_iff_tokens, malformed] at valid
      cases valid
    · exact ⟨e, by rw [fails], .inl encoding⟩
    · exact ⟨e, by rw [fails], .inr large⟩
  · intro filled valid
    have nonempty := mt (tokens_eq_nil_iff source).mp filled
    rw [ofTemplate_tokens nonempty]
    rcases parse_templateExpression_cases nonempty (fun t => Bytes.tokens_ne_nil) with
      ⟨_, reads⟩ | ⟨e, fails, ⟨_, invalid⟩ | large⟩
    · rw [rowExpr_values] at reads
      exact .inl ⟨by rw [reads], reads⟩
    · exact absurd ((isValid_iff_tokens source).mp valid) invalid
    · exact .inr ⟨e, by rw [fails], large⟩

/-- Tokens that start with signs of repetition, with open brackets and with a backslash at the
end. -/
theorem ofTemplate_any_signs :
    let source : Bytes := "*a( [\t+\x7b2,\x7d?\n\\"
    let expression : Bytes := "\\*a\\(\\s+\\[\\s+\\+\\\x7b2,\\\x7d\\?\\s+\\\\"
    let tokens : List Bytes := ["*a(", "[", "+\x7b2,\x7d?", "\\"]
    ¬Layout source ∧ isValid source = true ∧
      ofTemplate source = .ok (.template source expression (spacedExpr tokens)) ∧
      parse expression = .ok (spacedExpr tokens) := by
  intro source expression tokens
  have cut : source.tokens = tokens := by decide
  have quoted : templateExpression tokens = expression := by decide
  have filled : ¬Layout source := by
    rw [← tokens_eq_nil_iff, cut]
    exact List.cons_ne_nil _ _
  have valid : isValid source = true := by decide
  have short : ¬maxSize < expression.length := by decide
  obtain ⟨_, _, accepts, _⟩ := ofTemplate_any source
  rw [cut, quoted] at accepts
  rcases accepts filled valid with ⟨made, reads⟩ | ⟨_, _, _, large⟩
  · exact ⟨filled, valid, made, reads⟩
  · exact absurd large short

end Pattern

end Retouch
