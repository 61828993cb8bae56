import Retouch.Proofs.Pattern.Boundary
import Retouch.Proofs.Pattern.Template

/-! Rules keep texts well formed.
A rule cuts a well-formed text at boundaries, so the pieces are well formed, and so is any text that
is put together from pieces like these. -/
namespace Retouch

open CodePoint

/-! Pieces of a well-formed text. -/

theorem isValid_assemble {first : Bytes} {pieces : List (Bytes × Bytes)}
    (head : isValid first = true)
    (parts : ∀ x ∈ pieces, isValid x.1 = true ∧ isValid x.2 = true) :
    isValid (assemble first pieces) = true := by
  rw [assemble, isValid_append head]
  induction pieces with
  | nil => rfl
  | cons x pieces ih =>
    obtain ⟨matched, gap⟩ := parts x List.mem_cons_self
    rw [List.flatMap_cons, List.append_assoc, isValid_append matched, isValid_append gap]
    exact ih fun y member => parts y (List.mem_cons_of_mem x member)

theorem isValid_gaps (lead : Bytes) {first : Bytes} {pieces : List (Bytes × Bytes)}
    (front : isValid lead = true) (valid : isValid (lead ++ assemble first pieces) = true)
    (cuts : ∀ s ∈ spansOf (lead.length + first.length) pieces,
      Boundary (lead ++ assemble first pieces) s.start ∧
        Boundary (lead ++ assemble first pieces) s.stop) :
    isValid first = true ∧ ∀ x ∈ pieces, isValid x.2 = true := by
  induction pieces generalizing lead first with
  | nil =>
    rw [assemble, List.flatMap_nil, List.append_nil, isValid_append front] at valid
    exact ⟨valid, by simp⟩
  | cons x pieces ih =>
    obtain ⟨matched, gap⟩ := x
    have whole : lead ++ assemble first ((matched, gap) :: pieces) =
        lead ++ first ++ matched ++ assemble gap pieces := by
      simp [assemble]
    rw [whole] at valid cuts
    rw [spansOf, ← List.length_append, ← List.length_append, List.forall_mem_cons] at cuts
    obtain ⟨⟨start, stop⟩, later⟩ := cuts
    have behind : isValid (lead ++ first ++ matched) = true := (boundary_append valid).mp stop
    have before : isValid (lead ++ first) = true := by
      rw [List.append_assoc] at valid start
      exact (boundary_append valid).mp start
    rw [isValid_append front] at before
    obtain ⟨head, gaps⟩ := ih _ behind valid later
    refine ⟨before, ?_⟩
    intro y member
    rcases List.mem_cons.mp member with rfl | member
    · exact head
    · exact gaps y member

namespace Rule

/-- The source of the pattern, of any kind, and the replacement are well formed. -/
structure Encoded (r : Rule) : Prop where
  pattern : ∀ p, r.pattern = some p →
    ∃ kind source, Pattern.compile kind source = .ok p ∧ isValid source = true
  replacement : isValid r.replacement = true

namespace Encoded

variable {r : Rule} (encoded : r.Encoded) {content : Bytes}
include encoded

theorem ordered (content : Bytes) : Ordered 0 content.length (r.spans content) := by
  rw [spans]
  cases pattern : r.pattern with
  | none => exact .nil
  | some p =>
    obtain ⟨kind, source, accepted, _⟩ := encoded.pattern p pattern
    apply Pattern.findAll_ordered
    rintro word rfl
    exact Pattern.compile_literal_ne_nil accepted

theorem boundaries (valid : isValid content = true) :
    ∀ s ∈ r.spans content, Boundary content s.start ∧ Boundary content s.stop := by
  rw [spans]
  cases pattern : r.pattern with
  | none =>
    intro s member
    cases member
  | some p =>
    obtain ⟨kind, source, accepted, sourceValid⟩ := encoded.pattern p pattern
    exact Pattern.findAll_boundaries accepted sourceValid valid

theorem isValid_apply (valid : isValid content = true) : isValid (r.apply content).1 = true := by
  have cuts := encoded.boundaries valid
  obtain ⟨⟨first, pieces, rfl, places, applied⟩, _⟩ := apply_pieces (encoded.ordered content)
  rw [places] at cuts
  obtain ⟨head, gaps⟩ := isValid_gaps [] rfl valid (by simpa using cuts)
  rw [applied]
  apply isValid_assemble head
  intro x member
  obtain ⟨y, inside, rfl⟩ := List.mem_map.mp member
  exact ⟨encoded.replacement, gaps y inside⟩

end Encoded

end Rule

theorem isValid_applyAll {rules : List Rule} (encoded : ∀ r ∈ rules, r.Encoded) {content : Bytes}
    (valid : isValid content = true) : isValid (applyAll rules content).1 = true := by
  induction rules generalizing content with
  | nil => exact valid
  | cons r rules ih =>
    rw [List.forall_mem_cons] at encoded
    exact ih encoded.2 (encoded.1.isValid_apply valid)

/-- Rules with well-formed sources and replacements keep a well-formed text so, whatever rules of
any kinds go before: every one of them gets a well-formed text, finds its spans between boundaries
of that text and hands a well-formed text on. -/
theorem replaceAll_encoded {rules : List Rule} (encoded : ∀ r ∈ rules, r.Encoded)
    {content : Bytes} (valid : isValid content = true) :
    isValid (replaceAll rules content).modified = true ∧
    ∀ before r after, rules = before ++ r :: after →
      ∃ buffer next, buffer = (replaceAll before content).modified ∧
        next = (r.apply buffer).1 ∧
        (replaceAll rules content).modified = (replaceAll after next).modified ∧
        (replaceAll rules content).rules = (replaceAll before content).rules ++
          ⟨r.name, (r.spans buffer).length⟩ :: (replaceAll after next).rules ∧
        isValid buffer = true ∧ isValid next = true ∧
        ∀ s ∈ r.spans buffer, Boundary buffer s.start ∧ Boundary buffer s.stop := by
  refine ⟨isValid_applyAll encoded valid, ?_⟩
  rintro before r after rfl
  have here : r.Encoded := encoded r (by simp)
  have bufferValid : isValid (applyAll before content).1 = true := by
    apply isValid_applyAll _ valid
    intro q member
    exact encoded q (List.mem_append_left _ member)
  have whole := applyAll_append before (r :: after) content
  refine ⟨_, _, rfl, rfl, ?_, ?_, bufferValid, here.isValid_apply bufferValid,
    here.boundaries bufferValid⟩
  · simp only [replaceAll, whole, applyAll]
  · simp only [replaceAll, whole, applyAll, Rule.apply]

def everyKind (word expression template : Pattern) : List Rule :=
  [⟨"word", some word, "x€x", []⟩, ⟨"expression", some expression, "\t", []⟩,
    ⟨"template", some template, "ß", []⟩]

/-- The expression has empty matches, and the layout between the tokens of the template comes from
the rule before it. -/
theorem replaceAll_encoded_kinds :
    ∃ word expression template, Pattern.compile .literal "é" = .ok word ∧
      Pattern.compile .regexp "x*" = .ok expression ∧
      Pattern.compile .whitespace "ü ö" = .ok template ∧
      (replaceAll (everyKind word expression template) "éüö").modified =
        Bytes.ofString "\t€\tß\t" ∧
      isValid (replaceAll (everyKind word expression template) "éüö").modified = true := by
  have word : Pattern.compile .literal "é" = .ok (.literal "é") := compile_literal (by decide)
  have isAccepted : (Pattern.compile .regexp "x*").toOption.isSome = true := by decide +kernel
  obtain ⟨q, some⟩ := Option.isSome_iff_exists.mp isAccepted
  have expression := eq_ok_of_toOption some
  obtain ⟨t, template⟩ : ∃ t, Pattern.compile .whitespace "ü ö" = .ok t :=
    compile_template_accepts (by decide) (by decide) (by decide)
  have encoded : ∀ r ∈ everyKind (.literal "é") q t, r.Encoded := by
    simp only [everyKind, List.forall_mem_cons]
    refine ⟨⟨?_, ?_⟩, ⟨?_, ?_⟩, ⟨?_, ?_⟩, by simp⟩
    · rintro _ ⟨⟩
      exact ⟨_, _, word, by decide⟩
    · change isValid (Bytes.ofString "x€x") = true
      decide
    · rintro _ ⟨⟩
      exact ⟨_, _, expression, by decide⟩
    · change isValid (Bytes.ofString "\t") = true
      decide
    · rintro _ ⟨⟩
      exact ⟨_, _, template, by decide⟩
    · change isValid (Bytes.ofString "ß") = true
      decide
  have found : q.findAll "x€xüö" = [⟨0, 1⟩, ⟨4, 5⟩, ⟨7, 7⟩, ⟨9, 9⟩] := by
    have all : (Pattern.compile .regexp "x*").toOption.map (·.findAll "x€xüö") =
        Option.some [⟨0, 1⟩, ⟨4, 5⟩, ⟨7, 7⟩, ⟨9, 9⟩] := by
      decide +kernel
    rw [some] at all
    exact Option.some.inj all
  have first : (Rule.apply ⟨"word", Option.some (.literal "é"), "x€x", []⟩ "éüö").1 =
      Bytes.ofString "x€xüö" := by
    decide
  have second : (Rule.apply ⟨"expression", Option.some q, "\t", []⟩ "x€xüö").1 =
      Bytes.ofString "\t€\tü\tö\t" := by
    simp only [Rule.apply, Rule.spans, found]
    decide
  have third : (Rule.apply ⟨"template", Option.some t, "ß", []⟩ "\t€\tü\tö\t").1 =
      Bytes.ofString "\t€\tß\t" := by
    simp only [Rule.apply, Rule.spans, (compile_template template).2.2]
    decide +kernel
  have valid : isValid (Bytes.ofString "éüö") = true := by decide
  refine ⟨_, q, t, word, expression, template, ?_, (replaceAll_encoded encoded valid).1⟩
  simp only [replaceAll, everyKind, applyAll, first, second, third]

end Retouch
