import Retouch.Proofs.Pattern.Expression

/-! Templates as rows.
The expression of a template is read as a row: its tokens code point by code point, with a run of
blanks between two of them. It is refused only for a malformed byte or for its size. -/
namespace Retouch.Regexp

open CodePoint Pattern

def literalPart (vs : List Nat) : Piece := .literal false (vs.map CharSet.single).reverse

/-- The parts that tokens are read as, in order. -/
def rowParts : List (List Nat) → List Piece
  | [] => []
  | [vs] => [literalPart vs]
  | vs :: more => literalPart vs :: State.gapPart :: rowParts more

def Step.ofTokens : List (List Nat) → List Step
  | [] => []
  | [vs] => vs.map .point
  | vs :: rest => vs.map .point ++ .gap :: ofTokens rest

def rowExpr (tokens : List (List Nat)) : Expr := Expr.seqAll ((rowParts tokens).map Piece.toExpr)

/-! The expression is a row with these steps. -/

theorem Row.append {w v : Work} {steps others : List Step} (row : Row w steps)
    (other : Row v others) : Row (w ++ v) (steps ++ others) := by
  induction row with
  | nil => exact other
  | point _ ih => exact .point ih
  | gap _ ih => exact .gap ih
  | more _ ih => exact .more ih
  | seq _ ih => exact .seq ih

theorem Row.seqAll_cons {e : Expr} {es : List Expr} {steps others : List Step}
    (row : Row [e] steps) (nonempty : es ≠ []) (rest : Row [Expr.seqAll es] others) :
    Row [Expr.seqAll (e :: es)] (steps ++ others) := by
  cases es with
  | nil => exact absurd rfl nonempty
  | cons e' es => exact .seq (row.append rest)

theorem row_literalPart {vs : List Nat} (nonempty : vs ≠ []) :
    Row [(literalPart vs).toExpr] (vs.map .point) := by
  simp only [literalPart, Piece.toExpr, List.reverse_reverse, List.map_map]
  induction vs with
  | nil => exact absurd rfl nonempty
  | cons v vs ih =>
    cases vs with
    | nil => exact .point .nil
    | cons v' vs => exact Row.seqAll_cons (.point .nil) (by simp) (ih (by simp))

theorem rowParts_ne_nil {tokens : List (List Nat)} (nonempty : tokens ≠ []) :
    rowParts tokens ≠ [] := by
  match tokens, nonempty with
  | [_], _ => simp [rowParts]
  | _ :: _ :: _, _ => simp [rowParts]

theorem row_rowExpr {tokens : List (List Nat)} (nonempty : tokens ≠ [])
    (solid : ∀ vs ∈ tokens, vs ≠ []) : Row [rowExpr tokens] (Step.ofTokens tokens) := by
  induction tokens with
  | nil => exact absurd rfl nonempty
  | cons vs rest ih =>
    have head := row_literalPart (solid vs List.mem_cons_self)
    cases rest with
    | nil => exact head
    | cons vs' rest =>
      have tail := ih (by simp) fun us member => solid us (List.mem_cons_of_mem _ member)
      have gap : Row [State.gapPart.toExpr] [.gap] := .gap .nil
      exact Row.seqAll_cons head (by simp)
        (Row.seqAll_cons gap (by simpa using rowParts_ne_nil (List.cons_ne_nil vs' rest)) tail)

theorem apart_ofTokens {tokens : List (List Nat)}
    (solid : ∀ vs ∈ tokens, ∃ v us, vs = v :: us ∧ blanks.contains v = false) :
    Step.Apart (Step.ofTokens tokens) := by
  have points : ∀ (vs : List Nat) (steps : List Step), Step.Apart steps →
      Step.Apart (vs.map .point ++ steps) := by
    intro vs steps apart
    induction vs with
    | nil => exact apart
    | cons v vs ih => exact ih
  induction tokens with
  | nil => trivial
  | cons vs rest ih =>
    cases rest with
    | nil => simpa [Step.ofTokens] using points vs [] trivial
    | cons vs' rest =>
      have tail := ih fun us member => solid us (List.mem_cons_of_mem _ member)
      obtain ⟨v, us, rfl, clear⟩ := solid vs' (by simp)
      refine points vs _ ⟨?_, tail⟩
      cases rest with
      | nil => exact clear
      | cons => exact clear

theorem ofTokens_ne_nil {tokens : List (List Nat)} (nonempty : tokens ≠ [])
    (solid : ∀ vs ∈ tokens, vs ≠ []) : Step.ofTokens tokens ≠ [] := by
  match tokens, nonempty with
  | [vs], _ => simpa [Step.ofTokens] using solid vs
  | _ :: _ :: _, _ => simp [Step.ofTokens]

/-! Reading the expression. -/

theorem foldl_addPoint {vs : List Nat} (nonempty : vs ≠ []) {row : List Piece}
    (loose : row = [] ∨ ∃ more, row = State.gapPart :: more) :
    vs.foldl State.addPoint row = literalPart vs :: row := by
  have joined : ∀ (us : List Nat) (sets : List CharSet),
      us.foldl State.addPoint (.literal false sets :: row) =
        .literal false ((us.map CharSet.single).reverse ++ sets) :: row := by
    intro us
    induction us with
    | nil => intro sets; rfl
    | cons u us ih =>
      intro sets
      have one : State.addPoint (.literal false sets :: row) u =
          .literal false (.single u :: sets) :: row := rfl
      rw [List.foldl_cons, one, ih]
      simp
  cases vs with
  | nil => exact absurd rfl nonempty
  | cons v vs =>
    have first : State.addPoint row v = .literal false [.single v] :: row := by
      rcases loose with rfl | ⟨more, rfl⟩ <;> rfl
    rw [List.foldl_cons, first, joined, literalPart]
    simp

theorem templateExpression_cons (t t' : Bytes) (rest : List Bytes) :
    templateExpression (t :: t' :: rest) =
      escapeToken t ++ (anyBlanks ++ templateExpression (t' :: rest)) := by
  simp [templateExpression, List.intercalate]

theorem length_escapeToken (token : Bytes) : token.length ≤ (escapeToken token).length := by
  induction token with
  | nil => exact Nat.le_refl _
  | cons b rest ih =>
    rw [escapeToken_cons, List.length_append, List.length_cons]
    split
    · simp only [List.length_cons, List.length_nil]; omega
    · simp only [List.length_cons, List.length_nil]; omega

theorem head_escapeToken {token : Bytes} (nonempty : token ≠ []) (rest : Bytes) :
    (escapeToken token ++ rest).head? ≠ some 0x3F := by
  cases token with
  | nil => exact absurd rfl nonempty
  | cons b more =>
    rw [escapeToken_cons]
    split
    · simp
    · rename_i plain
      simp only [List.cons_append, List.head?_cons, ne_eq, Option.some.injEq]
      rintro rfl
      exact plain (by decide)

theorem head_templateExpression {t : Bytes} (nonempty : t ≠ []) (rest : List Bytes) :
    (templateExpression (t :: rest)).head? ≠ some 0x3F := by
  cases rest with
  | nil => simpa [templateExpression, List.intercalate] using head_escapeToken nonempty []
  | cons t' rest =>
    rw [templateExpression_cons]
    exact head_escapeToken nonempty _

/-- All tokens of a template read as the parts of its row, unless a byte of them is malformed or too
much has been kept before. -/
theorem readParts_template (whole : Bytes) {tokens : List Bytes} (nonempty : tokens ≠ [])
    (solid : ∀ t ∈ tokens, t ≠ []) {s : State} {row : List Piece} (plain : s.Plain row)
    (loose : row = [] ∨ ∃ more, row = State.gapPart :: more) :
    ((∀ t ∈ tokens, isValid t = true) ∧
      ∃ s', State.Plain s' ((rowParts (tokens.map values)).reverse ++ row) ∧
        s'.stored ≤ s.stored + 2 * (templateExpression tokens).length ∧
        readParts whole s 0 (templateExpression tokens) = .ok s') ∨
    (∃ e, readParts whole s 0 (templateExpression tokens) = .error e ∧
      e.Refuses (∀ t ∈ tokens, isValid t = true)
        (s.stored + 2 * (templateExpression tokens).length)) := by
  induction tokens generalizing s row with
  | nil => exact absurd rfl nonempty
  | cons t rest ih =>
    have longer := length_escapeToken t
    have literal := foldl_addPoint (values_ne_nil (solid t List.mem_cons_self)) loose
    rw [List.forall_mem_cons]
    cases rest with
    | nil =>
      have single : templateExpression [t] = escapeToken t := by
        simp [templateExpression, List.intercalate]
      have token := readParts_token whole t (.inl rfl) plain
      rw [List.append_nil, literal] at token
      rw [single]
      rcases token with
        ⟨valid, s', plain', stored, reads⟩ | ⟨e, fails, ⟨encoding, invalid⟩ | ⟨large, full⟩⟩
      · exact .inl ⟨by simpa using valid, s', plain', by omega, reads⟩
      · exact .inr ⟨e, fails, .inl ⟨encoding, fun valid => invalid valid.1⟩⟩
      · exact .inr ⟨e, fails, .inr ⟨large, by omega⟩⟩
    | cons t' rest =>
      have edge : Edge (anyBlanks ++ templateExpression (t' :: rest)) := .inr ⟨_, rfl⟩
      have token := readParts_token whole t edge plain
      have length : (templateExpression (t :: t' :: rest)).length =
          (escapeToken t).length + (3 + (templateExpression (t' :: rest)).length) := by
        rw [templateExpression_cons, List.length_append, List.length_append]; rfl
      rw [literal] at token
      rw [length, templateExpression_cons]
      rcases token with
        ⟨valid, s₁, plain₁, stored₁, reads₁⟩ | ⟨e, fails, ⟨encoding, invalid⟩ | ⟨large, full⟩⟩
      · have strict := head_templateExpression (solid t' (by simp)) rest
        rw [reads₁, readParts_gap whole plain₁ strict]
        split
        · exact .inr ⟨_, rfl, .inr ⟨rfl, by omega⟩⟩
        · have six : (s₁.withGap (templateExpression (t' :: rest))).stored = s₁.stored + 6 := rfl
          rcases ih (by simp) (fun u member => solid u (List.mem_cons_of_mem _ member))
            (plain₁.withGap _) (.inr ⟨_, rfl⟩) with
            ⟨valids, s', plain', stored', reads'⟩ | ⟨e, fails, ⟨encoding, invalid⟩ | ⟨large, full⟩⟩
          · refine .inl ⟨⟨valid, valids⟩, s', ?_, by omega, reads'⟩
            simpa [rowParts] using plain'
          · exact .inr ⟨e, fails, .inl ⟨encoding, fun valids => invalid valids.2⟩⟩
          · exact .inr ⟨e, fails, .inr ⟨large, by omega⟩⟩
      · exact .inr ⟨e, fails, .inl ⟨encoding, fun valids => invalid valids.1⟩⟩
      · exact .inr ⟨e, fails, .inr ⟨large, by omega⟩⟩

/-! The row as a whole. -/

def Flat (ps : List Piece) : Prop := ∀ p ∈ ps, ∀ parts m, p ≠ .concat parts m

theorem ofRow_flat {p q : Piece} {ps : List Piece} (flat : Flat (p :: q :: ps)) :
    Piece.ofRow (p :: q :: ps) =
      .concat ((p :: q :: ps).map Piece.toExpr) (.join ((p :: q :: ps).map Piece.measure)) := by
  simp only [Piece.ofRow]
  congr 1
  · rw [List.map_eq_flatMap, List.flatMap_def, List.flatMap_def]
    refine congrArg List.flatten (List.map_congr_left fun r member => ?_)
    split
    · exact absurd rfl (flat _ member _ _)
    · rfl
  · refine congrArg Measure.join (List.map_congr_left fun r member => ?_)
    split
    · exact absurd rfl (flat _ member _ _)
    · rfl

theorem toExpr_ofRow {ps : List Piece} (nonempty : ps ≠ []) (flat : Flat ps) :
    (Piece.ofRow ps).toExpr = Expr.seqAll (ps.map Piece.toExpr) := by
  match ps, nonempty with
  | [p], _ => rfl
  | p :: q :: ps, _ => rw [ofRow_flat flat]; rfl

theorem rowParts_flat {tokens : List (List Nat)} {p : Piece} (member : p ∈ rowParts tokens) :
    (∃ vs, p = literalPart vs ∧ vs ∈ tokens) ∨ p = State.gapPart := by
  induction tokens with
  | nil => cases member
  | cons vs rest ih =>
    cases rest with
    | nil => exact .inl ⟨vs, by simpa [rowParts] using member, List.mem_cons_self⟩
    | cons vs' rest =>
      simp only [rowParts, List.mem_cons] at member
      rcases member with rfl | rfl | member
      · exact .inl ⟨vs, rfl, List.mem_cons_self⟩
      · exact .inr rfl
      · rcases ih member with ⟨us, eq, inside⟩ | eq
        · exact .inl ⟨us, eq, List.mem_cons_of_mem _ inside⟩
        · exact .inr eq

def totalSize : List Measure → Nat
  | [] => 0
  | m :: rest => m.size + totalSize rest

theorem join_bounds (ms : List Measure) (h : Nat) (low : ∀ m ∈ ms, m.height ≤ h) :
    (Measure.join ms).height ≤ h ∧ (Measure.join ms).size = totalSize ms := by
  have step : ∀ (ms : List Measure) (a : Measure), (∀ m ∈ ms, m.height ≤ h) → a.height ≤ h →
      (ms.foldl (fun a b => (⟨max a.height b.height, a.size + b.size, max a.copies b.copies⟩ :
        Measure)) a).height ≤ h ∧
      (ms.foldl (fun a b => (⟨max a.height b.height, a.size + b.size, max a.copies b.copies⟩ :
        Measure)) a).size = a.size + totalSize ms := by
    intro ms
    induction ms with
    | nil => intro a _ le; exact ⟨le, rfl⟩
    | cons m ms ih =>
      intro a low le
      have this := low m List.mem_cons_self
      have rest := ih ⟨max a.height m.height, a.size + m.size, max a.copies m.copies⟩
        (fun m' member => low m' (List.mem_cons_of_mem _ member)) (Nat.max_le.mpr ⟨le, this⟩)
      refine ⟨rest.1, ?_⟩
      rw [List.foldl_cons, rest.2, totalSize, Nat.add_assoc]
  have whole := step ms ⟨0, 0, 0⟩ low (Nat.zero_le h)
  rwa [Nat.zero_add] at whole

theorem measure_ofRow {ps : List Piece} (nonempty : ps ≠ []) (flat : Flat ps) (h : Nat)
    (low : ∀ p ∈ ps, p.measure.height ≤ h) :
    (Piece.ofRow ps).measure.height ≤ h + 1 ∧
      (Piece.ofRow ps).measure.size ≤ max 1 (totalSize (ps.map Piece.measure)) := by
  match ps, nonempty with
  | [p], _ =>
    refine ⟨Nat.le_succ_of_le (low p List.mem_cons_self), ?_⟩
    simp only [Piece.ofRow, List.map_cons, List.map_nil, totalSize]
    omega
  | p :: q :: ps, _ =>
    have inner : ∀ m ∈ (p :: q :: ps).map Piece.measure, m.height ≤ h := by
      intro m member
      obtain ⟨r, inside, rfl⟩ := List.mem_map.mp member
      exact low r inside
    obtain ⟨height, size⟩ := join_bounds _ h inner
    rw [ofRow_flat flat]
    simp only [Piece.measure, Measure.under, size]
    omega

/-- A part that is not too tall is refused only for its size. -/
theorem check_cases (whole : Bytes) (s : State) {p : Piece} (low : p.measure.height ≤ maxHeight) :
    s.check whole p = .ok { s with counts := State.countsWith s.counts p } ∨
      s.check whole p = .error ⟨.tooLarge, whole⟩ ∧
        (maxStored < s.stored ∨ maxSize < p.measure.size) := by
  unfold State.check
  dsimp only
  split
  · rename_i full
    exact .inr ⟨rfl, .inl full⟩
  split
  · rename_i large
    rw [Bool.and_eq_true, decide_eq_true_eq, decide_eq_true_eq] at large
    exact .inr ⟨rfl, .inr large.2⟩
  · rw [if_neg (Nat.not_lt.mpr low)]
    exact .inl rfl

theorem endBranch_plain (whole : Bytes) {s : State} {row : List Piece} (plain : s.Plain row)
    (low : (Piece.ofRow row.reverse).measure.height ≤ maxHeight) :
    (∃ s', s'.around = [] ∧ s'.stored = s.stored ∧ s'.frame.branches = [Piece.ofRow row.reverse] ∧
      s.endBranch whole = .ok s') ∨
    s.endBranch whole = .error ⟨.tooLarge, whole⟩ ∧
      (maxStored < s.stored ∨ maxSize < (Piece.ofRow row.reverse).measure.size) := by
  simp only [State.endBranch, plain.parts]
  generalize (if row.length = 1 then _ else _ : Nodes) = nodes
  rcases check_cases whole { s with nodes := nodes } low with checked | ⟨large, why⟩
  · rw [checked]
    refine .inl ⟨_, ?_, ?_, ?_, rfl⟩ <;> rw [State.addBranch, plain.branches]
    exact plain.around
  · rw [large]
    exact .inr ⟨rfl, why⟩

/-- The end of a row without branches before it, unless the row is too large. -/
theorem endGroup_plain (whole : Bytes) {s : State} {row : List Piece} (plain : s.Plain row)
    (low : (Piece.ofRow row.reverse).measure.height ≤ maxHeight) :
    (∃ s', s'.around = [] ∧ s.endGroup whole = .ok (s', Piece.ofRow row.reverse)) ∨
    s.endGroup whole = .error ⟨.tooLarge, whole⟩ ∧
      (maxStored < s.stored ∨ maxSize < (Piece.ofRow row.reverse).measure.size) := by
  unfold State.endGroup
  rcases endBranch_plain whole plain low with ⟨s', around, stored, branches, ends⟩ | ⟨large, why⟩
  · simp only [ends, bind, Except.bind, branches]
    have body : Piece.ofBranches [Piece.ofRow row.reverse].reverse = Piece.ofRow row.reverse := rfl
    have nodes : (if [Piece.ofRow row.reverse].length = 1 then s'.nodes else s'.nodes.take.give
        ([Piece.ofRow row.reverse].countP Piece.isAlternate)) = s'.nodes := rfl
    rw [body, nodes]
    rcases check_cases whole s' low with checked | ⟨large, why⟩
    · rw [checked]
      exact .inl ⟨{ s' with counts := State.countsWith s'.counts (Piece.ofRow row.reverse) },
        around, rfl⟩
    · rw [large]
      exact .inr ⟨rfl, stored ▸ why⟩
  · rw [large]
    exact .inr ⟨rfl, why⟩

theorem size_rowParts {tokens : List Bytes} (solid : ∀ t ∈ tokens, t ≠ []) :
    totalSize ((rowParts (tokens.map values)).map Piece.measure) ≤
      (templateExpression tokens).length := by
  have literal : ∀ t : Bytes, t ≠ [] →
      (literalPart (values t)).measure.size ≤ (escapeToken t).length := by
    intro t nonempty
    have longer := length_escapeToken t
    have shorter := length_values_le t
    have pos := List.length_pos_iff.mpr nonempty
    simp only [literalPart, Piece.measure, Measure.leaf, List.length_reverse, List.length_map]
    omega
  induction tokens with
  | nil => exact Nat.le_refl _
  | cons t rest ih =>
    have head := literal t (solid t List.mem_cons_self)
    cases rest with
    | nil => simpa [rowParts, templateExpression, List.intercalate, totalSize] using head
    | cons t' rest =>
      have tail := ih fun u member => solid u (List.mem_cons_of_mem _ member)
      have gap : State.gapPart.measure.size = 2 := rfl
      have blanks : anyBlanks.length = 3 := rfl
      rw [templateExpression_cons]
      simp only [List.map_cons, rowParts, totalSize, List.length_append] at tail ⊢
      omega

theorem plain_start : State.Plain .start [] := ⟨rfl, rfl, rfl, rfl⟩

theorem flat_rowParts (tokens : List (List Nat)) : Flat (rowParts tokens) := by
  intro p member parts m eq
  rcases rowParts_flat member with ⟨vs, rfl, _⟩ | rfl <;> cases eq

theorem parse_of_plain {text : Bytes} {s : State} {row : List Piece} (plain : s.Plain row)
    (low : (Piece.ofRow row.reverse).measure.height ≤ maxHeight)
    (reads : readParts text .start 0 text = .ok s) :
    parse text = .ok (Piece.ofRow row.reverse).toExpr ∨
    parse text = .error ⟨.tooLarge, text⟩ ∧
      (maxStored < s.stored ∨ maxSize < (Piece.ofRow row.reverse).measure.size) := by
  rw [parse, reads]
  simp only [bind, Except.bind]
  rcases endGroup_plain text plain low with ⟨s', around, ends⟩ | ⟨large, why⟩
  · rw [ends]
    simp [pure, Except.pure, around]
  · rw [large]
    exact .inr ⟨rfl, why⟩

/-- The expression of a template is read as its row, unless a byte is malformed or it is too
large. -/
theorem parse_templateExpression_cases {tokens : List Bytes} (nonempty : tokens ≠ [])
    (solid : ∀ t ∈ tokens, t ≠ []) :
    ((∀ t ∈ tokens, isValid t = true) ∧
      parse (templateExpression tokens) = .ok (rowExpr (tokens.map values))) ∨
    ∃ e, parse (templateExpression tokens) = .error e ∧
      (e.fault = .badEncoding ∧ (¬∀ t ∈ tokens, isValid t = true) ∨
        e.fault = .tooLarge ∧ maxSize < (templateExpression tokens).length) := by
  have start : State.start.stored = 0 := rfl
  have limits : 2 * maxSize < maxStored := by decide
  rcases readParts_template (templateExpression tokens) nonempty solid plain_start (.inl rfl) with
    ⟨valid, s, plain, stored, reads⟩ | ⟨e, fails, refuses⟩
  · have parts : rowParts (tokens.map values) ≠ [] := rowParts_ne_nil (by simpa using nonempty)
    have flat := flat_rowParts (tokens.map values)
    have low : ∀ p ∈ rowParts (tokens.map values), p.measure.height ≤ 2 := by
      intro p member
      rcases rowParts_flat member with ⟨vs, rfl, _⟩ | rfl
      · exact Nat.le_succ 1
      · exact Nat.le_refl 2
    obtain ⟨height, size⟩ := measure_ofRow parts flat 2 low
    have sizes := size_rowParts solid
    have tall : (Piece.ofRow (rowParts (tokens.map values))).measure.height ≤ maxHeight :=
      Nat.le_trans height (by decide)
    rw [List.append_nil] at plain
    have one : 1 ≤ maxSize := by decide
    rcases parse_of_plain plain (by rwa [List.reverse_reverse]) reads with eq | ⟨eq, large⟩
    · rw [List.reverse_reverse, toExpr_ofRow parts flat] at eq
      exact .inl ⟨valid, eq⟩
    · rw [List.reverse_reverse] at large
      exact .inr ⟨_, eq, .inr ⟨rfl, by omega⟩⟩
  · have failed : parse (templateExpression tokens) = .error e := by
      rw [parse, fails]
      rfl
    rcases refuses with ⟨encoding, invalid⟩ | ⟨large, full⟩
    · exact .inr ⟨e, failed, .inl ⟨encoding, invalid⟩⟩
    · exact .inr ⟨e, failed, .inr ⟨large, by omega⟩⟩

theorem parse_templateExpression {tokens : List Bytes} (nonempty : tokens ≠ [])
    (solid : ∀ t ∈ tokens, t ≠ []) {e : Expr}
    (parsed : parse (templateExpression tokens) = .ok e) :
    (∀ t ∈ tokens, isValid t = true) ∧ e = rowExpr (tokens.map values) := by
  rcases parse_templateExpression_cases nonempty solid with ⟨valid, reads⟩ | ⟨fault, fails, _⟩
  · rw [reads] at parsed
    cases parsed
    exact ⟨valid, rfl⟩
  · rw [fails] at parsed
    cases parsed

/-- Every template of well-formed tokens that is not too large can be read. -/
theorem parse_templateExpression_ok {tokens : List Bytes} (nonempty : tokens ≠ [])
    (solid : ∀ t ∈ tokens, t ≠ []) (valid : ∀ t ∈ tokens, isValid t = true)
    (small : (templateExpression tokens).length ≤ maxSize) :
    parse (templateExpression tokens) = .ok (rowExpr (tokens.map values)) := by
  rcases parse_templateExpression_cases nonempty solid with
    ⟨_, reads⟩ | ⟨_, _, ⟨_, invalid⟩ | ⟨_, large⟩⟩
  · exact reads
  · exact absurd valid invalid
  · exact absurd small (Nat.not_le.mpr large)

end Retouch.Regexp
