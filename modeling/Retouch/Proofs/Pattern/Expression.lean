import Retouch.Pattern
import Retouch.Proofs.Regexp.Row

/-! The expression of a template.
Quoting a token and reading it back gives the code points of the token one by one, whatever they
mean in an expression elsewhere, and what stands between two tokens reads as a run of blanks. -/
namespace Retouch.Regexp

open CodePoint Pattern

theorem readParts_drop (whole : Bytes) (s : State) (skip : Nat) (text : Bytes) :
    readParts whole s skip text = readParts whole s 0 (text.drop skip) := by
  induction text generalizing skip with
  | nil => cases skip <;> rfl
  | cons b rest ih =>
    cases skip with
    | zero => rfl
    | succ skip => exact ih skip

theorem readParts_ok {whole : Bytes} {s s' : State} {b : UInt8} {rest left : Bytes}
    (read : readPart whole s (b :: rest) = .ok (s', left)) (inside : left <:+ rest) :
    readParts whole s 0 (b :: rest) = readParts whole s' 0 left := by
  obtain ⟨front, rfl⟩ := inside
  rw [readParts, read]
  simp only [bind, Except.bind]
  rw [readParts_drop, List.length_append, Nat.add_sub_cancel, List.drop_left]

theorem readParts_error {whole : Bytes} {s : State} {b : UInt8} {rest : Bytes} {e : Error}
    (read : readPart whole s (b :: rest) = .error e) :
    readParts whole s 0 (b :: rest) = .error e := by
  rw [readParts, read]
  rfl

namespace State

/-- A part is refused only for the number of code points kept so far. -/
def permit (whole : Bytes) (s : State) : Except Error State :=
  if maxStored < s.stored then .error ⟨.tooLarge, whole⟩ else .ok s

theorem check_small (whole : Bytes) (s : State) {p : Piece}
    (uncounted : countsWith s.counts p = s.counts) (small : p.measure.size ≤ maxSize)
    (low : p.measure.height ≤ maxHeight) : check whole s p = s.permit whole := by
  have same : { s with counts := countsWith s.counts p } = s := by rw [uncounted]
  have fits :
      ¬ (maxSize / s.counts ≤ s.nodes.made && decide (p.measure.size > maxSize)) = true := by
    simp [Nat.not_lt.mpr small]
  unfold check permit
  rw [same]
  simp only [gt_iff_lt, if_neg fits, if_neg (Nat.not_lt.mpr low)]

/-- The nodes once a part has been put behind two literals that may become one. -/
def nodesBehind (s : State) : Nodes :=
  s.nodes.take.give (s.frame.parts.length - (joinLiterals s.frame.parts).length)

def withPoint (s : State) (v : Nat) : State :=
  { s with
    frame := { s.frame with parts := .literal false [.single v] :: joinLiterals s.frame.parts }
    repetition := none
    nodes := s.nodesBehind
    stored := s.stored + 1 }

theorem permit_withPoint (whole : Bytes) (s : State) (v : Nat) :
    (s.withPoint v).permit whole =
      if maxStored < s.stored + 1 then .error ⟨.tooLarge, whole⟩ else .ok (s.withPoint v) := rfl

def gapPart : Piece := .other (.plus (.set blanks) true) ⟨2, 2, 0⟩

/-- A run of blanks at the end of the current branch; `rest` is the text behind it. -/
def withGap (s : State) (rest : Bytes) : State :=
  { s with
    frame := { s.frame with parts := gapPart :: joinLiterals s.frame.parts }
    repetition := some (0x2B :: rest)
    nodes := s.nodesBehind.take
    stored := s.stored + 6 }

/-- What every state has in common that the reader of a template goes through: `row` are the parts
so far, the last one first. -/
structure Plain (s : State) (row : List Piece) : Prop where
  flags : s.flags = .start
  around : s.around = []
  branches : s.frame.branches = []
  parts : joinLiterals s.frame.parts = row

def addPoint (row : List Piece) (v : Nat) : List Piece :=
  joinLiterals (.literal false [.single v] :: row)

theorem Plain.withPoint {s : State} {row : List Piece} (plain : Plain s row) (v : Nat) :
    Plain (s.withPoint v) (addPoint row v) :=
  ⟨plain.flags, plain.around, plain.branches, by rw [addPoint, ← plain.parts]; rfl⟩

theorem Plain.withGap {s : State} {row : List Piece} (plain : Plain s row) (rest : Bytes) :
    Plain (s.withGap rest) (gapPart :: row) :=
  ⟨plain.flags, plain.around, plain.branches, by rw [← plain.parts]; rfl⟩

theorem pushPoint_plain (whole : Bytes) {s : State} (exactly : s.flags.folded = false) (v : Nat) :
    pushPoint whole { s with repetition := none } v = (s.withPoint v).permit whole := by
  have size : 1 ≤ maxSize := by decide
  have height : 1 ≤ maxHeight := by decide
  rw [← check_small whole (s.withPoint v) (p := .literal false [.single v]) rfl size height]
  simp only [pushPoint, take, exactly, caseSet]
  rfl

end State

/-! What the parts of a written template read as. -/

theorem readPart_special (whole : Bytes) {s : State} (exactly : s.flags.folded = false) {b : UInt8}
    (special : isSpecial b = true) (rest : Bytes) :
    readPart whole s (0x5C :: b :: rest) = ((s.withPoint b.toNat).permit whole).map (·, rest) := by
  rw [← State.pushPoint_plain whole exactly]
  simp only [isSpecial, List.mem_cons, List.not_mem_nil, or_false, decide_eq_true_eq] at special
  rcases special with h | h | h | h | h | h | h | h | h | h | h | h | h | h <;> subst h <;> rfl

theorem readPart_plain (whole : Bytes) {s : State} (exactly : s.flags.folded = false) {b : UInt8}
    (plain : isSpecial b = false) (rest : Bytes) :
    readPart whole s (b :: rest) =
      if (read b rest).isMalformed then .error ⟨.badEncoding, b :: rest⟩
      else ((s.withPoint (read b rest).value).permit whole).map
        (·, rest.drop ((read b rest).width - 1)) := by
  rw [← State.pushPoint_plain whole exactly]
  unfold readPart
  split <;> rename_i h
  -- Every byte with a meaning of its own is special.
  all_goals try (injection h with h _; subst h; exact absurd plain (by decide))
  simp only [readPoint]
  split <;> rfl

theorem blanks_normalize : blanks.normalize = blanks := by
  rw [CharSet.normalize, List.mergeSort_of_pairwise (by decide)]
  rfl

theorem readPart_blanks (whole : Bytes) {s : State} (exactly : s.flags.folded = false)
    (rest : Bytes) :
    readPart whole s (0x5C :: 0x73 :: rest) =
      (State.pushSet whole { s with repetition := none } blanks).map (·, rest) := by
  have backslash : readPart whole s (0x5C :: 0x73 :: rest) =
      readBackslash whole { s with repetition := none } (0x5C :: 0x73 :: rest) := rfl
  have shorthand : readShorthand s.flags.folded (0x5C :: 0x73 :: rest) = some (blanks, rest) := by
    rw [exactly]; rfl
  rw [backslash]
  simp only [readBackslash, readProperty, shorthand, blanks_normalize]
  rfl

/-- What may stand behind a quoted token: nothing, or a backslash. -/
def Edge (more : Bytes) : Prop := more = [] ∨ ∃ rest, more = 0x5C :: rest

theorem anyBlanks_eq : anyBlanks = [0x5C, 0x73, 0x2B] := by decide

/-- A run of blanks at the end of the current branch before its repetition is read. -/
def State.withBlanks (s : State) : State :=
  { s with
    frame := { s.frame with parts := .single blanks :: joinLiterals s.frame.parts }
    repetition := none
    nodes := s.nodesBehind
    stored := s.stored + 6 }

theorem push_blanks (whole : Bytes) (s : State) :
    State.pushSet whole { s with repetition := none } blanks = s.withBlanks.permit whole := by
  rw [← State.check_small whole s.withBlanks (p := .single blanks) rfl (by decide) (by decide)]
  rfl

theorem repeat_blanks (whole : Bytes) {s : State} {row : List Piece} (plain : s.Plain row)
    {more : Bytes} (strict : more.head? ≠ some 0x3F) :
    s.withBlanks.repeatLast whole 1 none false (0x2B :: more) more =
      ((s.withGap more).permit whole).map (·, more) := by
  rw [← State.check_small whole (s.withGap more) (p := State.gapPart) rfl (by decide) (by decide)]
  obtain ⟨flags, frame, around, repetition, nodes, stored, counts⟩ := s
  obtain ⟨rfl, _, _, _⟩ := plain
  unfold State.repeatLast
  split
  rename_i greedy after behind
  -- The token behind the blanks does not start with a mark that would make them lazy.
  have plain : greedy = true ∧ after = more := by
    split at behind
    · exact absurd rfl strict
    · cases behind; exact ⟨rfl, rfl⟩
  obtain ⟨rfl, rfl⟩ := plain
  let s' := State.withGap ⟨.start, frame, around, repetition, nodes, stored, counts⟩ after
  change (State.check whole s' State.gapPart >>= fun s => pure (s, after)) = _
  cases State.check whole s' State.gapPart <;> rfl

theorem readParts_gap (whole : Bytes) {s : State} {row : List Piece} (plain : s.Plain row)
    {more : Bytes} (strict : more.head? ≠ some 0x3F) :
    readParts whole s 0 (anyBlanks ++ more) =
      if maxStored < s.stored + 6 then .error ⟨.tooLarge, whole⟩
      else readParts whole (s.withGap more) 0 more := by
  have exactly : s.flags.folded = false := by rw [plain.flags]; rfl
  have part := readPart_blanks whole exactly (0x2B :: more)
  rw [push_blanks] at part
  rw [anyBlanks_eq]
  simp only [List.cons_append, List.nil_append]
  split
  · rename_i full
    have permit : s.withBlanks.permit whole = .error ⟨.tooLarge, whole⟩ := if_pos full
    exact readParts_error (by rw [part, permit]; rfl)
  · rename_i room
    have permit : s.withBlanks.permit whole = .ok s.withBlanks := if_neg room
    have permit' : (s.withGap more).permit whole = .ok (s.withGap more) := if_neg room
    rw [readParts_ok (by rw [part, permit]; rfl) (List.suffix_cons _ _)]
    refine readParts_ok ?_ (List.suffix_refl _)
    have repeated := repeat_blanks whole plain strict
    rw [permit'] at repeated
    exact repeated

theorem escapeToken_cons (b : UInt8) (rest : Bytes) :
    escapeToken (b :: rest) =
      (if isSpecial b then [0x5C, b] else [b]) ++ escapeToken rest := rfl

theorem isSpecial_continuation {b : UInt8} (special : isSpecial b = true) :
    isContinuation b = false := by
  simp only [isSpecial, List.mem_cons, List.not_mem_nil, or_false, decide_eq_true_eq] at special
  rcases special with h | h | h | h | h | h | h | h | h | h | h | h | h | h <;> subst h <;> rfl

theorem escapeToken_takeWhile (rest : Bytes) {more : Bytes} (edge : Edge more) :
    (escapeToken rest ++ more).takeWhile isContinuation = rest.takeWhile isContinuation := by
  induction rest with
  | nil =>
    rcases edge with rfl | ⟨rest, rfl⟩
    · rfl
    · exact List.takeWhile_cons_of_neg (by decide)
  | cons x rest ih =>
    cases special : isSpecial x with
    | true =>
      rw [escapeToken_cons, special, List.takeWhile_cons_of_neg (a := x)
        (by simp [isSpecial_continuation special])]
      exact List.takeWhile_cons_of_neg (by decide)
    | false =>
      rw [escapeToken_cons, special]
      simp only [Bool.false_eq_true, if_false, List.nil_append, List.cons_append,
        List.takeWhile_cons, ih]

theorem escapeToken_drop (n : Nat) (rest more : Bytes)
    (near : n ≤ (rest.takeWhile isContinuation).length) :
    (escapeToken rest ++ more).drop n = escapeToken (rest.drop n) ++ more := by
  induction rest generalizing n with
  | nil =>
    have zero : n = 0 := by simpa using near
    subst zero
    rfl
  | cons x rest ih =>
    cases n with
    | zero => rfl
    | succ n =>
      rw [List.takeWhile_cons] at near
      split at near
      · rename_i cont
        have plain : isSpecial x = false := by
          cases special : isSpecial x with
          | false => rfl
          | true => rw [isSpecial_continuation special] at cont; cases cont
        rw [escapeToken_cons, plain]
        exact ih n (by simpa using near)
      · simp at near

theorem read_escapeToken (b : UInt8) (rest : Bytes) {more : Bytes} (edge : Edge more) :
    read b (escapeToken rest ++ more) = read b rest := by
  rw [← read_takeWhile, escapeToken_takeWhile rest edge, read_takeWhile]

theorem isSpecial_ascii {b : UInt8} (special : isSpecial b = true) : b < 0x80 := by
  simp only [isSpecial, List.mem_cons, List.not_mem_nil, or_false, decide_eq_true_eq] at special
  rcases special with h | h | h | h | h | h | h | h | h | h | h | h | h | h <;> subst h <;> decide

theorem readParts_point (whole : Bytes) {s : State} (exactly : s.flags.folded = false) (b : UInt8)
    (rest : Bytes) {more : Bytes} (edge : Edge more) :
    readParts whole s 0 (escapeToken (b :: rest) ++ more) =
      if (read b rest).isMalformed then .error ⟨.badEncoding, escapeToken (b :: rest) ++ more⟩
      else if maxStored < s.stored + 1 then .error ⟨.tooLarge, whole⟩
      else readParts whole (s.withPoint (read b rest).value) 0
        (escapeToken ((b :: rest).drop (read b rest).width) ++ more) := by
  cases special : isSpecial b with
  | true =>
    have part := readPart_special whole exactly special (escapeToken rest ++ more)
    rw [read_ascii (isSpecial_ascii special), escapeToken_cons, special]
    have well : ¬ (⟨b.toNat, 1⟩ : CodePoint).isMalformed = true := by
      have byte := b.toNat_lt
      simp only [isMalformed, replacement, beq_self_eq_true, Bool.and_true, beq_iff_eq]
      omega
    rw [if_neg well]
    simp only [if_true, List.cons_append, List.nil_append]
    split
    · rename_i full
      exact readParts_error (by rw [part, State.permit_withPoint, if_pos full]; rfl)
    · rename_i room
      refine readParts_ok (by rw [part, State.permit_withPoint, if_neg room]; rfl) ?_
      exact List.suffix_cons _ _
  | false =>
    have part := readPart_plain whole exactly special (escapeToken rest ++ more)
    rw [read_escapeToken b rest edge] at part
    rw [escapeToken_cons, special]
    simp only [Bool.false_eq_true, if_false, List.cons_append, List.nil_append]
    split
    · rename_i bad
      exact readParts_error (by rw [part, if_pos bad])
    · rename_i well
      rw [if_neg well] at part
      split
      · rename_i full
        exact readParts_error (by rw [part, State.permit_withPoint, if_pos full]; rfl)
      · rename_i room
        have near := read_width_le b rest
        have pos := read_width_pos b rest
        obtain ⟨n, width⟩ : ∃ n, (read b rest).width = n + 1 :=
          ⟨_, (Nat.sub_add_cancel pos).symm⟩
        rw [width] at near part ⊢
        rw [List.drop_succ_cons, ← escapeToken_drop n rest more (by omega)]
        refine readParts_ok (by rw [part, State.permit_withPoint, if_neg room]; rfl) ?_
        exact List.drop_suffix _ _

/-- A text is refused for a malformed byte, or for the number of code points kept so far. -/
def Error.Refuses (e : Error) (valid : Prop) (kept : Nat) : Prop :=
  e.fault = .badEncoding ∧ ¬valid ∨ e.fault = .tooLarge ∧ maxStored < kept

/-- A quoted token reads as its code points, unless one of its bytes is malformed or too much has
been kept before. -/
theorem readParts_token (whole : Bytes) (token : Bytes) {more : Bytes} (edge : Edge more)
    {s : State} {row : List Piece} (plain : s.Plain row) :
    (isValid token = true ∧ ∃ s', State.Plain s' ((values token).foldl State.addPoint row) ∧
      s'.stored ≤ s.stored + token.length ∧
      readParts whole s 0 (escapeToken token ++ more) = readParts whole s' 0 more) ∨
    (∃ e, readParts whole s 0 (escapeToken token ++ more) = .error e ∧
      e.Refuses (isValid token = true) (s.stored + token.length)) := by
  induction token using decode_induction generalizing s row with
  | nil => exact .inl ⟨rfl, s, plain, Nat.le_add_right _ _, rfl⟩
  | cons b rest ih =>
    have exactly : s.flags.folded = false := by rw [plain.flags]; rfl
    have step := readParts_point whole exactly b rest edge
    have pos := read_width_pos b rest
    have length := length_drop_read b rest
    have one : (s.withPoint (read b rest).value).stored = s.stored + 1 := rfl
    rw [step, isValid_cons, values_cons]
    split
    · rename_i bad
      exact .inr ⟨_, rfl, .inl ⟨rfl, by simp [bad]⟩⟩
    rename_i well
    split
    · exact .inr ⟨_, rfl, .inr ⟨rfl, by omega⟩⟩
    rcases ih (plain.withPoint (read b rest).value) with
      ⟨valid', s', plain', stored, reads⟩ | ⟨e, fails, ⟨encoding, invalid⟩ | ⟨large, full⟩⟩
    · exact .inl ⟨by simp [well, valid'], s', plain', by omega, reads⟩
    · exact .inr ⟨e, fails, .inl ⟨encoding, by simp [invalid]⟩⟩
    · exact .inr ⟨e, fails, .inr ⟨large, by omega⟩⟩

end Retouch.Regexp
