import Mathlib.Data.List.Forall2
import Mathlib.Logic.Relation
import Retouch.Document.Yaml.Token
import Retouch.Proofs.Document.Spelling

/-! Tokens of a line in brackets.
On one line nothing depends on columns. Each sign and each text is one step, and a key gets its
token once the colon behind it has been reached. -/
namespace Retouch.Document.Yaml

def onLine (rest : List Nat) (n : Nat) : Cursor := ⟨rest, n, 0, n⟩

theorem forward_onLine (passed rest : List Nat) (n : Nat) :
    (onLine (passed ++ rest) n).forward passed.length = onLine rest (n + passed.length) := by
  simp [onLine, Cursor.forward]

/-! Texts in quotes. -/

theorem hexDigit_digit (s : Spelling) : ∀ n < 0x10, hexDigit? (s.digit n) = some n := by
  rcases s with ⟨_ | _, _ | _⟩ <;> decide

theorem escape_digits (s : Spelling) {v : Nat} (basic : v < 0x10000)
    (scalar : CodePoint.isScalar v = true) (line : Nat) (rest : List Nat) :
    Quoted.escape line (0x75 :: s.digit (v / 0x1000) :: s.digit (v / 0x100 % 0x10) ::
      s.digit (v / 0x10 % 0x10) :: s.digit (v % 0x10) :: rest) = .ok (v, 5) := by
  have value : Quoted.hexValue [s.digit (v / 0x1000), s.digit (v / 0x100 % 0x10),
      s.digit (v / 0x10 % 0x10), s.digit (v % 0x10)] = some v := by
    simp only [Quoted.hexValue, List.foldlM_cons, List.foldlM_nil,
      hexDigit_digit s _ (show v / 0x1000 < 0x10 by omega),
      hexDigit_digit s _ (show v / 0x100 % 0x10 < 0x10 by omega),
      hexDigit_digit s _ (show v / 0x10 % 0x10 < 0x10 by omega),
      hexDigit_digit s _ (show v % 0x10 < 0x10 by omega)]
    simp only [Option.map_some, Option.bind_eq_bind, Option.bind_some, Option.pure_def]
    congr 1
    omega
  have simple : Quoted.simpleEscape? 0x75 = none := by decide
  have long : Quoted.escapeLength? 0x75 = some 4 := rfl
  simp [Quoted.escape, simple, long, value, scalar]

theorem word_escape {s : Spelling} {v : Nat} (basic : v < 0x10000)
    (scalar : CodePoint.isScalar v = true) (fuel : Nat) (rest : List Nat) (n : Nat) :
    Quoted.word true (fuel + 1) (onLine (s.point v ++ rest) n) =
      (Quoted.word true fuel (onLine rest (n + 6))).map fun x => (v :: x.1, x.2) := by
  rw [Spelling.point, if_pos basic]
  have escapes := escape_digits s basic scalar 0 rest
  simp only [List.cons_append, List.nil_append]
  generalize s.digit (v / 0x1000) = a at *
  generalize s.digit (v / 0x100 % 0x10) = b at *
  generalize s.digit (v / 0x10 % 0x10) = c at *
  generalize s.digit (v % 0x10) = d at *
  have solid : isBlank 0x5C = false ∧ isBreak 0x5C = false ∧ isBreak 0x75 = false := by decide
  simp [Quoted.word, onLine, solid, Cursor.breakAt, Cursor.ahead?, Cursor.forward, escapes]

theorem word_literal {v : Nat} (literal : isLiteral v = true) (fuel : Nat) (rest : List Nat)
    (n : Nat) : Quoted.word true (fuel + 1) (onLine (v :: rest) n) =
      (Quoted.word true fuel (onLine rest (n + 1))).map fun x => (v :: x.1, x.2) := by
  have solid : isBlank v = false ∧ isBreak v = false ∧ v ≠ 0x22 ∧ v ≠ 0x5C := by
    simp [isLiteral, isBlank, isBreak] at literal ⊢
    omega
  simp [Quoted.word, onLine, solid, Cursor.forward]

theorem word_spelt {s : Spelling} {vs body : List Nat} (spelt : Spelt s vs body) (more : List Nat)
    (n : Nat) {fuel : Nat} (enough : body.length < fuel) :
    Quoted.word true fuel (onLine (body ++ 0x22 :: more) n) =
      .ok (vs, false, onLine (0x22 :: more) (n + body.length)) := by
  obtain ⟨fuel, rfl⟩ := Nat.exists_eq_succ_of_ne_zero (Nat.ne_of_gt (Nat.zero_lt_of_lt enough))
  induction spelt generalizing n fuel with
  | nil => rfl
  | @escape v vs body scalar basic _ ih =>
    have width : (s.point v).length = 6 := by rw [Spelling.point, if_pos basic]; rfl
    rw [List.length_append, width] at enough ⊢
    rw [List.append_assoc, word_escape basic scalar]
    obtain ⟨fuel, rfl⟩ : ∃ m, fuel = m + 1 := Nat.exists_eq_succ_of_ne_zero (by omega)
    rw [ih _ _ (by omega), Nat.add_assoc]
    rfl
  | @literal v vs body literal _ ih =>
    rw [List.length_cons] at enough ⊢
    rw [List.cons_append, word_literal literal]
    obtain ⟨fuel, rfl⟩ : ∃ m, fuel = m + 1 := Nat.exists_eq_succ_of_ne_zero (by omega)
    rw [ih _ _ (by omega), Nat.add_assoc, Nat.add_comm 1]
    rfl

theorem read_quotes {s : Spelling} {t : Bytes} {written : List Nat} (quotes : Quotes s t written)
    (more : List Nat) (n : Nat) : ∃ vs behind, written ++ more = 0x22 :: behind ∧
      CodePoint.encodeAll vs = t ∧
      Quoted.read true (written ++ more).length (onLine behind (n + 1)) =
        .ok (vs, onLine more (n + written.length)) := by
  obtain ⟨vs, body, rfl, spelt, rfl⟩ := quotes
  refine ⟨vs, body ++ 0x22 :: more, by simp, rfl, ?_⟩
  have reads := word_spelt spelt more (n + 1)
    (show body.length < (body ++ 0x22 :: more).length by simp)
  have inside : (onLine (body ++ 0x22 :: more) (n + 1)).atDocumentSign = false := by
    simp [Cursor.atDocumentSign, Cursor.atSign, onLine]
  have nonempty : (onLine (body ++ 0x22 :: more) (n + 1)).rest.isEmpty = false := by
    simp [onLine]
  rw [List.cons_append, List.length_cons, Quoted.read, inside, nonempty]
  simp only [Bool.or_self, Bool.false_eq_true, if_false, onLine] at reads ⊢
  simp only [reads]
  change Except.ok (vs, onLine more (n + 1 + body.length + 1)) = _
  simp only [List.length_cons, List.length_append, List.length_nil]
  congr 3
  omega

/-! States of the reading on one line. -/

namespace Scan

def inLine (rest : List Nat) (n : Nat) (keys : List (Option KeyStart)) (allowed : Bool)
    (tokens : List Token) : Scan :=
  ⟨onLine rest n, -1, [], keys, allowed, tokens⟩

def Next (s t : Scan) : Prop :=
  s.step = .ok t ∧ t.tokens.head? ≠ some .streamEnd ∧ t.place.rest.length < s.place.rest.length

theorem run_of_reaches {s t : Scan} (reaches : Relation.ReflTransGen Next s t) {fuel : Nat}
    (enough : s.place.rest.length < fuel) :
    ∃ left, t.place.rest.length < left ∧ s.run false fuel = t.run false left := by
  induction reaches with
  | refl => exact ⟨fuel, enough, rfl⟩
  | @tail t u _ next ih =>
    obtain ⟨left, enough, eq⟩ := ih
    obtain ⟨steps, goes, shorter⟩ := next
    obtain ⟨left, rfl⟩ := Nat.exists_eq_succ_of_ne_zero (Nat.ne_of_gt (Nat.zero_lt_of_lt enough))
    refine ⟨left, by omega, eq.trans ?_⟩
    rw [run, steps]
    simp [goes]

def IsGap (gap : List Nat) : Prop := gap = [] ∨ gap = [0x20]

def isStart (c : Nat) : Bool :=
  !(isBlank c || isBreak c || c == 0x23 || c == 0xFEFF || c == 0x25 || c == 0x2D || c == 0x2E)

section Step

variable {gap more : List Nat} {c n : Nat} {keys : List (Option KeyStart)} {allowed : Bool}
  {tokens : List Token}

theorem skipGaps_inLine (space : IsGap gap) (start : isStart c = true) (fuel : Nat) :
    skipGaps (fuel + 1) (inLine (gap ++ c :: more) n keys allowed tokens) =
      inLine (c :: more) (n + gap.length) keys allowed tokens := by
  simp only [isStart, isBlank, Bool.not_eq_true', Bool.or_eq_false_iff, beq_eq_false_iff_ne]
    at start
  obtain ⟨⟨⟨⟨⟨⟨⟨blank, tab⟩, solid⟩, comment⟩, mark⟩, _⟩, _⟩, _⟩ := start
  rcases space with rfl | rfl
  · simp [skipGaps, inLine, onLine, Cursor.ahead?, Cursor.skipRun, Cursor.run, Cursor.forward,
      Cursor.has, Cursor.breakAt, blank, tab, solid, comment, mark]
  · simp [skipGaps, inLine, onLine, Cursor.ahead?, Cursor.skipRun, Cursor.run, Cursor.forward,
      Cursor.has, Cursor.breakAt, blank, tab, solid, comment]

theorem closeBlocks_inLine (rest : List Nat) {column : Int} (right : -1 ≤ column) :
    closeBlocks (inLine rest n keys allowed tokens) column =
      inLine rest n keys allowed tokens := by
  unfold closeBlocks
  split
  · rfl
  · have outside : ¬ column < -1 := by omega
    simp [inLine, outside]

/-- What follows on the line is no comment. -/
def IsCalm (more : List Nat) : Prop := (more.dropWhile isBlank).head? ≠ some 0x23

theorem skipLineComment_inLine (calm : IsCalm more) :
    skipLineComment (inLine more n keys allowed tokens) = inLine more n keys allowed tokens := by
  have next : more[(more.takeWhile isBlank).length]? = (more.dropWhile isBlank).head? := by
    induction more with
    | nil => rfl
    | cons x more ih => cases blank : isBlank x <;> simp_all [IsCalm]
  unfold skipLineComment
  dsimp only
  rw [if_neg]
  simp [inLine, onLine, Cursor.has, Cursor.ahead?, next]
  exact fun _ => calm

theorem step_inLine (space : IsGap gap) (start : isStart c = true) :
    step (inLine (gap ++ c :: more) n keys allowed tokens) =
      (content (inLine (c :: more) (n + gap.length) keys allowed tokens)).map fun s =>
        if s.takesComment then s.skipLineComment else s := by
  have sign : c ≠ 0x25 ∧ c ≠ 0x2D ∧ c ≠ 0x2E := by
    simp [isStart] at start
    omega
  have directive : (onLine (c :: more) (n + gap.length)).has 0 '%' = false := by
    simp [onLine, Cursor.has, Cursor.ahead?, sign]
  have begins : (onLine (c :: more) (n + gap.length)).atSign '-' = false := by
    simp [onLine, Cursor.atSign, Cursor.has, Cursor.ahead?, sign]
  have ends : (onLine (c :: more) (n + gap.length)).atSign '.' = false := by
    simp [onLine, Cursor.atSign, Cursor.has, Cursor.ahead?, sign]
  unfold step
  dsimp only
  rw [skipGaps_inLine space start, closeBlocks_inLine _ (by omega)]
  change (if (onLine (c :: more) (n + gap.length)).rest.isEmpty then _
    else if _ && (onLine (c :: more) (n + gap.length)).has 0 '%' then _
    else if (onLine (c :: more) (n + gap.length)).atSign '-' then _
    else if (onLine (c :: more) (n + gap.length)).atSign '.' then _ else _) = _
  rw [directive, begins, ends, Bool.and_false]
  cases content (inLine (c :: more) (n + gap.length) keys allowed tokens) <;> rfl

theorem next_inLine (space : IsGap gap) (start : isStart c = true) {more' : List Nat} {n' : Nat}
    {keys' : List (Option KeyStart)} {allowed' : Bool} {t : Token} {tokens' : List Token}
    (reads : content (inLine (c :: more) (n + gap.length) keys allowed tokens) =
      .ok (inLine more' n' keys' allowed' (t :: tokens')))
    (shorter : more'.length ≤ more.length) (calm : IsCalm more')
    (ends : t ≠ .streamEnd) (item : t ≠ .blockEntry)
    (text : ∀ plain value, t = .scalar plain value → allowed' = false) :
    Next (inLine (gap ++ c :: more) n keys allowed tokens)
      (inLine more' n' keys' allowed' (t :: tokens')) := by
  have takes : takesComment (inLine more' n' keys' allowed' (t :: tokens')) = true := by
    cases t with
    | blockEntry => exact absurd rfl item
    | scalar plain value => simp [takesComment, inLine, text plain value rfl]
    | _ => rfl
  refine ⟨?_, ?_, ?_⟩
  · rw [step_inLine space start, reads]
    simp [takes, skipLineComment_inLine calm, Except.map]
  · simpa [inLine] using ends
  · simp [inLine, onLine]
    omega

/-! The places where keys may have started. -/

def Loose (slot : Option KeyStart) : Prop := ∀ k, slot = some k → k.required = false

theorem loose_none : Loose none := fun _ same => by cases same

def keyHere (n : Nat) (tokens : List Token) : KeyStart := ⟨false, tokens.length, n, 0, n⟩

/-- The key that may have started, once something was read at a place. -/
def slotAt (slot : Option KeyStart) (allowed : Bool) (n : Nat) (tokens : List Token) :
    Option KeyStart :=
  if allowed then some (keyHere n tokens) else slot

variable {slot : Option KeyStart} {outer : List (Option KeyStart)}

theorem loose_slotAt (loose : Loose slot) : Loose (slotAt slot allowed n tokens) := by
  intro k same
  cases allowed with
  | false => exact loose k same
  | true =>
    cases same
    rfl

theorem dropKey_inLine (loose : Loose slot) :
    dropKey (inLine more n (slot :: outer) allowed tokens) =
      .ok (inLine more n (none :: outer) allowed tokens) := by
  cases slot with
  | none => rfl
  | some k => simp [dropKey, inLine, loose k rfl]

theorem saveKey_inLine (loose : Loose slot) :
    saveKey (inLine more n (slot :: outer) allowed tokens) =
      .ok (inLine more n (slotAt slot allowed n tokens :: outer) allowed tokens) := by
  cases allowed with
  | false => rfl
  | true =>
    have outside : ((-1 : Int) == (n : Int)) = false := by simp
    unfold saveKey
    change (dropKey (inLine more n (slot :: outer) true tokens) >>= _) = _
    rw [dropKey_inLine loose]
    change Except.ok _ = _
    simp [inLine, slotAt, keyHere, onLine, outside]

/-! Signs and texts. -/

theorem openFlow_inLine (loose : Loose slot) (shallow : outer.length < maxDepth) (t : Token) :
    openFlow (inLine (c :: more) n (slot :: outer) allowed tokens) t =
      .ok (inLine more (n + 1) (none :: slotAt slot allowed n tokens :: outer) true
        (t :: tokens)) := by
  have fits : ¬ maxDepth < outer.length + 1 := by omega
  unfold openFlow
  rw [saveKey_inLine loose]
  change (if maxDepth < outer.length + 1 then _ else _) = _
  rw [if_neg fits]
  rfl

theorem inFlow_inLine (inside : outer ≠ []) :
    inFlow (inLine more n (slot :: outer) allowed tokens) = true := by
  have pos := List.length_pos_iff.mpr inside
  simp [inFlow, inLine, pos]

theorem closeFlow_inLine (loose : Loose slot) (inside : outer ≠ []) (t : Token) :
    closeFlow (inLine (c :: more) n (slot :: outer) allowed tokens) t =
      .ok (inLine more (n + 1) outer false (t :: tokens)) := by
  unfold closeFlow
  rw [dropKey_inLine loose]
  change Except.ok _ = _
  rw [inFlow_inLine inside]
  rfl

def Opens (c : Nat) (t : Token) : Prop :=
  c = 0x7B ∧ t = .flowMappingStart ∨ c = 0x5B ∧ t = .flowSequenceStart

def Closes (c : Nat) (t : Token) : Prop :=
  c = 0x7D ∧ t = .flowMappingEnd ∨ c = 0x5D ∧ t = .flowSequenceEnd

theorem next_open {t : Token} (opens : Opens c t) (space : IsGap gap) (calm : IsCalm more)
    (loose : Loose slot) (shallow : outer.length < maxDepth) :
    Next (inLine (gap ++ c :: more) n (slot :: outer) allowed tokens)
      (inLine more (n + gap.length + 1)
        (none :: slotAt slot allowed (n + gap.length) tokens :: outer) true (t :: tokens)) := by
  rcases opens with ⟨rfl, rfl⟩ | ⟨rfl, rfl⟩
  · exact next_inLine space (by decide) (openFlow_inLine loose shallow _) (Nat.le_refl _) calm
      (by simp) (by simp) (by simp)
  · exact next_inLine space (by decide) (openFlow_inLine loose shallow _) (Nat.le_refl _) calm
      (by simp) (by simp) (by simp)

theorem next_close {t : Token} (closes : Closes c t) (calm : IsCalm more) (loose : Loose slot)
    (inside : outer ≠ []) :
    Next (inLine (c :: more) n (slot :: outer) allowed tokens)
      (inLine more (n + 1) outer false (t :: tokens)) := by
  rcases closes with ⟨rfl, rfl⟩ | ⟨rfl, rfl⟩
  · exact next_inLine (.inl rfl) (by decide) (closeFlow_inLine loose inside _) (Nat.le_refl _) calm
      (by simp) (by simp) (by simp)
  · exact next_inLine (.inl rfl) (by decide) (closeFlow_inLine loose inside _) (Nat.le_refl _) calm
      (by simp) (by simp) (by simp)

theorem next_comma (calm : IsCalm more) (loose : Loose slot) :
    Next (inLine (0x2C :: more) n (slot :: outer) allowed tokens)
      (inLine more (n + 1) (none :: outer) true (.flowEntry :: tokens)) := by
  refine next_inLine (.inl rfl) (by decide) ?_ (Nat.le_refl _) calm (by simp) (by simp) (by simp)
  change flowEntry _ = _
  rw [flowEntry, dropKey_inLine loose]
  rfl

theorem next_quotes {s : Spelling} {t : Bytes} {written : List Nat} (quotes : Quotes s t written)
    (space : IsGap gap) (calm : IsCalm more) (loose : Loose slot) :
    Next (inLine (gap ++ (written ++ more)) n (slot :: outer) allowed tokens)
      (inLine more (n + gap.length + written.length)
        (slotAt slot allowed (n + gap.length) tokens :: outer) false
        (.scalar false t :: tokens)) := by
  obtain ⟨vs, behind, starts, rfl, reads⟩ := read_quotes quotes more (n + gap.length)
  have shorter : more.length ≤ behind.length := by
    obtain ⟨_, _, rfl, _⟩ := quotes
    have lengths := congrArg List.length starts
    simp at lengths
    omega
  rw [starts] at reads ⊢
  refine next_inLine space (by decide) ?_ shorter calm (by simp) (by simp) (by simp)
  change quoted _ true = _
  rw [quoted, saveKey_inLine loose]
  change (Quoted.read true (0x22 :: behind).length (onLine behind (n + gap.length + 1)) >>= _) = _
  rw [reads]
  rfl

theorem openBlock_inLine (inside : outer ≠ []) (column number : Nat) (t : Token) :
    openBlock (inLine more n (slot :: outer) allowed tokens) column number t =
      .ok (inLine more n (slot :: outer) allowed tokens) := by
  simp [openBlock, inFlow_inLine inside]

theorem next_colon (calm : IsCalm more) (inside : outer ≠ []) {k : Nat} {t : Token}
    (reach : n ≤ k + keyReach) :
    Next (inLine (0x3A :: more) n (some (keyHere k tokens) :: outer) allowed (t :: tokens))
      (inLine more (n + 1) (none :: outer) false (.value :: t :: .key :: tokens)) := by
  refine next_inLine (.inl rfl) (by decide) ?_ (Nat.le_refl _) calm (by simp) (by simp) (by simp)
  have found : simpleKey (inLine (0x3A :: more) n (some (keyHere k tokens) :: outer) allowed
      (t :: tokens)) = .ok (some (keyHere k tokens)) := by
    simp [simpleKey, inLine, isOpen, keyHere, onLine, reach]
  have inserted : insert (inLine (0x3A :: more) n (some (keyHere k tokens) :: outer) allowed
      (t :: tokens)) (keyHere k tokens).number .key = inLine (0x3A :: more) n
        (some (keyHere k tokens) :: outer) allowed (t :: .key :: tokens) := by
    simp [insert, inLine, keyHere]
  have colon : content (inLine (0x3A :: more) n (some (keyHere k tokens) :: outer) allowed
      (t :: tokens)) = valueSign (inLine (0x3A :: more) n (some (keyHere k tokens) :: outer)
        allowed (t :: tokens)) := by
    simp only [content, inFlow_inLine inside]
    rfl
  rw [List.length_nil, Nat.add_zero, colon, valueSign, found]
  change (openBlock (insert _ (keyHere k tokens).number .key) _ _ _ >>= _) = _
  rw [inserted, openBlock_inLine inside]
  rfl

def IsClose (c : Nat) : Prop := c = 0x2C ∨ c = 0x5D ∨ c = 0x7D

theorem word_flag (b : Bool) {close : Nat} (closes : IsClose close) :
    Plain.word true (flagWord b ++ close :: more) = flagWord b := by
  cases b <;> rcases closes with rfl | rfl | rfl <;> rfl

theorem read_flag (b : Bool) {close : Nat} (closes : IsClose close) :
    Plain.read true 0 (flagWord b ++ close :: more).length .none
      (onLine (flagWord b ++ close :: more) n) =
        .ok ⟨flagWord b, false, onLine (close :: more) (n + (flagWord b).length)⟩ := by
  have inside : ((onLine (flagWord b ++ close :: more) n).atDocumentSign ||
      (onLine (flagWord b ++ close :: more) n).has 0 '#') = false := by
    cases b <;> simp [flagWord, points, onLine, Cursor.atDocumentSign, Cursor.atSign, Cursor.has,
      Cursor.ahead?]
  have next := forward_onLine (flagWord b) (close :: more) n
  have solid : (flagWord b).isEmpty = false := by cases b <;> rfl
  have stops : (onLine (close :: more) (n + (flagWord b).length)).blankAt 0 = false ∧
      (onLine (close :: more) (n + (flagWord b).length)).breakAt 0 = false := by
    rcases closes with rfl | rfl | rfl <;> exact ⟨rfl, rfl⟩
  have word : Plain.word true (onLine (flagWord b ++ close :: more) n).rest = flagWord b :=
    word_flag b closes
  rw [List.length_append, List.length_cons, ← Nat.add_assoc, Plain.read]
  simp only [inside, word, solid, next, stops, Bool.false_eq_true, if_false, Bool.not_false,
    Bool.and_self, if_true]
  rfl

theorem next_flag (b : Bool) (space : IsGap gap) (loose : Loose slot) (inside : outer ≠ [])
    {close : Nat} (closes : IsClose close) :
    Next (inLine (gap ++ (flagWord b ++ close :: more)) n (slot :: outer) allowed tokens)
      (inLine (close :: more) (n + gap.length + (flagWord b).length)
        (slotAt slot allowed (n + gap.length) tokens :: outer) false
        (.scalar true (CodePoint.encodeAll (flagWord b)) :: tokens)) := by
  have calm : IsCalm (close :: more) := by
    rcases closes with rfl | rfl | rfl <;> simp [IsCalm, isBlank]
  have plain : Scan.plain (inLine (flagWord b ++ close :: more) (n + gap.length) (slot :: outer)
      allowed tokens) = .ok (inLine (close :: more) (n + gap.length + (flagWord b).length)
        (slotAt slot allowed (n + gap.length) tokens :: outer) false
        (.scalar true (CodePoint.encodeAll (flagWord b)) :: tokens)) := by
    rw [Scan.plain, saveKey_inLine loose]
    change (Plain.read (inFlow (inLine (flagWord b ++ close :: more) (n + gap.length)
      (slotAt slot allowed (n + gap.length) tokens :: outer) allowed tokens)) 0
      (flagWord b ++ close :: more).length .none
      (onLine (flagWord b ++ close :: more) (n + gap.length)) >>= _) = _
    rw [inFlow_inLine inside, read_flag b closes]
    rfl
  cases b with
  | true =>
    refine next_inLine space (by decide) ?_ ?_ calm (by simp) (by simp) (by simp)
    · exact plain
    · simp
  | false =>
    refine next_inLine space (by decide) ?_ ?_ calm (by simp) (by simp) (by simp)
    · exact plain
    · simp

end Step

/-! Items, lists and mappings. -/

open Relation (ReflTransGen)

def separated : List (List Token) → List Token
  | [] => []
  | [ts] => ts
  | ts :: rest => ts ++ .flowEntry :: separated rest

/-- A piece of the line is read as some tokens, whatever follows behind a sign that ends it. It may
only stand where a key is allowed, or anywhere. -/
structure Scans (asKey : Bool) (depth : Nat) (written : List Nat) (found : List Token) : Prop where
  starts : ∃ c rest, written = c :: rest ∧ isStart c = true
  reaches : ∀ {gap more : List Nat} {close n : Nat} {slot : Option KeyStart}
    {outer : List (Option KeyStart)} {allowed : Bool} {tokens : List Token}, IsGap gap →
    IsClose close → Loose slot → outer ≠ [] → outer.length + depth < maxDepth →
    (asKey = true → allowed = true) → ∃ n' slot', Loose slot' ∧
      ReflTransGen Next
        (inLine (gap ++ (written ++ close :: more)) n (slot :: outer) allowed tokens)
        (inLine (close :: more) n' (slot' :: outer) false (found.reverse ++ tokens))

theorem calm_start {c : Nat} {gap more : List Nat} (space : IsGap gap) (start : isStart c = true) :
    IsCalm (gap ++ c :: more) := by
  simp only [isStart, Bool.not_eq_true', Bool.or_eq_false_iff, beq_eq_false_iff_ne] at start
  obtain ⟨⟨⟨⟨⟨⟨blank, _⟩, comment⟩, _⟩, _⟩, _⟩, _⟩ := start
  rcases space with rfl | rfl
  · simp [IsCalm, blank, comment]
  · simp [IsCalm, blank, comment, show isBlank 0x20 = true from rfl]

theorem calm_close {close : Nat} {more : List Nat} (closes : IsClose close) :
    IsCalm (close :: more) := by
  rcases closes with rfl | rfl | rfl <;> simp [IsCalm, isBlank]

theorem Scans.calm {asKey : Bool} {depth : Nat} {written more gap : List Nat} {found : List Token}
    (scans : Scans asKey depth written found) (space : IsGap gap) :
    IsCalm (gap ++ (written ++ more)) := by
  obtain ⟨c, rest, rfl, start⟩ := scans.starts
  exact calm_start space start

theorem scans_quotes {s : Spelling} {t : Bytes} {written : List Nat} (quotes : Quotes s t written)
    (depth : Nat) : Scans false depth written [.scalar false t] where
  starts := by
    obtain ⟨_, _, rfl, _⟩ := quotes
    exact ⟨_, _, rfl, by decide⟩
  reaches space closes loose _ _ _ :=
    ⟨_, _, loose_slotAt loose, .single (next_quotes quotes space (calm_close closes) loose)⟩

theorem scans_flag (b : Bool) (depth : Nat) :
    Scans false depth (flagWord b) [.scalar true (CodePoint.encodeAll (flagWord b))] where
  starts := by cases b <;> exact ⟨_, _, rfl, by decide⟩
  reaches space closes loose inside _ _ :=
    ⟨_, _, loose_slotAt loose, .single (next_flag b space loose inside closes)⟩

theorem scans_listed {asKey : Bool} {depth : Nat} {items : List (List Nat)}
    {founds : List (List Token)} (nonempty : items ≠ [])
    (scans : List.Forall₂ (Scans asKey depth) items founds) :
    Scans asKey depth (listed items) (separated founds) := by
  induction scans with
  | nil => exact absurd rfl nonempty
  | @cons item found items founds first others ih =>
    cases others with
    | nil => exact first
    | @cons next found' items' founds' second others =>
      have rest := ih (by simp)
      refine ⟨?_, fun {gap more close n slot outer allowed tokens} space closes loose inside shallow
        key => ?_⟩
      · obtain ⟨c, tail, rfl, start⟩ := first.starts
        exact ⟨c, _, rfl, start⟩
      · obtain ⟨n₁, slot₁, loose₁, here⟩ := @first.reaches gap
          (0x20 :: (listed (next :: items') ++ close :: more)) 0x2C n slot outer allowed tokens
          space (.inl rfl) loose inside shallow key
        have comma := @next_comma (0x20 :: (listed (next :: items') ++ close :: more)) n₁ false
          (found.reverse ++ tokens) slot₁ outer (rest.calm (.inr rfl)) loose₁
        -- behind a comma a key is allowed again, so the rest may hold members
        obtain ⟨n₂, slot₂, loose₂, behind⟩ := @rest.reaches [0x20] more close (n₁ + 1) none outer
          true (.flowEntry :: (found.reverse ++ tokens)) (.inr rfl) closes loose_none inside shallow
          (fun _ => rfl)
        refine ⟨n₂, slot₂, loose₂, ?_⟩
        have whole := (here.tail comma).trans behind
        simpa [listed, separated] using whole

theorem scans_bracketed {depth : Nat} {items : List (List Nat)} {founds : List (List Token)}
    (scans : List.Forall₂ (Scans false depth) items founds) :
    Scans false (depth + 1) (bracketed items)
      (.flowSequenceStart :: (separated founds ++ [.flowSequenceEnd])) where
  starts := ⟨_, _, rfl, by decide⟩
  reaches {gap more close n slot outer allowed tokens} space closes loose inside shallow _ := by
    cases scans with
    | nil =>
      have opens := @next_open gap (0x5D :: close :: more) 0x5B n allowed tokens slot outer _
        (.inr ⟨rfl, rfl⟩) space (calm_close (.inr (.inl rfl))) loose (by omega)
      have whole := (ReflTransGen.single opens).tail
        (next_close (.inr ⟨rfl, rfl⟩) (calm_close closes) loose_none (by simp))
      exact ⟨_, _, loose_slotAt loose, by simpa [bracketed, listed, separated] using whole⟩
    | @cons item found items founds first others =>
      have listing := scans_listed (by simp) (.cons first others)
      have opens := @next_open gap (listed (item :: items) ++ 0x5D :: close :: more) 0x5B n allowed
        tokens slot outer _ (.inr ⟨rfl, rfl⟩) space (listing.calm (.inl rfl)) loose (by omega)
      obtain ⟨n', slot', loose', behind⟩ := @listing.reaches [] (close :: more) 0x5D
        (n + gap.length + 1) none (slotAt slot allowed (n + gap.length) tokens :: outer) true
        (.flowSequenceStart :: tokens) (.inl rfl) (.inr (.inl rfl)) loose_none (by simp)
        (by simp only [List.length_cons]; omega) (by simp)
      have whole := ((ReflTransGen.single opens).trans behind).tail
        (next_close (.inr ⟨rfl, rfl⟩) (calm_close closes) loose' (by simp))
      exact ⟨_, _, loose_slotAt loose, by simpa [bracketed] using whole⟩

theorem scans_member {s : Spelling} {depth : Nat} {m : String × List Nat} {found : List Token}
    (known : m.1 ∈ fieldNames) (value : Scans false depth m.2 found) :
    Scans true depth (s.member m) (.key :: .scalar false m.1 :: .value :: found) where
  starts := by
    obtain ⟨_, _, quoted, _⟩ := quotes_name (s := s) known
    rw [Spelling.member, quoted]
    exact ⟨_, _, rfl, by decide⟩
  reaches {gap more close n slot outer allowed tokens} space closes loose inside shallow asKey := by
    cases asKey rfl
    have name := @next_quotes gap (0x3A :: 0x20 :: (m.2 ++ close :: more)) n true tokens slot outer
      s m.1 (s.name m.1) (quotes_name known) space (calm_start (.inl rfl) (by decide)) loose
    -- a key is only found when its colon is near enough
    have short := length_name (s := s) known
    have colon := @next_colon (0x20 :: (m.2 ++ close :: more))
      (n + gap.length + (s.name m.1).length) false tokens outer (value.calm (.inr rfl)) inside
      (n + gap.length) (.scalar false m.1) (by unfold keyReach; omega)
    obtain ⟨n', slot', loose', behind⟩ := @value.reaches [0x20] more close _ none outer false
      (.value :: .scalar false m.1 :: .key :: tokens) (.inr rfl) closes loose_none inside shallow
      (by simp)
    refine ⟨n', slot', loose', ?_⟩
    have whole := ((ReflTransGen.single name).tail colon).trans behind
    simpa [Spelling.member] using whole

/-- Fields in braces, with brackets around them or not. -/
theorem reaches_braced {s : Spelling} {depth : Nat} {members : List (String × List Nat)}
    {founds : List (List Token)} (nonempty : members ≠ [])
    (scans : List.Forall₂ (Scans true depth) (members.map s.member) founds)
    {gap more : List Nat} {n : Nat} {slot : Option KeyStart} {outer : List (Option KeyStart)}
    {allowed : Bool} {tokens : List Token} (space : IsGap gap) (calm : IsCalm more)
    (loose : Loose slot) (shallow : outer.length + (depth + 1) < maxDepth) :
    ∃ n', ReflTransGen Next
      (inLine (gap ++ (s.braced members ++ more)) n (slot :: outer) allowed tokens)
      (inLine more n' (slotAt slot allowed (n + gap.length) tokens :: outer) false
        ((.flowMappingStart :: (separated founds ++ [.flowMappingEnd])).reverse ++ tokens)) := by
  have listing := scans_listed (by simpa using nonempty) scans
  have opens := @next_open gap (listed (members.map s.member) ++ 0x7D :: more) 0x7B n allowed
    tokens slot outer _ (.inl ⟨rfl, rfl⟩) space (listing.calm (.inl rfl)) loose (by omega)
  obtain ⟨n', slot', loose', behind⟩ := @listing.reaches [] more 0x7D (n + gap.length + 1) none
    (slotAt slot allowed (n + gap.length) tokens :: outer) true (.flowMappingStart :: tokens)
    (.inl rfl) (.inr (.inr rfl)) loose_none (by simp) (by simp only [List.length_cons]; omega)
    (fun _ => rfl)
  have whole := ((ReflTransGen.single opens).trans behind).tail
    (next_close (.inl ⟨rfl, rfl⟩) calm loose' (by simp))
  exact ⟨_, by simpa [Spelling.braced] using whole⟩

theorem scans_braced {s : Spelling} {depth : Nat} {members : List (String × List Nat)}
    {founds : List (List Token)} (nonempty : members ≠ [])
    (scans : List.Forall₂ (Scans true depth) (members.map s.member) founds) :
    Scans false (depth + 1) (s.braced members)
      (.flowMappingStart :: (separated founds ++ [.flowMappingEnd])) where
  starts := ⟨_, _, rfl, by decide⟩
  reaches space closes loose _ shallow _ := by
    obtain ⟨n', reaches⟩ := reaches_braced nonempty scans space (calm_close closes) loose shallow
    exact ⟨n', _, loose_slotAt loose, reaches⟩

theorem step_end {n : Nat} {slot : Option KeyStart} {allowed : Bool} {tokens : List Token}
    (loose : Loose slot) : step (inLine [] n [slot] allowed tokens) =
      .ok (inLine [] n [none] false (.streamEnd :: tokens)) := by
  have gaps : skipGaps 1 (inLine [] n [slot] allowed tokens) =
      inLine [] n [slot] allowed tokens := by
    simp [skipGaps, inLine, onLine, Cursor.ahead?, Cursor.skipRun, Cursor.run, Cursor.forward,
      Cursor.has, Cursor.breakAt]
  have leaves : leaveDocument (inLine [] n [slot] allowed tokens) =
      .ok (inLine [] n [none] false tokens) := by
    rw [leaveDocument, closeBlocks_inLine _ (by omega), dropKey_inLine loose]
    rfl
  have length : (inLine [] n [slot] allowed tokens).place.rest.length + 1 = 1 := rfl
  unfold step
  dsimp only
  rw [length, gaps, closeBlocks_inLine _ (by omega)]
  change (leaveDocument (inLine [] n [slot] allowed tokens) >>= _) = _
  rw [leaves]
  rfl

end Scan

theorem tokens_braced {s : Spelling} {depth : Nat} {members : List (String × List Nat)}
    {founds : List (List Token)} (nonempty : members ≠ [])
    (scans : List.Forall₂ (Scan.Scans true depth) (members.map s.member) founds)
    (shallow : depth + 1 < Scan.maxDepth) :
    tokens ⟨s.braced members, false⟩ =
      ⟨.flowMappingStart :: (Scan.separated founds ++ [.flowMappingEnd, .streamEnd, .streamEnd,
        .streamEnd]), none⟩ := by
  obtain ⟨n', reaches⟩ := @Scan.reaches_braced s depth members founds nonempty scans [] [] 0 none []
    true [] (.inl rfl) (by simp [Scan.IsCalm]) Scan.loose_none (by simpa using shallow)
  rw [List.nil_append, List.append_nil] at reaches
  obtain ⟨left, some, eq⟩ := Scan.run_of_reaches reaches (Nat.lt_succ_self _)
  obtain ⟨left, rfl⟩ := Nat.exists_eq_succ_of_ne_zero (Nat.ne_of_gt (Nat.zero_lt_of_lt some))
  refine Eq.trans eq ?_
  rw [Scan.run, Scan.step_end (Scan.loose_slotAt Scan.loose_none)]
  simp [Scan.inLine]

end Retouch.Document.Yaml
