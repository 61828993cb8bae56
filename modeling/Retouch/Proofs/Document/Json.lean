import Mathlib.Data.List.Forall2
import Retouch.Document.JsonConfig
import Retouch.Proofs.Document.Spelling

/-! Rule files read as JSON.
Each part of a document is read in full and leaves what follows it. -/
namespace Retouch.Document.Json

open CodePoint (encode encodeAll)

theorem hexValue_digit (s : Spelling) : ∀ n < 0x10, hexValue? (s.digit n).toUInt8 = some n := by
  rcases s with ⟨_ | _, _ | _⟩ <;> decide

theorem unit_digits (s : Spelling) {v : Nat} (basic : v < 0x10000) :
    unit? (s.digit (v / 0x1000)).toUInt8 (s.digit (v / 0x100 % 0x10)).toUInt8
      (s.digit (v / 0x10 % 0x10)).toUInt8 (s.digit (v % 0x10)).toUInt8 = some v := by
  simp only [unit?, hexValue_digit s _ (show v / 0x1000 < 0x10 by omega),
    hexValue_digit s _ (show v / 0x100 % 0x10 < 0x10 by omega),
    hexValue_digit s _ (show v / 0x10 % 0x10 < 0x10 by omega),
    hexValue_digit s _ (show v % 0x10 < 0x10 by omega)]
  simp only [Option.bind_eq_bind, Option.bind_some, Option.pure_def]
  congr 1
  omega

theorem encodeAll_ascii {v : Nat} (ascii : v < 0x80) (vs : List Nat) :
    encodeAll (v :: vs) = v.toUInt8 :: encodeAll vs := by
  rw [CodePoint.encodeAll_cons, CodePoint.encode_ascii ascii]
  rfl

theorem encodeAll_point (s : Spelling) {v : Nat} (basic : v < 0x10000) (body : List Nat) :
    encodeAll (s.point v ++ body) = 0x5C :: 0x75 :: (s.digit (v / 0x1000)).toUInt8 ::
      (s.digit (v / 0x100 % 0x10)).toUInt8 :: (s.digit (v / 0x10 % 0x10)).toUInt8 ::
      (s.digit (v % 0x10)).toUInt8 :: encodeAll body := by
  rw [Spelling.point, if_pos basic]
  simp only [List.cons_append, List.nil_append]
  rw [encodeAll_ascii (by decide), encodeAll_ascii (by decide),
    encodeAll_ascii (s.digit_lt (by omega)), encodeAll_ascii (s.digit_lt (by omega)),
    encodeAll_ascii (s.digit_lt (by omega)), encodeAll_ascii (s.digit_lt (by omega))]
  rfl

theorem readUnits_skip (skip : Nat) (text : Bytes) :
    readUnits skip text = readUnits 0 (text.drop skip) := by
  induction text generalizing skip with
  | nil => cases skip <;> rfl
  | cons b rest ih =>
    cases skip with
    | zero => rfl
    | succ skip => exact ih skip

/-- A literal character is no sign of a string. -/
theorem lead_literal {v : Nat} {b : UInt8} {tail : Bytes} (literal : isLiteral v = true)
    (written : encode v = b :: tail) : b ≠ 0x22 ∧ ¬ b < 0x20 ∧ b ≠ 0x5C := by
  simp only [isLiteral, Bool.or_eq_true, Bool.and_eq_true, decide_eq_true_eq, bne_iff_ne] at literal
  simp only [ne_eq, UInt8.lt_iff_toNat_lt, ← UInt8.toNat_inj, UInt8.reduceToNat]
  rcases literal with ⟨⟨⟨above, below⟩, quote⟩, escape⟩ | ⟨above, below⟩
  · rw [CodePoint.encode_ascii (by omega), List.cons.injEq] at written
    rw [← written.1, CodePoint.toNat_toUInt8 (by omega)]
    omega
  · rw [encode, if_pos (CodePoint.isScalar_iff.mpr (by omega))] at written
    rw [if_neg (by omega), if_neg (by omega), if_neg (by omega), List.cons.injEq] at written
    rw [← written.1, CodePoint.toNat_toUInt8 (by omega)]
    omega

theorem readUnits_literal {v : Nat} (literal : isLiteral v = true) (text : Bytes) :
    readUnits 0 (encode v ++ text) = (readUnits 0 text).map fun x => (v :: x.1, x.2) := by
  obtain ⟨b, tail, written, reads⟩ := CodePoint.read_encode (isScalar_of_literal literal)
  obtain ⟨quote, control, escape⟩ := lead_literal literal written
  have step : readUnits 0 (b :: (tail ++ text)) =
      (readUnits tail.length (tail ++ text)).map fun x => (v :: x.1, x.2) := by
    rw [readUnits.eq_def]
    simp [quote, control, escape, reads]
  rw [written, List.cons_append, step, readUnits_skip, List.drop_left]

theorem readUnits_spelt {s : Spelling} {vs body : List Nat} (spelt : Spelt s vs body)
    (rest : Bytes) : readUnits 0 (encodeAll body ++ 0x22 :: rest) = some (vs, rest) := by
  induction spelt with
  | nil => rfl
  | @escape v vs body scalar basic _ ih =>
    rw [encodeAll_point s basic]
    simp [readUnits, unit_digits s basic, ih]
  | @literal v vs body literal _ ih =>
    rw [CodePoint.encodeAll_cons, List.append_assoc, readUnits_literal literal, ih]
    rfl

theorem joinPairs_scalars {vs : List Nat} (scalars : ∀ v ∈ vs, CodePoint.isScalar v = true) :
    joinPairs vs = vs := by
  have whole {v : Nat} (scalar : CodePoint.isScalar v = true) :
      isHighHalf v = false ∧ isLowHalf v = false := by
    simp [CodePoint.isScalar, isHighHalf, isLowHalf] at scalar ⊢
    omega
  induction vs with
  | nil => rfl
  | cons v vs ih =>
    rw [List.forall_mem_cons] at scalars
    have joined := ih scalars.2
    obtain ⟨high, low⟩ := whole scalars.1
    cases vs with
    | nil => simp [joinPairs, high, low]
    | cons w vs => simp [joinPairs, high, low, joined]

theorem readString_quotes {s : Spelling} {t : Bytes} {written : List Nat}
    (quotes : Quotes s t written) (rest : Bytes) :
    ∃ behind, encodeAll written ++ rest = 0x22 :: behind ∧ readString behind = some (t, rest) := by
  obtain ⟨vs, body, rfl, spelt, rfl⟩ := quotes
  refine ⟨encodeAll body ++ 0x22 :: rest, ?_, ?_⟩
  · rw [encodeAll_ascii (by decide), CodePoint.encodeAll_append, List.cons_append,
      List.append_assoc]
    rfl
  · rw [readString, readUnits_spelt spelt]
    simp [joinPairs_scalars spelt.scalars]

/-! Values. -/

/-- The code points of a document are read as a value by a reader of this depth, whatever
follows. -/
def Shows (depth : Nat) (written : List Nat) (v : Json) : Prop :=
  ∀ rest, readValue depth (encodeAll written ++ rest) = some (v, rest)

theorem skipSpace_space (text : Bytes) : skipSpace (0x20 :: text) = skipSpace text := by
  simp [skipSpace, isSpace]

theorem skipSpace_solid {b : UInt8} (solid : isSpace b = false) (text : Bytes) :
    skipSpace (b :: text) = b :: text := by
  simp [skipSpace, solid]

theorem readValue_space (depth : Nat) (text : Bytes) :
    readValue depth (0x20 :: text) = readValue depth text := by
  cases depth with
  | zero => rfl
  | succ depth => rw [readValue, readValue, skipSpace_space]

variable {depth : Nat}

theorem shows_quotes {s : Spelling} {t : Bytes} {written : List Nat}
    (quotes : Quotes s t written) : Shows (depth + 1) written (.string t) := by
  intro rest
  obtain ⟨behind, eq, reads⟩ := readString_quotes quotes rest
  rw [eq, readValue, skipSpace_solid (by decide)]
  simp [reads]

theorem shows_flag (b : Bool) : Shows (depth + 1) (flagWord b) (.bool b) := by
  intro rest
  cases b <;> rfl

theorem readItems_space (fuel : Nat) (text : Bytes) :
    readItems (readValue depth) fuel (0x20 :: text) = readItems (readValue depth) fuel text := by
  cases fuel with
  | zero => rfl
  | succ fuel => rw [readItems, readItems, readValue_space]

theorem encodeAll_separated (item rest : List Nat) :
    encodeAll (item ++ 0x2C :: 0x20 :: rest) =
      encodeAll item ++ 0x2C :: 0x20 :: encodeAll rest := by
  rw [CodePoint.encodeAll_append, encodeAll_ascii (by decide), encodeAll_ascii (by decide)]
  rfl

theorem readItems_listed {items : List (List Nat)} {vs : List Json} (nonempty : items ≠ [])
    (shows : List.Forall₂ (Shows depth) items vs) {fuel : Nat} (enough : items.length ≤ fuel)
    (rest : Bytes) :
    readItems (readValue depth) fuel (encodeAll (listed items) ++ 0x5D :: rest) =
      some (vs, rest) := by
  induction shows generalizing fuel with
  | nil => exact absurd rfl nonempty
  | @cons item v items vs first others ih =>
    obtain ⟨fuel, rfl⟩ : ∃ n, fuel = n + 1 :=
      Nat.exists_eq_succ_of_ne_zero (by simp at enough; omega)
    cases others with
    | nil =>
      rw [listed, readItems, first]
      rfl
    | @cons next w items' vs' second others =>
      rw [listed, encodeAll_separated, List.append_assoc, readItems, first]
      · change Option.map _
          (readItems _ fuel (0x20 :: (encodeAll (listed (next :: items')) ++ _))) = _
        rw [readItems_space, ih (by simp) (by simpa using enough)]
        rfl
      · simp

theorem length_items (items : List (List Nat)) (close : UInt8) (rest : Bytes) :
    items.length ≤ (encodeAll (listed items) ++ close :: rest).length := by
  have few := length_listed items
  have bytes := CodePoint.length_encodeAll (listed items)
  simp only [List.length_append, List.length_cons]
  omega

theorem shows_bracketed {items : List (List Nat)} {vs : List Json}
    (shows : List.Forall₂ (Shows depth) items vs)
    (objects : ∀ item ∈ items, ∃ text, item = 0x7B :: text) :
    Shows (depth + 1) (bracketed items) (.array vs) := by
  intro rest
  have text : encodeAll (bracketed items) ++ rest =
      0x5B :: (encodeAll (listed items) ++ 0x5D :: rest) := by
    rw [bracketed, encodeAll_ascii (by decide), CodePoint.encodeAll_append, List.cons_append,
      List.append_assoc]
    rfl
  rw [text]
  cases shows with
  | nil => rfl
  | @cons item v items vs first others =>
    have reads := readItems_listed (by simp) (.cons first others)
      (length_items (item :: items) 0x5D rest) rest
    obtain ⟨tail, starts⟩ := listed_cons item items
    obtain ⟨inside, object⟩ := objects item List.mem_cons_self
    have head : encodeAll (listed (item :: items)) =
        0x7B :: encodeAll (inside ++ tail) := by
      rw [starts, object, List.cons_append, encodeAll_ascii (by decide)]
      rfl
    rw [head] at reads ⊢
    change Option.map _ (readItems (readValue depth) _ _) = _
    rw [reads]
    rfl

/-! Objects. -/

/-- A field with its value is read as a member of an object. -/
def ShowsMember (depth : Nat) (m : String × List Nat) (e : Bytes × Json) : Prop :=
  m.1 ∈ fieldNames ∧ e.1 = Bytes.ofString m.1 ∧ Shows depth m.2 e.2

theorem readMembers_space (fuel : Nat) (text : Bytes) :
    readMembers (readValue depth) fuel (0x20 :: text) =
      readMembers (readValue depth) fuel text := by
  cases fuel with
  | zero => rfl
  | succ fuel => rw [readMembers, readMembers, skipSpace_space]

theorem encodeAll_member (s : Spelling) (m : String × List Nat) :
    encodeAll (s.member m) = encodeAll (s.name m.1) ++ 0x3A :: 0x20 :: encodeAll m.2 := by
  rw [Spelling.member, CodePoint.encodeAll_append, encodeAll_ascii (by decide),
    encodeAll_ascii (by decide)]
  rfl

/-- The last member and the closing brace, or a member and the comma before others. -/
theorem readMembers_member {s : Spelling} {m : String × List Nat} {e : Bytes × Json}
    (shows : ShowsMember depth m e) (fuel : Nat) (rest : Bytes) :
    readMembers (readValue depth) (fuel + 1) (encodeAll (s.member m) ++ 0x7D :: rest) =
        some ([e], rest) ∧
      readMembers (readValue depth) (fuel + 1) (encodeAll (s.member m) ++ 0x2C :: rest) =
        (readMembers (readValue depth) fuel rest).map fun x => (e :: x.1, x.2) := by
  obtain ⟨known, named, value⟩ := shows
  obtain ⟨field, written⟩ := m
  obtain ⟨key, v⟩ := e
  dsimp only [Shows] at known named value
  subst named
  have solid : isSpace 0x22 = false ∧ isSpace 0x3A = false ∧ isSpace 0x2C = false ∧
      isSpace 0x7D = false := by decide
  constructor
  all_goals
    rw [encodeAll_member, List.append_assoc, List.cons_append, List.cons_append]
    obtain ⟨behind, starts, reads⟩ := readString_quotes (quotes_name (s := s) known) _
    rw [starts, readMembers]
    simp only [skipSpace_solid solid.1, reads, skipSpace_solid solid.2.1, readValue_space,
      value, skipSpace_solid solid.2.2.1, skipSpace_solid solid.2.2.2]

theorem readMembers_listed {s : Spelling} {ms : List (String × List Nat)} {es : List (Bytes × Json)}
    (nonempty : ms ≠ []) (shows : List.Forall₂ (ShowsMember depth) ms es) {fuel : Nat}
    (enough : ms.length ≤ fuel) (rest : Bytes) :
    readMembers (readValue depth) fuel (encodeAll (listed (ms.map s.member)) ++ 0x7D :: rest) =
      some (es, rest) := by
  induction shows generalizing fuel with
  | nil => exact absurd rfl nonempty
  | @cons m e ms es first others ih =>
    obtain ⟨fuel, rfl⟩ : ∃ n, fuel = n + 1 :=
      Nat.exists_eq_succ_of_ne_zero (by simp at enough; omega)
    cases others with
    | nil =>
      rw [List.map_cons, List.map_nil, listed, (readMembers_member first fuel rest).1]
    | @cons next e' ms' es' second others =>
      rw [List.map_cons, List.map_cons, listed, encodeAll_separated, List.append_assoc,
        List.cons_append, List.cons_append, (readMembers_member first fuel _).2]
      · change Option.map _ (readMembers _ fuel
          (0x20 :: (encodeAll (listed ((next :: ms').map s.member)) ++ _))) = _
        rw [readMembers_space, ih (by simp) (by simpa using enough)]
        rfl
      · simp

theorem shows_braced {s : Spelling} {ms : List (String × List Nat)} {es : List (Bytes × Json)}
    (nonempty : ms ≠ []) (shows : List.Forall₂ (ShowsMember depth) ms es) :
    Shows (depth + 1) (s.braced ms) (.object es) := by
  intro rest
  have text : encodeAll (s.braced ms) ++ rest =
      0x7B :: (encodeAll (listed (ms.map s.member)) ++ 0x7D :: rest) := by
    rw [Spelling.braced, encodeAll_ascii (by decide), CodePoint.encodeAll_append, List.cons_append,
      List.append_assoc]
    rfl
  rw [text]
  have enough := length_items (ms.map s.member) 0x7D rest
  rw [List.length_map] at enough
  have reads := readMembers_listed (s := s) nonempty shows enough rest
  cases shows with
  | nil => exact absurd rfl nonempty
  | @cons m e ms es first others =>
    obtain ⟨tail, starts⟩ := listed_cons (s.member m) (ms.map s.member)
    obtain ⟨_, body, quoted, _, _⟩ := quotes_name (s := s) first.1
    have head : encodeAll (listed ((m :: ms).map s.member)) =
        0x22 :: encodeAll (body ++ [0x22] ++ 0x3A :: 0x20 :: m.2 ++ tail) := by
      rw [List.map_cons, starts, Spelling.member, quoted, List.cons_append, List.cons_append,
        encodeAll_ascii (by decide)]
      rfl
    rw [head] at reads ⊢
    change Option.map _ (readMembers (readValue depth) _ _) = _
    rw [reads]
    rfl

/-! Rule files. -/

theorem isField_name : ∀ f ∈ fieldNames, ∀ g ∈ fieldNames,
    isField f (Bytes.ofString g) = (f == g) := by
  decide +kernel

def ofEntry (r : RuleEntry) : Json :=
  .object [("name", .string r.name), ("kind", .string r.kind), ("match", .string r.search),
    ("replace", .string r.replacement), ("files", .string r.files)]

def ofConfig (c : Config) : Json :=
  .object [("target", .string c.target), ("backup", .bool c.backup),
    ("backup_suffix", .string c.backupSuffix), ("strict", .bool c.strict),
    ("rules", .array (c.rules.map ofEntry))]

theorem entryOver_ofEntry (old r : RuleEntry) : entryOver old (ofEntry r) = .ok r := by
  simp only [entryOver, ofEntry, List.foldlM_cons, List.foldlM_nil, entryMember]
  simp (disch := decide) only [isField_name]
  rfl

theorem entriesOver_ofEntry (old rules : List RuleEntry) :
    entriesOver old (rules.map ofEntry) = .ok rules := by
  induction rules generalizing old with
  | nil => rfl
  | cons r rules ih =>
    rw [List.map_cons, entriesOver, entryOver_ofEntry, ih]
    rfl

theorem rulesOver_ofEntry (c : Config) (rules : List RuleEntry) :
    ∃ stored, rulesOver ⟨c, []⟩ (.array (rules.map ofEntry)) =
      .ok ⟨{ c with rules := rules }, stored⟩ := by
  cases rules with
  | nil => exact ⟨[], rfl⟩
  | cons r rules =>
    refine ⟨(r :: rules) ++ ([] : List RuleEntry).drop (r :: rules).length, ?_⟩
    rw [List.map_cons, rulesOver, ← List.map_cons, entriesOver_ofEntry]
    · rfl
    · simp

theorem configOfJson_ofConfig (c : Config) :
    configOfJson (ofConfig c) = .ok { c with location := [] } := by
  simp only [configOfJson, ofConfig, List.foldlM_cons, List.foldlM_nil, configMember]
  simp (disch := decide) only [isField_name]
  obtain ⟨stored, rules⟩ := rulesOver_ofEntry ⟨c.target, c.backup, c.backupSuffix, c.strict, [], []⟩
    c.rules
  change Except.map _
    (rulesOver ⟨⟨c.target, c.backup, c.backupSuffix, c.strict, [], []⟩, []⟩ _ >>= pure) = _
  rw [rules]
  rfl

theorem shows_entry {s : Spelling} {r : RuleEntry} (valid : r.WellFormed) :
    Shows (depth + 2) (s.entry r) (ofEntry r) := by
  refine shows_braced (by simp) (.cons ?_ (.cons ?_ (.cons ?_ (.cons ?_ (.cons ?_ .nil)))))
  · exact ⟨by simp [fieldNames], rfl, shows_quotes (quotes_quoted valid.name)⟩
  · exact ⟨by simp [fieldNames], rfl, shows_quotes (quotes_quoted valid.kind)⟩
  · exact ⟨by simp [fieldNames], rfl, shows_quotes (quotes_quoted valid.search)⟩
  · exact ⟨by simp [fieldNames], rfl, shows_quotes (quotes_quoted valid.replacement)⟩
  · exact ⟨by simp [fieldNames], rfl, shows_quotes (quotes_quoted valid.files)⟩

theorem shows_config {s : Spelling} {c : Config} (valid : c.WellFormed) :
    Shows (depth + 4) (s.config c) (ofConfig c) := by
  refine shows_braced (by simp) (.cons ?_ (.cons ?_ (.cons ?_ (.cons ?_ (.cons ?_ .nil)))))
  · exact ⟨by simp [fieldNames], rfl, shows_quotes (quotes_quoted valid.target)⟩
  · exact ⟨by simp [fieldNames], rfl, shows_flag c.backup⟩
  · exact ⟨by simp [fieldNames], rfl, shows_quotes (quotes_quoted valid.backupSuffix)⟩
  · exact ⟨by simp [fieldNames], rfl, shows_flag c.strict⟩
  · refine ⟨by simp [fieldNames], rfl, shows_bracketed ?_ ?_⟩
    · rw [List.forall₂_map_left_iff, List.forall₂_map_right_iff, List.forall₂_same]
      exact fun r member => shows_entry (valid.rules r member)
    · intro item member
      obtain ⟨r, _, rfl⟩ := List.mem_map.mp member
      exact ⟨_, rfl⟩

theorem parse_oneLine (s : Spelling) {c : Config} (valid : c.WellFormed) :
    parseJson (s.oneLine c) = .ok { c with location := [] } := by
  have reads : Json.read (s.oneLine c) = some (ofConfig c) := by
    have shown := @shows_config 9997 s c valid []
    rw [List.append_nil] at shown
    rw [Json.read, Spelling.oneLine]
    exact congrArg (Option.map _) shown
  rw [parseJson, reads]
  exact configOfJson_ofConfig c

end Retouch.Document.Json
