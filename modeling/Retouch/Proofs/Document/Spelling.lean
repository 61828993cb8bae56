import Retouch.Config
import Retouch.Proofs.Text.Encoding

/-! Rule files as they can be written.
In quotes each code point of the basic plane is escaped and each higher one stands as it is, so a
text in quotes holds no blanks, no line breaks and nothing that some format takes for a sign. -/
namespace Retouch

structure RuleEntry.WellFormed (r : RuleEntry) : Prop where
  name : CodePoint.isValid r.name = true
  kind : CodePoint.isValid r.kind = true
  search : CodePoint.isValid r.search = true
  replacement : CodePoint.isValid r.replacement = true
  files : CodePoint.isValid r.files = true

structure Config.WellFormed (c : Config) : Prop where
  target : CodePoint.isValid c.target = true
  backupSuffix : CodePoint.isValid c.backupSuffix = true
  rules : ∀ r ∈ c.rules, r.WellFormed

namespace Document

def points (text : String) : List Nat := text.toList.map Char.toNat

/-- How a rule file is written where there is a choice. -/
structure Spelling where
  /-- Hexadecimal digits above nine are capital letters. -/
  capitals : Bool
  /-- The names of fields are escaped like other texts. -/
  escapedNames : Bool
  deriving DecidableEq, Repr

namespace Spelling

def digit (s : Spelling) (n : Nat) : Nat :=
  if n < 10 then 0x30 + n else if s.capitals then 0x37 + n else 0x57 + n

def point (s : Spelling) (v : Nat) : List Nat :=
  if v < 0x10000 then
    [0x5C, 0x75, s.digit (v / 0x1000), s.digit (v / 0x100 % 0x10), s.digit (v / 0x10 % 0x10),
      s.digit (v % 0x10)]
  else [v]

def quoted (s : Spelling) (t : Bytes) : List Nat :=
  0x22 :: ((CodePoint.values t).flatMap s.point ++ [0x22])

def name (s : Spelling) (field : String) : List Nat :=
  if s.escapedNames then s.quoted field else 0x22 :: (points field ++ [0x22])

end Spelling

def listed : List (List Nat) → List Nat
  | [] => []
  | [item] => item
  | item :: rest => item ++ 0x2C :: 0x20 :: listed rest

def bracketed (items : List (List Nat)) : List Nat := 0x5B :: (listed items ++ [0x5D])

def flagWord (b : Bool) : List Nat := if b then points "true" else points "false"

namespace Spelling

def member (s : Spelling) (m : String × List Nat) : List Nat := s.name m.1 ++ 0x3A :: 0x20 :: m.2

def braced (s : Spelling) (members : List (String × List Nat)) : List Nat :=
  0x7B :: (listed (members.map s.member) ++ [0x7D])

def entry (s : Spelling) (r : RuleEntry) : List Nat :=
  s.braced [("name", s.quoted r.name), ("kind", s.quoted r.kind), ("match", s.quoted r.search),
    ("replace", s.quoted r.replacement), ("files", s.quoted r.files)]

def config (s : Spelling) (c : Config) : List Nat :=
  s.braced [("target", s.quoted c.target), ("backup", flagWord c.backup),
    ("backup_suffix", s.quoted c.backupSuffix), ("strict", flagWord c.strict),
    ("rules", bracketed (c.rules.map s.entry))]

/-- A rule file of one line that is both JSON and YAML. -/
def oneLine (s : Spelling) (c : Config) : Bytes := CodePoint.encodeAll (s.config c)

end Spelling

/-! What stands in quotes. -/

theorem Spelling.digit_lt (s : Spelling) {n : Nat} (small : n < 0x10) : s.digit n < 0x80 := by
  unfold digit
  split
  · omega
  · split <;> omega

/-- Characters that need no escape in quotes. -/
def isLiteral (v : Nat) : Bool :=
  (0x21 ≤ v && v ≤ 0x7E && v != 0x22 && v != 0x5C) || (0x10000 ≤ v && v ≤ 0x10FFFF)

/-- A way to write values in quotes: each one is escaped or stands as it is. -/
inductive Spelt (s : Spelling) : List Nat → List Nat → Prop where
  | nil : Spelt s [] []
  | escape {v : Nat} {vs body : List Nat} : CodePoint.isScalar v = true → v < 0x10000 →
      Spelt s vs body → Spelt s (v :: vs) (s.point v ++ body)
  | literal {v : Nat} {vs body : List Nat} : isLiteral v = true → Spelt s vs body →
      Spelt s (v :: vs) (v :: body)

theorem isScalar_of_literal {v : Nat} (literal : isLiteral v = true) :
    CodePoint.isScalar v = true := by
  simp [isLiteral, CodePoint.isScalar] at literal ⊢
  omega

theorem Spelt.scalars {s : Spelling} {vs body : List Nat} (spelt : Spelt s vs body) :
    ∀ v ∈ vs, CodePoint.isScalar v = true := by
  induction spelt with
  | nil => simp
  | escape scalar _ _ ih => exact List.forall_mem_cons.mpr ⟨scalar, ih⟩
  | literal literal _ ih => exact List.forall_mem_cons.mpr ⟨isScalar_of_literal literal, ih⟩

theorem spelt_points {s : Spelling} {vs : List Nat}
    (scalars : ∀ v ∈ vs, CodePoint.isScalar v = true) : Spelt s vs (vs.flatMap s.point) := by
  induction vs with
  | nil => exact .nil
  | cons v vs ih =>
    rw [List.forall_mem_cons] at scalars
    rw [List.flatMap_cons]
    by_cases basic : v < 0x10000
    · exact .escape scalars.1 basic (ih scalars.2)
    · have range := CodePoint.isScalar_iff.mp scalars.1
      have single : s.point v = [v] := by rw [Spelling.point, if_neg basic]
      rw [single]
      refine .literal ?_ (ih scalars.2)
      simp [isLiteral]
      omega

theorem spelt_literals {s : Spelling} {vs : List Nat} (literal : ∀ v ∈ vs, isLiteral v = true) :
    Spelt s vs vs := by
  induction vs with
  | nil => exact .nil
  | cons v vs ih =>
    rw [List.forall_mem_cons] at literal
    exact .literal literal.1 (ih literal.2)

def Quotes (s : Spelling) (t : Bytes) (written : List Nat) : Prop :=
  ∃ vs body, written = 0x22 :: (body ++ [0x22]) ∧ Spelt s vs body ∧ CodePoint.encodeAll vs = t

theorem quotes_quoted {s : Spelling} {t : Bytes} (valid : CodePoint.isValid t = true) :
    Quotes s t (s.quoted t) :=
  ⟨_, _, rfl, spelt_points (CodePoint.isScalar_values t), CodePoint.encodeAll_values t valid⟩

def fieldNames : List String :=
  ["target", "backup", "backup_suffix", "strict", "rules", "name", "kind", "match", "replace",
    "files"]

theorem quotes_name {s : Spelling} {field : String} (known : field ∈ fieldNames) :
    Quotes s field (s.name field) := by
  unfold Spelling.name
  split
  · refine quotes_quoted ?_
    revert field
    decide
  · refine ⟨points field, points field, rfl, spelt_literals ?_, ?_⟩
    · revert field
      decide
    · revert field
      decide

theorem length_name {s : Spelling} {field : String} (known : field ∈ fieldNames) :
    (s.name field).length ≤ 80 := by
  rcases s with ⟨_ | _, _ | _⟩ <;> revert field <;> decide

theorem length_listed (items : List (List Nat)) : items.length ≤ (listed items).length + 1 := by
  induction items with
  | nil => exact Nat.zero_le _
  | cons item rest ih =>
    cases rest with
    | nil => simp
    | cons next rest =>
      simp only [listed, List.length_cons, List.length_append] at ih ⊢
      omega

theorem listed_cons (item : List Nat) (rest : List (List Nat)) :
    ∃ tail, listed (item :: rest) = item ++ tail := by
  cases rest with
  | nil => exact ⟨[], (List.append_nil item).symm⟩
  | cons next rest => exact ⟨_, rfl⟩

/-! The characters that are used. -/

def isPrinted (c : Nat) : Bool := (0x20 ≤ c && c ≤ 0x7E) || (0x10000 ≤ c && c ≤ 0x10FFFF)

theorem isScalar_printed {c : Nat} (printed : isPrinted c = true) :
    CodePoint.isScalar c = true := by
  simp [isPrinted, CodePoint.isScalar] at printed ⊢
  omega

theorem isPrinted_literal {v : Nat} (literal : isLiteral v = true) : isPrinted v = true := by
  simp [isLiteral, isPrinted] at literal ⊢
  omega

theorem Spelling.isPrinted_digit (s : Spelling) : ∀ n < 0x10, isPrinted (s.digit n) = true := by
  rcases s with ⟨_ | _, _ | _⟩ <;> decide

theorem Spelt.printed {s : Spelling} {vs body : List Nat} (spelt : Spelt s vs body) :
    ∀ c ∈ body, isPrinted c = true := by
  induction spelt with
  | nil => simp
  | @escape v _ _ scalar basic _ ih =>
    rw [Spelling.point, if_pos basic]
    simp only [List.forall_mem_append, List.forall_mem_cons]
    exact ⟨⟨by decide, by decide, s.isPrinted_digit _ (by omega), s.isPrinted_digit _ (by omega),
      s.isPrinted_digit _ (by omega), s.isPrinted_digit _ (by omega), by simp⟩, ih⟩
  | literal literal _ ih => exact List.forall_mem_cons.mpr ⟨isPrinted_literal literal, ih⟩

theorem Quotes.printed {s : Spelling} {t : Bytes} {written : List Nat}
    (quotes : Quotes s t written) :
    ∀ c ∈ written, isPrinted c = true := by
  obtain ⟨vs, body, rfl, spelt, _⟩ := quotes
  simp only [List.forall_mem_cons, List.forall_mem_append]
  exact ⟨by decide, spelt.printed, by decide, by simp⟩

theorem printed_flagWord (b : Bool) : ∀ c ∈ flagWord b, isPrinted c = true := by
  cases b <;> decide

theorem printed_listed {items : List (List Nat)}
    (printed : ∀ item ∈ items, ∀ c ∈ item, isPrinted c = true) :
    ∀ c ∈ listed items, isPrinted c = true := by
  induction items with
  | nil => simp [listed]
  | cons item rest ih =>
    rw [List.forall_mem_cons] at printed
    cases rest with
    | nil => exact printed.1
    | cons next rest =>
      simp only [listed, List.forall_mem_append, List.forall_mem_cons]
      exact ⟨printed.1, by decide, by decide, ih printed.2⟩

theorem printed_bracketed {items : List (List Nat)}
    (printed : ∀ item ∈ items, ∀ c ∈ item, isPrinted c = true) :
    ∀ c ∈ bracketed items, isPrinted c = true := by
  simp only [bracketed, List.forall_mem_cons, List.forall_mem_append]
  exact ⟨by decide, printed_listed printed, by decide, by simp⟩

theorem printed_braced {s : Spelling} {members : List (String × List Nat)}
    (printed : ∀ m ∈ members, m.1 ∈ fieldNames ∧ ∀ c ∈ m.2, isPrinted c = true) :
    ∀ c ∈ s.braced members, isPrinted c = true := by
  have all : ∀ item ∈ members.map s.member, ∀ c ∈ item, isPrinted c = true := by
    intro item member
    obtain ⟨m, given, rfl⟩ := List.mem_map.mp member
    obtain ⟨known, value⟩ := printed m given
    simp only [Spelling.member, List.forall_mem_cons, List.forall_mem_append]
    exact ⟨(quotes_name known).printed, by decide, by decide, value⟩
  simp only [Spelling.braced, List.forall_mem_cons, List.forall_mem_append]
  exact ⟨by decide, printed_listed all, by decide, by simp⟩

theorem printed_entry {s : Spelling} {r : RuleEntry} (valid : r.WellFormed) :
    ∀ c ∈ s.entry r, isPrinted c = true := by
  refine printed_braced ?_
  simp only [List.forall_mem_cons]
  refine ⟨⟨by simp [fieldNames], (quotes_quoted valid.name).printed⟩,
    ⟨by simp [fieldNames], (quotes_quoted valid.kind).printed⟩,
    ⟨by simp [fieldNames], (quotes_quoted valid.search).printed⟩,
    ⟨by simp [fieldNames], (quotes_quoted valid.replacement).printed⟩,
    ⟨by simp [fieldNames], (quotes_quoted valid.files).printed⟩, by simp⟩

theorem printed_config {s : Spelling} {c : Config} (valid : c.WellFormed) :
    ∀ v ∈ s.config c, isPrinted v = true := by
  refine printed_braced ?_
  simp only [List.forall_mem_cons]
  refine ⟨⟨by simp [fieldNames], (quotes_quoted valid.target).printed⟩,
    ⟨by simp [fieldNames], printed_flagWord c.backup⟩,
    ⟨by simp [fieldNames], (quotes_quoted valid.backupSuffix).printed⟩,
    ⟨by simp [fieldNames], printed_flagWord c.strict⟩,
    ⟨by simp [fieldNames], printed_bracketed ?_⟩, by simp⟩
  intro item member
  obtain ⟨r, given, rfl⟩ := List.mem_map.mp member
  exact printed_entry (valid.rules r given)

end Document

end Retouch
