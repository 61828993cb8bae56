import Retouch.Preview
import Retouch.Proofs.Text.Blank

/-! Previews are in normal form.
A preview consists of words with single spaces between them, also where it was cut. So it is short
enough to be shown again as it is. -/
namespace Retouch

open CodePoint

/-- There is no white space but single spaces between code points that are none. -/
def SingleSpaced (text : Bytes) : Prop :=
  ∀ before v behind, values text = before ++ v :: behind → isBlank v = true →
    v = 0x20 ∧ (∃ front u, before = front ++ [u] ∧ isBlank u = false) ∧
      ∃ w back, behind = w :: back ∧ isBlank w = false

/-! Words as lists of code points. -/

/-- Words that are not empty and whose code points all have a property. -/
def Filled (P : Nat → Prop) (words : List (List Nat)) : Prop :=
  ∀ w ∈ words, w ≠ [] ∧ ∀ v ∈ w, P v

theorem Filled.head {P : Nat → Prop} {w : List Nat} {words : List (List Nat)}
    (known : Filled P (w :: words)) :
    ∃ v rest, [0x20].intercalate (w :: words) = v :: rest ∧ P v := by
  obtain ⟨some, all⟩ := known w List.mem_cons_self
  obtain ⟨v, rest, rfl⟩ := List.exists_cons_of_ne_nil some
  have here := all v List.mem_cons_self
  cases words with
  | nil => exact ⟨v, rest, by simp, here⟩
  | cons next words =>
    rw [intercalate_two]
    exact ⟨v, _, List.cons_append, here⟩

theorem Filled.border {P : Nat → Prop} {w next : List Nat} {words : List (List Nat)}
    (known : Filled P (w :: next :: words)) : (∃ front u, w = front ++ [u] ∧ P u) ∧
      ∃ v back, [0x20].intercalate (next :: words) = v :: back ∧ P v := by
  rw [Filled, List.forall_mem_cons] at known
  obtain ⟨⟨some, all⟩, rest⟩ := known
  obtain ⟨front, u, rfl⟩ := (List.eq_nil_or_concat w).resolve_left some
  exact ⟨⟨front, u, List.concat_eq_append, all u (by simp)⟩, Filled.head rest⟩

/-- White space among words is a space with a word on each side. -/
theorem Filled.spaced {words : List (List Nat)} (dense : Filled (fun v => isBlank v = false) words)
    {before behind : List Nat} {v : Nat}
    (split : [0x20].intercalate words = before ++ v :: behind) (blank : isBlank v = true) :
    v = 0x20 ∧ (∃ front u, before = front ++ [u] ∧ isBlank u = false) ∧
      ∃ w back, behind = w :: back ∧ isBlank w = false := by
  have inside {w : List Nat} (solid : ∀ v ∈ w, isBlank v = false) (member : v ∈ w) : False := by
    rw [solid v member] at blank
    cases blank
  induction words generalizing before with
  | nil => simp at split
  | cons w words ih =>
    have solid := (dense w List.mem_cons_self).2
    cases words with
    | nil =>
      rw [List.intercalate_singleton] at split
      exact (inside solid (by simp [split])).elim
    | cons next words =>
      obtain ⟨left, right⟩ := dense.border
      rw [intercalate_two] at split
      rcases List.append_eq_append_iff.mp split with ⟨between, rfl, same⟩ | ⟨between, rfl, same⟩
      · cases between with
        | nil =>
          obtain ⟨rfl, rfl⟩ := List.cons.inj same
          exact ⟨rfl, by simpa using left, right⟩
        | cons space between =>
          obtain ⟨rfl, later⟩ := List.cons.inj same
          obtain ⟨is, ⟨front, u, rfl, last⟩, follows⟩ :=
            ih (fun u member => dense u (List.mem_cons_of_mem w member)) later
          exact ⟨is, ⟨_, u, by rw [← List.cons_append, ← List.append_assoc], last⟩, follows⟩
      · cases between with
        | nil =>
          obtain ⟨rfl, rfl⟩ := List.cons.inj same
          exact ⟨rfl, by simpa using left, right⟩
        | cons x between =>
          obtain ⟨rfl, _⟩ := List.cons.inj same
          exact (inside solid (by simp)).elim

/-- Words that are cut anywhere, even behind a space, are words again with one more code point. -/
theorem Filled.cut {P : Nat → Prop} {e : Nat} (last : P e) {words : List (List Nat)}
    (known : Filled P words) (n : Nat) : ∃ cut, Filled P cut ∧
      ([0x20].intercalate words).take n ++ [e] = [0x20].intercalate cut := by
  have partly {w : List Nat} (all : ∀ v ∈ w, P v) (n : Nat) : Filled P [w.take n ++ [e]] := by
    intro part member
    rw [List.mem_singleton.mp member]
    refine ⟨by simp, fun v inside => ?_⟩
    rcases List.mem_append.mp inside with kept | added
    · exact all v (List.mem_of_mem_take kept)
    · rwa [List.mem_singleton.mp added]
  induction words generalizing n with
  | nil => exact ⟨[[e]], by simpa using @partly [] (by simp) n, by simp⟩
  | cons w words ih =>
    rw [Filled, List.forall_mem_cons] at known
    obtain ⟨⟨some, all⟩, rest⟩ := known
    cases words with
    | nil => exact ⟨_, partly all n, by simp⟩
    | cons next words =>
      rw [intercalate_two]
      by_cases within : n ≤ w.length
      · refine ⟨_, partly all n, ?_⟩
        rw [List.take_append_of_le_length within, List.intercalate_singleton]
      · obtain ⟨k, rfl⟩ : ∃ k, n = w.length + (k + 1) := ⟨n - w.length - 1, by omega⟩
        obtain ⟨cut, known', same⟩ := ih rest k
        obtain ⟨first, others, rfl⟩ : ∃ first others, cut = first :: others := by
          apply List.exists_cons_of_ne_nil
          rintro rfl
          simp at same
        refine ⟨w :: first :: others, ?_, ?_⟩
        · rw [Filled, List.forall_mem_cons]
          exact ⟨⟨some, all⟩, known'⟩
        · rw [intercalate_two, ← same, List.take_length_add_append, List.take_succ_cons]
          simp

theorem encodeAll_intercalate (words : List (List Nat)) :
    encodeAll ([0x20].intercalate words) = [0x20].intercalate (words.map encodeAll) := by
  have space : encode 0x20 = [0x20] := by decide
  induction words with
  | nil => rfl
  | cons w words ih =>
    cases words with
    | nil => simp
    | cons next words =>
      rw [intercalate_two, encodeAll_append, encodeAll_cons, ih, space, List.singleton_append,
        List.map_cons, List.map_cons, List.map_cons, intercalate_two]

/-! Previews. -/

def onLine (text : Bytes) : Bytes := [0x20].intercalate text.fields

theorem preview_eq (text : Bytes) : preview text =
    if (values (onLine text)).length ≤ 48 then onLine text
    else encodeAll ((values (onLine text)).take 47 ++ [0x2026]) := by
  by_cases short : (values (onLine text)).length ≤ 48
  · rw [if_pos short]
    exact if_neg (Nat.not_lt.mpr short)
  · rw [if_neg short]
    exact if_pos (Nat.lt_of_not_le short)

theorem values_onLine (text : Bytes) : ∃ words, values (onLine text) = [0x20].intercalate words ∧
    Filled (fun v => isBlank v = false ∧ isScalar v = true) words := by
  refine ⟨_, values_intercalate _, fun w member => ?_⟩
  obtain ⟨field, inside, rfl⟩ := List.mem_map.mp member
  obtain ⟨some, dense⟩ := (Bytes.fielded_fields text).dense field inside
  exact ⟨values_ne_nil some, fun v point => ⟨dense v point, isScalar_values field v point⟩⟩

theorem values_preview (text : Bytes) : values (preview text) =
    if (values (onLine text)).length ≤ 48 then values (onLine text)
    else (values (onLine text)).take 47 ++ [0x2026] := by
  rw [preview_eq]
  split
  · rfl
  · apply values_encodeAll
    intro v member
    rcases List.mem_append.mp member with kept | added
    · exact isScalar_values _ v (List.mem_of_mem_take kept)
    · rw [List.mem_singleton.mp added]
      rfl

theorem length_preview_le (text : Bytes) : (values (preview text)).length ≤ 48 := by
  rw [values_preview]
  split
  · assumption
  · rw [List.length_append, List.length_take]
    simp only [List.length_singleton]
    omega

theorem preview_words (text : Bytes) : ∃ words, preview text = [0x20].intercalate words ∧
    ∀ w ∈ words, w ≠ [] ∧ Dense w := by
  rw [preview_eq]
  split
  · exact ⟨text.fields, rfl, (Bytes.fielded_fields text).dense⟩
  · obtain ⟨words, eq, known⟩ := values_onLine text
    obtain ⟨cut, known', same⟩ := known.cut (e := 0x2026) ⟨rfl, rfl⟩ 47
    rw [eq, same, encodeAll_intercalate]
    refine ⟨_, rfl, fun w member => ?_⟩
    obtain ⟨points, inside, rfl⟩ := List.mem_map.mp member
    obtain ⟨some, all⟩ := known' points inside
    constructor
    · intro none
      have pos := List.length_pos_iff.mpr some
      have written := length_encodeAll points
      rw [none, List.length_nil] at written
      omega
    · rw [Dense, values_encodeAll fun v point => (all v point).2]
      exact fun v point => (all v point).1

theorem singleSpaced_words {words : List Bytes} (dense : ∀ w ∈ words, w ≠ [] ∧ Dense w) :
    SingleSpaced ([0x20].intercalate words) := by
  intro before v behind split blank
  rw [values_intercalate] at split
  refine Filled.spaced (fun w member => ?_) split blank
  obtain ⟨word, inside, rfl⟩ := List.mem_map.mp member
  obtain ⟨some, solid⟩ := dense word inside
  exact ⟨values_ne_nil some, solid⟩

theorem onLine_words {words : List Bytes} (dense : ∀ w ∈ words, w ≠ [] ∧ Dense w) :
    onLine ([0x20].intercalate words) = [0x20].intercalate words := by
  rw [onLine, Bytes.fields_of_fielded (fielded_intercalate dense)]

/-- The preview of any text, malformed bytes included, is made of its fields, which are its longest
pieces without white space: they are joined by single spaces, and of more than 48 code points the
first 47 are shown with an ellipsis behind them. So it has at most 48 code points and no white space
but single spaces within it, and it is its own preview. -/
theorem preview_normal (text : Bytes) :
    let line := ([0x20] : Bytes).intercalate text.fields
    Fielded text.fields text ∧
    preview text = (if (values line).length ≤ 48 then line
      else encodeAll ((values line).take 47 ++ [0x2026])) ∧
    values (preview text) = (if (values line).length ≤ 48 then values line
      else (values line).take 47 ++ [0x2026]) ∧
    (values (preview text)).length ≤ 48 ∧ SingleSpaced (preview text) ∧
    preview (preview text) = preview text := by
  intro line
  obtain ⟨words, same, dense⟩ := preview_words text
  have short := length_preview_le text
  refine ⟨Bytes.fielded_fields text, preview_eq text, values_preview text, short, ?_, ?_⟩
  · rw [same]
    exact singleSpaced_words dense
  · have again : onLine (preview text) = preview text := by
      rw [same]
      exact onLine_words dense
    rw [preview_eq (preview text), again, if_pos short]

/-- The cut falls behind a space and in front of a malformed byte. -/
example : preview (List.replicate 46 0x61 ++ [0x20, 0xFF, 0x62, 0x0A, 0x63]) =
    List.replicate 46 0x61 ++ 0x20 :: ("…" : Bytes) := by decide +kernel

end Retouch
