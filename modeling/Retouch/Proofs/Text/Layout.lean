import Retouch.Proofs.Text.CodePoint
import Retouch.Text.Blank

/-! Layout.
The tokens of a text are its maximal segments without layout bytes, and a text spells them with
runs of layout bytes in between. -/
namespace Retouch

def Layout (text : Bytes) : Prop := ∀ b ∈ text, isLayout b = true

def Solid (text : Bytes) : Prop := ∀ b ∈ text, isLayout b = false

instance (text : Bytes) : Decidable (Solid text) := List.decidableBAll _ text

/-- A text spells tokens with a non-empty run of layout bytes between each two of them. -/
inductive Spells : List Bytes → Bytes → Prop where
  | last {t : Bytes} : Spells [t] t
  | cons {t gap text : Bytes} {tokens : List Bytes} : gap ≠ [] → Layout gap → Spells tokens text →
      Spells (t :: tokens) (t ++ (gap ++ text))

theorem Spells.starts {tokens : List Bytes} {text : Bytes} (spells : Spells tokens text) :
    ∃ t more rest, tokens = t :: more ∧ text = t ++ rest := by
  cases spells with
  | last => exact ⟨text, [], [], rfl, (List.append_nil text).symm⟩
  | cons => exact ⟨_, _, _, rfl, rfl⟩

def Break (text : Bytes) : Prop := ∀ b, text.head? = some b → isLayout b = true

/-- Nothing, or a byte that is no layout and what follows it. -/
def Flush (text : Bytes) : Prop := ∀ b, text.head? = some b → isLayout b = false

theorem flush_cons {b : UInt8} (dense : isLayout b = false) (rest : Bytes) : Flush (b :: rest) := by
  intro c head
  cases head
  exact dense

theorem layout_split (text : Bytes) : ∃ gap rest, text = gap ++ rest ∧ Layout gap ∧ Flush rest := by
  refine ⟨text.takeWhile isLayout, text.dropWhile isLayout,
    List.takeWhile_append_dropWhile.symm, fun b member => ?_, fun b head => ?_⟩
  · exact List.all_eq_true.mp List.all_takeWhile b member
  · have stops := List.head?_dropWhile_not isLayout text
    rw [head] at stops
    simpa using stops

namespace Bytes

def segments (text : Bytes) : List Bytes :=
  text.foldr (fun x acc =>
    if isLayout x then [] :: acc
    else match acc with
      | [] => [[x]]
      | w :: more => (x :: w) :: more) [[]]

theorem tokens_eq (text : Bytes) : tokens text = (segments text).filter (· ≠ []) := rfl

theorem segments_break {rest : Bytes} (edge : Break rest) : ∃ more, segments rest = [] :: more := by
  cases rest with
  | nil => exact ⟨[], rfl⟩
  | cons x rest =>
    have layout : isLayout x = true := edge x rfl
    exact ⟨segments rest, by simp [segments, layout]⟩

theorem segments_word {word : Bytes} (solid : Solid word) {rest : Bytes} {more : List Bytes}
    (ends : segments rest = [] :: more) : segments (word ++ rest) = word :: more := by
  induction word with
  | nil => exact ends
  | cons x word ih =>
    have dense : isLayout x = false := solid x List.mem_cons_self
    have tail : segments (word ++ rest) = word :: more :=
      ih fun b member => solid b (List.mem_cons_of_mem _ member)
    simp only [segments] at tail ⊢
    rw [List.cons_append, List.foldr_cons, tail, dense]
    rfl

theorem tokens_layout {x : UInt8} (layout : isLayout x = true) (rest : Bytes) :
    tokens (x :: rest) = tokens rest := by
  simp [tokens_eq, segments, layout]

theorem tokens_word {word : Bytes} (solid : Solid word) (nonempty : word ≠ []) {rest : Bytes}
    (edge : Break rest) : tokens (word ++ rest) = word :: tokens rest := by
  obtain ⟨more, ends⟩ := segments_break edge
  simp [tokens_eq, ends, segments_word solid ends, nonempty]

end Bytes

/-- Every text is built from its end by layout bytes and by whole words in front of a break. -/
theorem layout_induction {motive : Bytes → Prop} (nil : motive [])
    (layout : ∀ x rest, isLayout x = true → motive rest → motive (x :: rest))
    (word : ∀ w rest, Solid w → w ≠ [] → Break rest → motive rest → motive (w ++ rest))
    (text : Bytes) : motive text := by
  induction h : text.length using Nat.strongRecOn generalizing text with
  | ind n ih =>
    cases text with
    | nil => exact nil
    | cons x rest =>
      cases kind : isLayout x with
      | true => exact layout x rest kind (ih rest.length (by simp [← h]) rest rfl)
      | false =>
        have split : (x :: rest).takeWhile (!isLayout ·) ++ (x :: rest).dropWhile (!isLayout ·) =
            x :: rest := List.takeWhile_append_dropWhile
        have starts : (x :: rest).takeWhile (!isLayout ·) ≠ [] := by simp [kind]
        have shorter := congrArg List.length split
        rw [List.length_append, h] at shorter
        have pos := List.length_pos_iff.mpr starts
        rw [← split]
        refine word _ _ ?_ starts ?_ (ih _ (by omega) _ rfl)
        · intro b member
          simpa using List.all_eq_true.mp List.all_takeWhile b member
        · intro b head
          have := List.head?_dropWhile_not (!isLayout ·) (x :: rest)
          rw [head] at this
          simpa using this

namespace Bytes

theorem tokens_ne_nil {text t : Bytes} (member : t ∈ tokens text) : t ≠ [] := by
  simpa using (List.mem_filter.mp member).2

theorem solid_tokens (text : Bytes) : ∀ t ∈ tokens text, Solid t := by
  induction text using layout_induction with
  | nil => intro t member; cases member
  | layout x rest kind ih => rwa [tokens_layout kind]
  | word w rest solid nonempty edge ih =>
    rw [tokens_word solid nonempty edge]
    intro t member
    rcases List.mem_cons.mp member with rfl | member
    · exact solid
    · exact ih t member

/-- A text is its tokens with layout bytes around and between them, so that the tokens are the
longest segments without layout bytes. -/
theorem spells_tokens (text : Bytes) :
    ∃ lead body trail, text = lead ++ (body ++ trail) ∧ Layout lead ∧ Layout trail ∧
      (tokens text = [] ∧ body = [] ∨ Spells (tokens text) body) := by
  induction text using layout_induction with
  | nil => exact ⟨[], [], [], rfl, by simp [Layout], by simp [Layout], .inl ⟨rfl, rfl⟩⟩
  | layout x rest kind ih =>
    obtain ⟨lead, body, trail, rfl, before, behind, spells⟩ := ih
    refine ⟨x :: lead, body, trail, rfl, ?_, behind, by rwa [tokens_layout kind]⟩
    intro b member
    rcases List.mem_cons.mp member with rfl | member
    · exact kind
    · exact before b member
  | word w rest solid nonempty edge ih =>
    obtain ⟨lead, body, trail, rfl, before, behind, spells⟩ := ih
    rw [tokens_word solid nonempty edge]
    rcases spells with ⟨none, rfl⟩ | spells
    · refine ⟨[], w, lead ++ trail, rfl, by simp [Layout], ?_, .inr (by rw [none]; exact .last)⟩
      intro b member
      rcases List.mem_append.mp member with member | member
      · exact before b member
      · exact behind b member
    · refine ⟨[], w ++ (lead ++ body), trail, by simp, by simp [Layout], behind, .inr ?_⟩
      refine .cons ?_ before spells
      -- Without layout bytes in front, the first token would have been part of the word.
      rintro rfl
      obtain ⟨t, more, rest, eq, rfl⟩ := spells.starts
      have member : t ∈ tokens ([] ++ (t ++ rest ++ trail)) := by rw [eq]; exact List.mem_cons_self
      obtain ⟨b, t, rfl⟩ := List.exists_cons_of_ne_nil (tokens_ne_nil member)
      have dense := solid_tokens _ _ member b List.mem_cons_self
      rw [edge b rfl] at dense
      cases dense

theorem tokens_append {x : UInt8} (kind : isLayout x = true) (text rest : Bytes) :
    tokens (text ++ x :: rest) = tokens text ++ tokens rest := by
  have divided : segments (text ++ x :: rest) = segments text ++ segments rest := by
    induction text with
    | nil => simp [segments, kind]
    | cons y text ih =>
      obtain ⟨w, more, eq⟩ : ∃ w more, segments text = w :: more := by
        cases text with
        | nil => exact ⟨[], [], rfl⟩
        | cons z text =>
          simp only [segments, List.foldr_cons]
          split
          · exact ⟨_, _, rfl⟩
          · split <;> exact ⟨_, _, rfl⟩
      simp only [segments, List.cons_append, List.foldr_cons] at ih eq ⊢
      rw [ih, eq]
      split <;> rfl
  rw [tokens_eq, divided, List.filter_append, tokens_eq, tokens_eq]

theorem tokens_solid {word : Bytes} (solid : Solid word) (nonempty : word ≠ []) :
    tokens word = [word] := by
  have edge : Break [] := by
    intro b head
    cases head
  have alone := tokens_word solid nonempty edge
  rwa [List.append_nil] at alone

/-- A word in front of a run of layout bytes is a token. -/
theorem tokens_gap {word gap : Bytes} (solid : Solid word) (nonempty : word ≠ []) (wide : gap ≠ [])
    (layout : Layout gap) (rest : Bytes) :
    tokens (word ++ (gap ++ rest)) = word :: tokens rest := by
  have edge : Break (gap ++ rest) := by
    obtain ⟨g, gap, rfl⟩ := List.exists_cons_of_ne_nil wide
    intro b head
    cases head
    exact layout g List.mem_cons_self
  have skipped : tokens (gap ++ rest) = tokens rest := by
    clear wide edge
    induction gap with
    | nil => rfl
    | cons g gap ih =>
      rw [List.cons_append, tokens_layout (layout g List.mem_cons_self)]
      exact ih fun b member => layout b (List.mem_cons_of_mem _ member)
  rw [tokens_word solid nonempty edge, skipped]

theorem tokens_spells {ts : List Bytes} {text : Bytes} (known : ∀ t ∈ ts, t ≠ [] ∧ Solid t)
    (spells : Spells ts text) : tokens text = ts := by
  induction spells with
  | @last t =>
    obtain ⟨nonempty, solid⟩ := known t List.mem_cons_self
    exact tokens_solid solid nonempty
  | @cons t gap text ts nonempty layout _ ih =>
    obtain ⟨word, solid⟩ := known t List.mem_cons_self
    have rest := ih fun u member => known u (List.mem_cons_of_mem _ member)
    rw [tokens_gap solid word nonempty layout, rest]

end Bytes

end Retouch
