import Retouch.Proofs.Rule.Independence
import Retouch.Proofs.Text.Layout

/-! Templates that never overlap.
An occurrence that starts inside of another one reads on with the rest of a token and the tokens
behind it. Whether two templates can meet so is seen from their tokens alone, whatever the layout
and whatever stands around them. -/
namespace Retouch

/-- The tokens begin those of a text, where the last one may go on. -/
inductive Fits : List Bytes → List Bytes → Prop where
  | last {t more : Bytes} {rest : List Bytes} : Fits [t] ((t ++ more) :: rest)
  | cons {t : Bytes} {ts rest : List Bytes} : Fits ts rest → Fits (t :: ts) (t :: rest)

def agree : List Bytes → List Bytes → Bool
  | [t], [u] => t.isPrefixOf u || u.isPrefixOf t
  | [t], u :: _ => t.isPrefixOf u
  | t :: _, [u] => u.isPrefixOf t
  | t :: ts, u :: us => t == u && agree ts us
  | _, _ => false

/-- An occurrence of the first tokens can start inside of one of the second ones. -/
def meets (us : List Bytes) : List Bytes → Bool
  | [] => false
  | t :: ts => ((List.range t.length).any fun k => agree (t.drop k :: ts) us) || meets us ts

theorem Fits.ne_nil {ts all : List Bytes} (fits : Fits ts all) : ts ≠ [] := by
  cases fits <;> exact List.cons_ne_nil _ _

theorem Fits.agree {ts us all : List Bytes} (first : Fits ts all) (second : Fits us all) :
    agree ts us = true := by
  induction first generalizing us with
  | @last t more rest =>
    generalize whole : t ++ more = word at second
    cases second with
    | @last u =>
      rw [Retouch.agree, Bool.or_eq_true, List.isPrefixOf_iff_prefix, List.isPrefixOf_iff_prefix]
      rcases List.append_eq_append_iff.mp whole with ⟨excess, rfl, _⟩ | ⟨excess, rfl, _⟩
      · exact .inl (List.prefix_append t excess)
      · exact .inr (List.prefix_append u excess)
    | @cons _ us _ behind =>
      obtain ⟨u, us, rfl⟩ := List.exists_cons_of_ne_nil behind.ne_nil
      rw [Retouch.agree, List.isPrefixOf_iff_prefix, ← whole]
      · exact List.prefix_append t more
      · intro none
        cases none
  | @cons t ts rest behind ih =>
    obtain ⟨t', ts, rfl⟩ := List.exists_cons_of_ne_nil behind.ne_nil
    cases second with
    | @last u more =>
      rw [Retouch.agree, List.isPrefixOf_iff_prefix]
      · exact List.prefix_append u more
      · simp
    | @cons _ us _ other =>
      obtain ⟨u', us, rfl⟩ := List.exists_cons_of_ne_nil other.ne_nil
      rw [Retouch.agree, Bool.and_eq_true]
      · exact ⟨beq_self_eq_true t, ih other⟩
      all_goals simp

/-- Tokens that are not empty and hold no layout. -/
def Words (ts : List Bytes) : Prop := ∀ t ∈ ts, t ≠ [] ∧ Solid t

theorem words_tokens (source : Bytes) : Words source.tokens := by
  intro t member
  exact ⟨Bytes.tokens_ne_nil member, Bytes.solid_tokens source t member⟩

theorem Spells.fits {ts : List Bytes} {text : Bytes} (words : Words ts) (spells : Spells ts text)
    (rest : Bytes) : Fits ts (text ++ rest).tokens := by
  induction spells with
  | @last t =>
    obtain ⟨nonempty, solid⟩ := words t List.mem_cons_self
    obtain ⟨more, behind, rfl, dense, edge⟩ : ∃ more behind, rest = more ++ behind ∧
        Solid more ∧ Break behind := by
      refine ⟨rest.takeWhile (!isLayout ·), rest.dropWhile (!isLayout ·),
        List.takeWhile_append_dropWhile.symm, ?_, ?_⟩
      · intro b member
        simpa using List.all_eq_true.mp List.all_takeWhile b member
      · intro b head
        have stops := List.head?_dropWhile_not (!isLayout ·) rest
        rw [head] at stops
        simpa using stops
    have whole : Solid (t ++ more) := by
      intro b member
      rcases List.mem_append.mp member with member | member
      · exact solid b member
      · exact dense b member
    rw [← List.append_assoc, Bytes.tokens_word whole (by simp [nonempty]) edge]
    exact .last
  | @cons t gap text ts nonempty layout _ ih =>
    obtain ⟨word, solid⟩ := words t List.mem_cons_self
    rw [List.append_assoc, List.append_assoc, Bytes.tokens_gap solid word nonempty layout]
    apply Fits.cons
    apply ih
    intro u member
    exact words u (List.mem_cons_of_mem t member)

/-- What follows a place inside of an occurrence is the rest of a token with the tokens behind it,
unless it is layout. -/
theorem Spells.inside {ts : List Bytes} {lead text : Bytes} (spells : Spells ts (lead ++ text))
    (nonempty : text ≠ []) (flush : Flush text) :
    ∃ passed t w more, ts = passed ++ (t ++ w) :: more ∧ w ≠ [] ∧ Spells (w :: more) text := by
  generalize whole : lead ++ text = all at spells
  induction spells generalizing lead with
  | @last t => exact ⟨[], lead, text, [], by rw [whole]; rfl, nonempty, .last⟩
  | @cons t gap behind ts wide layout spells ih =>
    rcases List.append_eq_append_iff.mp whole with ⟨w, rfl, rfl⟩ | ⟨excess, rfl, eq⟩
    · by_cases none : w = []
      · subst none
        obtain ⟨g, gap, rfl⟩ := List.exists_cons_of_ne_nil wide
        have dense := flush g rfl
        rw [layout g List.mem_cons_self] at dense
        cases dense
      · exact ⟨[], lead, w, ts, rfl, none, .cons wide layout spells⟩
    · rcases List.append_eq_append_iff.mp eq with ⟨deep, rfl, rfl⟩ | ⟨left, rfl, rfl⟩
      · obtain ⟨passed, u, w, more, rfl, some, rest⟩ := ih rfl
        exact ⟨t :: passed, u, w, more, rfl, some, rest⟩
      · by_cases none : left = []
        · subst none
          obtain ⟨passed, u, w, more, rfl, some, rest⟩ := ih (List.nil_append _)
          exact ⟨t :: passed, u, w, more, rfl, some, rest⟩
        · obtain ⟨g, left, rfl⟩ := List.exists_cons_of_ne_nil none
          have dense := flush g rfl
          rw [layout g (List.mem_append_right _ List.mem_cons_self)] at dense
          cases dense

theorem meets_of_agree {us passed more : List Bytes} {t w : Bytes} (nonempty : w ≠ [])
    (both : agree (w :: more) us = true) : meets us (passed ++ (t ++ w) :: more) = true := by
  induction passed with
  | nil =>
    rw [List.nil_append, meets, Bool.or_eq_true, List.any_eq_true]
    have pos := List.length_pos_iff.mpr nonempty
    refine .inl ⟨t.length, ?_, by rwa [List.drop_left]⟩
    rw [List.mem_range, List.length_append]
    omega
  | cons u passed ih =>
    rw [List.cons_append, meets, ih, Bool.or_true]

theorem meets_of_occursAt {ts us : List Bytes} (words : Words ts) (words' : Words us)
    {content : Bytes} {start stop start' stop' : Nat}
    (occurs : OccursAt (Spells ts) content start stop)
    (occurs' : OccursAt (Spells us) content start' stop') (behind : start ≤ start')
    (inside : start' < stop) : meets us ts = true := by
  obtain ⟨body, after, eq, rfl, spells⟩ := occurs.drop
  obtain ⟨body', after', eq', _, spells'⟩ := occurs'.drop
  obtain ⟨k, rfl⟩ := Nat.exists_eq_add_of_le behind
  rw [← List.drop_drop, eq, List.drop_append_of_le_length (by omega)] at eq'
  rw [← List.take_append_drop k body] at spells
  have nonempty : body.drop k ≠ [] := by
    rw [Ne, List.drop_eq_nil_iff]
    omega
  have flush : Flush (body.drop k) := by
    obtain ⟨t, more, rest, rfl, rfl⟩ := spells'.starts
    obtain ⟨some, solid⟩ := words' t List.mem_cons_self
    obtain ⟨b, t, rfl⟩ := List.exists_cons_of_ne_nil some
    obtain ⟨c, tail, split⟩ := List.exists_cons_of_ne_nil nonempty
    rw [split, List.cons_append, List.append_assoc, List.cons_append, List.cons.injEq] at eq'
    rw [split, eq'.1]
    exact flush_cons (solid b List.mem_cons_self) tail
  obtain ⟨passed, t, w, more, rfl, some, rest⟩ := spells.inside nonempty flush
  have words'' : Words (w :: more) := by
    intro u member
    rcases List.mem_cons.mp member with rfl | member
    · refine ⟨some, fun b inside => ?_⟩
      exact (words (t ++ u) (by simp)).2 b (List.mem_append_right t inside)
    · exact words u (by simp [member])
  have fits := rest.fits words'' after
  rw [eq'] at fits
  exact meets_of_agree some (fits.agree (spells'.fits words' after'))

theorem apart_of_meets {source other : Bytes} (first : meets other.tokens source.tokens = false)
    (second : meets source.tokens other.tokens = false) :
    Apart (Spells source.tokens) (Spells other.tokens) := by
  intro content start stop start' stop' occurs occurs'
  by_cases behind : start ≤ start'
  · left
    apply Nat.le_of_not_lt
    intro inside
    have met := meets_of_occursAt (words_tokens source) (words_tokens other) occurs occurs' behind
      inside
    rw [first] at met
    cases met
  · right
    apply Nat.le_of_not_lt
    intro inside
    have met := meets_of_occursAt (words_tokens other) (words_tokens source) occurs' occurs
      (Nat.le_of_not_le behind) inside
    rw [second] at met
    cases met

end Retouch
