import Retouch.Proofs.Glob.Steady

/-! Matching with steady globs.
Matching stands between two parts of the glob at every step, and so do the places where it resumes.
What is left of the glob is then well formed, so no fault is found, and each step goes on in an
order that the number of steps bounds. -/
namespace Retouch.Glob

open Place

structure Boundary (glob : Bytes) (offset : Nat) : Prop where
  inside : offset ≤ glob.length
  reads : clear.follow false (glob.take offset) = some clear

namespace Boundary

variable {glob : Bytes} {offset : Nat}

theorem zero (glob : Bytes) : Boundary glob 0 := ⟨Nat.zero_le _, rfl⟩

theorem follow_drop (place : Boundary glob offset) (steady : clear.follow false glob = some clear) :
    clear.follow false (glob.drop offset) = some clear := by
  rw [← List.take_append_drop offset glob] at steady
  exact follow_rest place.reads steady

theorem add (place : Boundary glob offset) {front rest : Bytes}
    (here : glob.drop offset = front ++ rest) (reads : clear.follow false front = some clear) :
    Boundary glob (offset + front.length) ∧ glob.drop (offset + front.length) = rest := by
  have length := congrArg List.length here
  rw [List.length_drop, List.length_append] at length
  have inside := place.inside
  refine ⟨⟨by omega, ?_⟩, ?_⟩
  · rw [List.take_add, here, List.take_left' rfl]
    exact follow_trans place.reads reads
  · rw [← List.drop_drop, here, List.drop_left' rfl]

theorem advance (place : Boundary glob offset) {rest : Bytes}
    (passes : Passes clear (glob.drop offset) clear rest) :
    Boundary glob (glob.length - rest.length) ∧ glob.drop (glob.length - rest.length) = rest := by
  obtain ⟨front, here, reads⟩ := passes
  have length := congrArg List.length here
  rw [List.length_drop, List.length_append] at length
  have inside := place.inside
  have reached : glob.length - rest.length = offset + front.length := by omega
  rw [reached]
  exact place.add here reads

/-- What stands before a boundary is the same in every glob that starts alike. -/
theorem replace (place : Boundary glob offset) {cut : Nat} (before : offset ≤ cut)
    (inside : cut ≤ glob.length) (more : Bytes) : Boundary (glob.take cut ++ more) offset := by
  have room : offset ≤ (glob.take cut).length := by
    rw [List.length_take]
    omega
  refine ⟨?_, ?_⟩
  · rw [List.length_append]
    omega
  · rw [List.take_append_of_le_length room, List.take_take, Nat.min_eq_left before]
    exact place.reads

end Boundary

theorem pointAt_width {text : Bytes} {offset : Nat} (inside : offset < text.length) :
    0 < (pointAt (text.drop offset)).width ∧
      offset + (pointAt (text.drop offset)).width ≤ text.length := by
  have left : (text.drop offset).length = text.length - offset := List.length_drop
  cases rest : text.drop offset with
  | nil =>
    rw [rest, List.length_nil] at left
    omega
  | cons b more =>
    rw [rest, List.length_cons] at left
    have room : (pointAt (b :: more)).width ≤ more.length + 1 :=
      CodePoint.read_width_le_length b more
    exact ⟨CodePoint.read_width_pos b more, by omega⟩

/-- The path goes on with a separator, so that no star can go on there. -/
def AtSeparator (path : Bytes) (offset : Nat) : Prop :=
  (pointAt (path.drop offset)).value = separator.toNat

structure Live (glob : Bytes) (s : State) (r : Resume) : Prop where
  place : Boundary glob r.glob
  glob : r.glob ≤ s.glob
  path : r.path ≤ s.path
  behind : ∀ d, s.doubleStar = some d → d.glob ≤ r.glob

structure Sound (glob path : Bytes) (s : State) : Prop where
  steady : clear.follow false glob = some clear
  place : Boundary glob s.glob
  inside : s.path ≤ path.length
  star : ∀ r, s.star = some r → Live glob s r ∨ AtSeparator path r.path
  doubleStar : ∀ r, s.doubleStar = some r →
    Boundary glob r.glob ∧ r.glob ≤ s.glob ∧ r.path ≤ path.length

/-! The order of the states: by the last double star, the star behind it, and the place in the
glob. -/

theorem carry {m n m' n' base : Nat} {later : Prop} (small : n < base)
    (order : m < m' ∨ m = m' ∧ (n < n' ∨ n = n' ∧ later)) :
    m * base + n < m' * base + n' ∨ m * base + n = m' * base + n' ∧ later := by
  rcases order with less | ⟨rfl, less | ⟨rfl, later⟩⟩
  · have room : (m + 1) * base ≤ m' * base := Nat.mul_le_mul_right base less
    rw [Nat.succ_mul] at room
    omega
  · omega
  · exact .inr ⟨rfl, later⟩

namespace State

def double (s : State) : Nat × Nat :=
  match s.doubleStar with
  | some r => (r.glob, r.path)
  | none => (0, 0)

/-- Where the last star resumes, unless matching went back to a place before it. -/
def single (s : State) : Nat × Nat :=
  match s.star with
  | some r => if r.glob ≤ s.glob then (r.glob, r.path) else (0, 0)
  | none => (0, 0)

def rank (glob path : Bytes) (s : State) : Nat :=
  (((s.double.1 * (path.length + 1) + s.double.2) * (glob.length + 1) + s.single.1)
    * (path.length + 1) + s.single.2) * (glob.length + 1) + s.glob

end State

namespace Sound

variable {glob path : Bytes} {s s' : State}

theorem path_lt_of_atSeparator {offset : Nat} (sep : AtSeparator path offset) :
    offset < path.length := by
  apply Nat.lt_of_not_le
  intro past
  rw [AtSeparator, List.drop_of_length_le past] at sep
  exact absurd sep (by decide)

theorem double_le (sound : Sound glob path s) :
    s.double.1 ≤ glob.length ∧ s.double.2 ≤ path.length := by
  unfold State.double
  split
  · rename_i r set
    obtain ⟨place, _, inside⟩ := sound.doubleStar r set
    exact ⟨place.inside, inside⟩
  · exact ⟨Nat.zero_le _, Nat.zero_le _⟩

theorem single_le (sound : Sound glob path s) :
    s.single.1 ≤ s.glob ∧ s.single.2 ≤ path.length := by
  unfold State.single
  split
  · rename_i r set
    split
    · rename_i before
      refine ⟨before, ?_⟩
      rcases sound.star r set with live | sep
      · exact Nat.le_trans live.path sound.inside
      · exact Nat.le_of_lt (path_lt_of_atSeparator sep)
    · exact ⟨Nat.zero_le _, Nat.zero_le _⟩
  · exact ⟨Nat.zero_le _, Nat.zero_le _⟩

theorem rank_lt_rank (sound : Sound glob path s)
    (later : s.double.1 < s'.double.1 ∨ s.double.1 = s'.double.1 ∧
      (s.double.2 < s'.double.2 ∨ s.double.2 = s'.double.2 ∧
      (s.single.1 < s'.single.1 ∨ s.single.1 = s'.single.1 ∧
      (s.single.2 < s'.single.2 ∨ s.single.2 = s'.single.2 ∧ s.glob < s'.glob)))) :
    s.rank glob path < s'.rank glob path := by
  have double := sound.double_le
  have single := sound.single_le
  have place := sound.place.inside
  have first := carry (Nat.lt_succ_of_le double.2) later
  have second := carry (Nat.lt_succ_of_le (Nat.le_trans single.1 place)) first
  have third := carry (Nat.lt_succ_of_le single.2) second
  have fourth : s.rank glob path < s'.rank glob path ∨ _ ∧ False :=
    carry (Nat.lt_succ_of_le place) (third.imp_right fun both => ⟨both.1, .inl both.2⟩)
  exact fourth.resolve_right fun both => both.2

theorem rank_lt (sound : Sound glob path s) : s.rank glob path < stepBound glob path := by
  have double := sound.double_le
  have single := sound.single_le
  have place := sound.place.inside
  have digit {m n base limit : Nat} (high : m + 1 ≤ limit) (low : n < base) :
      m * base + n + 1 ≤ limit * base := by
    have room : (m + 1) * base ≤ limit * base := Nat.mul_le_mul_right base high
    rw [Nat.succ_mul] at room
    omega
  have first := digit (Nat.succ_le_succ double.1) (Nat.lt_succ_of_le double.2)
  have second := digit first (Nat.lt_succ_of_le (Nat.le_trans single.1 place))
  have third := digit second (Nat.lt_succ_of_le single.2)
  have fourth := digit third (Nat.lt_succ_of_le place)
  refine Nat.lt_of_lt_of_le fourth ?_
  have square : stepBound glob path =
      (glob.length + 1) * (path.length + 1) * (glob.length + 1) * (path.length + 1)
        * (glob.length + path.length + 2) := by
    rw [stepBound, Nat.pow_eq, Nat.pow_two, Nat.mul_assoc _ (glob.length + 1)]
  rw [square]
  exact Nat.mul_le_mul_left _ (by omega)

/-! The moves from one state to the next. -/

theorem single_onward (s : State) {place : Nat} (further : s.glob < place) (offset : Nat)
    (nameStart : Bool) :
    let next : State := { s with glob := place, path := offset, nameStart := nameStart }
    s.single.1 < next.single.1 ∨ s.single = next.single := by
  obtain ⟨now, _, _, star, _⟩ := s
  cases star with
  | none => exact .inr rfl
  | some r =>
    dsimp only [State.single] at further ⊢
    by_cases before : r.glob ≤ now
    · rw [if_pos before, if_pos (by omega)]
      exact .inr rfl
    · rw [if_neg before]
      split
      · exact .inl (by omega)
      · exact .inr rfl

theorem onward (sound : Sound glob path s) {place offset : Nat} (nameStart : Bool)
    (boundary : Boundary glob place) (further : s.glob < place) (ahead : s.path ≤ offset)
    (inside : offset ≤ path.length) :
    let next : State := { s with glob := place, path := offset, nameStart := nameStart }
    Sound glob path next ∧ s.rank glob path < next.rank glob path := by
  intro next
  constructor
  · refine ⟨sound.steady, boundary, inside, fun r set => ?_, fun r set => ?_⟩
    · refine (sound.star r set).imp_left fun live => ⟨live.place, ?_, ?_, live.behind⟩
      · exact Nat.le_trans live.glob (Nat.le_of_lt further)
      · exact Nat.le_trans live.path ahead
    · obtain ⟨boundary, before, inside⟩ := sound.doubleStar r set
      exact ⟨boundary, Nat.le_trans before (Nat.le_of_lt further), inside⟩
  · refine sound.rank_lt_rank (.inr ⟨rfl, .inr ⟨rfl, ?_⟩⟩)
    rcases single_onward s further offset nameStart with later | same
    · exact .inl later
    · exact .inr ⟨congrArg Prod.fst same, .inr ⟨congrArg Prod.snd same, further⟩⟩

theorem onwardStar (sound : Sound glob path s) {place : Nat} (boundary : Boundary glob place)
    (further : s.glob < place) :
    let next : State := { s with glob := place, nameStart := false, star := some ⟨place, s.path⟩ }
    Sound glob path next ∧ s.rank glob path < next.rank glob path := by
  intro next
  constructor
  · refine ⟨sound.steady, boundary, sound.inside, fun r set => ?_, fun r set => ?_⟩
    · cases set
      refine .inl ⟨boundary, Nat.le_refl _, Nat.le_refl _, fun d set => ?_⟩
      exact Nat.le_trans (sound.doubleStar d set).2.1 (Nat.le_of_lt further)
    · obtain ⟨boundary, before, inside⟩ := sound.doubleStar r set
      exact ⟨boundary, Nat.le_trans before (Nat.le_of_lt further), inside⟩
  · refine sound.rank_lt_rank (.inr ⟨rfl, .inr ⟨rfl, .inl ?_⟩⟩)
    have placed : next.single = (place, s.path) := if_pos (Nat.le_refl place)
    rw [placed]
    exact Nat.lt_of_le_of_lt sound.single_le.1 further

theorem onwardDouble (sound : Sound glob path s) {place : Nat} (boundary : Boundary glob place)
    (further : s.glob < place) :
    let next : State := { s with glob := place, star := none, doubleStar := some ⟨place, s.path⟩ }
    Sound glob path next ∧ s.rank glob path < next.rank glob path := by
  intro next
  constructor
  · refine ⟨sound.steady, boundary, sound.inside, fun r set => ?_, fun r set => ?_⟩
    · cases set
    · cases set
      exact ⟨boundary, Nat.le_refl _, sound.inside⟩
  · refine sound.rank_lt_rank (.inl ?_)
    have before : s.double.1 ≤ s.glob := by
      unfold State.double
      split
      · rename_i r set
        exact (sound.doubleStar r set).2.1
      · exact Nat.zero_le _
    exact Nat.lt_of_le_of_lt before further

/-- Going back to a star, one code point further in the path. -/
theorem backStar (sound : Sound glob path s) (ahead : s.path < path.length) {r : Resume}
    (set : s.star = some r) (solid : ¬ AtSeparator path r.path) :
    let place := r.path + (pointAt (path.drop r.path)).width
    let next : State :=
      { s with glob := r.glob, path := place, nameStart := false, star := some ⟨r.glob, place⟩ }
    Sound glob path next ∧ s.rank glob path < next.rank glob path := by
  intro place next
  have live := (sound.star r set).resolve_right solid
  have early : r.path < path.length := Nat.lt_of_le_of_lt live.path ahead
  obtain ⟨wide, inside⟩ := pointAt_width early
  constructor
  · refine ⟨sound.steady, live.place, inside, fun d set => ?_, fun d set => ?_⟩
    · cases set
      exact .inl ⟨live.place, Nat.le_refl _, Nat.le_refl _, live.behind⟩
    · obtain ⟨boundary, _, inside⟩ := sound.doubleStar d set
      exact ⟨boundary, live.behind d set, inside⟩
  · refine sound.rank_lt_rank (.inr ⟨rfl, .inr ⟨rfl, .inr ?_⟩⟩)
    have before : s.single = (r.glob, r.path) := by
      rw [State.single, set]
      exact if_pos live.glob
    have behind : next.single = (r.glob, place) := if_pos (Nat.le_refl r.glob)
    rw [before, behind]
    exact ⟨rfl, .inl (Nat.lt_add_of_pos_right wide)⟩

theorem nextName?_bounds {offset n : Nat} (found : nextName? path offset = some n) :
    offset < n ∧ n ≤ path.length := by
  obtain ⟨i, index, rfl⟩ := Option.map_eq_some_iff.mp found
  obtain ⟨inside, _⟩ := List.findIdx?_eq_some_iff_getElem.mp index
  rw [List.length_drop] at inside
  omega

/-- Going back to a double star, one name further in the path. A star behind it stays where it got
stuck. -/
theorem backDouble (sound : Sound glob path s) {r : Resume} {n : Nat}
    (set : s.doubleStar = some r) (found : nextName? path r.path = some n)
    (stuck : ∀ d, s.star = some d → AtSeparator path d.path) :
    let next : State :=
      { s with glob := r.glob, path := n, nameStart := true, doubleStar := some ⟨r.glob, n⟩ }
    Sound glob path next ∧ s.rank glob path < next.rank glob path := by
  intro next
  obtain ⟨boundary, _, _⟩ := sound.doubleStar r set
  obtain ⟨further, inside⟩ := nextName?_bounds found
  constructor
  · refine ⟨sound.steady, boundary, inside, fun d set => .inr (stuck d set), fun d set => ?_⟩
    cases set
    exact ⟨boundary, Nat.le_refl _, inside⟩
  · have before : s.double = (r.glob, r.path) := by rw [State.double, set]
    refine sound.rank_lt_rank (.inr ⟨?_, .inl ?_⟩)
    · rw [before]
      rfl
    · rw [before]
      exact further

theorem retreat (sound : Sound glob path s) (ahead : s.path < path.length)
    (back : Glob.retreat path s = some s') :
    Sound glob path s' ∧ s.rank glob path < s'.rank glob path := by
  obtain ⟨place, offset, nameStart, star, doubleStar⟩ := s
  rcases star with _ | r <;> rcases doubleStar with _ | d <;> dsimp only [Glob.retreat] at back
  · cases back
  · obtain ⟨n, found, rfl⟩ := Option.map_eq_some_iff.mp back
    exact sound.backDouble rfl found fun _ set => by cases set
  · split at back
    · rename_i solid
      cases back
      exact sound.backStar ahead rfl (by simpa [AtSeparator] using solid)
    · cases back
  · split at back
    · rename_i solid
      cases back
      exact sound.backStar ahead rfl (by simpa [AtSeparator] using solid)
    · rename_i stuck
      obtain ⟨n, found, rfl⟩ := Option.map_eq_some_iff.mp back
      refine sound.backDouble rfl found fun _ set => ?_
      cases set
      simpa [AtSeparator] using stuck

theorem writtenOut (sound : Sound glob path s) {g : Bytes}
    (reads : clear.follow false g = some clear) :
    Sound (glob.take s.glob ++ g) path { s with nameStart := true } := by
  have cut := sound.place.inside
  refine ⟨follow_trans sound.place.reads reads, sound.place.replace (Nat.le_refl _) cut g,
    sound.inside, fun r set => ?_, fun r set => ?_⟩
  · refine (sound.star r set).imp_left fun live => ?_
    exact ⟨live.place.replace live.glob cut g, live.glob, live.path, live.behind⟩
  · obtain ⟨boundary, before, inside⟩ := sound.doubleStar r set
    exact ⟨boundary.replace before cut g, before, inside⟩

end Sound

/-- What a step may come to: a later state, a rest of the glob that is well formed, or an answer. -/
def Fine (glob path : Bytes) (s : State) : Step → Prop
  | .onward next => Sound glob path next ∧ s.rank glob path < next.rank glob path
  | .stuck place => isValid (glob.drop place) = true
  | .stop answer => ∃ b, answer = .ok b

section Steps

variable {glob path : Bytes} {s : State}

theorem starStep_fine (sound : Sound glob path s) {rest : Bytes}
    (here : glob.drop s.glob = 0x2A :: rest) : Fine glob path s (starStep glob s) := by
  have behind : glob.drop (s.glob + 1) = rest := by
    rw [← List.drop_drop, here]
    rfl
  have star (front more : Bytes) (split : 0x2A :: rest = front ++ more)
      (nonempty : 0 < front.length) (reads : clear.follow false front = some clear) :
      Fine glob path s (.onward { s with
        glob := s.glob + front.length, nameStart := false,
        star := some ⟨s.glob + front.length, s.path⟩ }) :=
    sound.onwardStar (sound.place.add (here.trans split) reads).1 (Nat.lt_add_of_pos_right nonempty)
  unfold starStep
  dsimp only
  rw [behind]
  split
  · rename_i more
    split
    · split
      · exact ⟨true, rfl⟩
      split
      · rename_i sep
        cases more with
        | nil => cases sep
        | cons b more =>
          cases Option.some.inj (beq_iff_eq.mp sep)
          have split : glob.drop s.glob = [0x2A, 0x2A, separator] ++ more := here
          exact sound.onwardDouble (sound.place.add split rfl).1
            (Nat.lt_add_of_pos_right (by decide))
      · exact star [0x2A, 0x2A] more rfl (by decide) rfl
    · exact star [0x2A, 0x2A] more rfl (by decide) rfl
  · exact star [0x2A] rest rfl (by decide) rfl

theorem isValid_drop (sound : Sound glob path s) : isValid (glob.drop s.glob) = true :=
  isValid_of_follow (sound.place.follow_drop sound.steady)

/-- A sign that differs from the path may be given up one backslash before it. -/
theorem isValid_back (sound : Sound glob path s) {b : UInt8} {rest : Bytes}
    (here : glob.drop s.glob = b :: rest) (steps : clear.next false b = some clear)
    (before : 0 < s.glob) (escape : (glob.drop (s.glob - 1)).head? = some 0x5C) :
    isValid (glob.drop (s.glob - 1)) = true := by
  have inside := sound.place.inside
  have reads := sound.place.follow_drop sound.steady
  rw [here] at reads
  obtain ⟨_, steps', reads⟩ := follow_cons.mp reads
  cases steps.symm.trans steps'
  have split : glob.drop (s.glob - 1) = 0x5C :: b :: rest := by
    rw [← here]
    cases tail : glob.drop (s.glob - 1) with
    | nil => rw [tail] at escape; cases escape
    | cons c more =>
      rw [tail] at escape
      cases escape
      rw [← Nat.sub_add_cancel before, ← List.drop_drop, tail]
      rfl
  rw [split]
  exact isValid_of_follow reads

theorem literalStep_fine (sound : Sound glob path s) (ahead : s.path < path.length)
    {front : Bytes} {b : UInt8} {rest : Bytes} (here : glob.drop s.glob = front ++ b :: rest)
    (sign : front = [] ∧ clear.next false b = some clear ∨ front = [0x5C]) :
    Fine glob path s (literalStep glob path s (s.glob + front.length)) := by
  have behind : glob.drop (s.glob + front.length) = b :: rest := by
    rw [← List.drop_drop, here, List.drop_left' rfl]
  unfold literalStep
  dsimp only
  split
  · rcases sign with ⟨rfl, steps⟩ | rfl
    · rw [List.length_nil, Nat.add_zero]
      split
      · rename_i back
        rw [Bool.and_eq_true, decide_eq_true_eq, beq_iff_eq] at back
        exact isValid_back sound here steps back.1 back.2
      · exact isValid_drop sound
    · have back : (glob.drop s.glob).head? = some 0x5C := by rw [here]; rfl
      have place : s.glob + ([0x5C] : Bytes).length - 1 = s.glob := rfl
      rw [place, back]
      exact isValid_drop sound
  · obtain ⟨tail, eq, cont⟩ := take_read b rest
    obtain ⟨wide, room⟩ := pointAt_width ahead
    have reads : clear.follow false (front ++ b :: tail) = some clear := by
      have plain := @follow_continuation clear tail (.inl rfl) cont
      rcases sign with ⟨rfl, steps⟩ | rfl
      · exact follow_cons.mpr ⟨clear, steps, plain⟩
      · exact plain
    rw [behind]
    have width : (pointAt (b :: rest)).width = (b :: tail).length := by
      have length := congrArg List.length eq
      have inside := CodePoint.read_width_le_length b rest
      simp only [List.length_append, List.length_drop, List.length_cons] at length
      change (CodePoint.read b rest).width = tail.length + 1
      omega
    rw [width, Nat.add_assoc, ← List.length_append]
    rw [eq, ← List.append_assoc] at here
    refine sound.onward _ (sound.place.add here reads).1 ?_ (Nat.le_add_right _ _) room
    rw [List.length_append, List.length_cons]
    omega

/-- Where a class is given up, its rest is well formed as if it stood outside. -/
theorem isValid_inClass {negated : Bool} {left : Bytes}
    (reads : follow false ⟨0, .inClass negated⟩ left = some clear)
    (ends : negated = false → left.head? = some 0x5D) : isValid left = true := by
  cases negated with
  | true => exact validFrom_denied.1 reads
  | false =>
    obtain ⟨more, rfl⟩ := List.head?_eq_some_iff.mp (ends rfl)
    exact @isValid_of_follow false more reads

theorem classStep_fine (sound : Sound glob path s) (ahead : s.path < path.length) {rest : Bytes}
    (here : glob.drop s.glob = 0x5B :: rest) : Fine glob path s (classStep glob path s) := by
  have behind : glob.drop (s.glob + 1) = rest := by
    rw [← List.drop_drop, here]
    rfl
  have reads := sound.place.follow_drop sound.steady
  rw [here] at reads
  obtain ⟨p, start, nonempty, inside, enters⟩ := passes_classStart reads
  have members : rest.isEmpty = false := by
    cases rest with
    | nil => cases reads
    | cons => rfl
  unfold classStep
  dsimp only
  rw [behind, members, if_neg Bool.false_ne_true]
  -- from here on it does not count how the class began
  generalize (rest.head? == some 0x21 || rest.head? == some 0x5E) = negated at *
  generalize (if negated = true then rest.drop 1 else rest) = body at *
  have bounds : (body.isEmpty || body.head? == some 0x5D) = false := by
    simpa [nonempty] using inside
  rw [bounds, if_neg Bool.false_ne_true]
  have searched := findMember_searched (start.follow_rest reads) nonempty inside enters
    (pointAt (path.drop s.path)).value
  generalize findMember (pointAt (path.drop s.path)).value none (body.length + 1) body = result
    at searched ⊢
  obtain ⟨found, left⟩ := result
  have inClass := start.trans searched.passes
  have reached : Passes clear (glob.drop s.glob) ⟨0, .inClass negated⟩ left := by
    rw [here]
    exact inClass.step rfl
  have reads' := reached.follow_rest (sound.place.follow_drop sound.steady)
  have suffix := reached.suffix.trans (List.drop_suffix s.glob glob)
  dsimp only
  split
  · rename_i same
    cases beq_iff_eq.mp same
    have valid := isValid_inClass reads' searched.ends
    cases left with
    | nil => cases reads'
    | cons b more =>
      change isValid (glob.drop (glob.length - (b :: more).length)) = true
      rwa [← List.suffix_iff_eq_drop.mp suffix]
  · -- the path goes on behind the class
    obtain ⟨i, behind, found, passes, length⟩ := classEnd?_passes reads'
    obtain ⟨wide, room⟩ := pointAt_width ahead
    have inside := suffix.length_le
    have ends : glob.length - left.length + i + 1 = glob.length - behind.length := by omega
    have further : s.glob < glob.length - behind.length := by
      have all := congrArg List.length here
      rw [List.length_drop, List.length_cons] at all
      have less := (inClass.trans passes).suffix.length_le
      omega
    rw [found]
    dsimp only
    rw [ends]
    exact sound.onward _ (sound.place.advance (reached.trans passes)).1 further
      (Nat.le_add_right _ _) room

theorem firstAnswer_ok {answer : Bytes → Except Fault Bool} {globs : List Bytes}
    (each : ∀ g ∈ globs, ∃ b, answer g = .ok b) : ∃ b, firstAnswer answer globs = .ok b := by
  fun_induction firstAnswer answer globs with
  | case1 => exact ⟨false, rfl⟩
  | case2 g => exact each g List.mem_cons_self
  | case3 g rest more no ih => exact ih fun g member => each g (List.mem_cons_of_mem _ member)
  | case4 g rest more other => exact each g List.mem_cons_self

/-- One step of matching, if globs with fewer groups are matched without a fault. -/
theorem step_fine {expand : Bytes → State → Except Fault Bool} (sound : Sound glob path s)
    (ahead : s.path < path.length) (expands : ∀ g t, Sound g path t →
      g.count 0x7B < glob.count 0x7B → ∃ b, expand g t = .ok b) :
    Fine glob path s (step expand glob path s) := by
  have reads := sound.place.follow_drop sound.steady
  unfold step
  split
  · exact isValid_drop sound
  rename_i b rest here
  rw [here] at reads
  split
  · rename_i star
    cases beq_iff_eq.mp star
    exact starStep_fine sound here
  split
  · rename_i any
    cases beq_iff_eq.mp any
    obtain ⟨wide, room⟩ := pointAt_width ahead
    dsimp only
    split
    · exact isValid_drop sound
    · have split : glob.drop s.glob = [0x3F] ++ rest := here
      exact sound.onward _ (sound.place.add split rfl).1 (Nat.lt_succ_self _) (Nat.le_add_right _ _)
        room
  split
  · rename_i bracket
    cases beq_iff_eq.mp bracket
    exact classStep_fine sound ahead here
  split
  · rename_i brace
    cases beq_iff_eq.mp brace
    obtain ⟨globs, written, each⟩ := expansions?_steady reads
    rw [written]
    refine firstAnswer_ok fun g member => expands _ _ (sound.writtenOut (each g member).1) ?_
    have fewer := (each g member).2
    have whole := congrArg (List.count 0x7B) (List.take_append_drop s.glob glob)
    rw [here, List.count_append, List.count_cons_self] at whole
    rw [List.count_append]
    omega
  split
  · rename_i escape
    cases beq_iff_eq.mp escape
    cases rest with
    | nil => cases reads
    | cons c more =>
      have split : glob.drop s.glob = [0x5C] ++ c :: more := here
      exact literalStep_fine sound ahead split (.inr rfl)
  · rename_i star any bracket brace escape
    have split : glob.drop s.glob = [] ++ b :: rest := here
    refine literalStep_fine sound ahead split (.inl ⟨rfl, ?_⟩)
    obtain ⟨q, steps, _⟩ := follow_cons.mp reads
    have same : q = clear := by
      have reached := steps
      simp only [next, clear, escape, bracket, brace, Bool.false_eq_true, if_false, if_true]
        at reached
      split at reached
      · cases reached
      · exact (Option.some.inj reached).symm
    rw [steps, same]

/-- A steady rest of a glob can be compared with the end of a path. -/
theorem matchEmpty_ok {groups : Nat} {glob : Bytes} (steady : clear.follow false glob = some clear)
    (enough : glob.count 0x7B < groups) : ∃ b, matchEmpty groups glob = .ok b := by
  induction groups generalizing glob with
  | zero => exact absurd enough (Nat.not_lt_zero _)
  | succ groups ih =>
    unfold matchEmpty
    split
    · exact ⟨true, rfl⟩
    split
    · rename_i rest
      obtain ⟨globs, written, each⟩ := expansions?_steady steady
      rw [written]
      refine firstAnswer_ok fun g member => ih (each g member).1 ?_
      have fewer := (each g member).2
      rw [List.count_cons_self] at enough
      omega
    · rw [isValid_of_follow steady]
      exact ⟨false, rfl⟩

theorem run_ok {expand : Bytes → State → Except Fault Bool} {groups fuel : Nat}
    (expands : ∀ g t, Sound g path t → g.count 0x7B < glob.count 0x7B → ∃ b, expand g t = .ok b)
    (enough : glob.count 0x7B < groups) (sound : Sound glob path s)
    (bound : stepBound glob path ≤ fuel + s.rank glob path) :
    ∃ b, run expand groups glob path fuel s = .ok b := by
  -- every round moves the state to a higher rank, and no rank reaches the bound
  induction fuel generalizing s with
  | zero =>
    have room := sound.rank_lt
    omega
  | succ fuel ih =>
    unfold run
    split
    · refine matchEmpty_ok (sound.place.follow_drop sound.steady) (Nat.lt_of_le_of_lt ?_ enough)
      exact (List.drop_sublist s.glob glob).count_le 0x7B
    rename_i ahead
    have fine := step_fine sound (Nat.lt_of_not_le ahead) expands
    split
    · rename_i next steps
      rw [steps] at fine
      exact ih fine.1 (by have later := fine.2; omega)
    · rename_i answer steps
      rw [steps] at fine
      exact fine
    · rename_i place steps
      rw [steps] at fine
      split
      · rename_i next back
        obtain ⟨sound', later⟩ := sound.retreat (Nat.lt_of_not_le ahead) back
        exact ih sound' (by omega)
      · have valid : isValid (glob.drop place) = true := fine
        dsimp only
        rw [valid, Bool.or_true]
        exact ⟨false, rfl⟩

theorem matchWithin_ok {groups : Nat} (enough : glob.count 0x7B < groups)
    (sound : Sound glob path s) : ∃ b, matchWithin path groups glob s = .ok b := by
  induction groups generalizing glob s with
  | zero => exact absurd enough (Nat.not_lt_zero _)
  | succ groups ih =>
    refine run_ok (fun g t sound fewer => ih (by omega) sound) enough sound ?_
    exact Nat.le_add_right _ _

end Steps

/-- Matching with a steady glob has no fault, whatever the path. -/
theorem match?_steady {glob : Bytes} (steady : isSteady glob = true) (path : Bytes) :
    ∃ b, match? glob path = .ok b := by
  refine matchWithin_ok (Nat.lt_add_of_pos_right (by decide)) ?_
  refine ⟨isSteady_iff.mp steady, .zero glob, Nat.zero_le _, fun r set => ?_, fun r set => ?_⟩
  · cases set
  · cases set

-- A well-formed glob that is not steady: its class is left behind the `a`, where the brace opens a
-- group.
example : isValid "[!a\x7b]" = true ∧ isSteady "[!a\x7b]" = false ∧
    (match? "[!a\x7b]" "a").toOption = none := by decide +kernel

end Retouch.Glob
