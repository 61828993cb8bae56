import Retouch.Proofs.Text.CodePoint
import Retouch.Regexp.Match

/-! The search with its memory.
What has been seen at a place and what is known to be hopeless only save time: an attempt fails
exactly if no work of it leads to a match, whatever failed before. -/
namespace Retouch.Regexp

open CodePoint (totalWidth)

/-- What is to be done next without reading a code point, in order of preference. -/
def branches (p : Place) : List Goal → List (List Goal)
  | .firstEnd _ _ :: rest => [rest]
  | .expr .empty :: rest => [rest]
  | .expr (.anchor a) :: rest => if a.holds p then [rest] else []
  | .expr (.seq _ a b) :: rest => [.expr a :: .expr b :: rest]
  | .expr (.alt a b) :: rest => [.expr a :: rest, .expr b :: rest]
  | .expr (.opt a true) :: rest => [.expr a :: rest, rest]
  | .expr (.opt a false) :: rest => [rest, .expr a :: rest]
  | .expr (.plus a g) :: rest => [.expr a :: .firstEnd a g :: rest]
  | .expr (.loop a true) :: rest => [.expr a :: .laterEnd a true :: rest, rest]
  | .expr (.loop a false) :: rest => [rest, .expr a :: .laterEnd a false :: rest]
  | _ => []

theorem branches_lighter {p : Place} {work next : List Goal} (member : next ∈ branches p work) :
    stackWeight next < stackWeight work := by
  fun_cases branches p work
  all_goals simp only [stackWeight, List.foldr, Goal.weight, Expr.weight]
  all_goals grind [branches, stackWeight, Goal.weight, Expr.weight]

/-- The work that is left once a code point has been read. -/
def readings (p : Place) : List Goal → List Work
  | .expr (.set s) :: rest => if p.after.any s.contains then [rest.map Goal.settled] else []
  | _ => []

theorem follow_branches {p : Place} {r : Reach} {f : Goal} {rest : List Goal}
    (undone : (r.accepts || r.seen.contains (f :: rest)) = false) :
    r.follow p (f :: rest) = (branches p (f :: rest)).foldl (fun r w => r.follow p w)
      ⟨(f :: rest) :: r.seen, readings p (f :: rest) ++ r.reading, r.accepts⟩ := by
  rw [Reach.follow, undone, if_neg Bool.false_ne_true]
  cases f with
  | firstEnd a g => rfl
  | laterEnd a g => rfl
  | expr e =>
    cases e with
    | set s =>
      simp only [branches, readings, List.foldl_nil]
      split <;> rfl
    | anchor a =>
      simp only [branches, readings]
      split <;> rfl
    | opt a g => cases g <;> rfl
    | loop a g => cases g <;> rfl
    | _ => rfl

/-- Work leads to the end of a match, or to the work behind the next code point. -/
inductive Leads (p : Place) : List Goal → Option Work → Prop where
  | accept : Leads p [] none
  | read {work : List Goal} {w : Work} : w ∈ readings p work → Leads p work (some w)
  | branch {work next : List Goal} {o : Option Work} : next ∈ branches p work → Leads p next o →
      Leads p work o

def Reach.Covers (r : Reach) (p : Place) (work : List Goal) : Prop :=
  ∀ o, Leads p work o → ∃ w, o = some w ∧ w ∈ r.reading

theorem Reach.Covers.mono {r r' : Reach} {p : Place} {work : List Goal}
    (grows : ∀ w ∈ r.reading, w ∈ r'.reading) (covers : r.Covers p work) : r'.Covers p work := by
  intro o leads
  obtain ⟨w, eq, member⟩ := covers o leads
  exact ⟨w, eq, grows w member⟩

/-- What has been seen is covered, but for the work that is still being followed. -/
def Reach.Closed (r : Reach) (p : Place) (open_ : List (List Goal)) : Prop :=
  r.accepts = false → ∀ g ∈ r.seen, g ∈ open_ ∨ r.Covers p g

/-- What following pieces of work one after the other adds. -/
structure Explored (p : Place) (open_ : List (List Goal)) (r : Reach) (works : List (List Goal))
    (r' : Reach) : Prop where
  grows : ∀ w ∈ r.reading, w ∈ r'.reading
  pending : r'.accepts = false → r.accepts = false
  sound : ∀ w ∈ r'.reading, w ∈ r.reading ∨ ∃ g ∈ works, Leads p g (some w)
  accepts : r'.accepts = true → r.accepts = true ∨ ∃ g ∈ works, Leads p g none
  closed : r'.Closed p open_
  covers : r'.accepts = false → ∀ g ∈ works, r'.Covers p g

section Explored

variable {p : Place} {open_ : List (List Goal)} {r r' : Reach}

theorem Explored.nil (closed : r.Closed p open_) : Explored p open_ r [] r where
  grows := fun _ member => member
  pending := id
  sound := fun _ member => .inl member
  accepts := .inl
  closed := closed
  covers := by simp

theorem Explored.cons {g : List Goal} {works : List (List Goal)} {r'' : Reach}
    (first : Explored p open_ r [g] r') (rest : Explored p open_ r' works r'') :
    Explored p open_ r (g :: works) r'' where
  grows := fun w member => rest.grows w (first.grows w member)
  pending := fun none => first.pending (rest.pending none)
  sound := by
    intro w member
    rcases rest.sound w member with member | ⟨h, inside, leads⟩
    · rcases first.sound w member with member | ⟨h, inside, leads⟩
      · exact .inl member
      · exact .inr ⟨h, List.mem_cons.mpr (.inl (List.mem_singleton.mp inside)), leads⟩
    · exact .inr ⟨h, List.mem_cons_of_mem _ inside, leads⟩
  accepts := by
    intro done
    rcases rest.accepts done with done | ⟨h, inside, leads⟩
    · rcases first.accepts done with done | ⟨h, inside, leads⟩
      · exact .inl done
      · exact .inr ⟨h, List.mem_cons.mpr (.inl (List.mem_singleton.mp inside)), leads⟩
    · exact .inr ⟨h, List.mem_cons_of_mem _ inside, leads⟩
  closed := rest.closed
  covers := by
    intro none h inside
    rcases List.mem_cons.mp inside with rfl | inside
    · exact (first.covers (rest.pending none) h (List.mem_singleton.mpr rfl)).mono rest.grows
    · exact rest.covers none h inside

theorem explored_foldl (works : List (List Goal)) (closed : r.Closed p open_)
    (each : ∀ g ∈ works, ∀ r : Reach, r.Closed p open_ → Explored p open_ r [g] (r.follow p g)) :
    Explored p open_ r works (works.foldl (fun r g => r.follow p g) r) := by
  induction works generalizing r with
  | nil => exact .nil closed
  | cons g works ih =>
    have first := each g List.mem_cons_self r closed
    exact first.cons (ih first.closed fun h inside => each h (List.mem_cons_of_mem _ inside))

theorem leads_cons {f : Goal} {rest : List Goal} {o : Option Work} :
    Leads p (f :: rest) o ↔ (∃ w ∈ readings p (f :: rest), o = some w) ∨
      ∃ next ∈ branches p (f :: rest), Leads p next o := by
  constructor
  · intro leads
    cases leads with
    | read member => exact .inl ⟨_, member, rfl⟩
    | branch member behind => exact .inr ⟨_, member, behind⟩
  · rintro (⟨w, member, rfl⟩ | ⟨next, member, behind⟩)
    · exact .read member
    · exact .branch member behind

/-- Work is followed to all that it leads to. Nothing that is seen again is still being followed,
because that is heavier. -/
theorem follow_explored (work : List Goal) (heavy : ∀ g ∈ open_, stackWeight work < stackWeight g)
    (closed : r.Closed p open_) : Explored p open_ r [work] (r.follow p work) := by
  induction size : stackWeight work using Nat.strongRecOn generalizing work open_ r with
  | ind n ih =>
    subst size
    cases work with
    | nil =>
      have eq : r.follow p [] = { r with accepts := true } := by rw [Reach.follow]
      rw [eq]
      refine ⟨fun _ member => member, fun none => ?_, fun _ member => .inl member,
        fun _ => .inr ⟨[], List.mem_singleton.mpr rfl, .accept⟩, fun none => ?_, fun none => ?_⟩
      all_goals cases none
    | cons f rest =>
      by_cases undone : (r.accepts || r.seen.contains (f :: rest)) = false
      · rw [follow_branches undone]
        rw [Bool.or_eq_false_iff] at undone
        have opened : Reach.Closed ⟨(f :: rest) :: r.seen, readings p (f :: rest) ++ r.reading,
            r.accepts⟩ p ((f :: rest) :: open_) := by
          intro none g member
          rcases List.mem_cons.mp member with rfl | member
          · exact .inl List.mem_cons_self
          · rcases closed none g member with member | covers
            · exact .inl (List.mem_cons_of_mem _ member)
            · exact .inr (covers.mono fun w inside => List.mem_append_right _ inside)
        have explored := explored_foldl (branches p (f :: rest)) opened (by
          intro g member r closed
          have lighter := branches_lighter member
          refine ih _ lighter g ?_ closed rfl
          intro h inside
          rcases List.mem_cons.mp inside with rfl | inside
          · exact lighter
          · exact Nat.lt_trans lighter (heavy h inside))
        generalize (branches p (f :: rest)).foldl _ _ = r' at explored
        have covers (none : r'.accepts = false) : r'.Covers p (f :: rest) := by
          intro o leads
          rcases leads_cons.mp leads with ⟨w, member, rfl⟩ | ⟨next, member, behind⟩
          · exact ⟨w, rfl, explored.grows w (List.mem_append_left _ member)⟩
          · exact explored.covers none next member o behind
        refine ⟨fun w member => explored.grows w (List.mem_append_right _ member),
          explored.pending, fun w member => ?_, fun done => ?_, fun none g member => ?_,
          fun none g member => ?_⟩
        · rcases explored.sound w member with member | ⟨next, inside, behind⟩
          · rcases List.mem_append.mp member with member | member
            · exact .inr ⟨_, List.mem_singleton.mpr rfl, .read member⟩
            · exact .inl member
          · exact .inr ⟨_, List.mem_singleton.mpr rfl, .branch inside behind⟩
        · rcases explored.accepts done with done | ⟨next, inside, behind⟩
          · exact .inl done
          · exact .inr ⟨_, List.mem_singleton.mpr rfl, .branch inside behind⟩
        · rcases explored.closed none g member with member | covered
          · rcases List.mem_cons.mp member with rfl | member
            · exact .inr (covers none)
            · exact .inl member
          · exact .inr covered
        · rw [List.mem_singleton.mp member]
          exact covers none
      · have done := (Bool.not_eq_false _).mp undone
        have eq : r.follow p (f :: rest) = r := by rw [Reach.follow, if_pos done]
        rw [eq]
        refine ⟨fun _ member => member, id, fun _ member => .inl member, .inl, closed,
          fun none g member => ?_⟩
        rw [none, Bool.false_or, List.contains_iff_mem] at done
        rw [List.mem_singleton.mp member]
        rcases closed none _ done with again | covers
        · exact absurd (heavy _ again) (Nat.lt_irrefl _)
        · exact covers

end Explored

theorem ofWork_explored (p : Place) (work : List Work) :
    Explored p [] .start (work.map fun w => w.map Goal.expr) (Reach.ofWork p work) := by
  have closed : Reach.start.Closed p [] := by
    intro _ g member
    simp [Reach.start] at member
  have explored := explored_foldl (work.map fun w => w.map Goal.expr) closed
    fun g _ r closed => follow_explored g (by simp) closed
  rwa [List.foldl_map] at explored

section OfWork

variable {p : Place} {work : List Work}

theorem ofWork_accepts (accepts : (Reach.ofWork p work).accepts = true) :
    ∃ w ∈ work, Leads p (w.map Goal.expr) none := by
  rcases (ofWork_explored p work).accepts accepts with none | ⟨g, member, leads⟩
  · cases none
  · obtain ⟨w, inside, rfl⟩ := List.mem_map.mp member
    exact ⟨w, inside, leads⟩

theorem ofWork_reading {w' : Work} (reading : w' ∈ (Reach.ofWork p work).reading) :
    ∃ w ∈ work, Leads p (w.map Goal.expr) (some w') := by
  rcases (ofWork_explored p work).sound w' reading with none | ⟨g, member, leads⟩
  · cases none
  · obtain ⟨w, inside, rfl⟩ := List.mem_map.mp member
    exact ⟨w, inside, leads⟩

theorem ofWork_covers (pending : (Reach.ofWork p work).accepts = false) {w : Work}
    (member : w ∈ work) : (Reach.ofWork p work).Covers p (w.map Goal.expr) :=
  (ofWork_explored p work).covers pending _ (List.mem_map.mpr ⟨w, member, rfl⟩)

end OfWork

/-! Attempts. -/

def Alive : Option Nat → List CodePoint → Work → Prop
  | before, [], w => Leads ⟨before, none⟩ (w.map Goal.expr) none
  | before, c :: rest, w => Leads ⟨before, some c.value⟩ (w.map Goal.expr) none ∨
      ∃ w', Leads ⟨before, some c.value⟩ (w.map Goal.expr) (some w') ∧ Alive (some c.value) rest w'

/-- What is called hopeless behind each code point leads to no match. -/
def Hopeless : List (List Work) → List CodePoint → Prop
  | known :: more, c :: rest => (∀ w ∈ known, ¬ Alive (some c.value) rest w) ∧ Hopeless more rest
  | _, _ => True

theorem hopeless_nil (points : List CodePoint) : Hopeless [] points := by
  simp [Hopeless]

theorem Hopeless.head {hopeless : List (List Work)} {c : CodePoint} {rest : List CodePoint}
    (known : Hopeless hopeless (c :: rest)) :
    ∀ w ∈ hopeless.headD [], ¬ Alive (some c.value) rest w := by
  cases hopeless with
  | nil => intro w member; cases member
  | cons => exact known.1

theorem Hopeless.tail {hopeless : List (List Work)} {c : CodePoint} {rest : List CodePoint}
    (known : Hopeless hopeless (c :: rest)) : Hopeless hopeless.tail rest := by
  cases hopeless with
  | nil => exact hopeless_nil rest
  | cons => exact known.2

/-- The work that an attempt goes on with behind a code point. -/
def onward (before : Option Nat) (c : CodePoint) (work known : List Work) : List Work :=
  (Reach.ofWork ⟨before, some c.value⟩ work).reading.reverse.filter fun w =>
    !(w.isLoop && known.contains w)

section Attempt

variable {before : Option Nat} {offset : Nat} {found : Option Nat} {work : List Work}
  {hopeless : List (List Work)} {known : List Work} {c : CodePoint}
  {rest points : List CodePoint}

/-- The end of a match so far: this place, if a match ends here. -/
def foundAt (before after : Option Nat) (offset : Nat) (found : Option Nat) (work : List Work) :
    Option Nat :=
  if (Reach.ofWork ⟨before, after⟩ work).accepts then some offset else found

theorem attempt_nil :
    attempt before offset found work hopeless [] =
      ⟨foundAt before none offset found work, []⟩ := rfl

theorem attempt_cons :
    attempt before offset found work hopeless (c :: rest) =
      match onward before c work (hopeless.headD []) with
      | [] => ⟨foundAt before (some c.value) offset found work, hopeless⟩
      | left =>
        let a := attempt (some c.value) (offset + c.width)
          (foundAt before (some c.value) offset found work) left hopeless.tail rest
        ⟨a.stop, (left.filter Work.isLoop ++ hopeless.headD []) :: a.hopeless⟩ := rfl

theorem stop_attempt_idle : (attempt before offset found [] hopeless points).stop = found := by
  cases points <;> rfl

theorem stop_attempt_cons :
    (attempt before offset found work hopeless (c :: rest)).stop =
      (attempt (some c.value) (offset + c.width) (foundAt before (some c.value) offset found work)
        (onward before c work (hopeless.headD [])) hopeless.tail rest).stop := by
  rw [attempt_cons]
  split
  · rename_i none
    rw [none, stop_attempt_idle]
  · rfl

/-- A match ends at the place of one that was found before, or behind some of the code points. -/
theorem stop_attempt {n : Nat}
    (stops : (attempt before offset found work hopeless points).stop = some n) :
    found = some n ∨ ∃ inside behind, points = inside ++ behind ∧
      n = offset + totalWidth inside := by
  induction points generalizing before offset found work hopeless with
  | nil =>
    simp only [attempt_nil, foundAt] at stops
    split at stops
    · exact .inr ⟨[], [], rfl, by simpa [totalWidth] using stops.symm⟩
    · exact .inl stops
  | cons c rest ih =>
    rw [stop_attempt_cons] at stops
    rcases ih stops with earlier | ⟨inside, behind, rfl, rfl⟩
    · unfold foundAt at earlier
      split at earlier
      · exact .inr ⟨[], c :: rest, rfl, by simpa [totalWidth] using earlier.symm⟩
      · exact .inl earlier
    · exact .inr ⟨c :: inside, behind, rfl, by simp [totalWidth, Nat.add_assoc]⟩

/-- A match that was found is given up only for one that ends later. -/
theorem stop_attempt_some (before : Option Nat) (offset k : Nat) (work : List Work)
    (hopeless : List (List Work)) (points : List CodePoint) :
    ∃ n, (attempt before offset (some k) work hopeless points).stop = some n ∧
      (n = k ∨ offset ≤ n) := by
  induction points generalizing before offset k work hopeless with
  | nil =>
    simp only [attempt_nil, foundAt]
    split
    · exact ⟨offset, rfl, .inr (Nat.le_refl _)⟩
    · exact ⟨k, rfl, .inl rfl⟩
  | cons c rest ih =>
    rw [stop_attempt_cons, foundAt]
    split
    · obtain ⟨n, stops, late⟩ := ih (some c.value) (offset + c.width) offset
        (onward before c work (hopeless.headD [])) hopeless.tail
      exact ⟨n, stops, .inr (by omega)⟩
    · obtain ⟨n, stops, late⟩ := ih (some c.value) (offset + c.width) k
        (onward before c work (hopeless.headD [])) hopeless.tail
      exact ⟨n, stops, by omega⟩

theorem mem_onward {w : Work} (member : w ∈ onward before c work known) :
    w ∈ (Reach.ofWork ⟨before, some c.value⟩ work).reading := by
  simpa using (List.mem_filter.mp member).1

theorem onward_or_known {w : Work}
    (member : w ∈ (Reach.ofWork ⟨before, some c.value⟩ work).reading) :
    w ∈ onward before c work known ∨ w ∈ known := by
  by_cases skipped : w.isLoop && known.contains w
  · rw [Bool.and_eq_true, List.contains_iff_mem] at skipped
    exact .inr skipped.2
  · exact .inl (List.mem_filter.mpr
      ⟨by simpa using member, by rwa [Bool.not_eq_true', ← Bool.not_eq_true]⟩)

/-- Work that leads to no match changes nothing. -/
theorem stop_attempt_dead (dead : ∀ w ∈ work, ¬ Alive before points w) :
    (attempt before offset found work hopeless points).stop = found := by
  induction points generalizing before offset found work hopeless with
  | nil =>
    simp only [attempt_nil, foundAt]
    split
    · rename_i accepts
      obtain ⟨w, member, leads⟩ := ofWork_accepts accepts
      exact absurd leads (dead w member)
    · rfl
  | cons c rest ih =>
    have none : foundAt before (some c.value) offset found work = found := by
      unfold foundAt
      split
      · rename_i accepts
        obtain ⟨w, member, leads⟩ := ofWork_accepts accepts
        exact absurd (.inl leads) (dead w member)
      · rfl
    rw [stop_attempt_cons, none]
    apply ih
    intro w' member alive
    obtain ⟨w, inside, leads⟩ := ofWork_reading (mem_onward member)
    exact dead w inside (.inr ⟨w', leads, alive⟩)

/-- If an attempt comes to nothing new, none of its work leads to a match. -/
theorem dead_of_stop (sterile : Hopeless hopeless points)
    (earlier : ∀ n, found = some n → n < offset)
    (stops : (attempt before offset found work hopeless points).stop = found) :
    ∀ w ∈ work, ¬ Alive before points w := by
  induction points generalizing before offset found work hopeless with
  | nil =>
    intro w member leads
    have pending : (Reach.ofWork ⟨before, none⟩ work).accepts = false := by
      rw [Bool.eq_false_iff]
      intro accepts
      rw [attempt_nil, foundAt, if_pos accepts] at stops
      exact Nat.lt_irrefl _ (earlier offset stops.symm)
    obtain ⟨w', eq, _⟩ := ofWork_covers pending member none leads
    cases eq
  | cons c rest ih =>
    rw [stop_attempt_cons] at stops
    have pending : (Reach.ofWork ⟨before, some c.value⟩ work).accepts = false := by
      rw [Bool.eq_false_iff]
      intro accepts
      rw [foundAt, if_pos accepts] at stops
      obtain ⟨n, stops', late⟩ := stop_attempt_some (some c.value) (offset + c.width) offset
        (onward before c work (hopeless.headD [])) hopeless.tail rest
      have := earlier n (stops.symm.trans stops')
      omega
    rw [foundAt, pending, if_neg Bool.false_ne_true] at stops
    have left := ih sterile.tail
      (fun n eq => Nat.lt_of_lt_of_le (earlier n eq) (Nat.le_add_right _ _)) stops
    have dead : ∀ w ∈ (Reach.ofWork ⟨before, some c.value⟩ work).reading,
        ¬ Alive (some c.value) rest w := by
      intro w member
      rcases onward_or_known member with member | member
      · exact left w member
      · exact sterile.head w member
    rintro w member (ends | ⟨w', leads, alive⟩)
    · obtain ⟨_, eq, _⟩ := ofWork_covers pending member none ends
      cases eq
    · obtain ⟨_, eq, reading⟩ := ofWork_covers pending member _ leads
      cases eq
      exact dead w' reading alive

theorem hopeless_attempt (sterile : Hopeless hopeless points)
    (fails : (attempt before offset none work hopeless points).stop = none) :
    Hopeless (attempt before offset none work hopeless points).hopeless points := by
  induction points generalizing before offset work hopeless with
  | nil => exact hopeless_nil []
  | cons c rest ih =>
    have dead := dead_of_stop sterile (by simp) fails
    rw [stop_attempt_cons] at fails
    rw [attempt_cons]
    have pending : (Reach.ofWork ⟨before, some c.value⟩ work).accepts = false := by
      rw [Bool.eq_false_iff]
      intro accepts
      obtain ⟨w, member, leads⟩ := ofWork_accepts accepts
      exact dead w member (.inl leads)
    have none : foundAt before (some c.value) offset Option.none work = Option.none := by
      simp [foundAt, pending]
    rw [none] at fails ⊢
    cases left : onward before c work (hopeless.headD []) with
    | nil => exact sterile
    | cons =>
      rw [left] at fails
      refine ⟨?_, ih sterile.tail fails⟩
      intro w member
      rcases List.mem_append.mp member with member | member
      · have inside := (List.mem_filter.mp member).1
        rw [← left] at inside
        obtain ⟨w', source, leads⟩ := ofWork_reading (mem_onward inside)
        exact fun alive => dead w' source (.inr ⟨w, leads, alive⟩)
      · exact sterile.head w member

/-- An empty match is found again without a memory of what failed before. -/
theorem stop_attempt_again (sterile : Hopeless hopeless points) (wide : ∀ c ∈ points, 0 < c.width)
    (stops : (attempt before offset none work hopeless points).stop = some offset) :
    (attempt before offset none work [] points).stop = some offset := by
  cases points with
  | nil => exact stops
  | cons c rest =>
    have pos := wide c List.mem_cons_self
    rw [stop_attempt_cons] at stops ⊢
    have accepts : (Reach.ofWork ⟨before, some c.value⟩ work).accepts = true := by
      apply Classical.byContradiction
      intro pending
      rw [foundAt, if_neg pending] at stops
      rcases stop_attempt stops with none | ⟨inside, behind, _, eq⟩
      · cases none
      · omega
    rw [foundAt, if_pos accepts] at stops ⊢
    have left := dead_of_stop sterile.tail (by intro n eq; cases eq; omega) stops
    apply stop_attempt_dead
    intro w member
    rcases onward_or_known (mem_onward member) with member | member
    · exact left w member
    · exact sterile.head w member

end Attempt

/-! The first match. -/

def behind (before : Option Nat) : List CodePoint → Option Nat
  | [] => before
  | c :: rest => behind (some c.value) rest

section Find

variable {e : Expr} {before : Option Nat} {offset : Nat} {hopeless : List (List Work)}
  {points : List CodePoint} {s : Span}

theorem find?_of_attempt {n : Nat}
    (stops : (attempt before offset none [[e]] hopeless points).stop = some n) :
    e.find? before offset hopeless points = some ⟨offset, n⟩ := by
  cases points with
  | nil =>
    have stops' : (attempt before offset none [[e]] [] []).stop = some n := stops
    simp [Expr.find?, stops']
  | cons c rest => simp [Expr.find?, stops]

theorem find?_cases (found : e.find? before offset hopeless points = some s) :
    (s.start = offset ∧ (attempt before offset none [[e]] hopeless points).stop = some s.stop) ∨
    ∃ c rest, points = c :: rest ∧ (attempt before offset none [[e]] hopeless points).stop = none ∧
      e.find? (some c.value) (offset + c.width)
        (attempt before offset none [[e]] hopeless points).hopeless.tail rest = some s := by
  cases points with
  | nil =>
    rw [Expr.find?, Option.map_eq_some_iff] at found
    obtain ⟨n, stops, rfl⟩ := found
    exact .inl ⟨rfl, stops⟩
  | cons c rest =>
    rw [Expr.find?] at found
    cases stops : (attempt before offset none [[e]] hopeless (c :: rest)).stop with
    | some n =>
      simp only [stops] at found
      cases found
      exact .inl ⟨rfl, rfl⟩
    | none =>
      simp only [stops] at found
      exact .inr ⟨c, rest, rfl, rfl, found⟩

/-- A match at the place itself takes up the next code points; an empty one is found again. -/
theorem find?_here (sterile : Hopeless hopeless points) (wide : ∀ c ∈ points, 0 < c.width)
    {n : Nat} (stops : (attempt before offset none [[e]] hopeless points).stop = some n) :
    ∃ body rest, points = body ++ rest ∧ n = offset + totalWidth body ∧
      (n = offset → e.find? before offset [] points = some ⟨offset, offset⟩) := by
  rcases stop_attempt stops with none | ⟨body, rest, split, eq⟩
  · cases none
  · refine ⟨body, rest, split, eq, fun empty => ?_⟩
    rw [empty] at stops
    exact find?_of_attempt (stop_attempt_again sterile wide stops)

/-- A match takes up some of the code points, and an empty one is found again from its own
place. -/
theorem find?_some (sterile : Hopeless hopeless points) (wide : ∀ c ∈ points, 0 < c.width)
    (found : e.find? before offset hopeless points = some s) :
    ∃ lead body rest, points = lead ++ (body ++ rest) ∧ s.start = offset + totalWidth lead ∧
      s.stop = s.start + totalWidth body ∧
      (s.stop = s.start →
        e.find? (behind before lead) s.start [] (body ++ rest) = some ⟨s.start, s.start⟩) := by
  induction points generalizing before offset hopeless with
  | nil =>
    rcases find?_cases found with ⟨rfl, stops⟩ | ⟨_, _, none, _⟩
    · obtain ⟨body, rest, split, stop, again⟩ := find?_here sterile wide stops
      exact ⟨[], body, rest, split, rfl, stop, split ▸ again⟩
    · cases none
  | cons c points ih =>
    rcases find?_cases found with ⟨rfl, stops⟩ | ⟨_, _, same, fails, later⟩
    · obtain ⟨body, rest, split, stop, again⟩ := find?_here sterile wide stops
      exact ⟨[], body, rest, split, rfl, stop, split ▸ again⟩
    · cases same
      have known := (hopeless_attempt sterile fails).tail
      obtain ⟨lead, body, rest, rfl, start, stop, again⟩ :=
        ih known (fun d member => wide d (List.mem_cons_of_mem _ member)) later
      refine ⟨c :: lead, body, rest, rfl, ?_, stop, again⟩
      rw [start, totalWidth, Nat.add_assoc]

end Find

end Retouch.Regexp
