import Retouch.Proofs.Text.CodePoint
import Retouch.Regexp.Match

/-! Matching of rows.
A row is an expression that leaves no choice: code points that stand for themselves and runs of
blanks, each run followed by a code point that is no blank. For a row the search with all its
bookkeeping comes down to one run over the code points. -/
namespace Retouch.Regexp

def blanks : CharSet := ⟨[(0x09, 0x0A), (0x0C, 0x0D), (0x20, 0x20)]⟩

inductive Step where
  | point (value : Nat)
  /-- One blank or more. -/
  | gap
  /-- Any number of further blanks. -/
  | more
  deriving DecidableEq, Repr

namespace Step

def next : List Step → Nat → Option (List Step)
  | [], _ => none
  | .point v :: steps, c => if c = v then some steps else none
  | .gap :: steps, c => if blanks.contains c then some (.more :: steps) else none
  | .more :: steps, c => if blanks.contains c then some (.more :: steps) else next steps c

/-- The number of bytes that the steps take from the head of a text. -/
def run : List Step → List CodePoint → Option Nat
  | [], _ => some 0
  | _ :: _, [] => none
  | s :: steps, c :: rest =>
    match next (s :: steps) c.value with
    | none => none
    | some left => (run left rest).map (c.width + ·)

/-- The steps start with a code point that is no blank. -/
def Clear : List Step → Prop
  | .point v :: _ => blanks.contains v = false
  | _ => False

def Apart : List Step → Prop
  | [] => True
  | .point _ :: steps => Apart steps
  | .gap :: steps => Clear steps ∧ Apart steps
  | .more :: steps => Clear steps ∧ Apart steps

theorem Clear.ne_nil {steps : List Step} (clear : Clear steps) : steps ≠ [] := by
  rintro rfl
  exact clear

theorem next_of_clear {steps : List Step} {c : Nat} (clear : Clear steps)
    (blank : blanks.contains c = true) : next steps c = none := by
  cases steps with
  | nil => rfl
  | cons s rest =>
    cases s with
    | point v =>
      have differ : c ≠ v := by
        intro eq
        rw [Clear, ← eq, blank] at clear
        cases clear
      simp [next, differ]
    | gap => cases clear
    | more => cases clear

theorem apart_next {steps left : List Step} {c : Nat} (apart : Apart steps)
    (h : next steps c = some left) : Apart left := by
  induction steps with
  | nil => cases h
  | cons s rest ih =>
    cases s with
    | point v =>
      simp only [next] at h
      split at h
      · cases h; exact apart
      · cases h
    | gap =>
      simp only [next] at h
      split at h
      · cases h; exact apart
      · cases h
    | more =>
      simp only [next] at h
      split at h
      · cases h; exact apart
      · exact ih apart.2 h

end Step

open Step (next run Apart Clear next_of_clear apart_next)

/-- Work that asks for the given steps one after the other. -/
inductive Row : Work → List Step → Prop where
  | nil : Row [] []
  | point {v : Nat} {w : Work} {steps : List Step} :
      Row w steps → Row (.set (.single v) :: w) (.point v :: steps)
  | gap {w : Work} {steps : List Step} :
      Row w steps → Row (.plus (.set blanks) true :: w) (.gap :: steps)
  | more {w : Work} {steps : List Step} :
      Row w steps → Row (.loop (.set blanks) true :: w) (.more :: steps)
  | seq {n : Nat} {a b : Expr} {w : Work} {steps : List Step} :
      Row (a :: b :: w) steps → Row (.seq n a b :: w) steps

namespace Row

theorem unique {w : Work} {steps others : List Step} (row : Row w steps) (other : Row w others) :
    steps = others := by
  induction row generalizing others with
  | nil => cases other; rfl
  | point _ ih => cases other with | point h => rw [ih h]
  | gap _ ih => cases other with | gap h => rw [ih h]
  | more _ ih => cases other with | more h => rw [ih h]
  | seq _ ih => cases other with | seq h => exact ih h

theorem eq_nil {w : Work} {steps : List Step} (row : Row w steps) (none : steps = []) : w = [] := by
  induction row with
  | nil => rfl
  | seq _ ih => cases ih none
  | point | gap | more => cases none

end Row

theorem single_contains (v c : Nat) : (CharSet.single v).contains c = decide (c = v) := by
  simp only [CharSet.single, CharSet.contains, List.any_cons, List.any_nil, Bool.or_false]
  by_cases h : c = v
  · simp [h]
  · have : ¬ (v ≤ c ∧ c ≤ v) := by omega
    simpa [h] using this

theorem settled_map (w : Work) : (w.map Goal.expr).map Goal.settled = w := by
  induction w with
  | nil => rfl
  | cons e w ih => simp only [List.map_cons, ih, Goal.settled]

theorem stackWeight_cons (f : Goal) (rest : List Goal) :
    stackWeight (f :: rest) = f.weight + stackWeight rest := rfl

/-- What has been done at a place once this work is done there, too. -/
def Reach.mark (r : Reach) (work : List Goal) : Reach := { r with seen := work :: r.seen }

/-- No match has ended here yet, and everything done at the place is heavier than this work. -/
structure Fresh (r : Reach) (work : List Goal) : Prop where
  pending : r.accepts = false
  light : ∀ g ∈ r.seen, stackWeight work < stackWeight g

namespace Fresh

theorem mark {r : Reach} {work less : List Goal} (fresh : Fresh r work)
    (lighter : stackWeight less < stackWeight work) : Fresh (r.mark work) less := by
  refine ⟨fresh.pending, fun g member => ?_⟩
  rcases List.mem_cons.mp member with rfl | member
  · exact lighter
  · exact Nat.lt_trans lighter (fresh.light g member)

theorem undone {r : Reach} {work : List Goal} (fresh : Fresh r work) :
    ¬ (r.accepts || r.seen.contains work) = true := by
  simp only [fresh.pending, List.contains_eq_mem, Bool.false_or, decide_eq_true_eq]
  intro member
  exact absurd (fresh.light work member) (Nat.lt_irrefl _)

end Fresh

section Follow

variable {p : Place} {r : Reach} {rest : List Goal}

theorem follow_set {s : CharSet} (fresh : Fresh r (.expr (.set s) :: rest)) :
    r.follow p (.expr (.set s) :: rest) =
      { r.mark (.expr (.set s) :: rest) with
        reading := if p.after.any s.contains then rest.map Goal.settled :: r.reading
          else r.reading } := by
  rw [Reach.follow, if_neg fresh.undone]
  dsimp only
  split <;> rfl

theorem follow_seq {n : Nat} {a b : Expr} (fresh : Fresh r (.expr (.seq n a b) :: rest)) :
    r.follow p (.expr (.seq n a b) :: rest) =
      (r.mark (.expr (.seq n a b) :: rest)).follow p (.expr a :: .expr b :: rest) := by
  rw [Reach.follow, if_neg fresh.undone]
  rfl

theorem follow_plus {a : Expr} (fresh : Fresh r (.expr (.plus a true) :: rest)) :
    r.follow p (.expr (.plus a true) :: rest) =
      (r.mark (.expr (.plus a true) :: rest)).follow p (.expr a :: .firstEnd a true :: rest) := by
  rw [Reach.follow, if_neg fresh.undone]
  rfl

theorem follow_loop {a : Expr} (fresh : Fresh r (.expr (.loop a true) :: rest)) :
    r.follow p (.expr (.loop a true) :: rest) =
      ((r.mark (.expr (.loop a true) :: rest)).follow p
        (.expr a :: .laterEnd a true :: rest)).follow p rest := by
  rw [Reach.follow, if_neg fresh.undone]
  rfl

end Follow

/-- What following a row from a place has added to what was there before. -/
structure Followed (p : Place) (before : Reach) (steps : List Step) (after : Reach) : Prop where
  pending : after.accepts = false
  stuck : p.after.bind (next steps) = none → after.reading = before.reading
  moved : ∀ left, p.after.bind (next steps) = some left →
    ∃ w, Row w left ∧ after.reading = w :: before.reading

section Followed

variable {p : Place} {r inner after : Reach} {w : Work} {steps left : List Step}

theorem Followed.of_set {s : CharSet} (row : Row w left) (pending : after.accepts = false)
    (reads : ∀ c, next steps c = if s.contains c then some left else none)
    (reading : after.reading = if p.after.any s.contains then w :: r.reading else r.reading) :
    Followed p r steps after := by
  cases h : p.after with
  | none =>
    rw [h] at reading
    exact ⟨pending, fun _ => reading, fun _ moved => by simp [h] at moved⟩
  | some c =>
    rw [h, Option.any_some] at reading
    cases hit : s.contains c with
    | true =>
      rw [hit, if_pos rfl] at reading
      refine ⟨pending, fun stuck => by simp [h, reads, hit] at stuck, fun left moved => ?_⟩
      simp only [h, reads, hit, Option.bind_some, if_true, Option.some.injEq] at moved
      exact ⟨w, moved ▸ row, reading⟩
    | false =>
      rw [hit, if_neg Bool.false_ne_true] at reading
      exact ⟨pending, fun _ => reading, fun _ moved => by simp [h, reads, hit] at moved⟩

/-- Of one more blank and what stands behind the blanks only one can read on. -/
theorem Followed.more (row : Row w steps) (clear : Clear steps)
    (reading : inner.reading = if p.after.any blanks.contains
      then (.loop (.set blanks) true :: w) :: r.reading else r.reading)
    (behind : Followed p inner steps after) : Followed p r (.more :: steps) after := by
  obtain ⟨pending, stuck, moved⟩ := behind
  cases h : p.after with
  | none =>
    rw [h] at reading stuck
    exact ⟨pending, fun _ => (stuck rfl).trans reading, fun _ moved => by simp [h] at moved⟩
  | some c =>
    rw [h] at reading stuck moved
    rw [Option.any_some] at reading
    cases blank : blanks.contains c with
    | false =>
      rw [blank, if_neg Bool.false_ne_true] at reading
      refine ⟨pending, fun none => ?_, fun left some => ?_⟩
      · rw [stuck (by simpa [h, next, blank] using none), reading]
      · obtain ⟨w', row', eq⟩ := moved left (by simpa [h, next, blank] using some)
        exact ⟨w', row', by rw [eq, reading]⟩
    | true =>
      rw [blank, if_pos rfl] at reading
      refine ⟨pending, fun none => by simp [h, next, blank] at none, fun left some => ?_⟩
      simp only [h, next, blank, Option.bind_some, if_true, Option.some.injEq] at some
      subst some
      exact ⟨_, .more row, by rw [stuck (next_of_clear clear blank), reading]⟩

end Followed

/-- One place: nothing is preferred, seen twice or left over, because everything that was seen
before is heavier than what is still to be done. -/
theorem follow_row (p : Place) (r : Reach) {w : Work} {steps : List Step} (row : Row w steps)
    (apart : Apart steps) (nonempty : steps ≠ []) (fresh : Fresh r (w.map Goal.expr)) :
    Followed p r steps (r.follow p (w.map Goal.expr)) := by
  induction row generalizing r with
  | nil => exact absurd rfl nonempty
  | @point v w steps row ih =>
    rw [List.map_cons, follow_set fresh, settled_map]
    refine .of_set row fresh.pending (fun c => ?_) rfl
    simp [next, single_contains]
  | @gap w steps row ih =>
    rw [List.map_cons] at fresh ⊢
    have lighter : stackWeight (.expr (.set blanks) :: .firstEnd (.set blanks) true :: w.map .expr)
        < stackWeight (.expr (.plus (.set blanks) true) :: w.map .expr) := by
      simp only [stackWeight_cons, Goal.weight, Expr.weight]
      omega
    rw [follow_plus fresh, follow_set (fresh.mark lighter), List.map_cons, settled_map]
    exact .of_set (.more row) fresh.pending (fun c => rfl) rfl
  | @more w steps row ih =>
    rw [List.map_cons] at fresh ⊢
    have lighter : stackWeight (.expr (.set blanks) :: .laterEnd (.set blanks) true :: w.map .expr)
        < stackWeight (.expr (.loop (.set blanks) true) :: w.map .expr) := by
      simp only [stackWeight_cons, Goal.weight, Expr.weight]
      omega
    have lightest : stackWeight (w.map .expr)
        < stackWeight (.expr (.set blanks) :: .laterEnd (.set blanks) true :: w.map .expr) := by
      simp only [stackWeight_cons, Goal.weight, Expr.weight]
      omega
    have fresh' := (fresh.mark lighter).mark lightest
    rw [follow_loop fresh, follow_set (fresh.mark lighter), List.map_cons, settled_map]
    exact .more row apart.1 rfl (ih _ apart.2 apart.1.ne_nil ⟨fresh'.pending, fresh'.light⟩)
  | @seq n a b w steps row ih =>
    rw [List.map_cons] at fresh ⊢
    have lighter : stackWeight (.expr a :: .expr b :: w.map .expr)
        < stackWeight (.expr (.seq n a b) :: w.map .expr) := by
      simp only [stackWeight_cons, Goal.weight, Expr.weight]
      omega
    rw [follow_seq fresh]
    obtain ⟨pending, stuck, moved⟩ := ih _ apart nonempty (fresh.mark lighter)
    exact ⟨pending, stuck, moved⟩

theorem ofWork_singleton (p : Place) (w : Work) :
    Reach.ofWork p [w] = Reach.start.follow p (w.map Goal.expr) := rfl

theorem ofWork_row (p : Place) {w : Work} {steps : List Step} (row : Row w steps)
    (apart : Apart steps) (nonempty : steps ≠ []) :
    Followed p Reach.start steps (Reach.ofWork p [w]) := by
  rw [ofWork_singleton]
  exact follow_row p _ row apart nonempty ⟨rfl, by simp [Reach.start]⟩

/-- What is called hopeless behind each code point is a row that runs nowhere. -/
def Barren : List (List Work) → List CodePoint → Prop
  | known :: more, _ :: rest =>
    (∀ w ∈ known, ∀ steps, Row w steps → run steps rest = none) ∧ Barren more rest
  | _, _ => True

theorem barren_nil (points : List CodePoint) : Barren [] points := by
  simp [Barren]

theorem barren_head {hopeless : List (List Work)} {c : CodePoint} {rest : List CodePoint}
    (barren : Barren hopeless (c :: rest)) :
    ∀ w ∈ hopeless.headD [], ∀ steps, Row w steps → run steps rest = none := by
  cases hopeless with
  | nil => intro w member; simp at member
  | cons known more => exact barren.1

theorem barren_tail {hopeless : List (List Work)} {c : CodePoint} {rest : List CodePoint}
    (barren : Barren hopeless (c :: rest)) : Barren hopeless.tail rest := by
  cases hopeless with
  | nil => exact barren_nil rest
  | cons known more => exact barren.2

section Attempt

variable {before : Option Nat} {offset : Nat} {work : List Work} {hopeless : List (List Work)}
  {c : CodePoint} {rest : List CodePoint} {w : Work}

theorem attempt_known
    (pending : (Reach.ofWork ⟨before, some c.value⟩ work).accepts = false)
    (reading : (Reach.ofWork ⟨before, some c.value⟩ work).reading = [w])
    (known : (w.isLoop && (hopeless.headD []).contains w) = true) :
    attempt before offset none work hopeless (c :: rest) = ⟨none, hopeless⟩ := by
  rw [attempt]
  simp only [pending, reading, List.reverse_singleton, List.filter_cons, known, Bool.not_true,
    Bool.false_eq_true, if_false, List.filter_nil]

theorem attempt_unknown
    (pending : (Reach.ofWork ⟨before, some c.value⟩ work).accepts = false)
    (reading : (Reach.ofWork ⟨before, some c.value⟩ work).reading = [w])
    (unknown : (w.isLoop && (hopeless.headD []).contains w) = false) :
    attempt before offset none work hopeless (c :: rest) =
      ⟨(attempt (some c.value) (offset + c.width) none [w] hopeless.tail rest).stop,
        ([w].filter Work.isLoop ++ hopeless.headD []) ::
          (attempt (some c.value) (offset + c.width) none [w] hopeless.tail rest).hopeless⟩ := by
  rw [attempt]
  simp only [pending, reading, List.reverse_singleton, List.filter_cons, unknown, Bool.not_false,
    Bool.false_eq_true, if_false, if_true, List.filter_nil]

end Attempt

/-- An attempt to match a row ends where its run ends, and one that fails leaves only work behind
that runs nowhere. -/
theorem attempt_row {w : Work} {steps : List Step} (row : Row w steps) (apart : Apart steps)
    (before : Option Nat) (offset : Nat) (hopeless : List (List Work)) (points : List CodePoint)
    (barren : Barren hopeless points) :
    (attempt before offset none [w] hopeless points).stop = (run steps points).map (offset + ·) ∧
      (run steps points = none →
        Barren (attempt before offset none [w] hopeless points).hopeless points) := by
  induction points generalizing w steps before offset hopeless with
  | nil =>
    cases steps with
    | nil =>
      rw [row.eq_nil rfl]
      simp [attempt, run, ofWork_singleton, Reach.follow]
    | cons s steps =>
      have followed := ofWork_row ⟨before, none⟩ row apart (by simp)
      simp [attempt, run, followed.pending, Barren]
  | cons c rest ih =>
    cases steps with
    | nil =>
      rw [row.eq_nil rfl]
      simp [attempt, run, ofWork_singleton, Reach.follow, Reach.start]
    | cons s steps =>
      obtain ⟨pending, stuck, moved⟩ := ofWork_row ⟨before, some c.value⟩ row apart (by simp)
      simp only [Option.bind_some] at stuck moved
      cases step : next (s :: steps) c.value with
      | none =>
        simp [attempt, run, step, stuck step, pending, Reach.start, barren]
      | some left =>
        obtain ⟨w', row', reading⟩ := moved left step
        cases known : w'.isLoop && (hopeless.headD []).contains w' with
        | true =>
          -- The row is met again where it ran nowhere before.
          have member : w' ∈ hopeless.headD [] := by
            rw [Bool.and_eq_true] at known
            simpa using known.2
          have nowhere := barren_head barren w' member left row'
          rw [attempt_known pending reading known]
          simp [run, step, nowhere, barren]
        | false =>
          obtain ⟨stop, kept⟩ := ih row' (apart_next apart step) (some c.value) (offset + c.width)
            hopeless.tail (barren_tail barren)
          rw [attempt_unknown pending reading known]
          simp only [run, step, stop, Option.map_map, Option.map_eq_none_iff]
          refine ⟨by simp [Function.comp_def, Nat.add_assoc], fun nowhere => ⟨?_, kept nowhere⟩⟩
          intro w'' member others row''
          rcases List.mem_append.mp member with fresh | old
          · have same : w'' = w' := by simpa using (List.mem_filter.mp fresh).1
            subst same
            rwa [row''.unique row']
          · exact barren_head barren w'' old others row''

/-- The first place from an offset on where the steps run through. -/
def Step.first? (steps : List Step) (offset : Nat) : List CodePoint → Option Span
  | [] => none
  | c :: rest =>
    match run steps (c :: rest) with
    | some n => some ⟨offset, offset + n⟩
    | none => first? steps (offset + c.width) rest

/-- The places where the steps run through, from `resume` on and without overlap. -/
def Step.scan (steps : List Step) (resume offset : Nat) : List CodePoint → List Span
  | [] => []
  | c :: rest =>
    if offset < resume then scan steps resume (offset + c.width) rest
    else match run steps (c :: rest) with
      | some n => ⟨offset, offset + n⟩ :: scan steps (offset + n) (offset + c.width) rest
      | none => scan steps resume (offset + c.width) rest

theorem run_pos {steps : List Step} {c : CodePoint} {rest : List CodePoint} {n : Nat}
    (nonempty : steps ≠ []) (wide : 0 < c.width) (hit : run steps (c :: rest) = some n) :
    0 < n := by
  obtain ⟨s, more, rfl⟩ := List.exists_cons_of_ne_nil nonempty
  rw [run] at hit
  split at hit
  · cases hit
  · obtain ⟨m, _, rfl⟩ := Option.map_eq_some_iff.mp hit
    omega

section Scan

variable {steps : List Step} {points : List CodePoint} (wide : ∀ c ∈ points, 0 < c.width)

include wide

theorem scan_of_first?_none {resume offset : Nat} (nowhere : Step.first? steps offset points = none)
    (behind : resume ≤ offset) : Step.scan steps resume offset points = [] := by
  induction points generalizing offset with
  | nil => rfl
  | cons c rest ih =>
    rw [Step.first?] at nowhere
    split at nowhere
    · cases nowhere
    · rename_i miss
      rw [Step.scan, if_neg (Nat.not_lt.mpr behind), miss]
      exact ih (fun d member => wide d (List.mem_cons_of_mem _ member)) nowhere (by omega)

theorem scan_of_first?_some (nonempty : steps ≠ []) {resume offset : Nat} {s : Span}
    (first : Step.first? steps offset points = some s) (behind : resume ≤ offset) :
    offset < s.stop ∧
      Step.scan steps resume offset points = s :: Step.scan steps s.stop offset points := by
  induction points generalizing offset with
  | nil => cases first
  | cons c rest ih =>
    have positive := wide c List.mem_cons_self
    rw [Step.first?] at first
    split at first
    · rename_i n hit
      have forward := run_pos nonempty positive hit
      cases first
      have ahead : offset < offset + n := by omega
      refine ⟨ahead, ?_⟩
      rw [Step.scan, if_neg (Nat.not_lt.mpr behind), hit]
      conv => rhs; rw [Step.scan]
      rw [if_pos ahead]
    · rename_i miss
      obtain ⟨forward, eq⟩ :=
        ih (fun d member => wide d (List.mem_cons_of_mem _ member)) first (by omega)
      refine ⟨by omega, ?_⟩
      rw [Step.scan, if_neg (Nat.not_lt.mpr behind), miss]
      conv => rhs; rw [Step.scan]
      rw [if_pos (by omega)]
      exact eq

end Scan

section Search

variable {e : Expr} {steps : List Step} (row : Row [e] steps) (apart : Apart steps)
  (nonempty : steps ≠ [])

include row apart nonempty

theorem find?_row (before : Option Nat) (offset : Nat) (hopeless : List (List Work))
    (points : List CodePoint) (barren : Barren hopeless points) :
    e.find? before offset hopeless points = Step.first? steps offset points := by
  induction points generalizing before offset hopeless with
  | nil =>
    obtain ⟨s, more, rfl⟩ := List.exists_cons_of_ne_nil nonempty
    obtain ⟨stop, _⟩ := attempt_row row apart before offset [] [] (barren_nil [])
    simp [Expr.find?, stop, Step.first?, run]
  | cons c rest ih =>
    obtain ⟨stop, kept⟩ := attempt_row row apart before offset hopeless (c :: rest) barren
    cases hit : run steps (c :: rest) with
    | some n => simp [Expr.find?, stop, Step.first?, hit]
    | none =>
      rw [Expr.find?, stop, hit, Step.first?, hit]
      exact ih _ _ _ (barren_tail (kept hit))

/-- The search for all matches of a row is one scan. A match is never empty, so nothing is passed
over. -/
theorem findAllFrom_row (resume : Nat) (last before : Option Nat) (offset : Nat)
    (points : List CodePoint) (wide : ∀ c ∈ points, 0 < c.width) :
    e.findAllFrom resume last before offset points = Step.scan steps resume offset points := by
  induction points generalizing resume last before offset with
  | nil =>
    rw [Expr.findAllFrom, find?_row row apart nonempty _ _ _ _ (barren_nil []), Step.first?]
    rfl
  | cons c rest ih =>
    have narrow : ∀ d ∈ rest, 0 < d.width := fun d member => wide d (List.mem_cons_of_mem _ member)
    rw [Expr.findAllFrom]
    split
    · rename_i early
      rw [Step.scan, if_pos early]
      exact ih _ _ _ _ narrow
    · rename_i late
      rw [find?_row row apart nonempty _ _ _ _ (barren_nil _)]
      split
      · rename_i nowhere
        exact (scan_of_first?_none wide nowhere (Nat.le_of_not_lt late)).symm
      · rename_i s first
        obtain ⟨forward, eq⟩ := scan_of_first?_some wide nonempty first (Nat.le_of_not_lt late)
        rw [if_neg (by omega), ih _ _ _ _ narrow, eq]
        conv => rhs; rw [Step.scan]
        rw [if_pos forward]

theorem findAll_row (text : Bytes) :
    e.findAll text = Step.scan steps 0 0 (CodePoint.decode text) :=
  findAllFrom_row row apart nonempty 0 none none 0 _ (CodePoint.decode_width_pos text)

end Search

end Retouch.Regexp
