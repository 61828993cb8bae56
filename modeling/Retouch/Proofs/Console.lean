import Mathlib.Data.List.Induction
import Retouch.Console

/-! Summaries of targets.
A console may be called in any order. A summary tells of the target that was started last and of the
rules since then, and there is none if that target has been ended already. -/
namespace Retouch.Console

inductive Call where
  | start (target : Target)
  | rule (outcome : RuleOutcome)
  | finish
  | diff (text : Bytes)
  | newline
  | header (message : Bytes)
  | notice (kind : Notice) (message : Bytes)

namespace Call

/-- What a console remembers after a call, and what the call writes and records. -/
def perform (colours : Bool) (c : Console) : Call → Console × Output
  | .start t => c.startTarget colours t
  | .rule r => c.rule colours r
  | .finish => c.endTarget
  | .diff text => (c, Console.diff colours text)
  | .newline => (c, Console.newline)
  | .header message => (c, Console.header colours message)
  | .notice kind message => (c, Console.notice colours kind message)

def outcome? : Call → Option RuleOutcome
  | .rule r => some r
  | _ => none

end Call

def after (colours : Bool) (c : Console) (calls : List Call) : Console :=
  calls.foldl (fun c call => (call.perform colours c).1) c

def outputs (colours : Bool) (c : Console) : List Call → List Output
  | [] => []
  | call :: rest => (call.perform colours c).2 :: outputs colours (call.perform colours c).1 rest

def outcomesOf (calls : List Call) : List RuleOutcome := calls.filterMap Call.outcome?

def exactHits : List RuleOutcome → Int
  | [] => 0
  | r :: rs => r.hits + exactHits rs

def summary (t : Target) (rules : List RuleOutcome) (total : Int) : Event :=
  ⟨.info, "target complete", [("target", .text t.path), ("rules", .number rules.length),
    ("replacements", .number total)]⟩

/-- The calls since the last start, if none of them is an end. -/
structure Since (calls earlier : List Call) (t : Target) (later : List Call) : Prop where
  split : calls = earlier ++ .start t :: later
  last : ∀ u, .start u ∉ later
  unended : .finish ∉ later

/-- Behind every start there is an end. -/
def Closed (calls : List Call) : Prop :=
  ∀ earlier t later, calls = earlier ++ .start t :: later → .finish ∈ later

/-- What a console remembers of calls: an open target with the rules since its start, or that there
is none. In the latter case it may still hold outcomes. -/
inductive Tracks (calls : List Call) (c : Console) : Prop where
  | opened (earlier : List Call) (t : Target) (later : List Call) : Since calls earlier t later →
      c = ⟨some t, outcomesOf later⟩ → Tracks calls c
  | closed : Closed calls → c.current = none → Tracks calls c

variable {calls earlier later : List Call} {call : Call} {t : Target} {c : Console}

theorem start_concat (split : calls ++ [call] = earlier ++ .start t :: later) :
    call = .start t ∨
      ∃ before, later = before ++ [call] ∧ calls = earlier ++ .start t :: before := by
  rcases List.eq_nil_or_concat later with rfl | ⟨before, last, rfl⟩
  · have same := (List.append_inj' split rfl).2
    exact .inl (List.singleton_inj.mp same)
  · rw [List.concat_eq_append, ← List.cons_append, ← List.append_assoc] at split
    obtain ⟨front, same⟩ := List.append_inj' split rfl
    rw [List.singleton_inj] at same
    exact .inr ⟨before, by rw [List.concat_eq_append, same], front⟩

theorem Closed.concat (closed : Closed calls) (other : ∀ t, call ≠ .start t) :
    Closed (calls ++ [call]) := by
  intro earlier t later split
  rcases start_concat split with here | ⟨before, rfl, front⟩
  · exact absurd here (other t)
  · exact List.mem_append_left _ (closed earlier t before front)

theorem closed_finish (calls : List Call) : Closed (calls ++ [.finish]) := by
  intro earlier t later split
  rcases start_concat split with here | ⟨before, rfl, _⟩
  · cases here
  · exact List.mem_append_right _ List.mem_cons_self

theorem since_start (calls : List Call) (t : Target) : Since (calls ++ [.start t]) calls t [] :=
  ⟨rfl, by simp, by simp⟩

theorem Since.concat (since : Since calls earlier t later) (other : ∀ t, call ≠ .start t)
    (more : call ≠ .finish) : Since (calls ++ [call]) earlier t (later ++ [call]) := by
  obtain ⟨rfl, last, unended⟩ := since
  refine ⟨by simp, fun u member => ?_, fun member => ?_⟩
  · rcases List.mem_append.mp member with inside | here
    · exact last u inside
    · exact other u (List.mem_singleton.mp here).symm
  · rcases List.mem_append.mp member with inside | here
    · exact unended inside
    · exact more (List.mem_singleton.mp here).symm

/-- A target that is open stays so under calls that neither start nor end one. -/
theorem Tracks.concat {d : Console} (tracks : Tracks calls c) (other : ∀ t, call ≠ .start t)
    (more : call ≠ .finish) (same : d.current = c.current)
    (outcomes : d.outcomes = c.outcomes ++ outcomesOf [call]) : Tracks (calls ++ [call]) d := by
  cases tracks with
  | opened earlier t later since known =>
    refine .opened earlier t (later ++ [call]) (since.concat other more) ?_
    subst known
    obtain ⟨current, told⟩ := d
    dsimp only at same outcomes
    rw [same, outcomes, outcomesOf, outcomesOf, outcomesOf, List.filterMap_append]
  | closed closed none => exact .closed (closed.concat other) (same.trans none)

theorem Tracks.step (colours : Bool) (tracks : Tracks calls c) (call : Call) :
    Tracks (calls ++ [call]) (call.perform colours c).1 := by
  cases call with
  | start t => exact .opened calls t [] (since_start calls t) rfl
  | rule r => exact tracks.concat (by simp) (by simp) rfl rfl
  | finish =>
    refine .closed (closed_finish calls) ?_
    rw [Call.perform, endTarget]
    cases open_ : c.current with
    | none => exact open_
    | some t => rfl
  | diff _ | newline | header _ | notice _ _ =>
    exact tracks.concat (by simp) (by simp) rfl (List.append_nil _).symm

theorem tracks_after (colours : Bool) (calls : List Call) :
    Tracks calls (after colours .start calls) := by
  induction calls using List.reverseRecOn with
  | nil =>
    refine .closed (fun earlier t later split => ?_) rfl
    simp at split
  | append_singleton calls call ih =>
    rw [after, List.foldl_append]
    exact ih.step colours call

theorem Since.unique {earlier' later' : List Call} {t' : Target}
    (since : Since calls earlier t later) (since' : Since calls earlier' t' later') :
    t = t' ∧ later = later' := by
  have both := since.split.symm.trans since'.split
  rcases List.append_eq_append_iff.mp both with ⟨between, _, same⟩ | ⟨between, _, same⟩
  · cases between with
    | nil => simpa using same
    | cons call between =>
      obtain ⟨_, rfl⟩ := List.cons.inj same
      exact absurd (by simp) (since.last t')
  · cases between with
    | nil => simpa [eq_comm] using same
    | cons call between =>
      obtain ⟨_, rfl⟩ := List.cons.inj same
      exact absurd (by simp) (since'.last t)

theorem outputs_append (colours : Bool) (c : Console) (calls more : List Call) :
    outputs colours c (calls ++ more) =
      outputs colours c calls ++ outputs colours (after colours c calls) more := by
  induction calls generalizing c with
  | nil => rfl
  | cons call rest ih =>
    rw [List.cons_append, outputs, ih]
    rfl

theorem length_outputs (colours : Bool) (c : Console) (calls : List Call) :
    (outputs colours c calls).length = calls.length := by
  induction calls generalizing c with
  | nil => rfl
  | cons call rest ih => rw [outputs, List.length_cons, List.length_cons, ih]

theorem output_at (colours : Bool) (c : Console) (before : List Call) (call : Call)
    (behind : List Call) : (outputs colours c (before ++ call :: behind))[before.length]? =
      some (call.perform colours (after colours c before)).2 := by
  rw [outputs_append, List.getElem?_append_right (Nat.le_of_eq (length_outputs ..)), length_outputs]
  simp [outputs]

theorem foldl_hits (rs : List RuleOutcome) (n : Int) (word : n.bmod Int64.size = n) :
    rs.foldl (fun total r => (total + r.hits).bmod Int64.size) n =
      (n + exactHits rs).bmod Int64.size := by
  induction rs generalizing n with
  | nil => rw [List.foldl_nil, exactHits, Int.add_zero, word]
  | cons r rs ih =>
    rw [List.foldl_cons, ih _ Int.bmod_bmod, Int.bmod_add_bmod, exactHits, Int.add_assoc]

/-- A total that is taken in words is the word of the total. -/
theorem totalHits_eq (rs : List RuleOutcome) : totalHits rs = (exactHits rs).bmod Int64.size := by
  rw [totalHits, foldl_hits rs 0 rfl, Int.zero_add]

theorem totalHits_exact {rs : List RuleOutcome} (above : Int64.minValue.toInt ≤ exactHits rs)
    (below : exactHits rs ≤ Int64.maxValue.toInt) : totalHits rs = exactHits rs := by
  rw [Int64.toInt_minValue] at above
  rw [Int64.toInt_maxValue] at below
  rw [totalHits_eq]
  unfold Int64.size
  exact Int.bmod_eq_of_le (by omega) (by omega)

/-- Whatever calls a new console gets before the end of a target and behind it: that end writes
nothing; it records something exactly if some start has no end behind it; and then it records one
summary, which tells of the target that was started last, of the number of rules since then and of
their hits together. The sum is kept in a word of 64 bits, so it is the exact one where it fits. -/
theorem finish_summary (colours : Bool) (before behind : List Call) :
    ∃ o, (outputs colours .start (before ++ .finish :: behind))[before.length]? = some o ∧
      o.text = [] ∧
      (o.events ≠ [] ↔
        ∃ earlier t later, before = earlier ++ .start t :: later ∧ .finish ∉ later) ∧
      ∀ earlier t later, Since before earlier t later →
        let rules := outcomesOf later
        o.events = [summary t rules ((exactHits rules).bmod Int64.size)] ∧
          (Int64.minValue.toInt ≤ exactHits rules → exactHits rules ≤ Int64.maxValue.toInt →
            o.events = [summary t rules (exactHits rules)]) := by
  refine ⟨_, output_at colours .start before .finish behind, ?_⟩
  rw [Call.perform]
  cases tracks_after colours before with
  | opened earlier t later since known =>
    rw [known]
    refine ⟨rfl, ?_, fun earlier' t' later' since' => ?_⟩
    · constructor
      · intro _
        exact ⟨earlier, t, later, since.split, since.unended⟩
      · intro _
        exact List.cons_ne_nil _ _
    · obtain ⟨rfl, rfl⟩ := since.unique since'
      constructor
      · rw [← totalHits_eq]
        rfl
      · intro above below
        rw [← totalHits_exact above below]
        rfl
  | closed closed none =>
    have silent : (after colours .start before).endTarget.2 = ⟨[], []⟩ := by
      rw [endTarget, none]
    rw [silent]
    refine ⟨rfl, ?_, fun earlier t later since => ?_⟩
    · constructor
      · intro some
        exact absurd rfl some
      · rintro ⟨earlier, t, later, split, unended⟩
        exact absurd (closed earlier t later split) unended
    · exact absurd (closed earlier t later since.split) since.unended

/-- A stray rule and an end without a start, a start within another one, and an end that is made
twice. -/
theorem finish_summary_nested :
    let t : Target := ⟨"a.rs", 2, false⟩
    let u : Target := ⟨"b.rs", 3, true⟩
    let first : List Call := [.rule ⟨"r", 7, false⟩, .finish, .start t, .rule ⟨"r", 1, false⟩,
      .newline, .start u, .rule ⟨"r", 2, false⟩, .notice .warning "w", .rule ⟨"s", 3, false⟩]
    let second : List Call := first ++ [.finish, .rule ⟨"s", 5, false⟩]
    let all := outputs true .start (second ++ [.finish])
    (∃ o, all[first.length]? = some o ∧
      o.events = [summary u [⟨"r", 2, false⟩, ⟨"s", 3, false⟩] 5]) ∧
    all[second.length]? = some ⟨[], []⟩ := by
  intro t u first second all
  have since : Since first (first.take 5) u (first.drop 6) := by
    refine ⟨rfl, fun v => ?_, ?_⟩ <;> simp [first]
  obtain ⟨o, here, _, _, counts⟩ := finish_summary true first [.rule ⟨"s", 5, false⟩, .finish]
  obtain ⟨p, there, silent, iff, _⟩ := finish_summary true second []
  constructor
  · exact ⟨o, here, (counts _ u _ since).2 (by decide) (by decide)⟩
  · have closed : Closed second := by
      have ended := @Closed.concat _ (.rule ⟨"s", 5, false⟩) (closed_finish first) (by simp)
      rwa [List.append_assoc] at ended
    have none : p.events = [] := by
      apply Classical.byContradiction
      intro some
      obtain ⟨earlier, v, later, split, unended⟩ := iff.mp some
      exact unended (closed earlier v later split)
    obtain ⟨text, events⟩ := p
    dsimp only at silent none
    rwa [silent, none] at there

end Retouch.Console
