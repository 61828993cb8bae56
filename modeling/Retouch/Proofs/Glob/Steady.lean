import Retouch.Glob.Match
import Retouch.Proofs.Text.CodePoint

/-! Steady globs.
Matching reads a glob in two ways that its check does not know of. The end of a group and its
alternatives are looked for without regard to classes, and a negated class is left behind the member
that was found, where what follows is checked as if it stood outside. In a steady glob no class
holds a sign that is misread then. -/
namespace Retouch.Glob

/-- What surrounds a place. A class is denied behind the first member of a negated one. -/
inductive Spot where
  | outside
  | escaped
  | classStart
  | negatedStart
  | inClass (denied : Bool)
  | classEscaped (denied : Bool)
  deriving DecidableEq, Repr

namespace Spot

def mode : Spot → Mode
  | .outside => .outside
  | .escaped => .escaped
  | .classStart => .classStart
  | .negatedStart => .classFirst
  | .inClass _ => .inClass
  | .classEscaped _ => .classEscaped

def isOpen : Spot → Bool
  | .escaped | .classEscaped _ => false
  | _ => true

def escape : Spot → Spot
  | .classStart => .classEscaped false
  | .negatedStart => .classEscaped true
  | .inClass denied => .classEscaped denied
  | _ => .escaped

def resume : Spot → Spot
  | .classStart => .inClass false
  | .negatedStart => .inClass true
  | .inClass denied => .inClass denied
  | _ => .outside

end Spot

/-- A place in a glob: the groups that are open there, and what surrounds it. -/
structure Place where
  groups : Nat
  spot : Spot
  deriving DecidableEq, Repr

namespace Place

/-- In no group and in no class. -/
def clear : Place := ⟨0, .outside⟩

/-- The signs that a class may hold: in a group neither braces nor commas, and where it is denied
neither braces nor opening brackets. -/
def admits (grouped denied : Bool) (b : UInt8) : Bool :=
  !(grouped && (b == 0x7B || b == 0x7D || b == 0x2C)) &&
    !(denied && (b == 0x7B || b == 0x7D || b == 0x5B))

def member (grouped denied behind : Bool) (groups : Nat) (b : UInt8) : Option Place :=
  if admits grouped denied b then
    some ⟨groups, if b == 0x5C then .classEscaped behind else .inClass behind⟩
  else none

/-- The place behind a byte, if the byte may stand there. With `inner` the whole text stands in a
group. -/
def next (inner : Bool) (p : Place) (b : UInt8) : Option Place :=
  let grouped := inner || p.groups != 0
  match p.spot with
  | .outside =>
    if b == 0x5C then some ⟨p.groups, .escaped⟩
    else if b == 0x5B then some ⟨p.groups, .classStart⟩
    else if b == 0x7B then some ⟨p.groups + 1, .outside⟩
    else if b == 0x7D then (if p.groups = 0 then none else some ⟨p.groups - 1, .outside⟩)
    else some p
  | .escaped => some ⟨p.groups, .outside⟩
  | .classStart =>
    if b == 0x5E || b == 0x21 then some ⟨p.groups, .negatedStart⟩
    else if b == 0x5D then none
    else member grouped false false p.groups b
  | .negatedStart => if b == 0x5D then none else member grouped false true p.groups b
  | .inClass denied =>
    if b == 0x5D then some ⟨p.groups, .outside⟩ else member grouped denied denied p.groups b
  | .classEscaped denied => some ⟨p.groups, .inClass denied⟩

def follow (inner : Bool) (p : Place) : Bytes → Option Place
  | [] => some p
  | b :: rest => (p.next inner b).bind fun q => q.follow inner rest

end Place

/-- A well-formed glob in which no class holds a sign that matching misreads. -/
def isSteady (glob : Bytes) : Bool := Place.clear.follow false glob == some .clear

theorem isSteady_iff {glob : Bytes} :
    isSteady glob = true ↔ Place.clear.follow false glob = some .clear := beq_iff_eq

namespace Place

variable {inner : Bool} {p q : Place}

theorem follow_append (a b : Bytes) :
    p.follow inner (a ++ b) = (p.follow inner a).bind fun q => q.follow inner b := by
  induction a generalizing p with
  | nil => rfl
  | cons x a ih =>
    simp only [List.cons_append, follow, Option.bind_assoc]
    congr 1
    funext q
    exact ih

theorem follow_cons {b : UInt8} {rest : Bytes} :
    p.follow inner (b :: rest) = some q ↔
      ∃ r, p.next inner b = some r ∧ r.follow inner rest = some q :=
  Option.bind_eq_some_iff

theorem follow_trans {a b : Bytes} {r : Place} (first : p.follow inner a = some q)
    (second : q.follow inner b = some r) : p.follow inner (a ++ b) = some r := by
  rw [follow_append, first]
  exact second

theorem follow_rest {a b : Bytes} {r : Place} (first : p.follow inner a = some q)
    (whole : p.follow inner (a ++ b) = some r) : q.follow inner b = some r := by
  rw [follow_append, first] at whole
  exact whole

theorem member_eq_some {grouped denied behind : Bool} {groups : Nat} {b : UInt8} :
    member grouped denied behind groups b = some q ↔ admits grouped denied b = true ∧
      q = ⟨groups, if b == 0x5C then .classEscaped behind else .inClass behind⟩ := by
  unfold member
  split
  · rename_i allowed
    constructor
    · intro same
      exact ⟨allowed, (Option.some.inj same).symm⟩
    · rintro ⟨_, rfl⟩
      rfl
  · rename_i refused
    constructor
    · intro impossible
      cases impossible
    · rintro ⟨allowed, _⟩
      exact absurd allowed refused

theorem admits_mono {grouped denied : Bool} {b : UInt8} (allowed : admits true denied b = true) :
    admits grouped denied b = true := by
  revert allowed
  unfold admits
  cases grouped <;> simp

theorem next_mono {b : UInt8} (steps : p.next true b = some q) : p.next inner b = some q := by
  obtain ⟨groups, spot⟩ := p
  cases spot with
  | outside => exact steps
  | escaped => exact steps
  | classEscaped => exact steps
  | classStart | negatedStart | inClass =>
    revert steps
    simp only [next, Bool.true_or]
    repeat' split
    all_goals
      intro steps
      first
      | exact steps
      | exact member_eq_some.mpr ((member_eq_some.mp steps).imp_left admits_mono)

theorem follow_mono {u : Bytes} (reads : p.follow true u = some q) : p.follow inner u = some q := by
  induction u generalizing p with
  | nil => exact reads
  | cons b rest ih =>
    obtain ⟨r, steps, more⟩ := follow_cons.mp reads
    exact follow_cons.mpr ⟨r, next_mono steps, ih more⟩

theorem validFrom_next {b : UInt8} (steps : p.next inner b = some q) (rest : Bytes) :
    validFrom p.groups p.spot.mode (b :: rest) = validFrom q.groups q.spot.mode rest := by
  obtain ⟨groups, spot⟩ := p
  cases spot <;> grind [next, validFrom, Spot.mode, member, classMode]

theorem validFrom_follow {u : Bytes} (reads : p.follow inner u = some q) (rest : Bytes) :
    validFrom p.groups p.spot.mode (u ++ rest) = validFrom q.groups q.spot.mode rest := by
  induction u generalizing p with
  | nil => cases reads; rfl
  | cons b u ih =>
    obtain ⟨r, steps, more⟩ := follow_cons.mp reads
    rw [List.cons_append, validFrom_next steps, ih more]

theorem isValid_of_follow {u : Bytes} (reads : clear.follow inner u = some clear) :
    isValid u = true := by
  have whole := validFrom_follow reads []
  rw [List.append_nil] at whole
  exact whole

/-! Groups. -/

theorem outside_of_sign {groups : Nat} {spot : Spot} {b : UInt8} (isOpen : spot.isOpen = true)
    (grouped : (inner || groups != 0) = true) (sign : b = 0x7B ∨ b = 0x7D ∨ b = 0x2C)
    (steps : next inner ⟨groups, spot⟩ b = some q) : spot = .outside := by
  cases spot with
  | outside => rfl
  | escaped | classEscaped => cases isOpen
  | classStart | negatedStart | inClass =>
    rcases sign with rfl | rfl | rfl <;> simp [next, member, admits, grouped] at steps

theorem next_plain {groups : Nat} {spot : Spot} {b : UInt8} (isOpen : spot.isOpen = true)
    (escape : b ≠ 0x5C) (left : b ≠ 0x7B) (right : b ≠ 0x7D)
    (steps : next inner ⟨groups, spot⟩ b = some q) :
    ∃ spot', q = ⟨groups, spot'⟩ ∧ spot'.isOpen = true := by
  cases spot <;> grind [next, member, Spot.isOpen]

theorem next_backslash {spot : Spot} (isOpen : spot.isOpen = true) (groups : Nat) :
    next inner ⟨groups, spot⟩ 0x5C = some ⟨groups, spot.escape⟩ := by
  cases spot with
  | escaped | classEscaped => cases isOpen
  | outside => rfl
  | classStart | negatedStart | inClass => simp [next, member, admits, Spot.escape]

theorem next_escaped (groups : Nat) (spot : Spot) (c : UInt8) :
    next inner ⟨groups, spot.escape⟩ c = some ⟨groups, spot.resume⟩ := by
  cases spot <;> rfl

theorem escape_ne_clear (groups : Nat) (spot : Spot) : (⟨groups, spot.escape⟩ : Place) ≠ clear := by
  cases spot <;> simp [clear, Spot.escape]

theorem isOpen_resume (spot : Spot) : spot.resume.isOpen = true := by
  cases spot <;> rfl

theorem follow_escape {spot : Spot} (isOpen : spot.isOpen = true) {groups : Nat} {text : Bytes}
    (reads : follow inner ⟨groups, spot⟩ (0x5C :: text) = some clear) :
    ∃ c rest, text = c :: rest ∧ follow inner ⟨groups, spot.resume⟩ rest = some clear := by
  obtain ⟨q, steps, reads⟩ := follow_cons.mp reads
  cases (next_backslash isOpen groups).symm.trans steps
  cases text with
  | nil => exact absurd (Option.some.inj reads) (escape_ne_clear groups spot)
  | cons c rest =>
    obtain ⟨_, steps', reads⟩ := follow_cons.mp reads
    cases (next_escaped groups spot c).symm.trans steps'
    exact ⟨c, rest, rfl, reads⟩

theorem next_lower {groups groups' : Nat} {spot spot' : Spot} {b : UInt8}
    (steps : next inner ⟨groups + 1, spot⟩ b = some ⟨groups' + 1, spot'⟩) :
    next true ⟨groups, spot⟩ b = some ⟨groups', spot'⟩ := by
  cases spot <;> grind [next, member]

end Place

section Groups

open Place

variable {inner : Bool}

/-- A text that starts in a group, cut at the brace that ends it. -/
structure Closes (inner : Bool) (depth : Nat) (spot : Spot) (text body rest : Bytes) : Prop where
  eq : text = body ++ 0x7D :: rest
  body : follow true ⟨depth, spot⟩ body = some clear
  rest : clear.follow inner rest = some clear

theorem Closes.cons {depth depth' : Nat} {spot spot' : Spot} {b : UInt8} {text body rest : Bytes}
    (steps : next inner ⟨depth + 1, spot⟩ b = some ⟨depth' + 1, spot'⟩)
    (closes : Closes inner depth' spot' text body rest) :
    Closes inner depth spot (b :: text) (b :: body) rest := by
  refine ⟨?_, ?_, closes.rest⟩
  · rw [closes.eq, List.cons_append]
  · exact follow_cons.mpr ⟨_, next_lower steps, closes.body⟩

theorem groupEnd?_closes {depth : Nat} {text : Bytes} {spot : Spot}
    (isOpen : spot.isOpen = true) (reads : follow inner ⟨depth + 1, spot⟩ text = some clear) :
    ∃ body rest, groupEnd? depth text = some body.length ∧
      Closes inner depth spot text body rest := by
  have grouped (n : Nat) : (inner || n + 1 != 0) = true := by simp
  -- braces are counted as they are met, and all of them stand outside of classes
  fun_induction groupEnd? depth text generalizing spot with
  | case1 => cases reads
  | case2 depth b escape =>
    cases beq_iff_eq.mp escape
    obtain ⟨_, _, empty, _⟩ := follow_escape isOpen reads
    cases empty
  | case3 depth b escape c more ih =>
    cases beq_iff_eq.mp escape
    obtain ⟨_, _, same, reads⟩ := follow_escape isOpen reads
    cases same
    obtain ⟨body, rest, found, closes⟩ := ih (isOpen_resume spot) reads
    refine ⟨0x5C :: c :: body, rest, by rw [found]; rfl, ?_⟩
    exact (closes.cons (next_escaped _ spot c)).cons (next_backslash isOpen _)
  | case4 depth b more plain brace ih =>
    cases beq_iff_eq.mp brace
    obtain ⟨q, steps, reads⟩ := follow_cons.mp reads
    cases outside_of_sign isOpen (grouped depth) (.inl rfl) steps
    cases steps
    obtain ⟨body, rest, found, closes⟩ := ih rfl reads
    exact ⟨_ :: body, rest, by rw [found]; rfl, closes.cons rfl⟩
  | case5 b rest plain left brace =>
    cases beq_iff_eq.mp brace
    obtain ⟨q, steps, reads⟩ := follow_cons.mp reads
    cases outside_of_sign isOpen (grouped 0) (.inr (.inl rfl)) steps
    cases steps
    exact ⟨[], rest, rfl, rfl, rfl, reads⟩
  | case6 depth b more plain left brace nested ih =>
    cases beq_iff_eq.mp brace
    obtain ⟨q, steps, reads⟩ := follow_cons.mp reads
    cases outside_of_sign isOpen (grouped depth) (.inr (.inl rfl)) steps
    cases steps
    obtain ⟨depth, rfl⟩ := Nat.exists_eq_succ_of_ne_zero nested
    obtain ⟨body, rest, found, closes⟩ := ih rfl reads
    exact ⟨_ :: body, rest, by rw [found]; rfl, closes.cons rfl⟩
  | case7 depth b more plain left right ih =>
    obtain ⟨q, steps, reads⟩ := follow_cons.mp reads
    obtain ⟨spot', rfl, isOpen'⟩ := next_plain isOpen (by simpa using plain) (by simpa using left)
      (by simpa using right) steps
    obtain ⟨body, rest, found, closes⟩ := ih isOpen' reads
    exact ⟨b :: body, rest, by rw [found]; rfl, closes.cons steps⟩

theorem follow_reverse_cons {p q r : Place} {current : Bytes} {b : UInt8}
    (before : p.follow inner current.reverse = some q) (steps : q.next inner b = some r) :
    p.follow inner (b :: current).reverse = some r := by
  rw [List.reverse_cons]
  exact follow_trans before (follow_cons.mpr ⟨r, steps, rfl⟩)

theorem alternativesFrom_follow {depth : Int} {groups : Nat} {current text : Bytes} {spot : Spot}
    (level : depth = groups) (isOpen : spot.isOpen = true)
    (before : clear.follow true current.reverse = some ⟨groups, spot⟩)
    (reads : follow true ⟨groups, spot⟩ text = some clear) :
    ∀ a ∈ alternativesFrom depth current text, clear.follow true a = some clear := by
  fun_induction alternativesFrom depth current text generalizing groups spot with
  | case1 depth current =>
    intro a member
    rw [List.mem_singleton.mp member, before]
    exact reads
  | case2 depth current b escape =>
    cases beq_iff_eq.mp escape
    obtain ⟨_, _, empty, _⟩ := follow_escape isOpen reads
    cases empty
  | case3 depth current b escape c more ih =>
    cases beq_iff_eq.mp escape
    obtain ⟨_, _, same, reads⟩ := follow_escape isOpen reads
    cases same
    have escaped := follow_reverse_cons before (next_backslash isOpen groups)
    have resumed := follow_reverse_cons escaped (next_escaped groups spot c)
    exact ih level (isOpen_resume spot) resumed reads
  | case4 depth current b rest plain comma ih =>
    rw [Bool.and_eq_true, beq_iff_eq, beq_iff_eq] at comma
    obtain ⟨rfl, rfl⟩ := comma
    cases Int.ofNat_inj.mp level
    obtain ⟨q, steps, reads⟩ := follow_cons.mp reads
    cases outside_of_sign isOpen rfl (.inr (.inr rfl)) steps
    cases steps
    intro a member
    rcases List.mem_cons.mp member with rfl | member
    · exact before
    · exact ih rfl rfl rfl reads a member
  | case5 depth current b rest plain comma brace ih =>
    cases beq_iff_eq.mp brace
    obtain ⟨q, steps, reads⟩ := follow_cons.mp reads
    cases outside_of_sign isOpen rfl (.inl rfl) steps
    cases steps
    exact ih (by rw [level]; rfl) rfl (follow_reverse_cons before rfl) reads
  | case6 depth current b rest plain comma left brace ih =>
    cases beq_iff_eq.mp brace
    obtain ⟨q, steps, reads⟩ := follow_cons.mp reads
    cases outside_of_sign isOpen rfl (.inr (.inl rfl)) steps
    cases groups with
    | zero => cases steps
    | succ groups =>
      cases steps
      have lower : depth - 1 = (groups : Int) := by omega
      exact ih lower rfl (follow_reverse_cons before rfl) reads
  | case7 depth current b rest plain comma left right ih =>
    obtain ⟨q, steps, reads⟩ := follow_cons.mp reads
    obtain ⟨spot', rfl, isOpen'⟩ := next_plain isOpen (by simpa using plain) (by simpa using left)
      (by simpa using right) steps
    exact ih level isOpen' (follow_reverse_cons before steps) reads

theorem alternativesFrom_count (x : UInt8) (depth : Int) (current text : Bytes) :
    ∀ a ∈ alternativesFrom depth current text, a.count x ≤ current.count x + text.count x := by
  fun_induction alternativesFrom depth current text <;> grind

/-- Each way to write out a steady glob with a group in front gives a steady glob with fewer
groups. -/
theorem expansions?_steady {text : Bytes} (reads : follow false ⟨1, .outside⟩ text = some clear) :
    ∃ globs, expansions? text = some globs ∧ ∀ g ∈ globs,
      clear.follow false g = some clear ∧ g.count 0x7B ≤ text.count 0x7B := by
  obtain ⟨body, rest, found, rfl, inside, behind⟩ := groupEnd?_closes rfl reads
  refine ⟨_, by rw [expansions?, found]; rfl, fun g member => ?_⟩
  obtain ⟨a, alternative, rfl⟩ := List.mem_map.mp member
  rw [List.take_left' rfl] at alternative
  rw [List.drop_append, List.drop_of_length_le (Nat.le_succ _), Nat.add_sub_cancel_left]
  constructor
  · have whole := alternativesFrom_follow rfl rfl rfl inside a alternative
    exact follow_trans (follow_mono whole) behind
  · have fewer := alternativesFrom_count 0x7B 0 [] body a alternative
    simp only [List.nil_append, List.drop_succ_cons, List.drop_zero, List.count_append,
      List.count_cons, List.count_nil, Nat.zero_add] at fewer ⊢
    omega

end Groups

/-- Reading a text from a place on leads to another place, and to what is left of the text. -/
def Passes (p : Place) (text : Bytes) (q : Place) (rest : Bytes) : Prop :=
  ∃ u, text = u ++ rest ∧ p.follow false u = some q

namespace Passes

open Place

variable {p q r : Place} {text more rest : Bytes}

theorem refl (p : Place) (text : Bytes) : Passes p text p text := ⟨[], rfl, rfl⟩

theorem trans (first : Passes p text q more) (second : Passes q more r rest) :
    Passes p text r rest := by
  obtain ⟨u, rfl, reads⟩ := first
  obtain ⟨v, rfl, reads'⟩ := second
  exact ⟨u ++ v, (List.append_assoc u v rest).symm, follow_trans reads reads'⟩

theorem step {b : UInt8} (steps : p.next false b = some q) (passes : Passes q text r rest) :
    Passes p (b :: text) r rest := by
  obtain ⟨u, rfl, reads⟩ := passes
  exact ⟨b :: u, rfl, follow_cons.mpr ⟨q, steps, reads⟩⟩

theorem follow_rest (passes : Passes p text q rest) (whole : p.follow false text = some r) :
    q.follow false rest = some r := by
  obtain ⟨u, rfl, reads⟩ := passes
  exact Place.follow_rest reads whole

theorem suffix (passes : Passes p text q rest) : rest <:+ text := by
  obtain ⟨u, rfl, _⟩ := passes
  exact List.suffix_append u rest

end Passes

section Classes

open Place

theorem continuation_ne {b : UInt8} (cont : CodePoint.isContinuation b = true) {sign : UInt8}
    (low : sign < 0x80) : b ≠ sign := by
  rintro rfl
  rw [CodePoint.isContinuation_iff] at cont
  rw [UInt8.lt_iff_toNat_lt] at low
  exact absurd cont.1 (Nat.not_le.mpr low)

/-- The bytes behind the first one of a code point lead to no other place. -/
theorem follow_continuation {p : Place} {tail : Bytes}
    (spot : p.spot = .outside ∨ ∃ denied, p.spot = .inClass denied)
    (cont : ∀ x ∈ tail, CodePoint.isContinuation x = true) : p.follow false tail = some p := by
  induction tail with
  | nil => rfl
  | cons x tail ih =>
    have differ {sign : UInt8} (low : sign < 0x80) : x ≠ sign :=
      continuation_ne (cont x List.mem_cons_self) low
    have stays : p.next false x = some p := by
      obtain ⟨groups, _⟩ := p
      rcases spot with rfl | ⟨denied, rfl⟩ <;> simp (disch := decide) [next, member, admits, differ]
    exact follow_cons.mpr ⟨p, stays, ih fun y inside => cont y (List.mem_cons_of_mem x inside)⟩

theorem take_read (b : UInt8) (rest : Bytes) :
    ∃ tail, b :: rest = (b :: tail) ++ (b :: rest).drop (CodePoint.read b rest).width ∧
      ∀ x ∈ tail, CodePoint.isContinuation x = true := by
  rcases CodePoint.read_cases b rest with bad | ⟨tail, more, rfl, cont, width, _⟩
  · refine ⟨[], ?_, fun x inside => absurd inside List.not_mem_nil⟩
    rw [bad]
    rfl
  · refine ⟨tail, ?_, cont⟩
    rw [width]
    simp

theorem passes_point {p q : Place} {b : UInt8} (rest : Bytes) (steps : p.next false b = some q)
    (spot : q.spot = .outside ∨ ∃ denied, q.spot = .inClass denied) :
    Passes p (b :: rest) q ((b :: rest).drop (pointAt (b :: rest)).width) := by
  obtain ⟨tail, eq, cont⟩ := take_read b rest
  exact ⟨b :: tail, eq, follow_cons.mpr ⟨q, steps, follow_continuation spot cont⟩⟩

/-- What follows the member at the head of a text, which may have a backslash. -/
def behindMember (text : Bytes) : Bytes :=
  let bare := if text.head? == some 0x5C then text.drop 1 else text
  bare.drop (pointAt bare).width

theorem pointAt_ascii {sign : UInt8} (low : sign < 0x80) (rest : Bytes) :
    pointAt (sign :: rest) = ⟨sign.toNat, 1⟩ := CodePoint.read_ascii low rest

theorem pointAt_value_iff {b sign : UInt8} (low : sign < 0x80) (rest : Bytes) :
    (pointAt (b :: rest)).value = sign.toNat ↔ b = sign := by
  constructor
  · intro same
    have ascii : (CodePoint.read b rest).value < 0x80 := by
      rw [show (CodePoint.read b rest).value = sign.toNat from same]
      exact UInt8.lt_iff_toNat_lt.mp low
    exact UInt8.toNat_inj.mp ((CodePoint.read_value_ascii ascii).trans same)
  · rintro rfl
    rw [pointAt_ascii low]

theorem length_behindMember {text : Bytes} (nonempty : text ≠ []) :
    (behindMember text).length < text.length := by
  have shorter (b : UInt8) (rest : Bytes) :
      ((b :: rest).drop (pointAt (b :: rest)).width).length < (b :: rest).length := by
    have pos : 0 < (pointAt (b :: rest)).width := CodePoint.read_width_pos b rest
    rw [List.length_drop, List.length_cons]
    omega
  match text with
  | b :: rest =>
    unfold behindMember
    split
    · cases rest with
      | nil => simp
      | cons c more =>
        have head := shorter c more
        simp only [List.drop_succ_cons, List.drop_zero, List.length_cons] at head ⊢
        omega
    · exact shorter b rest

/-- A sign inside a class that neither ends it nor escapes the next one. -/
theorem next_inClass {denied : Bool} {b : UInt8} {q : Place} (inside : b ≠ 0x5D) (plain : b ≠ 0x5C)
    (steps : next false ⟨0, .inClass denied⟩ b = some q) :
    q = ⟨0, .inClass denied⟩ ∧ admits false denied b = true := by
  simp only [next, beq_iff_eq, inside, if_false, member_eq_some, plain] at steps
  exact ⟨steps.2, steps.1⟩

/-- A member at the head of a text leads into a class. -/
def Enters (p : Place) (denied : Bool) (text : Bytes) : Prop :=
  ∀ b q, text.head? = some b → p.next false b = some q →
    q = ⟨0, if b == 0x5C then .classEscaped denied else .inClass denied⟩

theorem enters_inClass {denied : Bool} {text : Bytes} (inside : text.head? ≠ some 0x5D) :
    Enters ⟨0, .inClass denied⟩ denied text := by
  intro b q head steps
  have ends : b ≠ 0x5D := by
    rintro rfl
    exact inside head
  simp only [next, beq_iff_eq, ends, if_false, member_eq_some] at steps
  simpa using steps.2

theorem passes_member {p : Place} {denied : Bool} {text : Bytes}
    (reads : p.follow false text = some clear) (nonempty : text ≠ [])
    (enters : Enters p denied text) :
    Passes p text ⟨0, .inClass denied⟩ (behindMember text) := by
  match text with
  | b :: rest =>
    obtain ⟨q, steps, reads'⟩ := follow_cons.mp reads
    have entered := enters b q rfl steps
    by_cases escape : b = 0x5C
    · subst escape
      subst entered
      cases rest with
      | nil => cases reads'
      | cons c more => exact (passes_point more rfl (.inr ⟨denied, rfl⟩)).step steps
    · have bare : (some b == some 0x5C) = false := by simpa using escape
      rw [if_neg (by simpa using escape)] at entered
      subst entered
      simp only [behindMember, List.head?_cons, bare, Bool.false_eq_true, if_false]
      exact passes_point rest steps (.inr ⟨denied, rfl⟩)

/-- One step of the search for a member passes a member or a range. -/
theorem findMember_step {p : Place} {denied : Bool} {text : Bytes}
    (reads : p.follow false text = some clear) (nonempty : text ≠ [])
    (inside : text.head? ≠ some 0x5D) (enters : Enters p denied text)
    (point fuel : Nat) (last : Option Nat) :
    ∃ found last' rest, rest.length < text.length ∧ Passes p text ⟨0, .inClass denied⟩ rest ∧
      findMember point last (fuel + 1) text =
        if found = true then (true, rest) else findMember point last' fuel rest := by
  match text with
  | b :: tail =>
    have bounds : ((b :: tail).isEmpty || (b :: tail).head? == some 0x5D) = false := by
      simpa using inside
    rw [findMember, bounds, if_neg Bool.false_ne_true]
    dsimp only
    by_cases range : (last.isSome && (pointAt (b :: tail)).value == 0x2D &&
        !((b :: tail).drop (pointAt (b :: tail)).width).isEmpty &&
        ((b :: tail).drop (pointAt (b :: tail)).width).head? != some 0x5D) = true
    · -- a dash, and the member behind it
      rw [if_pos range]
      simp only [Bool.and_eq_true, beq_iff_eq, bne_iff_ne] at range
      obtain ⟨⟨⟨_, dash⟩, _⟩, more⟩ := range
      have sign : b = 0x2D := (pointAt_value_iff (by decide) tail).mp dash
      subst sign
      rw [pointAt_ascii (by decide)] at more ⊢
      obtain ⟨q, steps, reads'⟩ := follow_cons.mp reads
      cases enters 0x2D q rfl steps
      have nonempty : tail ≠ [] := by
        rintro rfl
        cases reads'
      have passes := passes_member reads' nonempty (enters_inClass more)
      refine ⟨_, none, behindMember tail, ?_, passes.step steps, rfl⟩
      exact Nat.lt_trans (length_behindMember nonempty) (Nat.lt_succ_self _)
    · rw [if_neg range]
      have whole := passes_member reads (List.cons_ne_nil b tail) enters
      have shorter := length_behindMember (List.cons_ne_nil b tail)
      by_cases escape : b = 0x5C
      · subst escape
        rw [pointAt_ascii (by decide)]
        exact ⟨_, _, _, shorter, whole, rfl⟩
      · have plain : ((pointAt (b :: tail)).value == 0x5C) = false := by
          rw [beq_eq_false_iff_ne]
          exact fun same => escape ((pointAt_value_iff (by decide) tail).mp same)
        have bare : behindMember (b :: tail) = (b :: tail).drop (pointAt (b :: tail)).width := by
          simp [behindMember, escape]
        rw [plain]
        rw [bare] at shorter whole
        exact ⟨_, _, _, shorter, whole, rfl⟩

/-- The search for a member ended behind one, or in front of the bracket that ends the class. -/
structure Searched (p : Place) (denied : Bool) (text : Bytes) (result : Bool × Bytes) : Prop where
  passes : Passes p text ⟨0, .inClass denied⟩ result.2
  ends : result.1 = false → result.2.head? = some 0x5D

theorem findMember_inClass {denied : Bool} {point fuel : Nat} {last : Option Nat} {text : Bytes}
    (enough : text.length < fuel) (reads : follow false ⟨0, .inClass denied⟩ text = some clear) :
    Searched ⟨0, .inClass denied⟩ denied text (findMember point last fuel text) := by
  induction fuel generalizing last text with
  | zero => exact absurd enough (Nat.not_lt_zero _)
  | succ fuel ih =>
    by_cases ends : text.head? = some 0x5D
    · have stops : findMember point last (fuel + 1) text = (false, text) := by
        simp [findMember, ends]
      rw [stops]
      exact ⟨Passes.refl _ text, fun _ => ends⟩
    · have nonempty : text ≠ [] := by
        rintro rfl
        cases reads
      obtain ⟨found, last', rest, shorter, passes, eq⟩ :=
        findMember_step reads nonempty ends (enters_inClass ends) point fuel last
      rw [eq]
      cases found with
      | true => exact ⟨passes, fun impossible => by cases impossible⟩
      | false =>
        have later := @ih last' rest (by omega) (passes.follow_rest reads)
        exact ⟨passes.trans later.passes, later.ends⟩

theorem findMember_searched {p : Place} {denied : Bool} {text : Bytes}
    (reads : p.follow false text = some clear) (nonempty : text ≠ [])
    (inside : text.head? ≠ some 0x5D) (enters : Enters p denied text) (point : Nat) :
    Searched p denied text (findMember point none (text.length + 1) text) := by
  obtain ⟨found, last, rest, shorter, passes, eq⟩ :=
    findMember_step reads nonempty inside enters point text.length none
  rw [eq]
  cases found with
  | true => exact ⟨passes, fun impossible => by cases impossible⟩
  | false =>
    have later := @findMember_inClass denied point _ last rest shorter (passes.follow_rest reads)
    exact ⟨passes.trans later.passes, later.ends⟩

/-- The members of a class start behind the sign that negates it, if there is one. -/
theorem passes_classStart {after : Bytes}
    (reads : follow false ⟨0, .classStart⟩ after = some clear) :
    let negated := after.head? == some 0x21 || after.head? == some 0x5E
    let body := if negated then after.drop 1 else after
    ∃ p, Passes ⟨0, .classStart⟩ after p body ∧ body ≠ [] ∧ body.head? ≠ some 0x5D ∧
      Enters p negated body := by
  match after with
  | [] => cases reads
  | b :: rest =>
    by_cases sign : b = 0x21 ∨ b = 0x5E
    · have steps : next false ⟨0, .classStart⟩ b = some ⟨0, .negatedStart⟩ := by
        rcases sign with rfl | rfl <;> rfl
      have body := (Passes.refl ⟨0, .negatedStart⟩ rest).step steps
      have negated : ((b :: rest).head? == some 0x21 || (b :: rest).head? == some 0x5E) = true := by
        simpa using sign
      rw [negated]
      refine ⟨_, body, ?_, ?_, ?_⟩
      · rintro rfl
        cases body.follow_rest reads
      · intro ends
        obtain ⟨more, rfl⟩ := List.head?_eq_some_iff.mp ends
        cases body.follow_rest reads
      · intro c q head steps
        simp only [next] at steps
        split at steps
        · cases steps
        · exact (member_eq_some.mp steps).2
    · have negated :
          ((b :: rest).head? == some 0x21 || (b :: rest).head? == some 0x5E) = false := by
        simpa using sign
      rw [negated]
      refine ⟨_, Passes.refl _ (b :: rest), List.cons_ne_nil b rest, ?_, ?_⟩
      · intro ends
        cases Option.some.inj ends
        cases reads
      · intro c q head steps
        cases Option.some.inj head
        have plain : (b == 0x5E || b == 0x21) = false := by simpa [and_comm] using sign
        simp only [next, plain, Bool.false_eq_true, if_false] at steps
        split at steps
        · cases steps
        · exact (member_eq_some.mp steps).2

theorem classEnd?_passes {denied : Bool} {text : Bytes}
    (reads : follow false ⟨0, .inClass denied⟩ text = some clear) :
    ∃ i rest, classEnd? text = some i ∧ Passes ⟨0, .inClass denied⟩ text clear rest ∧
      i + 1 + rest.length = text.length := by
  fun_induction classEnd? text with
  | case1 => cases reads
  | case2 b ends =>
    cases beq_iff_eq.mp ends
    exact ⟨0, [], rfl, (Passes.refl clear []).step rfl, rfl⟩
  | case3 b inside =>
    obtain ⟨q, steps, ends⟩ := follow_cons.mp reads
    by_cases escape : b = 0x5C
    · subst escape
      obtain ⟨_, _, empty, _⟩ := follow_escape rfl reads
      cases empty
    · obtain ⟨rfl, _⟩ := next_inClass (by simpa using inside) escape steps
      cases ends
  | case4 b c rest escape ih =>
    cases beq_iff_eq.mp escape
    obtain ⟨_, _, same, reads⟩ := follow_escape rfl reads
    cases same
    obtain ⟨i, behind, found, passes, length⟩ := ih reads
    refine ⟨i + 2, behind, by rw [found]; rfl, ?_, by simp only [List.length_cons]; omega⟩
    exact (passes.step (next_escaped 0 (.inClass denied) c)).step (next_backslash rfl 0)
  | case5 b c rest plain ends =>
    cases beq_iff_eq.mp ends
    exact ⟨0, c :: rest, rfl, (Passes.refl clear _).step rfl,
      by simp only [List.length_cons]; omega⟩
  | case6 b c rest plain inside ih =>
    obtain ⟨q, steps, reads⟩ := follow_cons.mp reads
    obtain ⟨rfl, _⟩ := next_inClass (by simpa using inside) (by simpa using plain) steps
    obtain ⟨i, behind, found, passes, length⟩ := ih reads
    refine ⟨i + 1, behind, by rw [found]; rfl, passes.step steps, ?_⟩
    rw [List.length_cons, ← length]
    omega

/-- A denied class may be left at any member: what follows is well formed also outside of a
class. -/
theorem validFrom_denied {text : Bytes} :
    (follow false ⟨0, .inClass true⟩ text = some clear → validFrom 0 .outside text = true) ∧
    (follow false ⟨0, .classEscaped true⟩ text = some clear →
      validFrom 0 .escaped text = true) := by
  induction text with
  | nil =>
    constructor
    · intro reads; cases reads
    · intro reads; cases reads
  | cons b rest ih =>
    constructor
    · intro reads
      obtain ⟨q, steps, reads⟩ := follow_cons.mp reads
      by_cases ends : b = 0x5D
      · subst ends
        cases steps
        exact isValid_of_follow reads
      by_cases escape : b = 0x5C
      · subst escape
        cases steps
        exact ih.2 reads
      · obtain ⟨rfl, allowed⟩ := next_inClass ends escape steps
        have rest := ih.1 reads
        simp only [admits, Bool.false_and, Bool.true_and, Bool.not_false, Bool.not_eq_true',
          Bool.or_eq_false_iff, beq_eq_false_iff_ne] at allowed
        simpa [validFrom, escape, allowed] using rest
    · intro reads
      exact ih.1 reads

end Classes

end Retouch.Glob
