import Retouch.Document.Yaml.Node
import Retouch.Proofs.Document.Reading
import Retouch.Proofs.Document.Yaml.Flow

/-! Nodes of what stands in brackets.
Where a node starts with a text or an opening bracket its properties are empty and its position does
not count. Each lemma about a piece leaves what follows it open, so pieces can be put together. -/
namespace Retouch.Document.Yaml.Node

open Scan (separated)

def Reading.over (s : Reading) (tokens : List Token) : Reading := { s with tokens }

variable {s : Reading} {t u : Token} {more : List Token}

theorem gives_peek (settled : t ≠ .unsettled) (seen : 2 ≤ more.length) :
    Gives peek (s.over (t :: more)) t (s.over (t :: more)) := by
  unfold peek
  refine Gives.bind (Gives.get _) ?_
  match more, seen with
  | _ :: _ :: _, _ =>
    cases t with
    | unsettled => exact absurd rfl settled
    | _ => rfl

theorem gives_skip : Gives skip (s.over (t :: more)) () (s.over more) := rfl

theorem gives_accept (settled : t ≠ .unsettled) (seen : 2 ≤ more.length) :
    Gives (accept t) (s.over (t :: more)) true (s.over more) := by
  unfold accept
  refine Gives.bind (gives_peek settled seen) ?_
  rw [if_pos (beq_self_eq_true t)]
  exact Gives.bind gives_skip (Gives.pure _ _)

theorem gives_refuse (settled : t ≠ .unsettled) (other : t ≠ u) (seen : 2 ≤ more.length) :
    Gives (accept u) (s.over (t :: more)) false (s.over (t :: more)) := by
  unfold accept
  refine Gives.bind (gives_peek settled seen) ?_
  rw [if_neg (by simpa using other)]
  exact Gives.pure _ _

def isOpening : Token → Bool
  | .scalar _ _ | .flowSequenceStart | .flowMappingStart => true
  | _ => false

theorem settled_of_opening (opening : isOpening t = true) : t ≠ .unsettled := by
  rintro rfl
  simp [isOpening] at opening

theorem gives_properties (opening : isOpening t = true) (seen : 2 ≤ more.length) :
    Gives properties (s.over (t :: more)) (none, []) (s.over (t :: more)) := by
  unfold properties
  refine Gives.bind (gives_peek (settled_of_opening opening) seen) ?_
  cases t with
  | scalar | flowSequenceStart | flowMappingStart => exact Gives.pure _ _
  | _ => simp [isOpening] at opening

def inside (fuel : Nat) : Token → Reader Node
  | .scalar plain value => return .scalar [] plain value
  | .flowSequenceStart => return .sequence (← flowItems fuel true)
  | .flowMappingStart => return .mapping (← flowMembers fuel true)
  | _ => throw .unreadable

theorem gives_node {fuel : Nat} {position : Position} {v : Node} {s' : Reading}
    (opening : isOpening t = true) (seen : 2 ≤ more.length)
    (behind : Gives (inside fuel t) (s.over more) v s') :
    Gives (node (fuel + 1) position) (s.over (t :: more)) v s' := by
  have settled := settled_of_opening opening
  unfold node
  refine Gives.bind (gives_peek settled seen) ?_
  cases t with
  | scalar | flowSequenceStart | flowMappingStart =>
    refine Gives.bind (gives_properties opening seen) ?_
    refine Gives.bind (gives_peek settled seen) ?_
    cases position <;> exact Gives.bind gives_skip behind
  | _ => simp [isOpening] at opening

/-- A node is read from tokens at any position, whatever follows. -/
structure Reads (found : List Token) (v : Node) : Prop where
  starts : ∃ t rest, found = t :: rest ∧ isOpening t = true
  gives : ∀ {fuel : Nat} {position : Position} {more : List Token} {s : Reading},
    4 * found.length ≤ fuel → 2 ≤ more.length →
      Gives (node fuel position) (s.over (found ++ more)) v (s.over more)

theorem reads_scalar (plain : Bool) (value : Bytes) :
    Reads [.scalar plain value] (.scalar [] plain value) where
  starts := ⟨_, _, rfl, rfl⟩
  gives {fuel position more s} enough seen := by
    obtain ⟨fuel, rfl⟩ : ∃ n, fuel = n + 1 :=
      Nat.exists_eq_succ_of_ne_zero (by simp at enough; omega)
    exact gives_node rfl seen (Gives.pure _ _)

/-! Items and members. -/

theorem separated_cons (found : List Token) (founds : List (List Token)) :
    separated (found :: founds) = found ++ founds.flatMap (Token.flowEntry :: ·) := by
  induction founds generalizing found with
  | nil => simp [separated]
  | cons next founds ih => simp [separated, ih next]

/-- The comma before an item that is not the first one. -/
def comma (first : Bool) : List Token := if first then [] else [.flowEntry]

theorem gives_item {found : List Token} {v : Node} {vs : List Node} {s' : Reading} {fuel : Nat}
    (first : Bool) (reads : Reads found v) (enough : 4 * found.length ≤ fuel)
    (seen : 2 ≤ more.length) (behind : Gives (flowItems fuel false) (s.over more) vs s') :
    Gives (flowItems (fuel + 1) first) (s.over (comma first ++ (found ++ more))) (v :: vs) s' := by
  obtain ⟨t, rest, rfl, opening⟩ := reads.starts
  have settled := settled_of_opening opening
  have ahead : 2 ≤ (rest ++ more).length := by simp; omega
  have noEnd : t ≠ .flowSequenceEnd := by rintro rfl; simp [isOpening] at opening
  have noKey : t ≠ .key := by rintro rfl; simp [isOpening] at opening
  have item : Gives (do return (← node fuel .flow) :: (← flowItems fuel false))
      (s.over (t :: rest ++ more)) (v :: vs) s' :=
    Gives.bind (reads.gives enough seen) (Gives.bind behind (Gives.pure _ _))
  unfold flowItems
  cases first with
  | true =>
    -- the end is looked for twice, before and behind the comma that the first item does not have
    refine Gives.bind (gives_refuse settled noEnd ahead) ?_
    refine Gives.bind (gives_refuse settled noEnd ahead) ?_
    exact Gives.bind (gives_refuse settled noKey ahead) item
  | false =>
    refine Gives.bind (gives_refuse (by simp) (by simp) (by simp; omega)) ?_
    refine Gives.bind (gives_accept (by simp) (by simp; omega)) ?_
    refine Gives.bind (gives_refuse settled noEnd ahead) ?_
    exact Gives.bind (gives_refuse settled noKey ahead) item

theorem gives_items {founds : List (List Token)} {vs : List Node}
    (reads : List.Forall₂ Reads founds vs) {fuel : Nat}
    (enough : 4 * (founds.flatMap (Token.flowEntry :: ·)).length < fuel) (seen : 2 ≤ more.length) :
    Gives (flowItems fuel false)
      (s.over (founds.flatMap (Token.flowEntry :: ·) ++ .flowSequenceEnd :: more)) vs
      (s.over more) := by
  obtain ⟨fuel, rfl⟩ := Nat.exists_eq_succ_of_ne_zero (Nat.ne_of_gt (Nat.zero_lt_of_lt enough))
  induction reads generalizing fuel with
  | nil =>
    unfold flowItems
    exact Gives.bind (gives_accept (by simp) seen) (Gives.pure _ _)
  | @cons found v founds vs first _ ih =>
    simp only [List.flatMap_cons, List.cons_append, List.length_cons, List.length_append,
      List.append_assoc] at enough ⊢
    obtain ⟨fuel, rfl⟩ : ∃ n, fuel = n + 1 := Nat.exists_eq_succ_of_ne_zero (by omega)
    exact gives_item false first (by omega) (by simp; omega) (ih _ (by omega))

theorem reads_sequence {founds : List (List Token)} {vs : List Node}
    (reads : List.Forall₂ Reads founds vs) :
    Reads (.flowSequenceStart :: (separated founds ++ [.flowSequenceEnd])) (.sequence vs) where
  starts := ⟨_, _, rfl, rfl⟩
  gives {fuel position more s} enough seen := by
    simp only [List.length_cons, List.length_append, List.length_nil] at enough
    obtain ⟨fuel, rfl⟩ : ∃ n, fuel = n + 2 := ⟨fuel - 2, by omega⟩
    rw [List.cons_append, List.append_assoc]
    refine gives_node rfl (by simp; omega) (Gives.bind ?_ (Gives.pure _ _))
    cases reads with
    | nil =>
      unfold flowItems
      exact Gives.bind (gives_accept (by simp) seen) (Gives.pure _ _)
    | @cons found v founds vs first others =>
      rw [separated_cons] at enough ⊢
      rw [List.length_append] at enough
      rw [List.append_assoc]
      exact gives_item true first (by omega) (by simp; omega) (gives_items others (by omega) seen)

/-- A key in quotes with its value is read as a member. -/
def ReadsMember (found : List Token) (e : Node × Node) : Prop :=
  ∃ key value, found = .key :: .scalar false key :: .value :: value ∧
    e.1 = .scalar [] false key ∧ Reads value e.2

theorem gives_nodeUnless {fuel : Nat} {position : Position} {found : List Token} {v : Node}
    {stops : List Token} (reads : Reads found v) (enough : 4 * found.length ≤ fuel)
    (seen : 2 ≤ more.length) (none : ∀ u ∈ stops, isOpening u = false) :
    Gives (nodeUnless (fuel + 1) position stops) (s.over (found ++ more)) v (s.over more) := by
  obtain ⟨t, rest, rfl, opening⟩ := reads.starts
  have goes : t ∉ stops := by
    intro stop
    simp [none t stop] at opening
  have ahead : Gives (nextIn stops) (s.over (t :: rest ++ more)) false
      (s.over (t :: rest ++ more)) := by
    have peeks := gives_peek (s := s) (settled_of_opening opening)
      (show 2 ≤ (rest ++ more).length by simp; omega)
    have stays : stops.contains t = false := by simpa using goes
    rw [← stays]
    exact Gives.bind peeks (Gives.pure _ _)
  unfold nodeUnless
  refine Gives.bind ahead ?_
  exact reads.gives enough seen

theorem gives_member {found : List Token} {e : Node × Node} {es : List (Node × Node)} {s' : Reading}
    {fuel : Nat} (first : Bool) (reads : ReadsMember found e) (enough : 4 * found.length ≤ fuel)
    (seen : 2 ≤ more.length) (behind : Gives (flowMembers fuel false) (s.over more) es s') :
    Gives (flowMembers (fuel + 1) first) (s.over (comma first ++ (found ++ more))) (e :: es)
      s' := by
  obtain ⟨key, found, rfl, same, reads⟩ := reads
  obtain ⟨k, v⟩ := e
  cases same
  simp only [List.length_cons] at enough
  obtain ⟨fuel, rfl⟩ : ∃ n, fuel = n + 1 := Nat.exists_eq_succ_of_ne_zero (by omega)
  have long : 2 ≤ (Token.value :: (found ++ more)).length := by simp; omega
  have pair : Gives (do
      let key ← nodeUnless (fuel + 1) .flow [.value, .flowEntry, .flowMappingEnd]
      let value ←
        if ← accept .value then nodeUnless (fuel + 1) .flow [.flowEntry, .flowMappingEnd]
        else pure .empty
      return (key, value) :: (← flowMembers (fuel + 1) false))
      (s.over (.scalar false key :: .value :: (found ++ more)))
      ((.scalar [] false key, v) :: es) s' := by
    refine Gives.bind
      (gives_nodeUnless (reads_scalar false key) (by simp; omega) long (by decide)) ?_
    refine Gives.bind (gives_accept (by simp) (by simp; omega)) ?_
    refine Gives.bind (gives_nodeUnless reads (by omega) seen (by decide)) ?_
    exact Gives.bind behind (Gives.pure _ _)
  have ahead : 2 ≤ (Token.scalar false key :: .value :: (found ++ more)).length := by simp
  unfold flowMembers
  cases first with
  | true =>
    refine Gives.bind (gives_refuse (by simp) (by simp) ahead) ?_
    refine Gives.bind (gives_refuse (by simp) (by simp) ahead) ?_
    exact Gives.bind (gives_accept (by simp) ahead) pair
  | false =>
    refine Gives.bind (gives_refuse (by simp) (by simp) (by simp)) ?_
    refine Gives.bind (gives_accept (by simp) (by simp)) ?_
    refine Gives.bind (gives_refuse (by simp) (by simp) ahead) ?_
    exact Gives.bind (gives_accept (by simp) ahead) pair

theorem gives_members {founds : List (List Token)} {es : List (Node × Node)}
    (reads : List.Forall₂ ReadsMember founds es) {fuel : Nat}
    (enough : 4 * (founds.flatMap (Token.flowEntry :: ·)).length < fuel) (seen : 2 ≤ more.length) :
    Gives (flowMembers fuel false)
      (s.over (founds.flatMap (Token.flowEntry :: ·) ++ .flowMappingEnd :: more)) es
      (s.over more) := by
  obtain ⟨fuel, rfl⟩ := Nat.exists_eq_succ_of_ne_zero (Nat.ne_of_gt (Nat.zero_lt_of_lt enough))
  induction reads generalizing fuel with
  | nil =>
    unfold flowMembers
    exact Gives.bind (gives_accept (by simp) seen) (Gives.pure _ _)
  | @cons found e founds es first _ ih =>
    simp only [List.flatMap_cons, List.cons_append, List.length_cons, List.length_append,
      List.append_assoc] at enough ⊢
    obtain ⟨fuel, rfl⟩ : ∃ n, fuel = n + 1 := Nat.exists_eq_succ_of_ne_zero (by omega)
    exact gives_member false first (by omega) (by simp; omega) (ih _ (by omega))

theorem reads_mapping {founds : List (List Token)} {es : List (Node × Node)}
    (reads : List.Forall₂ ReadsMember founds es) :
    Reads (.flowMappingStart :: (separated founds ++ [.flowMappingEnd])) (.mapping es) where
  starts := ⟨_, _, rfl, rfl⟩
  gives {fuel position more s} enough seen := by
    simp only [List.length_cons, List.length_append, List.length_nil] at enough
    obtain ⟨fuel, rfl⟩ : ∃ n, fuel = n + 2 := ⟨fuel - 2, by omega⟩
    rw [List.cons_append, List.append_assoc]
    refine gives_node rfl (by simp; omega) (Gives.bind ?_ (Gives.pure _ _))
    cases reads with
    | nil =>
      unfold flowMembers
      exact Gives.bind (gives_accept (by simp) seen) (Gives.pure _ _)
    | @cons found e founds es first others =>
      rw [separated_cons] at enough ⊢
      rw [List.length_append] at enough
      rw [List.append_assoc]
      exact gives_member true first (by omega) (by simp; omega)
        (gives_members others (by omega) seen)

theorem gives_directives (opening : isOpening t = true) (seen : 2 ≤ more.length) (fuel : Nat) :
    Gives (directives fuel false []) (s.over (t :: more)) [] (s.over (t :: more)) := by
  cases fuel with
  | zero => exact Gives.pure _ _
  | succ fuel =>
    unfold directives
    refine Gives.bind (gives_peek (settled_of_opening opening) seen) ?_
    cases t with
    | scalar | flowSequenceStart | flowMappingStart => exact Gives.pure _ _
    | _ => simp [isOpening] at opening

theorem gives_document {found : List Token} {v : Node} (reads : Reads found v) :
    Gives document ⟨found ++ [.streamEnd, .streamEnd, .streamEnd], [], [], none⟩ v
      ⟨[.streamEnd, .streamEnd, .streamEnd], knownHandles, [], none⟩ := by
  have body : Gives
      (node (4 * (found ++ [Token.streamEnd, .streamEnd, .streamEnd]).length + 4) .block)
      (Reading.over ⟨[], knownHandles, [], none⟩ (found ++ [.streamEnd, .streamEnd, .streamEnd])) v
      (Reading.over ⟨[], knownHandles, [], none⟩ [.streamEnd, .streamEnd, .streamEnd]) :=
    reads.gives (by simp; omega) (by simp)
  obtain ⟨t, rest, rfl, opening⟩ := reads.starts
  have ahead : 2 ≤ (rest ++ [Token.streamEnd, .streamEnd, .streamEnd]).length := by simp
  unfold document
  refine Gives.bind (Gives.get _) ?_
  refine Gives.bind (gives_peek (s := ⟨[], [], [], none⟩) (settled_of_opening opening) ahead) ?_
  cases t with
  | scalar | flowSequenceStart | flowMappingStart =>
    refine Gives.bind (gives_directives opening ahead _) ?_
    refine Gives.bind (Gives.modify _ _) ?_
    refine Gives.bind body ?_
    exact Gives.bind (gives_peek (by simp) (by simp)) (Gives.pure _ _)
  | _ => simp [isOpening] at opening

theorem ofSource_reads {source : Source} {found : List Token} {v : Node} (reads : Reads found v)
    (scanned : tokens source = ⟨found ++ [.streamEnd, .streamEnd, .streamEnd], none⟩) :
    ofSource source = .ok v := by
  unfold ofSource
  rw [scanned]
  dsimp only
  rw [gives_document reads]
  rfl

end Retouch.Document.Yaml.Node
