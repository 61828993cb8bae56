import Retouch.Proofs.Path

/-! Clean paths.
The names of a path are read one after another onto a stack, and a clean path consists of what is
left there. Reading that again leaves the same stack, so a clean path is its own clean form. A path
that follows another one may also be cleaned first: it leads on to the same stack. -/
namespace Retouch

namespace Bytes

theorem mem_of_splitOn {sep : UInt8} {b piece : Bytes} (member : piece ∈ splitOn sep b) :
    ∀ x ∈ piece, x ∈ b ∧ x ≠ sep := by
  induction b generalizing piece with
  | nil =>
    have empty : piece = [] := by simpa [splitOn] using member
    simp [empty]
  | cons y b ih =>
    obtain ⟨head, more, pieces⟩ := List.exists_cons_of_ne_nil (splitOn_ne_nil sep b)
    rw [pieces] at ih
    have behind {piece : Bytes} (member : piece ∈ head :: more) :
        ∀ x ∈ piece, x ∈ y :: b ∧ x ≠ sep :=
      fun x inside => ⟨List.mem_cons_of_mem y (ih member x inside).1, (ih member x inside).2⟩
    unfold splitOn at pieces member
    rw [List.foldr_cons, pieces] at member
    by_cases here : y = sep
    · rw [if_pos here] at member
      rcases List.mem_cons.mp member with rfl | later
      · simp
      · exact behind later
    · rw [if_neg here] at member
      rcases List.mem_cons.mp member with rfl | later
      · rw [List.forall_mem_cons]
        exact ⟨⟨List.mem_cons_self, here⟩, behind List.mem_cons_self⟩
      · exact behind (List.mem_cons_of_mem _ later)

theorem slash_free_splitOn {sep : UInt8} {b piece : Bytes} (member : piece ∈ splitOn sep b) :
    sep ∉ piece := fun inside => (mem_of_splitOn member sep inside).2 rfl

theorem splitOn_intercalate {sep : UInt8} {pieces : List Bytes} (some : pieces ≠ [])
    (free : ∀ p ∈ pieces, sep ∉ p) : splitOn sep ([sep].intercalate pieces) = pieces := by
  induction pieces with
  | nil => exact absurd rfl some
  | cons piece rest ih =>
    have first := splitOn_of_free (free piece List.mem_cons_self)
    cases rest with
    | nil => simpa using first
    | cons next more =>
      have others := ih (List.cons_ne_nil _ _)
        fun p member => free p (List.mem_cons_of_mem _ member)
      rw [List.intercalate_cons_of_ne_nil (List.cons_ne_nil _ _), List.append_assoc,
        List.singleton_append, splitOn_append, first, others]
      rfl

end Bytes

namespace Path

/-- The stack with one more name read, the last name on top. -/
def climb (rooted : Bool) (stack : List Bytes) (name : Bytes) : List Bytes :=
  if name = [] || name = [0x2E] then stack
  else if name = [0x2E, 0x2E] then
    match stack with
    | last :: before => if last = [0x2E, 0x2E] then name :: stack else before
    | [] => if rooted then [] else [name]
  else name :: stack

theorem resolveNames_cons (rooted : Bool) (stack : List Bytes) (name : Bytes) (rest : List Bytes) :
    resolveNames rooted stack (name :: rest) =
      resolveNames rooted (climb rooted stack name) rest := by
  conv => lhs; unfold resolveNames
  unfold climb
  split
  · rfl
  split
  · cases stack with
    | nil => cases rooted <;> rfl
    | cons last before =>
      dsimp only
      split <;> rfl
  · rfl

theorem resolveNames_eq (rooted : Bool) (stack names : List Bytes) :
    resolveNames rooted stack names = (names.foldl (climb rooted) stack).reverse := by
  induction names generalizing stack with
  | nil => rfl
  | cons name rest ih => rw [resolveNames_cons, ih, List.foldl_cons]

/-! Steps of reading. -/

theorem climb_blank {name : Bytes} (blank : name = [] ∨ name = [0x2E]) (rooted : Bool)
    (stack : List Bytes) : climb rooted stack name = stack := by
  rcases blank with rfl | rfl <;> rfl

theorem climb_name {name : Bytes} (nonempty : name ≠ []) (here : name ≠ [0x2E])
    (up : name ≠ [0x2E, 0x2E]) (rooted : Bool) (stack : List Bytes) :
    climb rooted stack name = name :: stack := by
  simp [climb, nonempty, here, up]

theorem climb_up {last : Bytes} (down : last ≠ [0x2E, 0x2E]) (rooted : Bool) (before : List Bytes) :
    climb rooted (last :: before) [0x2E, 0x2E] = before := by
  simp [climb, down]

/-- A name leaves the stack, takes the top from it, or is put on it. -/
theorem climb_cases (rooted : Bool) (stack : List Bytes) (name : Bytes) :
    climb rooted stack name = stack ∨ (∃ last, stack = last :: climb rooted stack name) ∨
      climb rooted stack name = name :: stack := by
  unfold climb
  split
  · exact .inl rfl
  split
  · split
    · rename_i last before
      split
      · exact .inr (.inr rfl)
      · exact .inr (.inl ⟨last, rfl⟩)
    · cases rooted
      · exact .inr (.inr rfl)
      · exact .inl rfl
  · exact .inr (.inr rfl)

/-- Each name of the stack was put on it where it stands. -/
def Settled (rooted : Bool) : List Bytes → Prop
  | [] => True
  | name :: rest => climb rooted rest name = name :: rest ∧ Settled rooted rest

theorem Settled.climb {rooted : Bool} {stack : List Bytes} (settled : Settled rooted stack)
    (name : Bytes) : Settled rooted (climb rooted stack name) := by
  rcases climb_cases rooted stack name with same | ⟨last, less⟩ | more
  · rwa [same]
  · rw [less] at settled
    exact settled.2
  · rw [more]
    exact ⟨more, settled⟩

theorem Settled.foldl {rooted : Bool} {stack : List Bytes} (settled : Settled rooted stack)
    (names : List Bytes) : Settled rooted (names.foldl (Path.climb rooted) stack) := by
  induction names generalizing stack with
  | nil => exact settled
  | cons name rest ih => exact ih (settled.climb name)

theorem Settled.again {rooted : Bool} {stack : List Bytes} (settled : Settled rooted stack) :
    stack.reverse.foldl (Path.climb rooted) [] = stack := by
  induction stack with
  | nil => rfl
  | cons name rest ih =>
    rw [List.reverse_cons, List.foldl_append, ih settled.2]
    exact settled.1

theorem Settled.solid {rooted : Bool} {stack : List Bytes} (settled : Settled rooted stack) :
    ∀ name ∈ stack, name ≠ [] ∧ name ≠ [0x2E] := by
  induction stack with
  | nil =>
    intro name member
    cases member
  | cons name rest ih =>
    rw [List.forall_mem_cons]
    refine ⟨?_, ih settled.2⟩
    rw [← not_or]
    intro blank
    have put := settled.1
    rw [climb_blank blank] at put
    exact List.cons_ne_self _ _ put.symm

theorem Settled.down {stack : List Bytes} (settled : Settled true stack) :
    ∀ name ∈ stack, name ≠ [0x2E, 0x2E] := by
  induction stack with
  | nil =>
    intro name member
    cases member
  | cons name rest ih =>
    have others := ih settled.2
    rw [List.forall_mem_cons]
    refine ⟨?_, others⟩
    rintro rfl
    -- a step up is put on nothing but another one
    have put := settled.1
    cases rest with
    | nil => cases put
    | cons last before =>
      rw [climb_up (others last List.mem_cons_self)] at put
      have lengths := congrArg List.length put
      simp only [List.length_cons] at lengths
      omega

/-! Paths that follow another one. -/

theorem foldl_climb {stack : List Bytes} (settled : Settled false stack) (rooted : Bool)
    (base : List Bytes) (name : Bytes) :
    (climb false stack name).reverse.foldl (climb rooted) base =
      climb rooted (stack.reverse.foldl (climb rooted) base) name := by
  by_cases blank : name = [] ∨ name = [0x2E]
  · rw [climb_blank blank, climb_blank blank]
  by_cases up : name = [0x2E, 0x2E]
  · subst up
    cases stack with
    | nil => rfl
    | cons last before =>
      by_cases above : last = [0x2E, 0x2E]
      · have put : climb false (last :: before) [0x2E, 0x2E] = [0x2E, 0x2E] :: last :: before := by
          simp [climb, above]
        rw [put, List.reverse_cons, List.foldl_append]
        rfl
      · obtain ⟨nonempty, here⟩ := settled.solid last List.mem_cons_self
        rw [climb_up above, List.reverse_cons, List.foldl_append, List.foldl_cons, List.foldl_nil,
          climb_name nonempty here above, climb_up above]
  · rw [not_or] at blank
    rw [climb_name blank.1 blank.2 up, List.reverse_cons, List.foldl_append]
    rfl

theorem foldl_resolved (rooted : Bool) (base names : List Bytes) :
    (names.foldl (climb false) []).reverse.foldl (climb rooted) base =
      names.foldl (climb rooted) base := by
  have along {stack : List Bytes} (settled : Settled false stack) :
      (names.foldl (climb false) stack).reverse.foldl (climb rooted) base =
        names.foldl (climb rooted) (stack.reverse.foldl (climb rooted) base) := by
    induction names generalizing stack with
    | nil => rfl
    | cons name rest ih =>
      rw [List.foldl_cons, ih (settled.climb name), foldl_climb settled, List.foldl_cons]
  have empty : Settled false [] := trivial
  exact along empty

def reach (rooted : Bool) (stack : List Bytes) (p : Bytes) : List Bytes :=
  (p.splitOn slash).foldl (climb rooted) stack

theorem reach_append (rooted : Bool) (stack : List Bytes) (a b : Bytes) :
    reach rooted stack (a ++ slash :: b) = reach rooted (reach rooted stack a) b := by
  simp only [reach, Bytes.splitOn_append, List.foldl_append]

theorem reach_nil (rooted : Bool) (stack : List Bytes) : reach rooted stack [] = stack := rfl

theorem reach_settled (rooted : Bool) (p : Bytes) : Settled rooted (reach rooted [] p) := by
  have empty : Settled rooted [] := trivial
  exact empty.foldl _

theorem reach_free {rooted : Bool} {stack : List Bytes} (free : ∀ name ∈ stack, slash ∉ name)
    (p : Bytes) : ∀ name ∈ reach rooted stack p, slash ∉ name := by
  have step (names : List Bytes) (known : ∀ name ∈ names, slash ∉ name) {stack : List Bytes}
      (free : ∀ name ∈ stack, slash ∉ name) :
      ∀ name ∈ names.foldl (climb rooted) stack, slash ∉ name := by
    induction names generalizing stack with
    | nil => exact free
    | cons first rest ih =>
      rw [List.forall_mem_cons] at known
      apply ih known.2
      rcases climb_cases rooted stack first with same | ⟨last, less⟩ | more
      · rwa [same]
      · rw [less] at free
        exact fun name member => free name (List.mem_cons_of_mem _ member)
      · rw [more, List.forall_mem_cons]
        exact ⟨known.1, free⟩
  exact step _ (fun _ => Bytes.slash_free_splitOn) free

theorem reach_nil_free (rooted : Bool) (p : Bytes) : ∀ name ∈ reach rooted [] p, slash ∉ name := by
  apply reach_free
  intro name member
  cases member

theorem reach_intercalate {rooted : Bool} {stack names : List Bytes}
    (free : ∀ name ∈ names, slash ∉ name) :
    reach rooted stack ([slash].intercalate names) = names.foldl (climb rooted) stack := by
  cases names with
  | nil => rfl
  | cons name rest => rw [reach, Bytes.splitOn_intercalate (List.cons_ne_nil _ _) free]

theorem reach_slash {rooted : Bool} {stack : List Bytes} (p : Bytes) :
    reach rooted stack (slash :: p) = reach rooted stack p := by
  rw [← List.nil_append (slash :: p), reach_append, reach_nil]

/-- The names in front of the last one, read onto the stack. -/
theorem Cut.splitOn {p front name : Bytes} (cut : Cut p front name) :
    ∃ names, p.splitOn slash = names ++ [name] ∧
      ∀ rooted stack, names.foldl (climb rooted) stack = reach rooted stack front := by
  obtain ⟨rfl, rfl | ⟨a, rfl⟩, free⟩ := cut
  · exact ⟨[], Bytes.splitOn_of_free free, fun rooted stack => rfl⟩
  · refine ⟨a.splitOn slash, ?_, fun rooted stack => ?_⟩
    · rw [List.append_assoc, List.singleton_append, Bytes.splitOn_append,
        Bytes.splitOn_of_free free]
    · rw [reach_append, reach_nil]
      rfl

theorem Cut.reach {p front name : Bytes} (cut : Cut p front name) (rooted : Bool)
    (stack : List Bytes) : reach rooted stack p = climb rooted (reach rooted stack front) name := by
  obtain ⟨names, split, reads⟩ := cut.splitOn
  rw [Path.reach, split, List.foldl_append, reads]
  rfl

/-! The clean form. -/

theorem clean_rooted {p : Bytes} (rooted : isAbsolute p = true) :
    clean p = slash :: [slash].intercalate (reach true [] p).reverse := by
  rw [clean, rooted, resolveNames_eq, if_pos rfl]
  rfl

theorem intercalate_ne_nil {names : List Bytes} (some : names ≠ [])
    (solid : ∀ name ∈ names, name ≠ []) : [slash].intercalate names ≠ [] := by
  obtain ⟨name, rest, rfl⟩ := List.exists_cons_of_ne_nil some
  have first := solid name List.mem_cons_self
  cases rest with
  | nil => simpa using first
  | cons => simp [List.intercalate_cons_of_ne_nil, first]

theorem clean_relative {p : Bytes} (relative : isAbsolute p = false) :
    clean p = if reach false [] p = [] then [0x2E]
      else [slash].intercalate (reach false [] p).reverse := by
  have solid := (reach_settled false p).solid
  have names : resolveNames false [] (p.splitOn slash) = (reach false [] p).reverse :=
    resolveNames_eq false [] _
  rw [clean, relative, names, if_neg Bool.false_ne_true]
  by_cases none : reach false [] p = []
  · simp [none]
  · have written : [slash].intercalate (reach false [] p).reverse ≠ [] := by
      apply intercalate_ne_nil (List.reverse_ne_nil_iff.mpr none)
      intro name member
      exact (solid name (List.mem_reverse.mp member)).1
    rw [if_neg none, if_neg written]

theorem isAbsolute_clean (p : Bytes) : isAbsolute (clean p) = isAbsolute p := by
  cases start : isAbsolute p with
  | true =>
    rw [clean_rooted start]
    rfl
  | false =>
    rw [clean_relative start]
    split
    · rfl
    · rename_i some
      have solid := (reach_settled false p).solid
      have free := reach_nil_free false p
      obtain ⟨name, rest, names⟩ :=
        List.exists_cons_of_ne_nil (List.reverse_ne_nil_iff.mpr some)
      have member : name ∈ reach false [] p := by
        rw [← List.mem_reverse, names]
        exact List.mem_cons_self
      obtain ⟨x, more, rfl⟩ := List.exists_cons_of_ne_nil (solid name member).1
      have apart : x ≠ slash := fun same => free _ member (same ▸ List.mem_cons_self)
      rw [names]
      cases rest <;> simp [isAbsolute, apart, List.intercalate_cons_of_ne_nil]

theorem clean_ne_nil (p : Bytes) : clean p ≠ [] := by
  cases start : isAbsolute p with
  | true =>
    rw [clean_rooted start]
    exact List.cons_ne_nil _ _
  | false =>
    have solid := (reach_settled false p).solid
    rw [clean_relative start]
    split
    · exact List.cons_ne_nil _ _
    · rename_i some
      apply intercalate_ne_nil (List.reverse_ne_nil_iff.mpr some)
      intro name member
      exact (solid name (List.mem_reverse.mp member)).1

theorem reach_clean_relative {p : Bytes} (relative : isAbsolute p = false) (rooted : Bool)
    (base : List Bytes) : reach rooted base (clean p) = reach rooted base p := by
  have free := reach_nil_free false p
  have resolved : (reach false [] p).reverse.foldl (climb rooted) base = reach rooted base p :=
    foldl_resolved rooted base _
  rw [clean_relative relative]
  split
  · rename_i none
    rw [none] at resolved
    exact resolved
  · rw [reach_intercalate, resolved]
    intro name member
    exact free name (List.mem_reverse.mp member)

theorem reach_clean_rooted {p : Bytes} (rooted : isAbsolute p = true) :
    reach true [] (clean p) = reach true [] p := by
  have free := reach_nil_free true p
  rw [clean_rooted rooted, reach_slash, reach_intercalate, (reach_settled true p).again]
  intro name member
  exact free name (List.mem_reverse.mp member)

theorem clean_clean (p : Bytes) : clean (clean p) = clean p := by
  have start := isAbsolute_clean p
  cases kind : isAbsolute p with
  | true =>
    rw [kind] at start
    rw [clean_rooted start, reach_clean_rooted kind, clean_rooted kind]
  | false =>
    rw [kind] at start
    rw [clean_relative start, reach_clean_relative kind, clean_relative kind]

end Path

end Retouch
