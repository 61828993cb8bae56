import Retouch.Path

/-! Last names of paths.
Making a path absolute resolves the names before the last one and drops the slashes behind it, so
the last name stays, unless it is a step to another directory. -/
namespace Retouch

namespace Bytes

theorem splitOn_ne_nil (sep : UInt8) (b : Bytes) : splitOn sep b ≠ [] := by
  cases b with
  | nil => exact List.cons_ne_nil _ _
  | cons x rest =>
    rw [splitOn, List.foldr_cons]
    split
    · exact List.cons_ne_nil _ _
    · split <;> exact List.cons_ne_nil _ _

theorem splitOn_append (sep : UInt8) (a b : Bytes) :
    splitOn sep (a ++ sep :: b) = splitOn sep a ++ splitOn sep b := by
  induction a with
  | nil =>
    rw [List.nil_append, splitOn, List.foldr_cons, if_pos rfl]
    rfl
  | cons x a ih =>
    have some := splitOn_ne_nil sep a
    unfold splitOn at ih some ⊢
    rw [List.cons_append, List.foldr_cons, List.foldr_cons, ih]
    split
    · rfl
    · obtain ⟨piece, more, pieces⟩ := List.exists_cons_of_ne_nil some
      rw [pieces]
      rfl

theorem splitOn_of_free {sep : UInt8} {b : Bytes} (free : sep ∉ b) : splitOn sep b = [b] := by
  induction b with
  | nil => rfl
  | cons x b ih =>
    rw [List.mem_cons, not_or] at free
    have rest := ih free.2
    rw [splitOn] at rest
    rw [splitOn, List.foldr_cons, rest, if_neg (Ne.symm free.1)]

theorem splitOn_replicate (sep : UInt8) (n : Nat) :
    splitOn sep (List.replicate n sep) = List.replicate (n + 1) [] := by
  induction n with
  | zero => rfl
  | succ n ih =>
    rw [List.replicate_succ, ← List.nil_append (sep :: _), splitOn_append, ih]
    rfl

end Bytes

namespace Path

structure Cut (p front name : Bytes) : Prop where
  eq : p = front ++ name
  apart : front = [] ∨ ∃ a, front = a ++ [slash]
  free : slash ∉ name

theorem exists_cut (p : Bytes) : ∃ front name, Cut p front name := by
  induction p with
  | nil => exact ⟨[], [], rfl, .inl rfl, List.not_mem_nil⟩
  | cons x p ih =>
    obtain ⟨front, name, rfl, rfl | ⟨a, rfl⟩, free⟩ := ih
    · by_cases here : x = slash
      · subst here
        exact ⟨[slash], name, rfl, .inr ⟨[], rfl⟩, free⟩
      · refine ⟨[], x :: name, rfl, .inl rfl, ?_⟩
        rw [List.mem_cons, not_or]
        exact ⟨Ne.symm here, free⟩
    · exact ⟨x :: (a ++ [slash]), name, rfl, .inr ⟨x :: a, rfl⟩, free⟩

theorem Cut.split {p front name : Bytes} (cut : Cut p front name) : split p = (front, name) := by
  obtain ⟨rfl, apart, free⟩ := cut
  have differ : ∀ x ∈ name.reverse, decide (x ≠ slash) = true := by
    intro x member
    rw [List.mem_reverse] at member
    rw [decide_eq_true_eq]
    rintro rfl
    exact free member
  have stops : front.reverse.takeWhile (fun x => decide (x ≠ slash)) = [] := by
    rcases apart with rfl | ⟨a, rfl⟩
    · rfl
    · rw [List.reverse_append]
      rfl
  rw [Path.split, Bytes.splitLast, List.reverse_append, List.takeWhile_append_of_pos differ, stops,
    List.append_nil, List.reverse_reverse, List.length_append, List.length_reverse,
    Nat.add_sub_cancel, List.take_left]

/-- A path ends with a name, up to slashes behind it. -/
structure EndsIn (p front name : Bytes) (slashes : Nat) : Prop where
  eq : p = front ++ (name ++ List.replicate slashes slash)
  apart : front = [] ∨ ∃ a, front = a ++ [slash]
  nonempty : name ≠ []
  free : slash ∉ name

theorem EndsIn.base {p front name : Bytes} {slashes : Nat} (ends : EndsIn p front name slashes) :
    base p = name := by
  obtain ⟨rfl, apart, nonempty, free⟩ := ends
  have differ : ∀ x ∈ name.reverse, decide (x ≠ slash) = true := by
    intro x member
    rw [List.mem_reverse] at member
    rw [decide_eq_true_eq]
    rintro rfl
    exact free member
  have stripped : Bytes.trimRight (· == slash) (front ++ (name ++ List.replicate slashes slash)) =
      front ++ name := by
    obtain ⟨last, before, turned⟩ :=
      List.exists_cons_of_ne_nil (List.reverse_ne_nil_iff.mpr nonempty)
    have solid : (last == slash) = false := by
      simpa using differ last (by rw [turned]; exact List.mem_cons_self)
    rw [Bytes.trimRight, List.reverse_append, List.reverse_append, List.reverse_replicate,
      List.append_assoc, List.dropWhile_append_of_pos (by simp), turned, List.cons_append,
      List.dropWhile_cons, solid, if_neg Bool.false_ne_true, ← List.cons_append, ← turned,
      List.reverse_append, List.reverse_reverse, List.reverse_reverse]
  have cut : Cut (front ++ name) front name := ⟨rfl, apart, free⟩
  rw [Path.base, if_neg (by simp [nonempty])]
  dsimp only
  rw [stripped, if_neg (by simp [nonempty]), cut.split]

/-- The end of a path, seen from its last byte: slashes, a name, and what is before it. -/
theorem endsIn_or_slashes {p : Bytes} (nonempty : p ≠ []) :
    (∃ n, p = List.replicate (n + 1) slash) ∨ ∃ front name n, EndsIn p front name n := by
  have slashes : p.reverse.takeWhile (· == slash) =
      List.replicate (p.reverse.takeWhile (· == slash)).length slash := by
    rw [List.eq_replicate_iff]
    refine ⟨rfl, fun x member => ?_⟩
    simpa using List.all_eq_true.mp List.all_takeWhile x member
  have whole := congrArg List.reverse
    (List.takeWhile_append_dropWhile (p := (· == slash)) (l := p.reverse))
  rw [slashes, List.reverse_append, List.reverse_replicate, List.reverse_reverse] at whole
  generalize (p.reverse.takeWhile (· == slash)).length = n at whole
  cases rest : p.reverse.dropWhile (· == slash) with
  | nil =>
    rw [rest, List.reverse_nil, List.nil_append] at whole
    cases n with
    | zero => exact absurd whole.symm nonempty
    | succ n => exact .inl ⟨n, whole.symm⟩
  | cons x before =>
    have solid := List.head_dropWhile_not (· == slash) (by rw [rest]; exact List.cons_ne_nil _ _)
    simp only [rest, List.head_cons] at solid
    refine .inr ⟨((x :: before).dropWhile (· != slash)).reverse,
      ((x :: before).takeWhile (· != slash)).reverse, n, ?_, ?_, ?_, ?_⟩
    · rw [← List.append_assoc, ← List.reverse_append, List.takeWhile_append_dropWhile, ← rest]
      exact whole.symm
    · cases cut : (x :: before).dropWhile (· != slash) with
      | nil => exact .inl rfl
      | cons y more =>
        have found := List.head_dropWhile_not (· != slash) (by rw [cut]; exact List.cons_ne_nil _ _)
        simp only [cut, List.head_cons, bne_eq_false_iff_eq] at found
        exact .inr ⟨more.reverse, by rw [found, List.reverse_cons]⟩
    · rw [List.takeWhile_cons, bne, solid]
      exact List.reverse_ne_nil_iff.mpr (List.cons_ne_nil _ _)
    · intro member
      rw [List.mem_reverse] at member
      have differ := List.all_eq_true.mp List.all_takeWhile slash member
      simp at differ

theorem resolveNames_append (kept names : List Bytes) :
    ∃ stack, ∀ more, resolveNames true kept (names ++ more) = resolveNames true stack more := by
  induction names generalizing kept with
  | nil => exact ⟨kept, fun _ => rfl⟩
  | cons name rest ih =>
    simp only [List.cons_append, resolveNames]
    split
    · exact ih kept
    split
    · split
      · split <;> exact ih _
      · exact ih []
    · exact ih (name :: kept)

theorem resolveNames_blank (stack : List Bytes) (n : Nat) :
    resolveNames true stack (List.replicate n []) = stack.reverse := by
  induction n with
  | zero => rfl
  | succ n ih =>
    simpa only [List.replicate_succ, resolveNames, decide_true, Bool.true_or, if_true] using ih

theorem resolveNames_name {name : Bytes} (nonempty : name ≠ []) (here : name ≠ [0x2E])
    (up : name ≠ [0x2E, 0x2E]) (stack rest : List Bytes) :
    resolveNames true stack (name :: rest) = resolveNames true (name :: stack) rest := by
  simp [resolveNames, nonempty, here, up]

theorem intercalate_concat (names : List Bytes) (name : Bytes) :
    ∃ before, slash :: [slash].intercalate (names ++ [name]) = before ++ slash :: name := by
  induction names with
  | nil => exact ⟨[], by simp⟩
  | cons first rest ih =>
    obtain ⟨before, eq⟩ := ih
    refine ⟨slash :: (first ++ before), ?_⟩
    rw [List.cons_append, List.intercalate_cons_of_ne_nil (by simp), List.append_assoc,
      List.singleton_append, eq]
    simp

/-- A clean path from the root ends with the name that the path ended with. -/
theorem base_clean {a name : Bytes} {n : Nat}
    (rooted : isAbsolute (a ++ slash :: (name ++ List.replicate n slash)) = true)
    (nonempty : name ≠ []) (free : slash ∉ name) (here : name ≠ [0x2E]) (up : name ≠ [0x2E, 0x2E]) :
    base (clean (a ++ slash :: (name ++ List.replicate n slash))) = name := by
  have names : Bytes.splitOn slash (name ++ List.replicate n slash) =
      name :: List.replicate n [] := by
    cases n with
    | zero => rw [List.replicate_zero, List.append_nil, Bytes.splitOn_of_free free]; rfl
    | succ n =>
      rw [List.replicate_succ, Bytes.splitOn_append, Bytes.splitOn_of_free free,
        Bytes.splitOn_replicate]
      rfl
  obtain ⟨stack, resolved⟩ := resolveNames_append [] (Bytes.splitOn slash a)
  obtain ⟨before, joined⟩ := intercalate_concat stack.reverse name
  have eq : clean (a ++ slash :: (name ++ List.replicate n slash)) = before ++ slash :: name := by
    rw [clean, rooted, Bytes.splitOn_append, names, resolved,
      resolveNames_name nonempty here up, resolveNames_blank, List.reverse_cons, if_pos rfl, joined]
  have ends : EndsIn (before ++ slash :: name) (before ++ [slash]) name 0 :=
    ⟨by simp, .inr ⟨before, rfl⟩, nonempty, free⟩
  rw [eq, ends.base]

theorem isAbsolute_iff {p : Bytes} : isAbsolute p = true ↔ ∃ rest, p = slash :: rest := by
  cases p with
  | nil => simp [isAbsolute]
  | cons x rest => simp [isAbsolute]

theorem absolute_eq_cons {cwd : Bytes} (rooted : isAbsolute cwd = true) (p : Bytes) :
    ∃ rest, absolute cwd p = slash :: rest := by
  have cleaned {q : Bytes} (absolute : isAbsolute q = true) : ∃ rest, clean q = slash :: rest := by
    rw [clean, absolute, if_pos rfl]
    exact ⟨_, rfl⟩
  rw [absolute]
  split
  · rename_i absolute
    exact cleaned absolute
  · obtain ⟨rest, rfl⟩ := isAbsolute_iff.mp rooted
    rw [join, if_neg (List.cons_ne_nil _ _)]
    exact cleaned rfl

/-- The last name of a path is that of the path in full, unless it is a step. -/
theorem base_absolute {cwd p : Bytes} (rooted : isAbsolute cwd = true) (nonempty : p ≠ [])
    (here : base p ≠ [0x2E]) (up : base p ≠ [0x2E, 0x2E]) : base (absolute cwd p) = base p := by
  rcases endsIn_or_slashes nonempty with ⟨n, rfl⟩ | ⟨front, name, n, ends⟩
  · have absolute : isAbsolute (List.replicate (n + 1) slash) = true := rfl
    have alone : clean (List.replicate (n + 1) slash) = [slash] := by
      rw [clean, absolute, Bytes.splitOn_replicate, resolveNames_blank]
      rfl
    rw [Path.absolute, if_pos absolute, alone]
    simp [base, Bytes.trimRight]
  · rw [ends.base] at here up ⊢
    obtain ⟨rfl, apart, named, free⟩ := ends
    rw [absolute]
    split
    · rename_i absolute
      rcases apart with rfl | ⟨a, rfl⟩
      · obtain ⟨x, rest, rfl⟩ := List.exists_cons_of_ne_nil named
        obtain ⟨_, eq⟩ := isAbsolute_iff.mp absolute
        cases eq
        exact absurd List.mem_cons_self free
      · rw [List.append_assoc, List.singleton_append] at absolute ⊢
        exact base_clean absolute named free here up
    · obtain ⟨rest, rfl⟩ := isAbsolute_iff.mp rooted
      rw [join, if_neg (List.cons_ne_nil _ _)]
      rcases apart with rfl | ⟨a, rfl⟩
      · exact base_clean rfl named free here up
      · rw [List.append_assoc, List.singleton_append, ← List.cons_append, ← List.append_assoc]
        exact base_clean rfl named free here up

end Path

end Retouch
