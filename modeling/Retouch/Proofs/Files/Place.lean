import Retouch.Proofs.Files.FileTree
import Retouch.Proofs.Path.Clean

/-! Places and their paths.
All names on the way along a path are those of directories. So a path leads to the place that its
names spell, and the clean form of the path in full is the path of that place. -/
namespace Retouch

structure Path.IsName (name : Bytes) : Prop where
  nonempty : name ≠ []
  here : name ≠ [0x2E]
  up : name ≠ [0x2E, 0x2E]
  short : name.length ≤ FileTree.maxName
  slashless : Path.slash ∉ name
  zeroless : 0 ∉ name

namespace FileTree

variable {t : FileTree} {cwd k l m : Location}

/-- All above a location are directories, and its names are names of entries. -/
structure Leads (t : FileTree) (l : Location) : Prop where
  above : ∀ k, k <+: l → k ≠ l → t.entry? k = some .directory
  names : ∀ name ∈ l, Path.IsName name

namespace Leads

theorem below (leads : t.Leads l) (directory : t.entry? l = some .directory) {name : Bytes}
    (known : Path.IsName name) : t.Leads (l ++ [name]) := by
  constructor
  · intro k start other
    rcases List.prefix_concat_iff.mp start with same | start
    · exact absurd same other
    · by_cases same : k = l
      · rwa [same]
      · exact leads.above k start same
  · intro other member
    rcases List.mem_append.mp member with member | member
    · exact leads.names other member
    · rwa [List.mem_singleton.mp member]

theorem dropLast (leads : t.Leads l) : t.Leads l.dropLast := by
  constructor
  · intro k start other
    apply leads.above k (start.trans (List.dropLast_prefix l))
    rintro rfl
    have lengths := start.length_le
    rw [List.length_dropLast] at lengths
    have empty : k = [] := List.eq_nil_of_length_eq_zero (by omega)
    rw [empty] at other
    exact other rfl
  · intro name member
    exact leads.names name ((List.dropLast_prefix l).subset member)

theorem directory_dropLast (leads : t.Leads l) (directory : t.entry? l = some .directory) :
    t.entry? l.dropLast = some .directory := by
  by_cases same : l.dropLast = l
  · rwa [same]
  · exact leads.above _ (List.dropLast_prefix l) same

theorem step (leads : t.Leads l) {name : Bytes} (slashless : Path.slash ∉ name)
    (zeroless : 0 ∉ name) (found : t.walk l [name] = .ok m) :
    t.Leads m ∧ m.reverse = Path.climb true l.reverse name := by
  obtain ⟨directory, ⟨blank, rfl⟩ | ⟨rfl, rfl⟩ | ⟨⟨nonempty, here, up, short⟩, rfl⟩⟩ :=
    walk_single found
  · exact ⟨leads, (Path.climb_blank blank true _).symm⟩
  -- the last name is that of an entry, so going up takes it from the stack
  · refine ⟨leads.dropLast, ?_⟩
    rcases List.eq_nil_or_concat l with rfl | ⟨before, last, rfl⟩
    · rfl
    · have named := leads.names last (by simp)
      rw [List.concat_eq_append, List.dropLast_concat, List.reverse_append, List.reverse_singleton,
        List.singleton_append, Path.climb_up named.up]
  · refine ⟨leads.below directory ⟨nonempty, here, up, short, slashless, zeroless⟩, ?_⟩
    rw [Path.climb_name nonempty here up, List.reverse_append]
    rfl

theorem run (leads : t.Leads l) {names : List Bytes}
    (plain : ∀ name ∈ names, Path.slash ∉ name ∧ 0 ∉ name) (found : t.walk l names = .ok m) :
    t.Leads m ∧ m.reverse = names.foldl (Path.climb true) l.reverse := by
  induction names generalizing l with
  | nil =>
    cases found
    exact ⟨leads, rfl⟩
  | cons name rest ih =>
    rw [List.forall_mem_cons] at plain
    rw [← List.singleton_append, walk_append] at found
    split at found
    · cases found
    · rename_i k first
      obtain ⟨leads', stack⟩ := leads.step plain.1.1 plain.1.2 first
      rw [List.foldl_cons, ← stack]
      exact ih leads' plain.2 found

theorem walk {names : List Bytes} (leads : t.Leads (k ++ names)) :
    t.walk k names = .ok (k ++ names) := by
  induction names generalizing k with
  | nil => rw [List.append_nil]; rfl
  | cons name rest ih =>
    have whole : k ++ name :: rest = k ++ [name] ++ rest := by simp
    have above := leads.above k (List.prefix_append k _) (by simp)
    have named := leads.names name (by simp)
    rw [FileTree.walk, above]
    simp only [named.nonempty, named.here, named.up, decide_false, Bool.or_self, Bool.false_eq_true,
      if_false, Nat.not_lt.mpr named.short]
    rw [whole] at leads ⊢
    exact ih leads

end Leads

end FileTree

namespace Location

variable {l : Location}

theorem path_ne_nil (l : Location) : l.path ≠ [] := List.cons_ne_nil _ _

theorem length_flatten_le (l : Location) : l.flatten.length ≤ l.path.length := by
  have inner : ∀ names : List Bytes,
      names.flatten.length ≤ ([Path.slash].intercalate names).length := by
    intro names
    induction names with
    | nil => exact Nat.zero_le _
    | cons name rest ih =>
      by_cases last : rest = []
      · simp [last]
      · rw [List.intercalate_cons_of_ne_nil last, List.flatten_cons]
        simp only [List.length_append]
        omega
  exact Nat.le_trans (inner l) (Nat.le_succ _)

theorem reach_path (known : ∀ name ∈ l, Path.IsName name) :
    Path.reach true [] l.path = l.reverse := by
  rw [path, Path.reach_slash,
    Path.reach_intercalate fun name member => (known name member).slashless]
  have along (stack : List Bytes) : l.foldl (Path.climb true) stack = l.reverse ++ stack := by
    induction l generalizing stack with
    | nil => rfl
    | cons name rest ih =>
      rw [List.forall_mem_cons] at known
      rw [List.foldl_cons, Path.climb_name known.1.nonempty known.1.here known.1.up, ih known.2,
        List.reverse_cons, List.append_assoc]
      rfl
  rw [along, List.append_nil]

/-- A path from a location is joined to the path of that place that its names spell. -/
theorem join_path (known : ∀ name ∈ l, Path.IsName name) (p : Bytes) :
    Path.join l.path p = path (Path.reach true l.reverse p).reverse := by
  have rooted : Path.isAbsolute (l.path ++ Path.slash :: p) = true := rfl
  rw [Path.join, if_neg l.path_ne_nil, Path.clean_rooted rooted, Path.reach_append,
    reach_path known]
  rfl

/-- The path of a location is cut into the path of its directory and its last name. -/
theorem cut_path {name : Bytes} (known : ∀ n ∈ l ++ [name], Path.IsName n) :
    ∃ front, Path.Cut (path (l ++ [name])) front name ∧ Path.clean front = l.path := by
  have named := known name (by simp)
  obtain ⟨before, joined⟩ := Path.intercalate_concat l name
  have cut : Path.Cut (path (l ++ [name])) (before ++ [Path.slash]) name :=
    ⟨by rw [path, joined]; simp, .inr ⟨before, rfl⟩, named.slashless⟩
  refine ⟨_, cut, ?_⟩
  have rooted : Path.isAbsolute (before ++ [Path.slash]) = true := by
    cases before with
    | nil => rfl
    | cons x before =>
      rw [List.cons_append, List.cons.injEq] at joined
      rw [← joined.1]
      rfl
  have stack := cut.reach true []
  rw [reach_path known, List.reverse_append, List.reverse_singleton, List.singleton_append,
    Path.climb_name named.nonempty named.here named.up, List.cons.injEq] at stack
  rw [Path.clean_rooted rooted, ← stack.2, List.reverse_reverse]
  rfl

theorem zero_not_mem_path (known : ∀ name ∈ l, Path.IsName name) : 0 ∉ l.path := by
  have along : 0 ∉ [Path.slash].intercalate l := by
    induction l with
    | nil => simp
    | cons name rest ih =>
      rw [List.forall_mem_cons] at known
      have first := known.1.zeroless
      cases rest with
      | nil => simpa using first
      | cons other rest =>
        rw [List.intercalate_cons_of_ne_nil (List.cons_ne_nil _ _)]
        simpa [first, Path.slash] using ih known.2
  rw [path, List.mem_cons, not_or]
  exact ⟨by decide, along⟩

end Location

namespace FileTree

variable {t : FileTree} {cwd l : Location} {p : Bytes}

/-- A location is found again by its path, unless that is too long. -/
theorem Leads.locate_path (leads : t.Leads l) (cwd : Location) :
    t.locate cwd l.path =
      if maxPath ≤ l.path.length then .error .nameTooLong else .ok l := by
  have walks : t.walk [] (l.path.splitOn Path.slash) = .ok l := by
    have names : l.path.splitOn Path.slash =
        [] :: Bytes.splitOn Path.slash ([Path.slash].intercalate l) := by
      rw [Location.path, ← List.nil_append (Path.slash :: _), Bytes.splitOn_append]
      rfl
    have root : t.entry? [] = some .directory := rfl
    rw [names, FileTree.walk, root]
    dsimp only
    cases l with
    | nil => rfl
    | cons name rest =>
      rw [Bytes.splitOn_intercalate (List.cons_ne_nil _ _) fun n member =>
        (leads.names n member).slashless]
      exact leads.walk
  unfold locate
  rw [if_neg (Location.zero_not_mem_path leads.names), if_neg l.path_ne_nil]
  split
  · rfl
  · exact walks

theorem plain_splitOn (zeroless : 0 ∉ p) :
    ∀ name ∈ p.splitOn Path.slash, Path.slash ∉ name ∧ 0 ∉ name := by
  intro name member
  refine ⟨Bytes.slash_free_splitOn member, fun zero => zeroless ?_⟩
  exact (Bytes.mem_of_splitOn member 0 zero).1

/-- A path from a directory leads to a place with the names that are spelled. -/
theorem Leads.of_locate (leads : t.Leads cwd) (relative : Path.isAbsolute p = false)
    (located : t.locate cwd p = .ok l) :
    t.Leads l ∧ l.reverse = Path.reach true cwd.reverse p := by
  obtain ⟨zeroless, _, _, walks⟩ := locate_ok_iff.mp located
  rw [relative] at walks
  exact leads.run (plain_splitOn zeroless) walks

theorem Leads.of_file (leads : t.Leads cwd) (relative : Path.isAbsolute p = false)
    (located : t.locate cwd p = .ok l) {mode : Nat} {content : Bytes}
    (file : t.entry? l = some (.file mode content)) {front name : Bytes}
    (cut : Path.Cut p front name) :
    ∃ k, l = k ++ [name] ∧ k.reverse = Path.reach true cwd.reverse front := by
  obtain ⟨zeroless, _, _, walks⟩ := locate_ok_iff.mp located
  obtain ⟨names, split, reads⟩ := cut.splitOn
  rw [relative, split, walk_append] at walks
  split at walks
  · cases walks
  · rename_i k reached
    have plain := plain_splitOn zeroless
    rw [split, List.forall_mem_append] at plain
    obtain ⟨leads', stack⟩ := leads.run plain.1 reached
    -- any other step would end at a directory
    obtain ⟨directory, ⟨_, rfl⟩ | ⟨_, rfl⟩ | ⟨_, rfl⟩⟩ := walk_single walks
    · rw [directory] at file
      cases file
    · rw [leads'.directory_dropLast directory] at file
      cases file
    · exact ⟨k, rfl, stack.trans (reads true _)⟩

end FileTree

end Retouch
