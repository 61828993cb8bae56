import Mathlib.Data.Nat.Digits.Defs
import Mathlib.Data.Nat.Find
import Retouch.Proofs.Files.TextFile
import Retouch.Proofs.Path

/-! When a file can be written.
That depends on which places are taken and which are directories, not on the contents, and on the
number drawn for the temporary file only where its name may become too long. -/
namespace Retouch

namespace Bytes

theorem length_ofNat {n k : Nat} (positive : 0 < k) (small : n < 10 ^ k) :
    (ofNat n).length ≤ k := by
  rw [ofNat, List.length_map]
  exact Nat.toDigits_length 10 n k positive small

theorem digit_of_mem_ofNat {n : Nat} {b : UInt8} (member : b ∈ ofNat n) : 0x30 ≤ b := by
  obtain ⟨c, inside, rfl⟩ := List.mem_map.mp member
  have digit := Nat.isDigit_of_mem_toDigits (by decide) (by decide) inside
  simp only [Char.isDigit, Bool.and_eq_true, decide_eq_true_eq] at digit
  have low : 48 ≤ c.toNat := digit.1
  have high : c.toNat ≤ 57 := digit.2
  rw [UInt8.le_iff_toNat_le, Nat.toUInt8, UInt8.toNat_ofNat']
  change 48 ≤ c.toNat % 256
  omega

end Bytes

namespace FileTree

/-- Each place is free in both trees, a file in both or a directory in both. -/
structure SamePlaces (t u : FileTree) : Prop where
  free : ∀ k, t.entry? k = none ↔ u.entry? k = none
  directory : ∀ k, t.entry? k = some .directory ↔ u.entry? k = some .directory

variable {t u : FileTree}

theorem SamePlaces.walk (same : SamePlaces t u) (l : Location) (names : List Bytes) :
    t.walk l names = u.walk l names := by
  induction names generalizing l with
  | nil => rfl
  | cons name rest ih =>
    have free := same.free l
    have directory := same.directory l
    unfold FileTree.walk
    rcases here : t.entry? l with _ | _ | _ <;> rcases there : u.entry? l with _ | _ | _ <;>
      simp [here, there, ih] at free directory ⊢

theorem SamePlaces.locate (same : SamePlaces t u) (cwd : Location) (path : Bytes) :
    t.locate cwd path = u.locate cwd path := by
  unfold FileTree.locate
  simp only [same.walk]

/-- Beside a name that a path may end in, another one leads to a place too. -/
theorem walk_beside {l k : Location} {names : List Bytes} {name other : Bytes}
    (found : t.walk l (names ++ [name]) = .ok k) (long : 2 < other.length)
    (short : other.length ≤ maxName) : ∃ k', t.walk l (names ++ [other]) = .ok k' := by
  rw [walk_append] at found ⊢
  cases front : t.walk l names with
  | error f =>
    rw [front] at found
    cases found
  | ok m =>
    rw [front] at found
    obtain ⟨directory, _⟩ := walk_single found
    refine ⟨m ++ [other], ?_⟩
    have blank : other ≠ [] ∧ other ≠ [0x2E] ∧ other ≠ [0x2E, 0x2E] := by
      refine ⟨?_, ?_, ?_⟩ <;>
      · rintro rfl
        simp at long
    simp [FileTree.walk, directory, blank, Nat.not_lt.mpr short]

end FileTree

namespace Workspace

open FileTree (SamePlaces)

/-- What stands in the name of a temporary file besides the name it is for. -/
theorem mem_temporaryName {base : Bytes} {n : Nat} {b : UInt8}
    (member : b ∈ temporaryName base n) : b ∈ base ∨ b = 0x2E ∨ 0x30 ≤ b := by
  have ending : ∀ b ∈ Bytes.ofString ".tmp", b = 0x2E ∨ 0x30 ≤ b := by decide +kernel
  simp only [temporaryName, List.cons_append, List.append_assoc, List.mem_cons,
    List.mem_append] at member
  rcases member with dot | inside | dot | digit | last
  · exact .inr (.inl dot)
  · exact .inl inside
  · exact .inr (.inl dot)
  · exact .inr (.inr (Bytes.digit_of_mem_ofNat digit))
  · exact .inr (ending b last)

theorem not_mem_temporaryName {base : Bytes} {b : UInt8} (low : b < 0x2E ∨ b = 0x2F)
    (plain : b ∉ base) (n : Nat) : b ∉ temporaryName base n := by
  intro member
  rcases mem_temporaryName member with inside | dot | digit
  · exact plain inside
  · subst dot
    exact absurd low (by decide)
  · rcases low with low | rfl
    · exact absurd (UInt8.lt_of_lt_of_le low (by decide)) (UInt8.not_lt.mpr digit)
    · exact absurd digit (by decide)

theorem length_temporaryName (base : Bytes) (n : UInt32) :
    2 < (temporaryName base n.toNat).length ∧
      (temporaryName base n.toNat).length ≤ base.length + 16 := by
  have ending : (Bytes.ofString ".tmp").length = 4 := by decide
  have digits : (Bytes.ofNat n.toNat).length ≤ 10 :=
    Bytes.length_ofNat (by decide) (Nat.lt_trans n.toNat_lt (by decide))
  simp only [temporaryName, List.length_append, List.length_cons, List.cons_append]
  omega

theorem splitOn_inDirectory (directory : Bytes) : ∃ names, ∀ name, Path.slash ∉ name →
    (inDirectory directory name).splitOn Path.slash = names ++ [name] := by
  unfold inDirectory
  split
  · rename_i ends
    obtain ⟨front, rfl⟩ := List.getLast?_eq_some_iff.mp (beq_iff_eq.mp ends)
    refine ⟨Bytes.splitOn Path.slash front, fun name plain => ?_⟩
    rw [List.append_assoc, List.singleton_append, Bytes.splitOn_append, Bytes.splitOn_of_free plain]
  · exact ⟨_, fun name plain => by rw [Bytes.splitOn_append, Bytes.splitOn_of_free plain]⟩

theorem isAbsolute_inDirectory {directory : Bytes} (some : directory ≠ []) (name : Bytes) :
    Path.isAbsolute (inDirectory directory name) = Path.isAbsolute directory := by
  obtain ⟨b, rest, rfl⟩ := List.exists_cons_of_ne_nil some
  unfold inDirectory
  split <;> rfl

theorem zero_not_mem_inDirectory {directory name : Bytes} :
    0 ∉ inDirectory directory name ↔ 0 ∉ directory ∧ 0 ∉ name := by
  unfold inDirectory
  split <;> simp [Path.slash]

theorem length_inDirectory (directory name : Bytes) :
    (inDirectory directory name).length ≤ directory.length + 1 + name.length := by
  unfold inDirectory
  split
  · simp
  · simp
    omega

/-- The temporary file with a number cannot be made, as its place is taken. -/
def Taken (t : FileTree) (cwd : Location) (directory base : Bytes) (n : UInt32) : Prop :=
  ∃ l, t.locate cwd (inDirectory directory (temporaryName base n.toNat)) = .ok l ∧ t.entry? l ≠ none

def Vacant (t : FileTree) (cwd : Location) (directory base : Bytes) (n : UInt32) : Prop :=
  ∃ l, t.locate cwd (inDirectory directory (temporaryName base n.toNat)) = .ok l ∧ t.entry? l = none

/-- Places are taken from a number on, and behind them one is free. -/
def Room (t : FileTree) (cwd : Location) (directory base : Bytes) (n : UInt32) (fuel : Nat) :
    Prop :=
  ∃ j < fuel, (∀ i < j, Taken t cwd directory base (n + .ofNat i)) ∧
    Vacant t cwd directory base (n + .ofNat j)

section Temporary

variable {t u : FileTree} {cwd : Location} {directory base : Bytes}

theorem Taken.congr (same : SamePlaces t u) {n : UInt32} :
    Taken t cwd directory base n ↔ Taken u cwd directory base n := by
  simp only [Taken, same.locate, ne_eq, same.free]

theorem Vacant.congr (same : SamePlaces t u) {n : UInt32} :
    Vacant t cwd directory base n ↔ Vacant u cwd directory base n := by
  simp only [Vacant, same.locate, same.free]

theorem Room.congr (same : SamePlaces t u) {n : UInt32} {fuel : Nat} :
    Room t cwd directory base n fuel ↔ Room u cwd directory base n fuel := by
  simp only [Room, Taken.congr same, Vacant.congr same]

theorem Room.of_taken {n : UInt32} {fuel : Nat} (taken : Taken t cwd directory base n) :
    Room t cwd directory base n (fuel + 1) ↔ Room t cwd directory base (n + 1) fuel := by
  have next (i : Nat) : n + .ofNat (i + 1) = n + 1 + .ofNat i := by
    rw [UInt32.ofNat_add, UInt32.add_assoc, UInt32.add_comm (.ofNat i)]
    rfl
  constructor
  · rintro ⟨j, lt, before, l, located, free⟩
    cases j with
    | zero =>
      obtain ⟨l', located', present⟩ := taken
      have same : n + .ofNat 0 = n := UInt32.add_zero n
      rw [same, located'] at located
      cases located
      exact absurd free present
    | succ j =>
      refine ⟨j, Nat.lt_of_succ_lt_succ lt, fun i lt' => ?_, l, next j ▸ located, free⟩
      exact next i ▸ before (i + 1) (Nat.succ_lt_succ lt')
  · rintro ⟨j, lt, before, vacant⟩
    refine ⟨j + 1, Nat.succ_lt_succ lt, fun i lt' => ?_, next j ▸ vacant⟩
    cases i with
    | zero => exact (UInt32.add_zero n).symm ▸ taken
    | succ i => exact next i ▸ before i (Nat.lt_of_succ_lt_succ lt')

theorem freshTemporary_ok_iff (fuel : Nat) (n : UInt32) :
    (∃ place, freshTemporary t cwd directory base fuel n = .ok place) ↔
      Room t cwd directory base n fuel := by
  induction fuel generalizing n with
  | zero => simp [freshTemporary, Room]
  | succ fuel ih =>
    have zero : n + .ofNat 0 = n := UInt32.add_zero n
    unfold freshTemporary
    dsimp only
    cases found : t.locate cwd (inDirectory directory (temporaryName base n.toNat)) with
    | error f =>
      simp only [reduceCtorEq, exists_false, false_iff]
      rintro ⟨j, _, taken, l, located, _⟩
      cases j with
      | zero => rw [zero, found] at located; cases located
      | succ j =>
        obtain ⟨l', located', _⟩ := taken 0 (Nat.succ_pos j)
        rw [zero, found] at located'
        cases located'
    | ok l =>
      dsimp only
      by_cases here : t.entry? l = none
      · rw [here]
        exact ⟨fun _ => ⟨0, Nat.succ_pos fuel, fun i lt => absurd lt (Nat.not_lt_zero i), l,
          zero.symm ▸ found, here⟩, fun _ => ⟨_, rfl⟩⟩
      · rw [if_pos (Option.isSome_iff_ne_none.mpr here), ih, Room.of_taken ⟨l, found, here⟩]

theorem createTemporary_ok_iff [Chance] (directory base : Bytes) (w : Workspace) :
    (∃ place, ((createTemporary directory base).run.run w).1 = .ok place) ↔
      Room w.tree w.cwd directory base (Chance.number w) UInt32.size := by
  rw [← freshTemporary_ok_iff, createTemporary, run_get_bind]
  cases freshTemporary w.tree w.cwd directory base UInt32.size (Chance.number w) with
  | error e =>
    constructor
    · rintro ⟨place, ok⟩
      cases ok
    · rintro ⟨place, ok⟩
      cases ok
  | ok place => exact ⟨fun _ => ⟨_, rfl⟩, fun _ => ⟨_, rfl⟩⟩

/-- Where all names lead to places and one of these is free, there is room from every number on. -/
theorem room_of_vacant (each : ∀ n, Taken t cwd directory base n ∨ Vacant t cwd directory base n)
    {m : UInt32} (vacant : Vacant t cwd directory base m) (n : UInt32) :
    Room t cwd directory base n UInt32.size := by
  classical
  have reached : ∃ j, Vacant t cwd directory base (n + .ofNat j) := by
    refine ⟨(m - n).toNat, ?_⟩
    rwa [UInt32.ofNat_toNat, UInt32.add_comm, UInt32.sub_add_cancel]
  have early : Nat.find reached ≤ (m - n).toNat := by
    apply Nat.find_le
    rwa [UInt32.ofNat_toNat, UInt32.add_comm, UInt32.sub_add_cancel]
  refine ⟨Nat.find reached, Nat.lt_of_le_of_lt early (m - n).toNat_lt, fun i lt => ?_,
    Nat.find_spec reached⟩
  exact (each _).resolve_right (Nat.find_min reached lt)

/-- A temporary file that can be located leaves room for all others whose names and paths are not
too long. -/
theorem located_of_vacant (some : directory ≠ []) (plain : Path.slash ∉ base)
    (short : base.length + 16 ≤ FileTree.maxName)
    (brief : directory.length + base.length + 17 < FileTree.maxPath) {m : UInt32}
    (vacant : Vacant t cwd directory base m) (n : UInt32) :
    Taken t cwd directory base n ∨ Vacant t cwd directory base n := by
  obtain ⟨l, located, _⟩ := vacant
  obtain ⟨zeroless, _, _, walked⟩ := FileTree.locate_ok_iff.mp located
  obtain ⟨names, split⟩ := splitOn_inDirectory directory
  have slashless (k : UInt32) : Path.slash ∉ temporaryName base k.toNat :=
    not_mem_temporaryName (.inr rfl) plain k.toNat
  obtain ⟨long, bound⟩ := length_temporaryName base n
  rw [split _ (slashless m), isAbsolute_inDirectory some] at walked
  obtain ⟨k, walked'⟩ := FileTree.walk_beside walked long (Nat.le_trans bound short)
  have located' : t.locate cwd (inDirectory directory (temporaryName base n.toNat)) = .ok k := by
    rw [zero_not_mem_inDirectory] at zeroless
    have zeroless' : 0 ∉ base := fun member =>
      zeroless.2 (by simp [temporaryName, member])
    rw [FileTree.locate_ok_iff, zero_not_mem_inDirectory, split _ (slashless n),
      isAbsolute_inDirectory some]
    refine ⟨⟨zeroless.1, not_mem_temporaryName (.inl (by decide)) zeroless' _⟩, ?_, ?_, walked'⟩
    · unfold inDirectory
      split <;> simp [some]
    · have length := length_inDirectory directory (temporaryName base n.toNat)
      omega
  rcases Classical.em (t.entry? k = none) with free | taken
  · exact .inr ⟨k, located', free⟩
  · exact .inl ⟨k, located', taken⟩

end Temporary

theorem rename_ok {source target : Bytes} {l m : Location} {w : Workspace} {e : Entry}
    (located : w.tree.locate w.cwd target = .ok m) (free : w.tree.entry? m ≠ some .directory)
    (present : w.tree.entry? l = some e) :
    (rename source l target).run.run w = (.ok (), { w with tree := (w.tree.erase l).put m e }) := by
  rw [rename, run_get_bind, located]
  dsimp only
  rw [present]
  rcases other : w.tree.entry? m with _ | _ | _
  · rfl
  · exact absurd other free
  · rfl

end Workspace

namespace TextFile

open FileTree (SamePlaces)
open Workspace (Taken Vacant Room)

def besides (path : Bytes) : Bytes :=
  if (Path.split path).1 = [] then [0x2E] else (Path.split path).1

/-- A path leads to a place that is no directory, and there is room for a temporary file beside
it from a number on. -/
structure CanWrite (w : Workspace) (path : Bytes) (n : UInt32) : Prop where
  place : ∃ m, w.tree.locate w.cwd path = .ok m ∧ w.tree.entry? m ≠ some .directory
  room : Room w.tree w.cwd (besides path) (Path.split path).2 n UInt32.size

theorem CanWrite.congr {w v : Workspace} (same : SamePlaces w.tree v.tree) (cwd : v.cwd = w.cwd)
    {path : Bytes} {n : UInt32} (can : CanWrite w path n) : CanWrite v path n := by
  obtain ⟨⟨m, located, free⟩, room⟩ := can
  rw [← cwd] at located room
  refine ⟨⟨m, ?_, ?_⟩, (Room.congr same).mp room⟩
  · rwa [← same.locate]
  · rwa [ne_eq, ← same.directory]

theorem CanWrite.of_kept {w v : Workspace} (kept : Kept w v) {path : Bytes} {n : UInt32}
    (can : CanWrite w path n) : CanWrite v path n := by
  refine can.congr ⟨fun k => ?_, fun k => ?_⟩ kept.cwd <;> rw [kept.tree]

theorem slash_not_mem_split (path : Bytes) : Path.slash ∉ (Path.split path).2 := by
  obtain ⟨front, name, cut⟩ := Path.exists_cut path
  rw [cut.split]
  exact cut.free

theorem length_besides (path : Bytes) :
    (besides path).length + (Path.split path).2.length ≤ path.length + 1 := by
  obtain ⟨front, name, cut⟩ := Path.exists_cut path
  have length := congrArg List.length cut.eq
  rw [List.length_append] at length
  rw [besides, cut.split]
  dsimp only
  split
  · rw [List.length_singleton]
    omega
  · omega

/-- The names and the path of a temporary file with ten digits are not too long. -/
structure Short (path : Bytes) : Prop where
  name : (Path.split path).2.length + 16 ≤ FileTree.maxName
  path : path.length + 18 < FileTree.maxPath

theorem Short.canWrite {w : Workspace} {path : Bytes} {m : UInt32} (short : Short path)
    (can : CanWrite w path m) (n : UInt32) : CanWrite w path n := by
  obtain ⟨j, _, _, vacant⟩ := can.room
  have length := length_besides path
  have some : besides path ≠ [] := by
    unfold besides
    split <;> simp_all
  refine ⟨can.place, Workspace.room_of_vacant (fun k => ?_) vacant n⟩
  refine Workspace.located_of_vacant some (slash_not_mem_split path) short.name ?_ vacant k
  have brief := short.path
  omega

theorem load_ok {w : Workspace} {path content : Bytes} {l : Location} {mode : Nat}
    (found : w.tree.lookup w.cwd path = .ok (l, .file mode content)) :
    ((load path).run.run w).1 = .ok content := by
  rw [load, run_bind, run_lift]
  dsimp only
  rw [run_bind, run_adapt, Workspace.run_readFile]
  have same : ((Workspace.debug "loading file" [("path", .text path)]).run w).2.tree.lookup
      ((Workspace.debug "loading file" [("path", .text path)]).run w).2.cwd path =
      w.tree.lookup w.cwd path := rfl
  rw [same, found]
  rfl

theorem modeOf_located {w : Workspace} {path : Bytes} {m : Location}
    (located : w.tree.locate w.cwd path = .ok m) :
    ∃ mode, (modeOf path).run.run w = (.ok mode, w) := by
  rw [modeOf, run_bind, run_lift, Workspace.run_stat]
  unfold FileTree.lookup
  rw [located]
  dsimp only
  rcases w.tree.entry? m with _ | _ | _ <;> exact ⟨_, rfl⟩

theorem write_ok_iff [Chance] (path content : Bytes) (w : Workspace) :
    ((write path content).run.run w).1 = .ok () ↔ CanWrite w path (Chance.number w) := by
  rw [write, run_bind]
  rcases modeOf_cases path w with ⟨e, reads⟩ | ⟨mode, reads, _⟩
  · rw [reads]
    constructor
    · intro ok
      cases ok
    · rintro ⟨⟨m, located, _⟩, _⟩
      obtain ⟨mode, reads'⟩ := modeOf_located located
      rw [reads] at reads'
      cases reads'
  · rw [reads]
    dsimp only
    rw [run_bind, run_adapt]
    have room := Workspace.createTemporary_ok_iff (besides path) (Path.split path).2 w
    unfold besides at room
    rcases Workspace.createTemporary_cases
      (if (Path.split path).1 = [] then [0x2E] else (Path.split path).1) (Path.split path).2 w with
      ⟨e, creates⟩ | ⟨temporary, l, fresh, creates⟩
    · rw [creates] at room ⊢
      constructor
      · intro ok
        cases ok
      · intro can
        obtain ⟨place, impossible⟩ := room.mpr can.room
        cases impossible
    · rw [creates] at room ⊢
      dsimp only [Except.mapError]
      have vacant : w.tree.entry? l ≠ some .directory := by rw [fresh]; simp
      have filled : ((Workspace.fill l mode content).run
          { w with tree := w.tree.put l (.file 0o600 []) }).2 =
          { w with tree := w.tree.put l (.file mode content) } :=
        congrArg (fun t => ({ w with tree := t } : Workspace)) (FileTree.put_put _)
      have directories := @FileTree.put_file_directories _ _ mode content vacant
      rw [run_bind, run_lift, filled]
      dsimp only
      rw [run_bind, run_lift]
      constructor
      · intro ok
        rcases Workspace.rename_cases temporary l path
          { w with tree := w.tree.put l (.file mode content) } with
          ⟨e, renames⟩ | ⟨m, e, located, free, _, renames⟩ <;> rw [renames] at ok
        · cases ok
        · refine ⟨⟨m, (FileTree.locate_congr directories w.cwd path m).mp located, ?_⟩,
            room.mp ⟨_, rfl⟩⟩
          rwa [ne_eq, ← directories]
      · rintro ⟨⟨m, located, free⟩, _⟩
        rw [Workspace.rename_ok ((FileTree.locate_congr directories w.cwd path m).mpr located)
          (by rwa [ne_eq, directories])
          (FileTree.entry?_put_self (FileTree.ne_nil_of_entry?_none fresh))]
        rfl

end TextFile

end Retouch
