import Retouch.Proofs.Config.Loading
import Retouch.Proofs.Config.Validation
import Retouch.Proofs.Document.FileFormat
import Retouch.Proofs.Files.Place
import Retouch.Proofs.Filter

/-! The target of a rule file.
A target in a rule file starts at the directory of that file, however the path to the file is
written. It is cleaned when the file is read and joined with the working directory later, and
neither step moves it. -/
namespace Retouch

namespace Path

theorem isAbsolute_append {a : Bytes} (nonempty : a ≠ []) (b : Bytes) :
    isAbsolute (a ++ b) = isAbsolute a := by
  obtain ⟨x, a, rfl⟩ := List.exists_cons_of_ne_nil nonempty
  rfl

theorem Cut.relative {p front name : Bytes} (cut : Cut p front name)
    (relative : isAbsolute p = false) : isAbsolute front = false := by
  by_cases empty : front = []
  · rw [empty]
    rfl
  · rwa [cut.eq, isAbsolute_append empty] at relative

theorem join_ne_nil {a : Bytes} (given : a ≠ []) (b : Bytes) : join a b ≠ [] := by
  rw [join, if_neg given]
  exact clean_ne_nil _

/-- A clean path may be taken in full or not: a path from the root stays as it is. -/
theorem absolute_clean {p : Bytes} (rooted : isAbsolute p = true) (cwd : Bytes) :
    absolute cwd (clean p) = clean p := by
  rw [absolute, isAbsolute_clean, if_pos rooted, clean_clean]

end Path

/-- A clean relative path is taken in full as if it had not been cleaned. -/
theorem Location.absolute_clean {cwd : Location} (known : ∀ name ∈ cwd, Path.IsName name)
    {p : Bytes} (relative : Path.isAbsolute p = false) :
    Path.absolute cwd.path (Path.clean p) = path (Path.reach true cwd.reverse p).reverse := by
  rw [Path.absolute, Path.isAbsolute_clean, relative, if_neg Bool.false_ne_true, join_path known,
    Path.reach_clean_relative relative]

namespace Config

theorem placed_target (c : Config) (path : Bytes) : (c.placed path).target =
    if c.target = [] then [] else if Path.isAbsolute c.target then c.target
      else Path.clean (Path.directory path ++ Path.slash :: c.target) := by
  have directory : Path.directory path ≠ [] := Path.clean_ne_nil _
  unfold placed
  dsimp only
  by_cases unset : c.target = []
  · simp [unset]
  · cases rooted : Path.isAbsolute c.target with
    | true => simp [unset]
    | false => simp [unset, Path.join, directory]

def targetIn (directory target : Bytes) : Bytes :=
  if Path.isAbsolute target then Path.clean target
  else Path.clean (directory ++ Path.slash :: target)

theorem targetIn_ne_nil (directory target : Bytes) : targetIn directory target ≠ [] := by
  unfold targetIn
  split <;> exact Path.clean_ne_nil _

/-- What a configuration is changed to when it is read from a file. -/
def readAt (c : Config) (path : Bytes) : Config :=
  { c with
    rules := c.rules.map RuleEntry.inFull
    target := if c.target = [] then [] else targetIn (Path.directory path) c.target
    location := path }

theorem validate_placed {c : Config} {path : Bytes} (accepted : (c.placed path).validate.2 = none)
    (other : Bytes) : (c.placed other).validate = (c.readAt other, none) := by
  have sound := validate_none_iff.mp accepted
  have accepted' : (c.placed other).validate.2 = none := validate_none_iff.mpr sound
  have target : (if (c.placed other).target = [] then [] else Path.clean (c.placed other).target) =
      if c.target = [] then [] else targetIn (Path.directory other) c.target := by
    rw [placed_target, targetIn]
    by_cases unset : c.target = []
    · simp [unset]
    · cases rooted : Path.isAbsolute c.target with
      | true => simp [unset]
      | false => simp [unset, Path.clean_ne_nil, Path.clean_clean]
  rw [← Prod.eta (c.placed other).validate, accepted', validate_accepted accepted', target]
  rfl

/-- The text of an accepted rule file is accepted wherever the file is. -/
theorem ofText_placed {path text : Bytes} {c : Config} (reads : ofText path text = .ok c) :
    ∃ format parsed, Document.Format.ofFile? path = some format ∧
      Document.parse format text = .ok parsed ∧
      ∀ other, Document.Format.ofFile? other = some format →
        ofText other text = .ok (parsed.readAt other) := by
  obtain ⟨format, parsed, told, parses, accepted⟩ := ofText_ok_iff.mp reads
  have none : (parsed.placed path).validate.2 = none := by rw [accepted]
  refine ⟨format, parsed, told, parses, fun other known => ?_⟩
  exact ofText_ok_iff.mpr ⟨format, parsed, known, parses, validate_placed none other⟩

end Config

theorem absolute_targetIn_rooted {directory : Bytes} (rooted : Path.isAbsolute directory = true)
    (cwd target : Bytes) :
    Path.absolute cwd (Config.targetIn directory target) = Config.targetIn directory target := by
  have nonempty : directory ≠ [] := by
    rintro rfl
    cases rooted
  unfold Config.targetIn
  split
  · rename_i absolute
    exact Path.absolute_clean absolute cwd
  · apply Path.absolute_clean
    rwa [Path.isAbsolute_append nonempty]

/-- Seen from the working directory, the target of a rule file starts at the directory that the path
leads to. -/
theorem absolute_targetIn {cwd k : Location} {p front name : Bytes}
    (known : ∀ n ∈ cwd, Path.IsName n) (below : ∀ n ∈ k, Path.IsName n)
    (cut : Path.Cut p front name) (relative : Path.isAbsolute p = false)
    (stack : k.reverse = Path.reach true cwd.reverse front) (target : Bytes) :
    Path.absolute cwd.path (Config.targetIn (Path.directory p) target) =
      Config.targetIn k.path target := by
  have start := cut.relative relative
  unfold Config.targetIn
  split
  · rename_i rooted
    exact Path.absolute_clean rooted _
  -- behind the cleaned directory, the names of the target go on from the place of the directory
  · have nonempty : Path.clean front ≠ [] := Path.clean_ne_nil _
    have directory : Path.directory p = Path.clean front := by rw [Path.directory, cut.split]
    have relative' : Path.isAbsolute (Path.clean front ++ Path.slash :: target) = false := by
      rw [Path.isAbsolute_append nonempty, Path.isAbsolute_clean, start]
    have joined := Location.join_path below target
    rw [Path.join, if_neg k.path_ne_nil] at joined
    rw [directory, Location.absolute_clean known relative', Path.reach_append,
      Path.reach_clean_relative start, ← stack, joined]

theorem FileTree.Leads.file {t : FileTree} {cwd l : Location} {p : Bytes} (home : t.Leads cwd)
    (relative : Path.isAbsolute p = false) {mode : Nat} {text : Bytes}
    (found : t.lookup cwd p = .ok (l, .file mode text)) :
    t.Leads l ∧ Path.join cwd.path p = l.path ∧
      Document.Format.ofFile? l.path = Document.Format.ofFile? p ∧
      Path.isAbsolute (Path.directory l.path) = true ∧
      ∀ target, Path.absolute cwd.path (Config.targetIn (Path.directory p) target) =
        Config.targetIn (Path.directory l.path) target := by
  obtain ⟨located, file⟩ := lookup_ok.mp found
  obtain ⟨leads, stack⟩ := home.of_locate relative located
  obtain ⟨front, name, cut⟩ := Path.exists_cut p
  obtain ⟨k, rfl, below⟩ := home.of_file relative located file cut
  obtain ⟨front', cut', clean⟩ := Location.cut_path leads.names
  have directory : Path.directory (Location.path (k ++ [name])) = k.path := by
    rw [Path.directory, cut'.split, clean]
  have named : ∀ n ∈ k, Path.IsName n :=
    fun n member => leads.names n (List.mem_append_left _ member)
  refine ⟨leads, ?_, ?_, by rw [directory]; rfl, fun target => ?_⟩
  · rw [Location.join_path home.names, ← stack, List.reverse_reverse]
  · rw [Document.Format.ofFile?_cut cut, Document.Format.ofFile?_cut cut']
  · rw [directory]
    exact absolute_targetIn home.names named cut relative below target

/-- The same place is reached by the path in full, and the text that stands there is read alike. -/
theorem Config.loaded_in_full {w : Workspace} (home : w.tree.Leads w.cwd) {p : Bytes}
    (relative : Path.isAbsolute p = false) {c : Config} (loads : loaded w p = .ok c) :
    let full := Path.join w.cwd.path p
    ∃ l mode text format parsed, w.tree.lookup w.cwd p = .ok (l, .file mode text) ∧
      Document.Format.ofFile? p = some format ∧ Document.parse format text = .ok parsed ∧
      c = parsed.readAt p ∧
      (∀ target, Path.absolute w.cwd.path (targetIn (Path.directory p) target) =
        targetIn (Path.directory full) target) ∧
      Path.isAbsolute (Path.directory full) = true ∧
      loaded w full = if FileTree.maxPath ≤ full.length
        then .error (.reading (.access "open" full .nameTooLong))
        else .ok (parsed.readAt full) := by
  intro full
  obtain ⟨l, mode, text, looked, reads⟩ := loaded_ok_iff.mp loads
  obtain ⟨format, parsed, told, parses, placed⟩ := ofText_placed reads
  obtain ⟨leads, path, formats, rooted, starts⟩ := home.file relative looked
  change full = l.path at path
  have again := leads.locate_path w.cwd
  rw [← path] at rooted starts formats again
  refine ⟨l, mode, text, format, parsed, looked, told, parses, ?_, starts, rooted, ?_⟩
  · rw [placed p told] at reads
    cases reads
    rfl
  · have file := (FileTree.lookup_ok.mp looked).2
    have readsFull := placed full (formats.trans told)
    by_cases long : FileTree.maxPath ≤ full.length
    · rw [if_pos long] at again ⊢
      rw [loaded, FileTree.lookup, again]
    · rw [if_neg long] at again ⊢
      exact loaded_ok_iff.mpr ⟨l, mode, text, FileTree.lookup_ok.mpr ⟨again, file⟩, readsFull⟩

namespace CommandLine

theorem planned_loaded {i : Invocation} {w : Workspace} {c : Config}
    (given : i.settings.config ≠ []) (free : i.target = [])
    (loads : Config.loaded w i.settings.config = .ok c) :
    ((planned i).run.run w).1 = if c.target = [] then .error .noTarget else
      (operationOf i.settings c (Path.absolute w.cwd.path c.target)).map (c, ·) := by
  obtain ⟨found, kept⟩ := Config.run_load i.settings.config w
  rw [loads] at found
  have configures : (configured i.settings).run.run w =
      (.ok c, ((Config.load i.settings.config).run.run w).2) := by
    rw [configured, if_pos given, run_adapt, found]
    rfl
  rw [planned_eq, run_bind, configures]
  dsimp only
  rw [targetOf, if_pos free]
  split
  · rfl
  · rw [run_get_bind, kept.cwd]
    cases operationOf i.settings c (Path.absolute w.cwd.path c.target) with
    | error e => rfl
    | ok o => rfl

theorem map_with {α β ε : Type} (a : α) (r : Except ε β) : (r.map (a, ·)).map (·.2) = r := by
  cases r with
  | error e => rfl
  | ok b => rfl

theorem operationOf_readAt (parsed : Config) (s : Settings) (file path other target : Bytes) :
    operationOf { s with config := file } (parsed.readAt other) target =
      operationOf s (parsed.readAt path) target := by
  unfold operationOf Config.compile
  rfl

/-- What a rule file is loaded as through a path, and the target that a command takes from it. -/
structure Means (w : Workspace) (path written target : Bytes) (c : Config) : Prop where
  loads : ((Config.load path).run.run w).1 = .ok c
  unset : written = [] → c.target = []
  set : written ≠ [] → Path.absolute w.cwd.path c.target = target
  plans : ∀ i : Invocation, i.settings.config = path → i.target = [] →
    ((planned i).run.run w).1 =
      if written = [] then .error .noTarget else (operationOf i.settings c target).map (c, ·)

theorem means_readAt {w : Workspace} {path target : Bytes} {parsed : Config} (given : path ≠ [])
    (loads : Config.loaded w path = .ok (parsed.readAt path))
    (set : Path.absolute w.cwd.path (Config.targetIn (Path.directory path) parsed.target) =
      target) :
    Means w path parsed.target target (parsed.readAt path) := by
  constructor
  · rw [(Config.run_load path w).1, loads]
  · intro unset
    rw [Config.readAt, if_pos unset]
  · intro some
    rw [Config.readAt, if_neg some, set]
  · rintro i rfl free
    rw [planned_loaded given free loads]
    by_cases unset : parsed.target = []
    · rw [Config.readAt, if_pos unset, if_pos rfl, if_pos unset]
    · have kept := Config.targetIn_ne_nil (Path.directory i.settings.config) parsed.target
      have target : (parsed.readAt i.settings.config).target =
          Config.targetIn (Path.directory i.settings.config) parsed.target := by
        rw [Config.readAt, if_neg unset]
      rw [if_neg unset, target, if_neg kept, set]

/-- A rule file that is loaded through a relative path is loaded through that path in full as well,
with the same rules and flags, unless the path in full is longer than paths can be. Both times the
target that a command takes from it is the target that is written in the file, cleaned behind the
directory of the path in full if it is relative, and the operation is the same. -/
theorem load_in_full {w w' : Workspace} (home : w.tree.Leads w.cwd) {p : Bytes}
    (relative : Path.isAbsolute p = false) {c : Config}
    (loads : (Config.load p).run.run w = (.ok c, w')) :
    let full := Path.join w.cwd.path p
    ∃ l mode text format parsed, w.tree.lookup w.cwd p = .ok (l, .file mode text) ∧
      Document.Format.ofFile? p = some format ∧ Document.parse format text = .ok parsed ∧
      let target := Config.targetIn (Path.directory full) parsed.target
      Means w p parsed.target target c ∧
      (FileTree.maxPath ≤ full.length → ((Config.load full).run.run w).1 =
        .error (.reading (.access "open" full .nameTooLong))) ∧
      (full.length < FileTree.maxPath → ∃ d, Means w full parsed.target target d ∧
        { d with target := c.target, location := c.location } = c ∧
        ∀ i : Invocation, i.settings.config = p → i.target = [] →
          ((planned { i with settings := { i.settings with config := full } }).run.run w).1.map
            (·.2) = ((planned i).run.run w).1.map (·.2)) := by
  intro full
  have found := (Config.run_load p w).1
  rw [loads] at found
  obtain ⟨l, mode, text, format, parsed, looked, told, parses, rfl, starts, rooted, again⟩ :=
    Config.loaded_in_full home relative found.symm
  change Config.loaded w full = _ at again
  have given : p ≠ [] := (FileTree.locate_ok_iff.mp (FileTree.lookup_ok.mp looked).1).2.1
  have meant := means_readAt given found.symm (starts parsed.target)
  refine ⟨l, mode, text, format, parsed, looked, told, parses, meant, ?_, ?_⟩
  · intro long
    rw [(Config.run_load full w).1, again, if_pos long]
  · intro short
    rw [if_neg (Nat.not_le.mpr short)] at again
    have givenFull : full ≠ [] := Path.join_ne_nil w.cwd.path_ne_nil p
    have meantFull := means_readAt givenFull again (absolute_targetIn_rooted rooted _ _)
    refine ⟨_, meantFull, rfl, ?_⟩
    intro i same free
    have plan := meantFull.plans { i with settings := { i.settings with config := full } } rfl free
    rw [plan, meant.plans i same free]
    dsimp only
    rw [operationOf_readAt parsed i.settings full p]
    split
    · rfl
    · rw [map_with, map_with]

/-- A target that climbs out of the directory of its rule file. -/
theorem load_in_full_climbing :
    let rules := Preset.ofLines ["target: ../../src/a.rs", "rules:", "- name: r", "  kind: literal",
      "  match: x", "  replace: y", ""]
    let w : Workspace := ⟨⟨[(["w"], .directory), (["w", "conf"], .directory),
      (["w", "conf", "rules.yaml"], .file 0o644 rules)]⟩, ["w"], []⟩
    ∃ c d, ((Config.load "../w/conf//./rules.yaml").run.run w).1 = .ok c ∧
      ((Config.load "/w/conf/rules.yaml").run.run w).1 = .ok d ∧
      Path.absolute w.cwd.path c.target = "/src/a.rs" ∧
      Path.absolute w.cwd.path d.target = "/src/a.rs" := by
  intro rules w
  have home : w.tree.Leads w.cwd := by
    constructor
    · intro k above other
      have above : k <+: [] ++ [("w" : Bytes)] := above
      rcases List.prefix_concat_iff.mp above with same | root
      · exact absurd same other
      · rw [List.prefix_nil.mp root]
        rfl
    · intro name member
      rw [List.mem_singleton.mp member]
      constructor <;> decide
  have evaluated : ((Config.load "../w/conf//./rules.yaml").run.run w).1.toOption.isSome := by
    decide +kernel
  rcases run : (Config.load "../w/conf//./rules.yaml").run.run w with ⟨_ | c, w'⟩
  · rw [run] at evaluated
    cases evaluated
  obtain ⟨l, mode, text, format, parsed, looked, told, parses, means, _, whole⟩ :=
    load_in_full home rfl run
  have full : Path.join w.cwd.path "../w/conf//./rules.yaml" = "/w/conf/rules.yaml" := by
    decide +kernel
  have here : w.tree.lookup w.cwd "../w/conf//./rules.yaml" =
      .ok (["w", "conf", "rules.yaml"], .file 0o644 rules) := by
    decide +kernel
  have yaml : Document.Format.ofFile? "../w/conf//./rules.yaml" = some .yaml := by decide +kernel
  rw [here] at looked
  rw [yaml] at told
  cases looked
  cases told
  have written : (Document.parse .yaml rules).toOption.map (·.target) =
      some ("../../src/a.rs" : Bytes) := by
    decide +kernel
  rw [parses] at written
  have target : parsed.target = "../../src/a.rs" := Option.some.inj written
  rw [full, target] at means whole
  obtain ⟨d, meansFull, _⟩ := whole (by decide)
  have climbs : Config.targetIn (Path.directory "/w/conf/rules.yaml") "../../src/a.rs" =
      "/src/a.rs" := by
    decide +kernel
  rw [climbs] at means meansFull
  exact ⟨c, d, rfl, meansFull.loads, means.set (by decide), meansFull.set (by decide)⟩

/-- A rule file in a directory so deep that its path in full is too long. -/
theorem load_in_full_deep :
    let name : Bytes := List.replicate 240 0x61
    let cwd : Location := List.replicate 18 name
    let rules := Preset.ofLines ["target: a.rs", "rules:", "- name: r", "  kind: literal",
      "  match: x", "  replace: y", ""]
    let w : Workspace := ⟨⟨(cwd ++ [Bytes.ofString "rules.yaml"], .file 0o644 rules) ::
      (List.range 18).map fun n => (List.replicate (n + 1) name, .directory)⟩, cwd, []⟩
    let full := Path.join cwd.path "rules.yaml"
    w.tree.Leads w.cwd ∧ ((Config.load "rules.yaml").run.run w).1.toOption.isSome ∧
      ((Config.load full).run.run w).1 =
        .error (.reading (.access "open" full .nameTooLong)) := by
  intro name cwd rules w full
  have every : ∀ n < 18, w.tree.entry? (List.replicate n name) = some .directory := by
    decide +kernel
  have home : w.tree.Leads w.cwd := by
    constructor
    · intro k above other
      obtain ⟨short, same⟩ := List.prefix_replicate_iff.mp above
      rw [same]
      apply every
      apply lt_of_le_of_ne short
      intro whole
      rw [whole] at same
      exact other same
    · intro n member
      rw [List.eq_of_mem_replicate member]
      constructor <;> decide +kernel
  have loads : ((Config.load "rules.yaml").run.run w).1.toOption.isSome := by decide +kernel
  refine ⟨home, loads, ?_⟩
  obtain ⟨c, loads⟩ := Option.isSome_iff_exists.mp loads
  have found : Config.loaded w "rules.yaml" = .ok c := by
    rw [← (Config.run_load "rules.yaml" w).1]
    exact eq_ok_of_toOption loads
  have here : w.tree.lookup w.cwd "rules.yaml" =
      .ok (cwd ++ [Bytes.ofString "rules.yaml"], .file 0o644 rules) := by decide +kernel
  obtain ⟨_, path, _⟩ := home.file rfl here
  have long : FileTree.maxPath ≤ full.length := by
    have names := Location.length_flatten_le (cwd ++ [Bytes.ofString "rules.yaml"])
    have deep : cwd.flatten.length = 4320 := by
      rw [List.length_flatten, List.map_replicate, List.length_replicate, List.sum_replicate_nat]
    rw [← path, List.flatten_append, List.length_append, deep] at names
    change 4320 + _ ≤ full.length at names
    rw [FileTree.maxPath]
    omega
  obtain ⟨_, _, _, _, _, _, _, _, _, _, _, again⟩ := Config.loaded_in_full home rfl found
  rw [(Config.run_load full w).1]
  exact again.trans (if_pos long)

end CommandLine

end Retouch
