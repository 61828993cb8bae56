import Retouch.Document.YamlConfig
import Retouch.Proofs.Document.Yaml.Node
import Retouch.Proofs.Document.Yaml.Source

/-! Rule files on one line, read as YAML.
Names and texts stand in quotes, so neither of them looks like anything else. -/
namespace Retouch.Document.Yaml

open CodePoint (encodeAll)

/-! Nodes of what is written. -/

/-- What is written is read as a node where it stands in brackets. -/
def Shows (depth : Nat) (written : List Nat) (v : Node) : Prop :=
  ∃ found, Scan.Scans false depth written found ∧ Node.Reads found v

theorem shows_quotes {s : Spelling} {t : Bytes} {written : List Nat} (quotes : Quotes s t written)
    (depth : Nat) : Shows depth written (.scalar [] false t) :=
  ⟨_, Scan.scans_quotes quotes depth, Node.reads_scalar _ _⟩

theorem shows_flag (b : Bool) (depth : Nat) :
    Shows depth (flagWord b) (.scalar [] true (encodeAll (flagWord b))) :=
  ⟨_, Scan.scans_flag b depth, Node.reads_scalar _ _⟩

theorem shows_bracketed {depth : Nat} {items : List (List Nat)} {vs : List Node}
    (shows : List.Forall₂ (Shows depth) items vs) :
    Shows (depth + 1) (bracketed items) (.sequence vs) := by
  obtain ⟨founds, scans, reads⟩ : ∃ founds, List.Forall₂ (Scan.Scans false depth) items founds ∧
      List.Forall₂ Node.Reads founds vs := by
    induction shows with
    | nil => exact ⟨[], .nil, .nil⟩
    | cons first _ ih =>
      obtain ⟨found, scans, reads⟩ := first
      obtain ⟨founds, allScan, allRead⟩ := ih
      exact ⟨found :: founds, .cons scans allScan, .cons reads allRead⟩
  exact ⟨_, Scan.scans_bracketed scans, Node.reads_sequence reads⟩

/-- A field with its value is read as a member with a key in quotes. -/
def ShowsMember (depth : Nat) (m : String × List Nat) (e : Bytes × Node) : Prop :=
  m.1 ∈ fieldNames ∧ e.1 = Bytes.ofString m.1 ∧ Shows depth m.2 e.2

def named (e : Bytes × Node) : Node × Node := (.scalar [] false e.1, e.2)

theorem members_found {s : Spelling} {depth : Nat} {ms : List (String × List Nat)}
    {es : List (Bytes × Node)} (shows : List.Forall₂ (ShowsMember depth) ms es) :
    ∃ founds, List.Forall₂ (Scan.Scans true depth) (ms.map s.member) founds ∧
      List.Forall₂ Node.ReadsMember founds (es.map named) := by
  induction shows with
  | nil => exact ⟨[], .nil, .nil⟩
  | @cons m e _ _ first _ ih =>
    obtain ⟨known, same, found, scans, reads⟩ := first
    obtain ⟨founds, allScan, allRead⟩ := ih
    refine ⟨_, .cons (Scan.scans_member known scans) allScan, .cons ?_ allRead⟩
    exact ⟨_, found, rfl, by rw [named, same], reads⟩

theorem shows_braced {s : Spelling} {depth : Nat} {ms : List (String × List Nat)}
    {es : List (Bytes × Node)} (nonempty : ms ≠ [])
    (shows : List.Forall₂ (ShowsMember depth) ms es) :
    Shows (depth + 1) (s.braced ms) (.mapping (es.map named)) := by
  obtain ⟨founds, scans, reads⟩ := members_found shows
  exact ⟨_, Scan.scans_braced nonempty scans, Node.reads_mapping reads⟩

theorem ofSource_braced {s : Spelling} {depth : Nat} {ms : List (String × List Nat)}
    {es : List (Bytes × Node)} (nonempty : ms ≠ [])
    (shows : List.Forall₂ (ShowsMember depth) ms es) (shallow : depth + 1 < Scan.maxDepth) :
    Node.ofSource ⟨s.braced ms, false⟩ = .ok (.mapping (es.map named)) := by
  obtain ⟨founds, scans, reads⟩ := members_found shows
  refine Node.ofSource_reads (Node.reads_mapping reads) ?_
  rw [tokens_braced nonempty scans shallow]
  simp

/-! Fields of a mapping whose keys are in quotes. -/

theorem isMergeKey_named (e : Bytes × Node) : isMergeKey (named e).1 = false := by
  have tag : Value.isKnownTag "merge" [] = false := by decide
  simp [named, isMergeKey, tag]

theorem checkKeys_named {es : List (Bytes × Node)} (distinct : (es.map Prod.fst).Nodup) :
    checkKeys (es.map named) = .ok () := by
  induction es with
  | nil => rfl
  | cons e es ih =>
    rw [List.map_cons, List.nodup_cons] at distinct
    have once : ((es.map named).any fun x => keyText x.1 == keyText (named e).1) = false := by
      rw [List.any_map, List.any_eq_false]
      intro x member
      have other : x.1 ≠ e.1 := fun same => distinct.1 (same ▸ List.mem_map_of_mem member)
      simpa [named, keyText] using other
    simp only [List.map_cons, checkKeys]
    rw [once, if_neg Bool.false_ne_true]
    exact ih distinct.2

theorem ownFields_named {es : List (Bytes × Node)} (distinct : (es.map Prod.fst).Nodup) :
    ownFields [] (es.map named) = .ok es := by
  induction es with
  | nil => rfl
  | cons e es ih =>
    rw [List.map_cons, List.nodup_cons] at distinct
    have once : (es.any fun x => x.1 == e.1) = false := by
      rw [List.any_eq_false]
      intro x member
      have other : x.1 ≠ e.1 := fun same => distinct.1 (same ▸ List.mem_map_of_mem member)
      simpa using other
    have key := isMergeKey_named e
    simp only [List.map_cons, ownFields, ih distinct.2]
    change (if isMergeKey (named e).1 then _ else
      if es.any (fun x => x.1 == e.1) then _ else Except.ok (e :: es)) = _
    rw [key, once]
    rfl

theorem mergedFields_named (taken : List Bytes) (es : List (Bytes × Node)) :
    mergedFields taken (es.map named) = .ok [] := by
  induction es with
  | nil => rfl
  | cons e es ih =>
    have key := isMergeKey_named e
    -- the single equations of this function ask for the form of the value, which is open here
    rw [List.map_cons, mergedFields.eq_def]
    change (if isMergeKey (named e).1 then _ else mergedFields taken (es.map named)) = _
    rw [key]
    exact ih

theorem allFields_named {es : List (Bytes × Node)} (distinct : (es.map Prod.fst).Nodup) :
    allFields [] (.mapping (es.map named)) = .ok es := by
  unfold allFields
  rw [checkKeys_named distinct, ownFields_named distinct]
  change (mergedFields _ (es.map named) >>= fun more => _) = _
  rw [mergedFields_named]
  simp

/-! Rule files. -/

def entryFields (r : RuleEntry) : List (Bytes × Node) :=
  [("name", .scalar [] false r.name), ("kind", .scalar [] false r.kind),
    ("match", .scalar [] false r.search), ("replace", .scalar [] false r.replacement),
    ("files", .scalar [] false r.files)]

def ofEntry (r : RuleEntry) : Node := .mapping ((entryFields r).map named)

def configFields (c : Config) : List (Bytes × Node) :=
  [("target", .scalar [] false c.target),
    ("backup", .scalar [] true (encodeAll (flagWord c.backup))),
    ("backup_suffix", .scalar [] false c.backupSuffix),
    ("strict", .scalar [] true (encodeAll (flagWord c.strict))),
    ("rules", .sequence (c.rules.map ofEntry))]

theorem yamlEntry_ofEntry (r : RuleEntry) : yamlEntry (ofEntry r) = .ok (some r) := by
  have distinct : ((entryFields r).map Prod.fst).Nodup := by
    change (["name", "kind", "match", "replace", "files"].map Bytes.ofString).Nodup
    decide
  unfold ofEntry yamlEntry
  rw [allFields_named distinct]
  rfl

theorem yamlEntries_ofEntry (old rules : List RuleEntry) :
    yamlEntries old (.sequence (rules.map ofEntry)) = .ok rules := by
  have all : (rules.map ofEntry).mapM yamlEntry = .ok (rules.map some) := by
    induction rules with
    | nil => rfl
    | cons r rules ih =>
      rw [List.map_cons, List.mapM_cons, yamlEntry_ofEntry, ih]
      rfl
  unfold yamlEntries
  rw [all]
  change Except.ok ((rules.map some).filterMap id) = _
  simp

theorem yamlFlag_word (old b : Bool) :
    yamlFlag old (.scalar [] true (encodeAll (flagWord b))) = .ok b := by
  cases old <;> cases b <;> decide

theorem configOfYaml_fields (c : Config) :
    configOfYaml (.mapping ((configFields c).map named)) = .ok { c with location := [] } := by
  have distinct : ((configFields c).map Prod.fst).Nodup := by
    change (["target", "backup", "backup_suffix", "strict", "rules"].map Bytes.ofString).Nodup
    decide
  have target (c : Config) (t : Bytes) :
      yamlField c "target" (.scalar [] false t) = .ok { c with target := t } := rfl
  have backup (c : Config) (b : Bool) :
      yamlField c "backup" (.scalar [] true (encodeAll (flagWord b))) =
        .ok { c with backup := b } := by
    change (yamlFlag c.backup _).map _ = _
    rw [yamlFlag_word]
    rfl
  have suffix (c : Config) (t : Bytes) :
      yamlField c "backup_suffix" (.scalar [] false t) = .ok { c with backupSuffix := t } := rfl
  have strict (c : Config) (b : Bool) :
      yamlField c "strict" (.scalar [] true (encodeAll (flagWord b))) =
        .ok { c with strict := b } := by
    change (yamlFlag c.strict _).map _ = _
    rw [yamlFlag_word]
    rfl
  have rules (c : Config) (rs : List RuleEntry) :
      yamlField c "rules" (.sequence (rs.map ofEntry)) = .ok { c with rules := rs } := by
    change (yamlEntries c.rules _).map _ = _
    rw [yamlEntries_ofEntry]
    rfl
  unfold configOfYaml
  change (allFields [] (.mapping ((configFields c).map named)) >>= _) = _
  rw [allFields_named distinct]
  change (configFields c).foldlM (fun c e => yamlField c e.1 e.2) Config.empty = _
  simp only [configFields, List.foldlM_cons, List.foldlM_nil, target, backup, suffix, strict, rules]
  rfl

theorem shows_entry {s : Spelling} {r : RuleEntry} (valid : r.WellFormed) (depth : Nat) :
    Shows (depth + 1) (s.entry r) (ofEntry r) := by
  refine shows_braced (by simp) (.cons ?_ (.cons ?_ (.cons ?_ (.cons ?_ (.cons ?_ .nil)))))
  · exact ⟨by simp [fieldNames], rfl, shows_quotes (quotes_quoted valid.name) depth⟩
  · exact ⟨by simp [fieldNames], rfl, shows_quotes (quotes_quoted valid.kind) depth⟩
  · exact ⟨by simp [fieldNames], rfl, shows_quotes (quotes_quoted valid.search) depth⟩
  · exact ⟨by simp [fieldNames], rfl, shows_quotes (quotes_quoted valid.replacement) depth⟩
  · exact ⟨by simp [fieldNames], rfl, shows_quotes (quotes_quoted valid.files) depth⟩

theorem ofSource_config {s : Spelling} {c : Config} (valid : c.WellFormed) :
    Node.ofSource ⟨s.config c, false⟩ = .ok (.mapping ((configFields c).map named)) := by
  refine ofSource_braced (by simp) (.cons ?_ (.cons ?_ (.cons ?_ (.cons ?_ (.cons ?_ .nil)))))
    (show 2 + 1 < Scan.maxDepth by decide)
  · exact ⟨by simp [fieldNames], rfl, shows_quotes (quotes_quoted valid.target) _⟩
  · exact ⟨by simp [fieldNames], rfl, shows_flag c.backup _⟩
  · exact ⟨by simp [fieldNames], rfl, shows_quotes (quotes_quoted valid.backupSuffix) _⟩
  · exact ⟨by simp [fieldNames], rfl, shows_flag c.strict _⟩
  · refine ⟨by simp [fieldNames], rfl, shows_bracketed ?_⟩
    rw [List.forall₂_map_left_iff, List.forall₂_map_right_iff, List.forall₂_same]
    exact fun r member => shows_entry (valid.rules r member) 0

theorem isAllowed_printed {c : Nat} (printed : isPrinted c = true) : isAllowed c = true := by
  simp [isPrinted, isAllowed] at printed ⊢
  omega

theorem parse_oneLine (s : Spelling) {c : Config} (valid : c.WellFormed) :
    parseYaml (s.oneLine c) = .ok { c with location := [] } := by
  have printed := printed_config (s := s) valid
  have source : Source.ofBytes (s.oneLine c) = ⟨s.config c, false⟩ :=
    ofBytes_encodeAll (fun v member => isScalar_printed (printed v member))
      (fun v member => isAllowed_printed (printed v member)) rfl
  unfold parseYaml
  rw [source, ofSource_config valid]
  exact configOfYaml_fields c

end Retouch.Document.Yaml
