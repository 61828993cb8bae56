import Retouch.Config
import Retouch.Document.Yaml.Value

/-! Rule files in YAML.
Names of fields match exactly and may occur once. Values that look like nothing leave a field as it
is, and a list drops such items. The key << takes over the fields of other mappings that are not
given. -/
namespace Retouch.Document

open Yaml

/-- A text read over the one that is there. Whatever a scalar looks like, a text takes it as it is
written. -/
def yamlText (old : Bytes) : Node → Except Yaml.Error Bytes
  | .scalar tag plain t => do
    match ← Value.ofScalar tag plain t with
    | .nothing => return old
    | .text t => return t
    | _ => return t
  | .alias _ (.scalar tag plain t) => yamlText old (.scalar tag plain t)
  | .alias _ (.cycle name) => .error (.recursiveAnchor name)
  | _ => .error (.wrongType "text")

/-- A truth value read over the one that is there. Words for yes and no are taken too. -/
def yamlFlag (old : Bool) : Node → Except Yaml.Error Bool
  | .scalar tag plain t => do
    match ← Value.ofScalar tag plain t with
    | .nothing => return old
    | .flag b => return b
    | .text t =>
      if Look.isOneOfTexts ["y", "Y", "yes", "Yes", "YES", "on", "On", "ON"] t then return true
      else if Look.isOneOfTexts ["n", "N", "no", "No", "NO", "off", "Off", "OFF"] t then
        return false
      else throw (.wrongType "truth value")
    | .other => throw (.wrongType "truth value")
  | .alias _ (.scalar tag plain t) => yamlFlag old (.scalar tag plain t)
  | .alias _ (.cycle name) => .error (.recursiveAnchor name)
  | _ => .error (.wrongType "truth value")

/-- The name that a key gives, or none for a key that looks like nothing. -/
def yamlName : Node → Except Yaml.Error (Option Bytes)
  | .scalar tag plain t => do
    match ← Value.ofScalar tag plain t with
    | .nothing => return none
    | .text t => return some t
    | _ => return some t
  | .alias _ (.scalar tag plain t) => yamlName (.scalar tag plain t)
  | _ => .error (.wrongType "key")

def isMergeKey : Node → Bool
  | .scalar tag plain t =>
    t == [0x3C, 0x3C] && ((tag.isEmpty && plain) || Value.isKnownTag "merge" tag)
  | _ => false

/-- What two equal keys share: their kind and their text. -/
def keyText : Node → Nat × Bytes
  | .scalar _ _ t => (0, t)
  | .sequence _ => (1, [])
  | .mapping _ => (2, [])
  | .alias name _ => (3, name)
  | .cycle name => (4, name)

def checkKeys : List (Node × Node) → Except Yaml.Error Unit
  | [] => .ok ()
  | (k, _) :: rest =>
    if rest.any fun e => keyText e.1 == keyText k then .error (.repeatedKey (keyText k).2)
    else checkKeys rest

/-- The named fields of a mapping in order. Names that are taken are left out, and a name that
occurs twice is refused. -/
def ownFields (taken : List Bytes) :
    List (Node × Node) → Except Yaml.Error (List (Bytes × Node))
  | [] => .ok []
  | (k, v) :: rest => do
    let more ← ownFields taken rest
    if isMergeKey k then return more
    match ← yamlName k with
    | none => return more
    | some name =>
      if taken.contains name then return more
      if more.any (·.1 == name) then throw (Yaml.Error.repeatedKey name)
      return (name, v) :: more

mutual

/-- All fields of a mapping, its own ones first and then those that it takes over, without the
names that are taken. -/
def allFields (taken : List Bytes) : Node → Except Yaml.Error (List (Bytes × Node))
  | .mapping entries => do
    checkKeys entries
    let own ← ownFields taken entries
    let more ← mergedFields (taken ++ own.map (·.1)) entries
    return own ++ more
  | .alias _ target => allFields taken target
  | .cycle name => .error (.recursiveAnchor name)
  | _ => .error .mergeSource

def mergedFields (taken : List Bytes) : List (Node × Node) → Except Yaml.Error (List (Bytes × Node))
  | [] => .ok []
  | (k, v) :: rest =>
    if isMergeKey k then
      match v with
      | .sequence items => listFields taken items
      | .mapping entries => allFields taken (.mapping entries)
      | .alias name target => allFields taken (.alias name target)
      | _ => .error .mergeSource
    else mergedFields taken rest

/-- The fields of several mappings; the first that has a name gives it. -/
def listFields (taken : List Bytes) : List Node → Except Yaml.Error (List (Bytes × Node))
  | [] => .ok []
  | item :: rest => do
    let first ← allFields taken item
    let more ← listFields (taken ++ first.map (·.1)) rest
    return first ++ more

end

def yamlEntryField (r : RuleEntry) (name : Bytes) (v : Node) : Except Yaml.Error RuleEntry :=
  if name == Bytes.ofString "name" then (yamlText r.name v).map fun t => { r with name := t }
  else if name == Bytes.ofString "kind" then (yamlText r.kind v).map fun t => { r with kind := t }
  else if name == Bytes.ofString "match" then
    (yamlText r.search v).map fun t => { r with search := t }
  else if name == Bytes.ofString "replace" then
    (yamlText r.replacement v).map fun t => { r with replacement := t }
  else if name == Bytes.ofString "files" then
    (yamlText r.files v).map fun t => { r with files := t }
  else .error (.unknownField name)

def yamlEntry : Node → Except Yaml.Error (Option RuleEntry)
  | .scalar tag plain t => do
    match ← Value.ofScalar tag plain t with
    | .nothing => return none
    | _ => throw (.wrongType "mapping")
  | .alias _ (.scalar tag plain t) => yamlEntry (.scalar tag plain t)
  | .sequence _ => .error (.wrongType "mapping")
  | node => do
    let fields ← allFields [] node
    return some (← fields.foldlM (fun r (name, v) => yamlEntryField r name v) RuleEntry.empty)

def yamlEntries (old : List RuleEntry) : Node → Except Yaml.Error (List RuleEntry)
  | .scalar tag plain t => do
    match ← Value.ofScalar tag plain t with
    | .nothing => return []
    | _ => throw (.wrongType "list")
  | .sequence items => do return (← items.mapM yamlEntry).filterMap id
  | .alias _ (.scalar tag plain t) => yamlEntries old (.scalar tag plain t)
  | .alias _ (.sequence items) => yamlEntries old (.sequence items)
  | _ => .error (.wrongType "list")

def yamlField (c : Config) (name : Bytes) (v : Node) : Except Yaml.Error Config :=
  if name == Bytes.ofString "target" then (yamlText c.target v).map fun t => { c with target := t }
  else if name == Bytes.ofString "backup" then
    (yamlFlag c.backup v).map fun b => { c with backup := b }
  else if name == Bytes.ofString "backup_suffix" then
    (yamlText c.backupSuffix v).map fun t => { c with backupSuffix := t }
  else if name == Bytes.ofString "strict" then
    (yamlFlag c.strict v).map fun b => { c with strict := b }
  else if name == Bytes.ofString "rules" then
    (yamlEntries c.rules v).map fun rs => { c with rules := rs }
  else .error (.unknownField name)

def configOfYaml : Node → Except Yaml.Error Config
  | .scalar tag plain t => do
    match ← Value.ofScalar tag plain t with
    | .nothing => return .empty
    | _ => throw (.wrongType "mapping")
  | .sequence _ => .error (.wrongType "mapping")
  | node => do
    let fields ← allFields [] node
    fields.foldlM (fun c (name, v) => yamlField c name v) Config.empty

def parseYaml (text : Bytes) : Except Yaml.Error Config :=
  match Node.ofSource (.ofBytes text) with
  | .error e => .error e
  | .ok root => configOfYaml root

end Retouch.Document
