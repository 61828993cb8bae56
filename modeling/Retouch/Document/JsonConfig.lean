import Retouch.Config
import Retouch.Document.Json
import Retouch.Unicode.Folding

/-! Rule files in JSON.
Names of members match without regard to letter case, and where a name occurs again the later value
is read over the earlier one. A null leaves what is there. -/
namespace Retouch.Document

/-- Why a JSON text is no rule file. -/
inductive JsonError where
  | malformed
  | unknownField (name : Bytes)
  | wrongType (field : String)
  deriving DecidableEq, Repr

namespace JsonError

def message : JsonError → Bytes
  | .malformed => "invalid JSON text"
  | .unknownField name => "unknown field " ++ name.quoted
  | .wrongType field => "value of the wrong type for " ++ Bytes.ofString field

end JsonError

def isField (field : String) (name : Bytes) : Bool :=
  (CodePoint.values name).map Unicode.fold == field.toList.map fun c => Unicode.fold c.toNat

def textOver (field : String) (old : Bytes) : Json → Except JsonError Bytes
  | .null => .ok old
  | .string s => .ok s
  | _ => .error (.wrongType field)

def boolOver (field : String) (old : Bool) : Json → Except JsonError Bool
  | .null => .ok old
  | .bool b => .ok b
  | _ => .error (.wrongType field)

def entryMember (r : RuleEntry) (name : Bytes) (v : Json) : Except JsonError RuleEntry :=
  if isField "name" name then (textOver "name" r.name v).map fun t => { r with name := t }
  else if isField "kind" name then (textOver "kind" r.kind v).map fun t => { r with kind := t }
  else if isField "match" name then
    (textOver "match" r.search v).map fun t => { r with search := t }
  else if isField "replace" name then
    (textOver "replace" r.replacement v).map fun t => { r with replacement := t }
  else if isField "files" name then (textOver "files" r.files v).map fun t => { r with files := t }
  else .error (.unknownField name)

def entryOver (r : RuleEntry) : Json → Except JsonError RuleEntry
  | .null => .ok r
  | .object members => members.foldlM (fun r (name, v) => entryMember r name v) r
  | _ => .error (.wrongType "rules")

def entriesOver : List RuleEntry → List Json → Except JsonError (List RuleEntry)
  | _, [] => .ok []
  | old, v :: rest => do
    let r ← entryOver (old.head?.getD .empty) v
    return r :: (← entriesOver old.tail rest)

structure JsonState where
  config : Config
  /-- All rules that earlier lists have left, those behind the end of the last list included. -/
  stored : List RuleEntry

def rulesOver (s : JsonState) : Json → Except JsonError JsonState
  | .null => .ok ⟨{ s.config with rules := [] }, []⟩
  | .array [] => .ok ⟨{ s.config with rules := [] }, []⟩
  | .array items => do
    let rules ← entriesOver s.stored items
    return ⟨{ s.config with rules := rules }, rules ++ s.stored.drop rules.length⟩
  | _ => .error (.wrongType "rules")

def configMember (s : JsonState) (name : Bytes) (v : Json) : Except JsonError JsonState :=
  let set (r : Except JsonError Config) : Except JsonError JsonState :=
    r.map fun c => { s with config := c }
  let c := s.config
  if isField "target" name then
    set ((textOver "target" c.target v).map fun t => { c with target := t })
  else if isField "backup" name then
    set ((boolOver "backup" c.backup v).map fun b => { c with backup := b })
  else if isField "backup_suffix" name then
    set ((textOver "backup_suffix" c.backupSuffix v).map fun t => { c with backupSuffix := t })
  else if isField "strict" name then
    set ((boolOver "strict" c.strict v).map fun b => { c with strict := b })
  else if isField "rules" name then rulesOver s v
  else .error (.unknownField name)

def configOfJson : Json → Except JsonError Config
  | .null => .ok .empty
  | .object members =>
    (members.foldlM (fun s (name, v) => configMember s name v) (⟨.empty, []⟩ : JsonState)).map
      JsonState.config
  | _ => .error (.wrongType "configuration")

def parseJson (text : Bytes) : Except JsonError Config :=
  match Json.read text with
  | none => .error .malformed
  | some v => configOfJson v

end Retouch.Document
