import Retouch.Config
import Retouch.Document.Hcl.Body
import Retouch.Document.Hcl.Eval

/-! Rule files in HCL.
A rule is a block whose label is its name. -/
namespace Retouch.Document

open Hcl

/-- The values of some attributes of a body, which may have no others. -/
def hclValues (known : List String) (body : Body) : Except Hcl.Error (List (Bytes × Value)) :=
  body.attributes.mapM fun a => do
    if !(known.any fun k => Bytes.ofString k == a.name) then
      throw (Hcl.Error.unknownAttribute a.name)
    return (a.name, ← a.value.eval .empty)

/-- The text of an attribute, which is empty when there is none. -/
def hclText (values : List (Bytes × Value)) (name : String) : Except Hcl.Error Bytes :=
  match Value.field? name values with
  | some v => v.toText
  | none => .ok []

/-- The truth value of an attribute, which is false when there is none. -/
def hclFlag (values : List (Bytes × Value)) (name : String) : Except Hcl.Error Bool :=
  match Value.field? name values with
  | some v => v.toBool
  | none => .ok false

def hclEntry (block : Bytes × List Bytes × Body) : Except Hcl.Error RuleEntry := do
  let (name, labels, body) := block
  if name != Bytes.ofString "rule" then throw (Hcl.Error.unknownBlock name)
  match labels with
  | [label] =>
    if let (name, _, _) :: _ := body.blocks then throw (Hcl.Error.unknownBlock name)
    let values ← hclValues ["kind", "match", "replace", "files"] body
    if (Value.field? "match" values).isNone then throw (Hcl.Error.missingAttribute "match")
    return ⟨label, ← hclText values "kind", ← hclText values "match", ← hclText values "replace",
      ← hclText values "files"⟩
  | _ => throw (Hcl.Error.labels name)

def configOfHcl (body : Body) : Except Hcl.Error Config := do
  let values ← hclValues ["target", "backup", "backup_suffix", "strict"] body
  let rules ← body.blocks.mapM hclEntry
  return ⟨← hclText values "target", ← hclFlag values "backup", ← hclText values "backup_suffix",
    ← hclFlag values "strict", rules, []⟩

def parseHcl (text : Bytes) : Except Hcl.Error Config :=
  match Body.ofText text with
  | .error e => .error e
  | .ok body => configOfHcl body

end Retouch.Document
