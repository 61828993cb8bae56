import Retouch.Text.Quoted

/-! Why an HCL text is no rule file.
A text that is not well formed is told apart from one whose content is wrong. -/
namespace Retouch.Document.Hcl

inductive Error where
  /-- The text is not well formed. -/
  | malformed (expected : String)
  | repeatedAttribute (name : Bytes)
  | unknownAttribute (name : Bytes)
  | missingAttribute (name : String)
  | unknownBlock (name : Bytes)
  | labels (block : Bytes)
  | unknownVariable (name : Bytes)
  | noFunctions
  | noValue (what : String)
  | wrongType (expected : String)
  | index
  | repeatedKey (key : Bytes)
  | ambiguousKey
  | arithmetic
  deriving DecidableEq, Repr

namespace Error

/-- Whether the text itself is at fault and not its content. -/
def isMalformed : Error → Bool
  | .malformed _ | .repeatedAttribute _ => true
  | _ => false

def message : Error → Bytes
  | .malformed expected => "expected " ++ Bytes.ofString expected
  | .repeatedAttribute name => "attribute " ++ name.quoted ++ " is already set"
  | .unknownAttribute name => "unknown attribute " ++ name.quoted
  | .missingAttribute name => "attribute " ++ Bytes.ofString name ++ " is required"
  | .unknownBlock name => "unknown block " ++ name.quoted
  | .labels block => "wrong number of labels of block " ++ block.quoted
  | .unknownVariable name => "unknown variable " ++ name.quoted
  | .noFunctions => "there are no functions"
  | .noValue what => "no value given for " ++ Bytes.ofString what
  | .wrongType expected => "value is no " ++ Bytes.ofString expected
  | .index => "there is no such element"
  | .repeatedKey key => "key " ++ key.quoted ++ " is already set"
  | .ambiguousKey => "a key with dots must be quoted or in parentheses"
  | .arithmetic => "the result is not defined"

end Error

end Retouch.Document.Hcl
