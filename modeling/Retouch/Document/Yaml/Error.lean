import Retouch.Text.Quoted

/-! Why a YAML text is no rule file. -/
namespace Retouch.Document.Yaml

/-- Causes, with the line where they were met, counted from zero. -/
inductive Error where
  | unreadable
  | noDocument
  | tokenStart (line : Nat)
  | contextual (what : String) (line : Nat)
  | lostKey (line : Nat)
  | tooDeep (line : Nat)
  | directive (line : Nat)
  | tag (line : Nat)
  | anchor (line : Nat)
  | quoted (line : Nat)
  | escape (line : Nat)
  | blockHeader (line : Nat)
  | tabIndent (line : Nat)
  | structural (expected : String)
  | undefinedHandle (handle : Bytes)
  | version
  | repeatedDirective
  | unknownAnchor (name : Bytes)
  | recursiveAnchor (name : Bytes)
  | repeatedKey (key : Bytes)
  | unknownField (name : Bytes)
  | wrongType (expected : String)
  | wrongTag (value : Bytes)
  | base64
  | mergeSource
  deriving DecidableEq, Repr

namespace Error

def place (line : Nat) : Bytes := "line " ++ Bytes.ofNat (line + 1) ++ ": "

def message : Error → Bytes
  | .unreadable => "the text holds characters that are not allowed"
  | .noDocument => "the text holds no document"
  | .tokenStart line => place line ++ "no token starts here"
  | .contextual what line => place line ++ what ++ " is not allowed in this context"
  | .lostKey line => place line ++ "a key has no value sign"
  | .tooDeep line => place line ++ "nested too deeply"
  | .directive line => place line ++ "malformed directive"
  | .tag line => place line ++ "malformed tag"
  | .anchor line => place line ++ "malformed anchor or alias"
  | .quoted line => place line ++ "the quoted text has no end"
  | .escape line => place line ++ "unknown escape sequence"
  | .blockHeader line => place line ++ "malformed header of a block text"
  | .tabIndent line => place line ++ "a tab in the indentation"
  | .structural expected => "expected " ++ Bytes.ofString expected
  | .undefinedHandle handle => "undefined tag handle " ++ handle.quoted
  | .version => "unknown version"
  | .repeatedDirective => "repeated directive"
  | .unknownAnchor name => "unknown anchor " ++ name.quoted
  | .recursiveAnchor name => "anchor " ++ name.quoted ++ " contains itself"
  | .repeatedKey key => "key " ++ key.quoted ++ " is already defined"
  | .unknownField name => "unknown field " ++ name.quoted
  | .wrongType expected => "value is no " ++ Bytes.ofString expected
  | .wrongTag value => "value " ++ value.quoted ++ " does not fit its tag"
  | .base64 => "invalid base64 text"
  | .mergeSource => "only mappings can be merged"

end Error

end Retouch.Document.Yaml
