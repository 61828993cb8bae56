import Retouch.Text.Blank
import Retouch.Text.Lowered

/-! The formats of rule files. -/
namespace Retouch.Document

inductive Format where
  | yaml
  | json
  | hcl
  deriving DecidableEq, Repr

namespace Format

def name : Format → String
  | .yaml => "yaml"
  | .json => "json"
  | .hcl => "hcl"

/-- Whether a name in small letters ends as the files of a format do. -/
def hasEnding (name : Bytes) (ending : String) : Bool := (Bytes.ofString ending).isSuffixOf name

def accepts (f : Format) (file : Bytes) : Bool :=
  match f with
  | .yaml => hasEnding file.lowered ".yaml" || hasEnding file.lowered ".yml"
  | .json => hasEnding file.trimBlanks.lowered ".json"
  | .hcl => hasEnding file.lowered ".hcl"

def ofFile? (file : Bytes) : Option Format :=
  [Format.hcl, .json, .yaml].find? (·.accepts file)

end Format

end Retouch.Document
