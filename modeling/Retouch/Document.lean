import Retouch.Document.Format
import Retouch.Document.HclConfig
import Retouch.Document.JsonConfig
import Retouch.Document.YamlConfig

/-! Rule files in any of their formats. -/
namespace Retouch.Document

/-- Why a text is no rule file. -/
inductive Error where
  | yaml (cause : Yaml.Error)
  | json (cause : JsonError)
  | hcl (cause : Hcl.Error)
  deriving DecidableEq, Repr

namespace Error

def message : Error → Bytes
  | .yaml e => "parsing YAML: " ++ e.message
  | .json e => "parsing JSON: " ++ e.message
  | .hcl e =>
    (if e.isMalformed then Bytes.ofString "parsing HCL: " else "decoding HCL: ") ++ e.message

end Error

def parse : Format → Bytes → Except Error Config
  | .yaml, text => (parseYaml text).mapError .yaml
  | .json, text => (parseJson text).mapError .json
  | .hcl, text => (parseHcl text).mapError .hcl

end Retouch.Document
