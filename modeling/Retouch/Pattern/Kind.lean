import Retouch.Text.Blank
import Retouch.Text.Lowered
import Retouch.Text.Quoted

/-! How the source of a pattern is read. -/
namespace Retouch.Pattern

inductive Kind where
  /-- A template in which every run of blanks stands for any other. -/
  | whitespace
  /-- A regular expression. -/
  | regexp
  /-- A text that is matched byte for byte. -/
  | literal
  deriving DecidableEq, Repr

namespace Kind

def name : Kind → String
  | .whitespace => "whitespace"
  | .regexp => "regexp"
  | .literal => "literal"

/-- The kind with exactly this name; the empty name means a template. -/
def ofName? (name : Bytes) : Option Kind :=
  if name = [] then some .whitespace
  else [Kind.whitespace, .regexp, .literal].find? fun k => Bytes.ofString k.name == name

/-- The kind with this name in a rule file, where blanks around it and letter case do not count. -/
def ofWritten? (name : Bytes) : Option Kind :=
  ofName? (Bytes.lowered (Bytes.trimBlanks name))

end Kind

/-- What is said of a name that is no kind. -/
def unknownKindMessage (name : Bytes) : Bytes :=
  "unknown pattern kind " ++ name.quoted

end Retouch.Pattern
