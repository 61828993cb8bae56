import Retouch.Bytes

/-! What can be wrong with a written regular expression. -/
namespace Retouch.Regexp

inductive Fault where
  | badRange
  | badEscape
  | badGroupName
  | badGroupFlags
  | nestedRepetition
  | badCount
  | badEncoding
  | nothingToRepeat
  | unclosedClass
  | unclosedGroup
  | unopenedGroup
  | trailingBackslash
  | tooDeep
  | tooLarge
  deriving DecidableEq, Repr

namespace Fault

def message : Fault → String
  | .badRange => "invalid character class range"
  | .badEscape => "invalid escape sequence"
  | .badGroupName => "invalid named capture"
  | .badGroupFlags => "invalid or unsupported Perl syntax"
  | .nestedRepetition => "invalid nested repetition operator"
  | .badCount => "invalid repeat count"
  | .badEncoding => "invalid UTF-8"
  | .nothingToRepeat => "missing argument to repetition operator"
  | .unclosedClass => "missing closing ]"
  | .unclosedGroup => "missing closing )"
  | .unopenedGroup => "unexpected )"
  | .trailingBackslash => "trailing backslash at end of expression"
  | .tooDeep => "expression nests too deeply"
  | .tooLarge => "expression too large"

end Fault

/-- A fault and the part of the expression that shows it. -/
structure Error where
  fault : Fault
  fragment : Bytes
  deriving DecidableEq, Repr

namespace Error

def message (e : Error) : Bytes :=
  "error parsing regexp: " ++ Bytes.ofString e.fault.message ++ ": \x60" ++ e.fragment ++ "\x60"

end Error

end Retouch.Regexp
