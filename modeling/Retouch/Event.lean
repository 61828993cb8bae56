import Retouch.Bytes

/-! Structured events, the record of what was done. -/
namespace Retouch

inductive Level where
  | debug
  | info
  | warn
  | error
  deriving DecidableEq, Repr

namespace Level

def name : Level → String
  | .debug => "debug"
  | .info => "info"
  | .warn => "warn"
  | .error => "error"

/-- The weight of a level: what is worse weighs more. -/
def weight : Level → Nat
  | .debug => 0
  | .info => 1
  | .warn => 2
  | .error => 3

end Level

inductive FieldValue where
  | text (value : Bytes)
  | number (value : Int)
  | flag (value : Bool)
  deriving DecidableEq, Repr

/-- An event; an empty message is left out of its record. -/
structure Event where
  level : Level
  message : Bytes
  fields : List (String × FieldValue)
  deriving DecidableEq, Repr

end Retouch
