import Retouch.Bytes

/-! Well-formed globs.
Every class and every group of alternatives has to be closed, no class may be empty, and no
backslash may stand at the end. -/
namespace Retouch.Glob

inductive Mode where
  | outside
  | escaped
  /-- Right behind an opening bracket. -/
  | classStart
  /-- Behind the sign that negates a class. -/
  | classFirst
  | inClass
  | classEscaped
  deriving DecidableEq, Repr

def classMode (b : UInt8) : Mode :=
  if b == 0x5C then .classEscaped
  else if b == 0x5D then .outside
  else .inClass

/-- Whether a glob is well formed from a place on, with `depth` groups open there. -/
def validFrom (depth : Nat) (mode : Mode) : Bytes → Bool
  | [] => mode == .outside && depth == 0
  | b :: rest =>
    match mode with
    | .escaped => validFrom depth .outside rest
    | .outside =>
      if b == 0x5C then validFrom depth .escaped rest
      else if b == 0x5B then validFrom depth .classStart rest
      else if b == 0x7B then validFrom (depth + 1) .outside rest
      else if b == 0x7D then depth != 0 && validFrom (depth - 1) .outside rest
      else validFrom depth .outside rest
    | .classStart =>
      if b == 0x5E || b == 0x21 then validFrom depth .classFirst rest
      else if b == 0x5D then false
      else validFrom depth (classMode b) rest
    | .classFirst => if b == 0x5D then false else validFrom depth (classMode b) rest
    | .inClass => validFrom depth (classMode b) rest
    | .classEscaped => validFrom depth .inClass rest

def isValid (glob : Bytes) : Bool := validFrom 0 .outside glob

end Retouch.Glob
