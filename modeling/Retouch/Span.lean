/-! Ranges of a text. -/
namespace Retouch

structure Span where
  start : Nat
  stop : Nat
  deriving DecidableEq, Repr

end Retouch
