/-! How far an operation got. -/
namespace Retouch

/-- The stages of an operation, in order. -/
inductive Stage where
  | start
  | loaded
  | transformed
  | written
  deriving DecidableEq, Repr

namespace Stage

def name : Stage → String
  | .start => "start"
  | .loaded => "loaded"
  | .transformed => "transformed"
  | .written => "written"

def ofNumber? (n : Int) : Option Stage :=
  if n = 0 then some .start
  else if n = 1 then some .loaded
  else if n = 2 then some .transformed
  else if n = 3 then some .written
  else none

/-- The name of the stage with a number; other numbers are unknown. -/
def nameOfNumber (n : Int) : String := ((ofNumber? n).map name).getD "unknown"

theorem nameOfNumber_eq_unknown_iff (n : Int) : nameOfNumber n = "unknown" ↔ n < 0 ∨ 3 < n := by
  by_cases known : n = 0 ∨ n = 1 ∨ n = 2 ∨ n = 3
  · rcases known with rfl | rfl | rfl | rfl <;> decide
  · have none : ofNumber? n = none := by
      unfold ofNumber?
      repeat rw [if_neg (by omega)]
    simp only [nameOfNumber, none, Option.map_none, Option.getD_none, true_iff]
    omega

end Stage

end Retouch
