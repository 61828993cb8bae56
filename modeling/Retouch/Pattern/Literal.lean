import Retouch.Bytes
import Retouch.Span

/-! Occurrences of a fixed text. -/
namespace Retouch.Pattern

/-- The occurrences of a text from an offset on that start at `resume` or behind it, each taken as
soon as it is seen. -/
def occurrencesFrom (word : Bytes) (resume offset : Nat) : Bytes → List Span
  | [] => []
  | b :: rest =>
    if resume ≤ offset && word.isPrefixOf (b :: rest) then
      ⟨offset, offset + word.length⟩ ::
        occurrencesFrom word (offset + word.length) (offset + 1) rest
    else occurrencesFrom word resume (offset + 1) rest

/-- The occurrences of a non-empty text that a scan from the left finds without overlap. -/
def occurrences (word content : Bytes) : List Span := occurrencesFrom word 0 0 content

end Retouch.Pattern
