import Retouch.Text.CodePoint

/-! Blanks.
Two classes are in use: the five layout bytes that a template treats as one wildcard, and the
white space of Unicode that trims names and previews. -/
namespace Retouch

def isLayout (b : UInt8) : Bool :=
  b == 0x09 || b == 0x0A || b == 0x0C || b == 0x0D || b == 0x20

def isBlank (c : Nat) : Bool :=
  (0x09 ≤ c && c ≤ 0x0D) || c == 0x20 || c == 0x85 || c == 0xA0 || c == 0x1680
    || (0x2000 ≤ c && c ≤ 0x200A) || c == 0x2028 || c == 0x2029 || c == 0x202F || c == 0x205F
    || c == 0x3000

namespace Bytes

def pieces (b : Bytes) : List (CodePoint × Bytes) :=
  cut b (CodePoint.decode b)
where
  cut (b : Bytes) : List CodePoint → List (CodePoint × Bytes)
    | [] => []
    | c :: rest => (c, b.take c.width) :: cut (b.drop c.width) rest

/-- The text without white space at its ends. -/
def trimBlanks (b : Bytes) : Bytes :=
  let body := b.pieces.dropWhile fun p => isBlank p.1.value
  ((body.reverse.dropWhile fun p => isBlank p.1.value).reverse).flatMap (·.2)

/-- The maximal pieces of a text without white space. -/
def fields (b : Bytes) : List Bytes :=
  (b.pieces.foldr (fun p acc =>
    if isBlank p.1.value then [] :: acc
    else match acc with
      | [] => [p.2]
      | w :: more => (p.2 ++ w) :: more) [[]]).filter (· ≠ [])

/-- The maximal pieces of a text without layout bytes. -/
def tokens (b : Bytes) : List Bytes :=
  (b.foldr (fun x acc =>
    if isLayout x then [] :: acc
    else match acc with
      | [] => [[x]]
      | w :: more => (x :: w) :: more) [[]]).filter (· ≠ [])

end Bytes

end Retouch
