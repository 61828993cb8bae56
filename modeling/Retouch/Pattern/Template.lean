import Retouch.Text.Blank

/-! Templates: texts whose blanks match any other blanks.
A template is matched through a regular expression in which its tokens stand for themselves and
each run of blanks between two tokens for any non-empty run. -/
namespace Retouch.Pattern

/-- The characters that mean something in a regular expression: `\.+*?()|[]{}^$`. -/
def isSpecial (b : UInt8) : Bool :=
  b ∈ ([0x5C, 0x2E, 0x2B, 0x2A, 0x3F, 0x28, 0x29, 0x7C, 0x5B, 0x5D, 0x7B, 0x7D, 0x5E, 0x24] :
    List UInt8)

def escapeToken (token : Bytes) : Bytes :=
  token.flatMap fun b => if isSpecial b then [0x5C, b] else [b]

def anyBlanks : Bytes := "\\s+"

def templateExpression (tokens : List Bytes) : Bytes :=
  anyBlanks.intercalate (tokens.map escapeToken)

end Retouch.Pattern
