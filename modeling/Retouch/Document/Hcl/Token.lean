import Retouch.Text.Blank
import Retouch.Unicode.Identifier

/-! The tokens of an HCL text.
Inside quotes and heredocs a text is read as literal pieces with sequences in braces between them,
and inside the braces of a sequence as code again. -/
namespace Retouch.Document.Hcl

inductive Sign where
  | assign
  | equal
  | notEqual
  | less
  | greater
  | lessEqual
  | greaterEqual
  | both
  | either
  | not
  | plus
  | minus
  | star
  | slash
  | percent
  | question
  | colon
  | doubleColon
  | comma
  | dot
  | ellipsis
  | arrow
  | openParen
  | closeParen
  | openBracket
  | closeBracket
  | openBrace
  | closeBrace
  deriving DecidableEq, Repr

/-- Tokens. Comments leave no token, but the line break that ends one does. -/
inductive Token where
  | name (text : List Nat)
  | number (text : List Nat)
  | sign (s : Sign)
  | newline
  | openQuote
  | closeQuote
  /-- The start of a heredoc, and whether its indentation is taken off. -/
  | openHeredoc (flush : Bool)
  | closeHeredoc
  /-- A piece of literal text as it is written. -/
  | literal (text : List Nat)
  /-- The start of a value in a text, and whether blanks before it are taken off. -/
  | openValue (trim : Bool)
  /-- The start of a directive in a text, and whether blanks before it are taken off. -/
  | openDirective (trim : Bool)
  /-- The end of either, and whether blanks behind it are taken off. -/
  | closeSequence (trim : Bool)
  /-- A character that belongs to no token. -/
  | invalid
  deriving DecidableEq, Repr

inductive Mode where
  /-- Code, inside a sequence or not, with the number of open braces. -/
  | code (inSequence : Bool) (depth : Nat)
  | quoted
  /-- A heredoc with its marker, and whether a line starts. -/
  | heredoc (marker : List Nat) (lineStart : Bool)
  deriving DecidableEq, Repr

/-- One step of the reading: its tokens, the modes after it, the innermost first, and the rest. -/
structure Step where
  tokens : List Token
  modes : List Mode
  rest : List Nat

/-- The value that stands for a byte which is no character. -/
def malformedChar : Nat := 0x110000

/-- The characters of a text. A byte order mark at its start does not count. -/
def characters (text : Bytes) : List Nat :=
  let cs := (CodePoint.decode text).map fun c => if c.isMalformed then malformedChar else c.value
  match cs with
  | 0xFEFF :: rest => rest
  | _ => cs

def isDigit (c : Nat) : Bool := 0x30 ≤ c && c ≤ 0x39

def isLetter (c : Nat) : Bool := (0x41 ≤ c && c ≤ 0x5A) || (0x61 ≤ c && c ≤ 0x7A)

/-- Letters and the underscore, and beyond ASCII what may start an identifier. -/
def startsName (c : Nat) : Bool :=
  if c < 0x80 then isLetter c || c == 0x5F else Unicode.identifierStart.contains c

/-- Letters, digits, the underscore and the dash, and beyond ASCII what may follow in an
identifier. -/
def continuesName (c : Nat) : Bool :=
  if c < 0x80 then isLetter c || isDigit c || c == 0x5F || c == 0x2D
  else Unicode.identifierContinue.contains c

def lineBreak? : List Nat → Option (List Nat)
  | 0x0A :: rest => some rest
  | 0x0D :: 0x0A :: rest => some rest
  | _ => none

def commentEnd? : List Nat → Option (List Nat)
  | 0x2A :: 0x2F :: rest => some rest
  | _ :: rest => commentEnd? rest
  | [] => none

def numberText (text : List Nat) : List Nat :=
  let whole := text.takeWhile isDigit
  let fraction (t : List Nat) : List Nat :=
    match t with
    | 0x2E :: rest =>
      let ds := rest.takeWhile isDigit
      if ds.isEmpty then [] else 0x2E :: ds
    | _ => []
  let exponent (t : List Nat) : List Nat :=
    match t with
    | e :: rest =>
      if e == 0x65 || e == 0x45 then
        let sign := (rest.take 1).filter fun c => c == 0x2B || c == 0x2D
        let ds := (rest.drop sign.length).takeWhile isDigit
        if ds.isEmpty then [] else e :: sign ++ ds
      else []
    | [] => []
  let f := fraction (text.drop whole.length)
  whole ++ f ++ exponent (text.drop (whole.length + f.length))

def signs : List (String × Sign) :=
  [("...", .ellipsis), ("==", .equal), ("!=", .notEqual), ("<=", .lessEqual), (">=", .greaterEqual),
    ("&&", .both), ("||", .either), ("=>", .arrow), ("::", .doubleColon), ("=", .assign),
    ("<", .less), (">", .greater), ("!", .not), ("+", .plus), ("-", .minus), ("*", .star),
    ("/", .slash), ("%", .percent), ("?", .question), (":", .colon), (",", .comma), (".", .dot),
    ("(", .openParen), (")", .closeParen), ("[", .openBracket), ("]", .closeBracket)]

def sign? (text : List Nat) : Option (Sign × List Nat) :=
  (signs.find? fun s => (s.1.toList.map Char.toNat).isPrefixOf text).map fun s =>
    (s.2, text.drop s.1.length)

/-- The start of a heredoc at the head of a text: whether it is flushed, its marker and the rest.
Nothing but a line break may follow the marker. -/
def heredoc? (text : List Nat) : Option (Bool × List Nat × List Nat) :=
  match text with
  | 0x3C :: 0x3C :: rest =>
    let (flush, rest) := match rest with
      | 0x2D :: rest => (true, rest)
      | _ => (false, rest)
    match rest with
    | c :: more =>
      if startsName c then
        let marker := c :: more.takeWhile continuesName
        (lineBreak? (rest.drop marker.length)).map fun rest => (flush, marker, rest)
      else none
    | [] => none
  | _ => none

/-- The end of a line comment: the line break counts. -/
def afterComment (modes : List Mode) (text : List Nat) : Step :=
  match text.dropWhile (· != 0x0A) with
  | _ :: rest => ⟨[.newline], modes, rest⟩
  | [] => ⟨[], modes, []⟩

/-- A token of code other than blanks, line breaks and comments, given the modes around. -/
def codeToken (inSequence : Bool) (depth : Nat) (outer : List Mode) (c : Nat) (rest : List Nat) :
    Step :=
  let here : List Mode := .code inSequence depth :: outer
  let text := c :: rest
  if isDigit c then
    let n := numberText text
    ⟨[.number n], here, text.drop n.length⟩
  else if startsName c then
    let n := c :: rest.takeWhile continuesName
    ⟨[.name n], here, text.drop n.length⟩
  else if c == 0x22 then ⟨[.openQuote], .quoted :: here, rest⟩
  else if c == 0x7B then ⟨[.sign .openBrace], .code inSequence (depth + 1) :: outer, rest⟩
  else if c == 0x7D then
    match inSequence, depth with
    | true, 0 => ⟨[.closeSequence false], outer, rest⟩
    | _, _ => ⟨[.sign .closeBrace], .code inSequence (depth - 1) :: outer, rest⟩
  else if c == 0x7E && rest.head? == some 0x7D then
    ⟨[.closeSequence true], if inSequence && depth == 0 then outer else here, rest.drop 1⟩
  else
    match heredoc? text with
    | some (flush, marker, rest) => ⟨[.openHeredoc flush], .heredoc marker true :: here, rest⟩
    | none =>
      if c == 0x2A && rest.head? == some 0x2A then ⟨[.invalid], here, rest.drop 1⟩
      else
        match sign? text with
        | some (s, rest) => ⟨[.sign s], here, rest⟩
        | none => ⟨[.invalid], here, rest⟩

def codeStep (inSequence : Bool) (depth : Nat) (outer : List Mode) (c : Nat) (rest : List Nat) :
    Step :=
  let here : List Mode := .code inSequence depth :: outer
  if c == 0x20 || c == 0x09 then ⟨[], here, rest⟩
  else
    match lineBreak? (c :: rest) with
    | some rest => ⟨[.newline], here, rest⟩
    | none =>
      if c == 0x23 || (c == 0x2F && rest.head? == some 0x2F) then afterComment here rest
      else
        match (if c == 0x2F && rest.head? == some 0x2A then commentEnd? (rest.drop 1)
          else none) with
        | some rest => ⟨[], here, rest⟩
        | none => codeToken inSequence depth outer c rest

/-- The start of a sequence at the head of a text, as a token with its width. -/
def opener? : List Nat → Option (Token × Nat)
  | 0x24 :: 0x7B :: 0x7E :: _ => some (.openValue true, 3)
  | 0x24 :: 0x7B :: _ => some (.openValue false, 2)
  | 0x25 :: 0x7B :: 0x7E :: _ => some (.openDirective true, 3)
  | 0x25 :: 0x7B :: _ => some (.openDirective false, 2)
  | _ => none

/-- Whether an escaped start of a sequence is at the head of a text: its sign stands twice. -/
def escapedOpener : List Nat → Bool
  | 0x24 :: 0x24 :: 0x7B :: _ => true
  | 0x25 :: 0x25 :: 0x7B :: _ => true
  | _ => false

/-- The literal text up to the start of a sequence or a character at which it stops, from a place
that lies so many characters ahead. In quotes a backslash takes the next character along. -/
def literalRun (inQuotes : Bool) (stops : Nat → Bool) : Nat → List Nat → List Nat
  | _, [] => []
  | skip + 1, c :: rest => c :: literalRun inQuotes stops skip rest
  | 0, c :: rest =>
    if stops c then []
    else if escapedOpener (c :: rest) then c :: literalRun inQuotes stops 2 rest
    else if (opener? (c :: rest)).isSome then []
    else if inQuotes && c == 0x5C && rest.head?.all (fun d => !stops d || d == 0x22) then
      c :: literalRun inQuotes stops 1 rest
    else c :: literalRun inQuotes stops 0 rest

def quotedStep (outer : List Mode) (c : Nat) (rest : List Nat) : Step :=
  let text := c :: rest
  if c == 0x22 then ⟨[.closeQuote], outer, rest⟩
  else
    match opener? text with
    | some (t, width) => ⟨[t], .code true 0 :: .quoted :: outer, text.drop width⟩
    | none =>
      let run := literalRun true
        (fun d => d == 0x22 || d == 0x0A || d == 0x0D || d == malformedChar)
        0 text
      if run.isEmpty then ⟨[.invalid], .quoted :: outer, rest⟩
      else ⟨[.literal run], .quoted :: outer, text.drop run.length⟩

/-- A text without blanks at its ends. -/
def trimmed (cs : List Nat) : List Nat :=
  ((cs.dropWhile isBlank).reverse.dropWhile isBlank).reverse

/-- A step inside a heredoc. A line that holds the marker alone ends it. -/
def heredocStep (marker : List Nat) (lineStart : Bool) (outer : List Mode) (c : Nat)
    (rest : List Nat) : Step :=
  let text := c :: rest
  match opener? text with
  | some (t, width) => ⟨[t], .code true 0 :: .heredoc marker false :: outer, text.drop width⟩
  | none =>
    let run := literalRun false (fun d => d == 0x0A || d == 0x0D || d == malformedChar) 0 text
    match lineBreak? (text.drop run.length) with
    | some next =>
      if lineStart && trimmed run == marker then ⟨[.closeHeredoc, .newline], outer, next⟩
      else
        let line := text.take (text.length - next.length)
        ⟨[.literal line], .heredoc marker true :: outer, next⟩
    | none =>
      if run.isEmpty then ⟨[.invalid], .heredoc marker false :: outer, rest⟩
      else ⟨[.literal run], .heredoc marker false :: outer, text.drop run.length⟩

def step (modes : List Mode) (c : Nat) (rest : List Nat) : Step :=
  match modes with
  | [] => ⟨[.invalid], [], rest⟩
  | .code inSequence depth :: outer => codeStep inSequence depth outer c rest
  | .quoted :: outer => quotedStep outer c rest
  | .heredoc marker lineStart :: outer => heredocStep marker lineStart outer c rest

/-- The tokens from a place on, at most so many steps. -/
def tokensFrom : Nat → List Mode → List Nat → List Token
  | 0, _, _ => []
  | _, _, [] => []
  | fuel + 1, modes, c :: rest =>
    let s := step modes c rest
    s.tokens ++ tokensFrom fuel s.modes s.rest

def tokens (text : Bytes) : List Token :=
  let cs := characters text
  tokensFrom cs.length [.code false 0] cs

end Retouch.Document.Hcl
