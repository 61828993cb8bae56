import Retouch.Document.Hcl.Expr
import Retouch.Text.Blank

/-! Templates: texts with values and directives in them. -/
namespace Retouch.Document.Hcl

inductive Piece where
  | text (cs : List Nat)
  | value (e : Expr)
  | ifStart (condition : Expr)
  | elseMark
  | ifEnd
  | forStart (key : Option Bytes) (name : Bytes) (source : Expr)
  | forEnd
  deriving Inhabited

/-- A piece, and whether blanks before and behind it are taken off. -/
structure TrimmedPiece where
  piece : Piece
  trimBefore : Bool
  trimAfter : Bool

namespace Template

def hexDigit? (c : Nat) : Option Nat :=
  if 0x30 ≤ c && c ≤ 0x39 then some (c - 0x30)
  else if 0x41 ≤ c && c ≤ 0x46 then some (c - 0x37)
  else if 0x61 ≤ c && c ≤ 0x66 then some (c - 0x57)
  else none

def charOf? (digits : List Nat) : Option Nat := do
  let v ← digits.foldlM (fun v d => (hexDigit? d).map fun x => v * 16 + x) 0
  if CodePoint.isScalar v then some v else none

def escape? (c : Nat) : Option Nat :=
  if c == 0x6E then some 0x0A
  else if c == 0x72 then some 0x0D
  else if c == 0x74 then some 0x09
  else if c == 0x22 || c == 0x5C then some c
  else none

/-- What a literal stands for, from a place that lies so many characters ahead. In quotes there are
escape sequences, and everywhere the doubled sign before a brace stands for a single one. -/
def decode (inQuotes : Bool) : Nat → List Nat → Option (List Nat)
  | _, [] => some []
  | skip + 1, _ :: rest => decode inQuotes skip rest
  | 0, c :: rest =>
    if inQuotes && c == 0x5C then
      match rest with
      | 0x75 :: a :: b :: x :: d :: _ => do
        let v ← charOf? [a, b, x, d]
        return v :: (← decode inQuotes 5 rest)
      | 0x55 :: a :: b :: x :: d :: e :: f :: g :: h :: _ => do
        let v ← charOf? [a, b, x, d, e, f, g, h]
        return v :: (← decode inQuotes 9 rest)
      | e :: _ => do
        let v ← escape? e
        return v :: (← decode inQuotes 1 rest)
      | [] => none
    else
      match rest with
      | d :: 0x7B :: _ =>
        if (c == 0x24 || c == 0x25) && d == c then do
          return c :: 0x7B :: (← decode inQuotes 2 rest)
        else do return c :: (← decode inQuotes 0 rest)
      | _ => do return c :: (← decode inQuotes 0 rest)

/-- Takes off the blanks around sequences that ask for it; the flag is for the first piece. -/
def trim : Bool → List TrimmedPiece → List Piece
  | _, [] => []
  | before, p :: rest =>
    let behind := (rest.head?.map (·.trimBefore)).getD false
    let piece := match p.piece with
      | .text cs =>
        let cs := if before then cs.dropWhile isBlank else cs
        .text (if behind then (cs.reverse.dropWhile isBlank).reverse else cs)
      | other => other
    piece :: trim p.trimAfter rest

def endsLine : Piece → Bool
  | .text cs => cs.getLast? == some 0x0A
  | _ => false

/-- The number of blanks before a piece that starts a line. Empty lines do not count. -/
def indentOf : Piece → Option Nat
  | .text cs =>
    if cs.all isBlank && cs.getLast? == some 0x0A then none
    else some (cs.takeWhile isBlank).length
  | _ => some 0

/-- The least indentation of the lines of a template; the flag says whether the first piece starts
one. -/
def leastIndent : Bool → List Piece → Option Nat
  | _, [] => none
  | lineStart, p :: rest =>
    let more := leastIndent (endsLine p) rest
    if lineStart then
      match indentOf p, more with
      | some n, some m => some (min n m)
      | some n, none => some n
      | none, m => m
    else more

/-- Takes an indentation off the lines of a template, empty ones aside. -/
def outdent (n : Nat) : Bool → List Piece → List Piece
  | _, [] => []
  | lineStart, p :: rest =>
    let piece := match p with
      | .text cs => if lineStart && (indentOf p).isSome then .text (cs.drop n) else p
      | _ => p
    piece :: outdent n (endsLine p) rest

def flush (ps : List Piece) : List Piece :=
  outdent ((leastIndent true ps).getD 0) true ps

/-- The parts of a template up to a mark that ends a directive around it. -/
def parts : Nat → List Piece → Option (List Expr × List Piece)
  | 0, _ => none
  | _, [] => some ([], [])
  | fuel + 1, p :: rest =>
    match p with
    | .text cs => do
      let (more, rest) ← parts fuel rest
      return (.value (.text (CodePoint.encodeAll cs)) :: more, rest)
    | .value e => do
      let (more, rest) ← parts fuel rest
      return (e :: more, rest)
    | .ifStart c => do
      let (yes, rest) ← parts fuel rest
      match rest with
      | .elseMark :: rest =>
        let (no, rest) ← parts fuel rest
        match rest with
        | .ifEnd :: rest =>
          let (more, rest) ← parts fuel rest
          return (.conditional c (.template yes) (.template no) :: more, rest)
        | _ => none
      | .ifEnd :: rest =>
        let (more, rest) ← parts fuel rest
        return (.conditional c (.template yes) (Expr.literal []) :: more, rest)
      | _ => none
    | .forStart key name source => do
      let (body, rest) ← parts fuel rest
      match rest with
      | .forEnd :: rest =>
        let (more, rest) ← parts fuel rest
        return (.join (.forTuple key name source (.template body) (.value (.bool true))) :: more,
          rest)
      | _ => none
    | mark => some ([], mark :: rest)

/-- The expression of a template. A value that stands alone keeps its type. -/
def ofPieces (flushed : Bool) (ps : List TrimmedPiece) : Option Expr :=
  let ps := trim false ps
  let ps := if flushed then flush ps else ps
  match ps with
  | [.value e] => some (.grouped e)
  | _ =>
    match parts (ps.length + 1) ps with
    | some (es, []) => some (.template es)
    | _ => none

end Template

end Retouch.Document.Hcl
