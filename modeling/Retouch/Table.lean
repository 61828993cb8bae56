import Retouch.Config
import Retouch.Preview
import Retouch.Unicode.Cluster

/-! Tables of text. -/
namespace Retouch

namespace Table

/-- A text without the codes that set terminal colours, if it holds the code that ends them. -/
def withoutColours (b : Bytes) : Bytes :=
  if holds b then strip 0 b else b
where
  holds : Bytes → Bool
    | [] => false
    | x :: rest => ([0x5B, 0x30, 0x6D] : Bytes).isPrefixOf (x :: rest) || holds rest
  code (b : Bytes) : Nat :=
    match b with
    | 0x1B :: 0x5B :: rest =>
      let body := rest.takeWhile fun x => (0x30 ≤ x && x ≤ 0x39) || x == 0x3B || x == 0x3F
      if !body.isEmpty && (rest.drop body.length).head? == some 0x6D then body.length + 3 else 0
    | _ => 0
  strip : Nat → Bytes → Bytes
    | _, [] => []
    | skip + 1, _ :: rest => strip skip rest
    | 0, x :: rest =>
      match code (x :: rest) with
      | 0 => x :: strip 0 rest
      | n + 1 => strip n rest

def lineWidth (line : Bytes) : Nat := Unicode.textColumns (CodePoint.values line)

def padLine (width : Nat) (line : Bytes) : Bytes :=
  line ++ List.replicate (width - lineWidth line) 0x20

def cellLines (cell : Bytes) : List Bytes := (cell.splitOn 0x0A).map withoutColours

def cellWidth (cell : Bytes) : Nat := ((cellLines cell).map lineWidth).foldl max 0

def columnWidths (rows : List (List Bytes)) : List Nat :=
  rows.foldl (fun widths row => merge widths (row.map cellWidth)) []
where
  merge : List Nat → List Nat → List Nat
    | a :: as, b :: bs => max a b :: merge as bs
    | [], bs => bs
    | as, [] => as

/-- The lines of a row; a cell with fewer lines than another one is blank in the rest. -/
def renderRow (widths : List Nat) (row : List Bytes) : Bytes :=
  let cells := row.map cellLines
  let height := (cells.map List.length).foldl max 0
  (List.range height).flatMap fun i =>
    (" | " : Bytes).intercalate ((widths.zip cells).map fun (w, lines) =>
      padLine w ((lines[i]?).getD [])) ++ [0x0A]

/-- The text of a table. Every column is as wide as its widest cell. -/
def render (rows : List (List Bytes)) : Bytes :=
  rows.flatMap (renderRow (columnWidths rows))

end Table

namespace Config

def ruleRow (number : Nat) (r : RuleEntry) : List Bytes :=
  [Bytes.ofNat number, r.name, r.kind, if r.files = [] then Bytes.ofString "*" else r.files,
    preview r.search]

/-- The configured rules in the order of their application. -/
def ruleTable (c : Config) : Bytes :=
  let header : List Bytes := ["#", "Name", "Kind", "Files", "Match"]
  Table.render (header :: c.rules.zipIdx.map fun (r, i) => ruleRow (i + 1) r)

end Config

end Retouch
