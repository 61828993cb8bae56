import Retouch.Diff.LineTable
import Retouch.Diff.Script

/-! Line diffs of two texts. -/
namespace Retouch.Diff

def contextLines : Nat := 2

/-- The kept lines that are shown. At the start of the text nothing is shown before the gap, and at
its end nothing behind it; a gap shows as three dots. -/
def trimContext (lines : List Bytes) (first last : Bool) : List Bytes :=
  let head := if first then 0 else contextLines
  let tail := if last then 0 else contextLines
  if lines.length ≤ head + tail then lines
  else lines.take head ++ ("..." : Bytes) :: lines.drop (lines.length - tail)

def marked (mark : String) (lines : List Bytes) : Bytes :=
  lines.flatMap fun l => Bytes.ofString mark ++ l ++ [0x0A]

/-- The lines of a chunk without their line feeds. -/
def chunkLines (t : LineTable) (c : Chunk) : List Bytes :=
  c.codes.map fun code => (t.line code).dropSuffix [0x0A]

def renderChunk (t : LineTable) (first last : Bool) (c : Chunk) : Bytes :=
  let lines := chunkLines t c
  match c.edit with
  | .delete => marked "- " lines
  | .insert => marked "+ " lines
  | .keep => marked "  " (trimContext lines first last)

/-- The text of the chunks of a script; `first` tells whether nothing stands before them. -/
def renderFrom (t : LineTable) (first : Bool) : List Chunk → Bytes
  | [] => []
  | c :: rest => renderChunk t first rest.isEmpty c ++ renderFrom t false rest

def script (a b : Bytes) : LineTable × List Chunk :=
  let (t, codesA) := LineTable.empty.encode a.lines
  let (t, codesB) := t.encode b.lines
  (t, compare codesA codesB)

/-- The line diff of two texts; equal texts have the empty diff. -/
def render (a b : Bytes) : Bytes :=
  if a = b then []
  else
    let (t, chunks) := script a b
    renderFrom t true chunks

end Retouch.Diff
