import Retouch.Text.Blank

/-! Short views of long texts. -/
namespace Retouch

/-- The most code points of a preview. -/
def previewWidth : Nat := 48

/-- A text on one line with single spaces, cut with an ellipsis if it is too long. -/
def preview (b : Bytes) : Bytes :=
  let line := ([0x20] : Bytes).intercalate b.fields
  let points := CodePoint.values line
  if points.length > previewWidth then
    CodePoint.encodeAll (points.take (previewWidth - 1) ++ [0x2026])
  else line

end Retouch
