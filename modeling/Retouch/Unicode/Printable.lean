import Retouch.Unicode.Category

/-! Code points with a visible form.
Letters, marks, numbers, punctuation and symbols are printable, and of all blanks only the
space. -/
namespace Retouch.Unicode

def visibleCategories : List Category :=
  Category.all.filter fun c => "LMNPS".toList.any (· ∈ c.code.toList.take 1)

def visibleSet : CharSet :=
  ⟨visibleCategories.flatMap fun c => c.set.ranges⟩

def isPrintable (c : Nat) : Bool :=
  if c < 0x7F then 0x20 ≤ c else visibleSet.contains c

end Retouch.Unicode
