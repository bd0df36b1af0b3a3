import SyntaxExplorer.Text.Point
/-!
Extents of text: a count of bytes with the point that it reaches from the origin.  Adding extents
puts one text after another.
-/

namespace SyntaxExplorer

structure Extent where
  bytes : Nat := 0
  point : Point := .origin
  deriving BEq, DecidableEq, Hashable, Repr, Inhabited

namespace Extent

def zero : Extent := {}

def addPoints (left right : Point) : Point :=
  if 0 < right.row then ⟨left.row + right.row, right.column⟩
  else ⟨left.row, left.column + right.column⟩

/-- The point from `right` to `left`. -/
def subPoints (left right : Point) : Point :=
  if right.row < left.row then ⟨left.row - right.row, left.column⟩
  else ⟨0, left.column - right.column⟩

instance : Add Extent where
  add left right := ⟨left.bytes + right.bytes, addPoints left.point right.point⟩

/-- The extent from `right` to `left`. -/
instance : Sub Extent where
  sub left right := ⟨left.bytes - right.bytes, subPoints left.point right.point⟩

/-- The extent from `right` to `left`; nothing where `right` is not before `left`. -/
def clampedSub (left right : Extent) : Extent :=
  if right.bytes < left.bytes then left - right else zero

end Extent

end SyntaxExplorer
