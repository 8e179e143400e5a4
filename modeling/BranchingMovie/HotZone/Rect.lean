/-!
# Rectangles

Rectangles of a click map, given by two corners.  The extent is the difference of the corners as a
word of 32 bits.  A second corner that is not beyond the first gives a rectangle without points as
long as the difference can be kept in 32 bits.  A second corner too far in front of the first does
not: the difference wraps round to a positive extent, and the rectangle has points.
-/

namespace BranchingMovie

/-- A rectangle by its first corner and its extent. -/
structure Rect where
  x : Int32
  y : Int32
  width : Int32
  height : Int32
  deriving DecidableEq, Repr

namespace Rect

/-- The rectangle between two corners.  An extent beyond 32 bits wraps around. -/
def ofCorners (x1 y1 x2 y2 : Int32) : Rect :=
  ⟨x1, y1, x2 - x1, y2 - y1⟩

/-- The point lies in the rectangle; its right and lower edges do not belong to it. -/
def contains (rect : Rect) (x y : Int32) : Bool :=
  rect.x.toInt ≤ x.toInt && x.toInt < rect.x.toInt + rect.width.toInt &&
    (rect.y.toInt ≤ y.toInt && y.toInt < rect.y.toInt + rect.height.toInt)

end Rect

/-- A rectangle with its place among the rectangles of its picture, which is the slot of the
condition that a click on it takes. -/
structure HotZone where
  slot : Nat
  rect : Rect
  deriving DecidableEq, Repr

end BranchingMovie
