/-!
# Rectangles

Rectangles on the 320 by 200 screen. The left and upper edges belong to a rectangle, the right and
lower ones do not; a rectangle whose width or height is not positive has no points.
-/

namespace ArenaData

/-- A rectangle of screen pixels. -/
structure Rect where
  /-- The leftmost column. -/
  x : Int
  /-- The uppermost row. -/
  y : Int
  /-- The number of columns. -/
  width : Int
  /-- The number of rows. -/
  height : Int
  deriving DecidableEq, Repr

namespace Rect

/-- The first column to the right of the rectangle. -/
def right (r : Rect) : Int := r.x + r.width

/-- The first row below the rectangle. -/
def bottom (r : Rect) : Int := r.y + r.height

/-- The pixel lies in the rectangle. -/
def contains (r : Rect) (x y : Int) : Bool :=
  r.x ≤ x && x < r.right && r.y ≤ y && y < r.bottom

end Rect

end ArenaData
