import CircuitSheet.Geometry.Point

/-!
# Page and bodies

A page has a margin on all sides; what is left is its usable area. Whatever is drawn on the
page has a body: a rectangle around its position. Edges that touch count as an overlap.
-/

namespace CircuitSheet

/-- A body's width and height. -/
structure Size (K : Type) where
  width : K
  height : K
  deriving DecidableEq, Repr

/-- The rectangle that an entity takes up, centred on its position. -/
structure Body (K : Type) where
  reference : String
  centre : Point K
  size : Size K
  deriving DecidableEq, Repr

namespace Body

variable {K : Type} [Scalar K]

/-- The left edge. -/
def left (body : Body K) : K := body.centre.x - body.size.width / 2.0

/-- The right edge. -/
def right (body : Body K) : K := body.centre.x + body.size.width / 2.0

/-- The upper edge. -/
def top (body : Body K) : K := body.centre.y - body.size.height / 2.0

/-- The lower edge. -/
def bottom (body : Body K) : K := body.centre.y + body.size.height / 2.0

/-- The area of the rectangle. -/
def area (body : Body K) : K := body.size.width * body.size.height

/-- The rectangles have a point in common. -/
def overlaps (first second : Body K) : Bool :=
  !(decide (first.right < second.left) || decide (second.right < first.left) ||
    decide (first.bottom < second.top) || decide (second.bottom < first.top))

/-- Overlapping is symmetric. -/
theorem overlaps_comm (first second : Body K) :
    first.overlaps second = second.overlaps first := by
  unfold overlaps
  ac_rfl

end Body

/-- A drawing page with a margin on all sides, in millimetres. -/
structure Page (K : Type) where
  width : K
  height : K
  margin : K
  deriving DecidableEq, Repr

namespace Page

variable {K : Type} [Scalar K]

/-- An A4 page in landscape format. -/
def a4 : Page K := ⟨297.0, 210.0, 10.0⟩

/-- The slack allowed where a body meets the edge of the usable area. -/
def slack : K := 1e-9

/-- The left edge of the usable area. -/
def minX (page : Page K) : K := page.margin

/-- The right edge of the usable area. -/
def maxX (page : Page K) : K := page.width - page.margin

/-- The upper edge of the usable area. -/
def minY (page : Page K) : K := page.margin

/-- The lower edge of the usable area. -/
def maxY (page : Page K) : K := page.height - page.margin

/-- The width of the usable area. -/
def usableWidth (page : Page K) : K := page.maxX - page.minX

/-- The height of the usable area. -/
def usableHeight (page : Page K) : K := page.maxY - page.minY

/-- The area of the usable area. -/
def usableArea (page : Page K) : K := page.usableWidth * page.usableHeight

/-- The centre of the usable area. -/
def centre (page : Page K) : Point K :=
  ⟨(page.minX + page.maxX) / 2.0, (page.minY + page.maxY) / 2.0⟩

/-- The point lies on the page, margin included. -/
def holdsPoint (page : Page K) (point : Point K) : Bool :=
  (decide (0.0 ≤ point.x) && decide (point.x ≤ page.width)) &&
    (decide (0.0 ≤ point.y) && decide (point.y ≤ page.height))

/-- The body lies within the usable area. -/
def holdsBody (page : Page K) (body : Body K) : Bool :=
  decide (page.minX - slack ≤ body.left) && decide (body.right ≤ page.maxX + slack) &&
    decide (page.minY - slack ≤ body.top) && decide (body.bottom ≤ page.maxY + slack)

end Page
end CircuitSheet
