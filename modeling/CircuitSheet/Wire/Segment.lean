import CircuitSheet.Geometry.Page

/-!
# Wire segments

Wires are drawn as segments along an axis. Segments that continue one another are merged, and
segments too short to see are left out.
-/

namespace CircuitSheet

/-- The axis that a segment runs along. -/
inductive Orientation
  | horizontal
  | vertical
  deriving DecidableEq, Repr

/-- A straight piece of wire. -/
structure WireSegment (K : Type) where
  start : Point K
  stop : Point K
  orientation : Orientation
  deriving DecidableEq, Repr

namespace WireSegment

variable {K : Type} [Scalar K]

/-- The longest distance between ends that count as joined. -/
def joinTolerance : K := 1e-6

/-- The greatest offset between lines that count as one. -/
def alignTolerance : K := 0.1

/-- The segment between two points, oriented along the axis on which they are further apart. -/
def between (start stop : Point K) : WireSegment K where
  start := start
  stop := stop
  orientation :=
    if Scalar.magnitude (stop.y - start.y) ≤ Scalar.magnitude (stop.x - start.x) then .horizontal
    else .vertical

/-- The distance between the ends. -/
def length (segment : WireSegment K) : K :=
  segment.start.distance segment.stop

/-- The point half way between the ends. -/
def midpoint (segment : WireSegment K) : Point K :=
  ⟨(segment.start.x + segment.stop.x) / 2.0, (segment.start.y + segment.stop.y) / 2.0⟩

/-- The segment is too short to be drawn. -/
def isShort (segment : WireSegment K) : Bool :=
  decide (segment.length ≤ joinTolerance)

/-- The segment is long enough to be drawn. -/
def isLong (segment : WireSegment K) : Bool :=
  decide (joinTolerance < segment.length)

/-- The segments lie on one line. -/
def isCollinear (first second : WireSegment K) : Bool :=
  match second.orientation with
  | .horizontal => Scalar.within alignTolerance first.start.y second.start.y
  | .vertical => Scalar.within alignTolerance first.start.x second.start.x

/-- The second segment carries on where the first one ends, along the same line. -/
def continues (first second : WireSegment K) : Bool :=
  first.orientation == second.orientation && first.stop.near joinTolerance second.start &&
    first.isCollinear second

/-- Merge segments into the last one before them. -/
def mergeOnto (last : WireSegment K) : List (WireSegment K) → List (WireSegment K)
  | [] => [last]
  | segment :: rest =>
      if segment.isShort then mergeOnto last rest
      else if last.continues segment then mergeOnto { last with stop := segment.stop } rest
      else last :: mergeOnto segment rest

/-- Drop short segments and merge those that continue one another. -/
def merge : List (WireSegment K) → List (WireSegment K)
  | [] => []
  | segment :: rest => if segment.isShort then merge rest else mergeOnto segment rest

end WireSegment
end CircuitSheet
