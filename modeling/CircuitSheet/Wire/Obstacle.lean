import CircuitSheet.Wire.Segment

/-!
# Obstacles

Wires keep clear of the bodies on the page. An obstacle is a rectangle whose inside no segment
should pass through; running along its edge is allowed.
-/

namespace CircuitSheet

/-- A rectangle to keep clear of, with the reference of the entity it belongs to. -/
structure Obstacle (K : Type) where
  minX : K
  minY : K
  maxX : K
  maxY : K
  owner : String
  deriving DecidableEq, Repr

namespace Obstacle

variable {K : Type} [Scalar K]

/-- The room left around bodies. -/
def clearance : K := 1.0

/-- A body with room around it. -/
def ofBody (body : Body K) : Obstacle K where
  minX := body.left - clearance
  minY := body.top - clearance
  maxX := body.right + clearance
  maxY := body.bottom + clearance
  owner := body.reference

/-- The segment passes through the inside. -/
def blocks (obstacle : Obstacle K) (segment : WireSegment K) : Bool :=
  decide (Scalar.lesser segment.start.x segment.stop.x < obstacle.maxX) &&
    decide (obstacle.minX < Scalar.greater segment.start.x segment.stop.x) &&
    decide (Scalar.lesser segment.start.y segment.stop.y < obstacle.maxY) &&
    decide (obstacle.minY < Scalar.greater segment.start.y segment.stop.y)

/-- The first obstacle in the way of a segment, apart from those of some owners. -/
def firstBlocking? (obstacles : List (Obstacle K)) (ignored : List String)
    (segment : WireSegment K) : Option (Obstacle K) :=
  obstacles.find? fun obstacle => !ignored.contains obstacle.owner && obstacle.blocks segment

end Obstacle
end CircuitSheet
