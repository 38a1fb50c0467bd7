import CircuitSheet.Circuit.Basic

/-!
# Floorplans

A floorplan records the bodies that are on a page. Positions are multiples of its grid; its
spacing is the distance between the places that are tried when a preferred one is taken.
-/

namespace CircuitSheet

/-- What takes up room on a page. -/
inductive Occupant
  | component (kind : Kind)
  | power
  deriving DecidableEq, Repr

namespace Occupant

/-- The size of the body. -/
def bodySize {K : Type} [Scalar K] : Occupant → Size K
  | component kind => kind.bodySize
  | power => PowerSymbol.bodySize

/-- The name of the group that shares a zone. -/
def group : Occupant → String
  | component kind => kind.tag
  | power => "power"

end Occupant

/-- What an entity takes up room as. -/
def Entity.occupant {K : Type} : Entity K → Occupant
  | component part => .component part.kind
  | power _ => .power

/-- The bodies on a page, in the order in which they were placed. -/
structure Floorplan (K : Type) where
  page : Page K
  grid : K
  spacing : K
  placed : List (Body K)
  deriving Repr

namespace Floorplan

variable {K : Type} [Scalar K]

/-- The grid of positions in millimetres, unless another one is chosen. -/
def defaultGrid : K := 1.0

/-- The spacing of places to try in millimetres, unless another one is chosen. -/
def defaultSpacing : K := 10.16

/-- A step has to be finite and positive; any other gives way to a default. -/
def positiveOr (fallback value : K) : K :=
  if Scalar.isFinite value ∧ (0.0 : K) < value then value else fallback

/-- A page with nothing on it. -/
def blank (page : Page K) (grid spacing : K) : Floorplan K where
  page := page
  grid := positiveOr defaultGrid grid
  spacing := positiveOr defaultSpacing spacing
  placed := []

/-- The same page with nothing on it. -/
def cleared (plan : Floorplan K) : Floorplan K :=
  { plan with placed := [] }

/-- The nearest position on the grid. -/
@[specialize] def snap (plan : Floorplan K) (point : Point K) : Point K :=
  point.toGrid plan.grid

/-- A body of some size at a finite position lies within the usable area. -/
@[specialize] def admits (plan : Floorplan K) (size : Size K) (position : Point K) : Bool :=
  position.isFinite && plan.page.holdsBody ⟨"", position, size⟩

/-- No body of another reference overlaps the candidate. -/
@[specialize] def isFree (plan : Floorplan K) (candidate : Body K) : Bool :=
  !plan.placed.any fun body =>
    body.reference != candidate.reference && body.overlaps candidate

/-- A body can be placed at a position. -/
@[specialize] def accepts (plan : Floorplan K) (reference : String) (size : Size K)
    (position : Point K) : Bool :=
  plan.admits size position && plan.isFree ⟨reference, position, size⟩

/-- Record a body in place of any earlier one with its reference. -/
def record (plan : Floorplan K) (body : Body K) : Floorplan K :=
  { plan with
    placed := plan.placed.filter (·.reference != body.reference) ++ [body] }

/-- Record an occupant at a position. -/
def reserve (plan : Floorplan K) (reference : String) (occupant : Occupant)
    (position : Point K) : Floorplan K :=
  plan.record ⟨reference, position, occupant.bodySize⟩

end Floorplan
end CircuitSheet
