import CircuitSheet.Floorplan.Basic

/-!
# Searching for room

A body goes to its preferred position if it fits there. Otherwise places are tried row by row
from the top left of the usable area, one spacing apart. If none is free the body goes to the
top left corner.
-/

namespace CircuitSheet

/-- What a search comes to: a find, the end of the places to try, or steps too small to lead
anywhere. -/
inductive SearchResult (α : Type)
  | found (value : α)
  | exhausted
  | stalled
  deriving DecidableEq, Repr

/-- A coordinate on its way up to a ceiling. -/
structure Rung (K : Type) (step margin ceiling : K) where
  height : K

instance {K : Type} [Scalar K] (step margin ceiling : K) :
    WellFoundedRelation (Rung K step margin ceiling) where
  rel higher lower :=
    lower.height < higher.height ∧ higher.height = lower.height + step ∧
      lower.height + margin ≤ ceiling
  wf := InvImage.wf Rung.height (Scalar.climb_wellFounded step margin ceiling)

/-- Visit coordinates in equal steps while they stay a margin below a ceiling, until a visit
comes to more than an end. -/
@[specialize] def climb {K α : Type} [Scalar K] (step margin ceiling : K)
    (visit : K → SearchResult α) (height : K) : SearchResult α :=
  if height + margin ≤ ceiling then
    match visit height with
    | .exhausted =>
        if height < height + step then climb step margin ceiling visit (height + step)
        else .stalled
    | ended => ended
  else .exhausted
termination_by (⟨height⟩ : Rung K step margin ceiling)
decreasing_by exact ⟨by assumption, by trivial, by assumption⟩

/-- How a position was come by. -/
inductive SpotSource
  | preferred
  | scanned
  | corner
  | stalled
  deriving DecidableEq, Repr

/-- A position for a body. -/
structure Spot (K : Type) where
  source : SpotSource
  position : Point K
  deriving Repr

namespace Floorplan

variable {K : Type} [Scalar K]

/-- Try one place of the scan. -/
@[specialize] def tryPlace (plan : Floorplan K) (reference : String) (size : Size K)
    (x y : K) : SearchResult (Point K) :=
  let candidate := plan.snap ⟨x, y⟩
  if plan.accepts reference size candidate then .found candidate else .exhausted

/-- Try the places of one row from left to right. -/
@[specialize] def scanRow (plan : Floorplan K) (reference : String) (size : Size K)
    (y : K) : SearchResult (Point K) :=
  climb plan.spacing (size.width / 2.0) (plan.page.maxX + Page.slack)
    (fun x => plan.tryPlace reference size x y) (plan.page.minX + size.width / 2.0)

/-- Try the rows from top to bottom. -/
@[specialize] def scan (plan : Floorplan K) (reference : String) (size : Size K) :
    SearchResult (Point K) :=
  climb plan.spacing (size.height / 2.0) (plan.page.maxY + Page.slack)
    (plan.scanRow reference size) (plan.page.minY + size.height / 2.0)

/-- The top left corner of the usable area, for the centre of a body. -/
def cornerFor (plan : Floorplan K) (size : Size K) : Point K :=
  ⟨plan.page.minX + size.width / 2.0, plan.page.minY + size.height / 2.0⟩

/-- The position on the grid next to a finite preference, if the body fits there. -/
def preferredSpot? (plan : Floorplan K) (reference : String) (size : Size K)
    (preferred : Option (Point K)) : Option (Point K) :=
  match preferred with
  | none => none
  | some point =>
      let snapped := plan.snap point
      if point.isFinite && plan.accepts reference size snapped then some snapped else none

/-- The spot for a body. -/
def findSpot (plan : Floorplan K) (reference : String) (size : Size K)
    (preferred : Option (Point K)) : Spot K :=
  match plan.preferredSpot? reference size preferred with
  | some position => ⟨.preferred, position⟩
  | none =>
      match plan.scan reference size with
      | .found position => ⟨.scanned, position⟩
      | .exhausted => ⟨.corner, plan.cornerFor size⟩
      | .stalled => ⟨.stalled, plan.cornerFor size⟩

/-- The spot for an occupant. -/
def find (plan : Floorplan K) (reference : String) (occupant : Occupant)
    (preferred : Option (Point K)) : Spot K :=
  plan.findSpot reference occupant.bodySize preferred

/-- Find a spot for an occupant and record it there. -/
def place (plan : Floorplan K) (reference : String) (occupant : Occupant)
    (preferred : Option (Point K)) : Spot K × Floorplan K :=
  let spot := plan.find reference occupant preferred
  (spot, plan.reserve reference occupant spot.position)

end Floorplan
end CircuitSheet
