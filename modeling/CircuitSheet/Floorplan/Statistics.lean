import CircuitSheet.Floorplan.Basic

/-!
# Statistics of a floorplan

How full the page is, how far bodies are apart on average, and how many of them lie outside
the usable area.
-/

namespace CircuitSheet

/-- Figures of a floorplan. -/
structure LayoutStatistics (K : Type) where
  totalComponents : Nat
  areaUtilization : K
  averageSpacing : K
  boundsViolations : Nat
  deriving Repr

namespace Floorplan

variable {K : Type} [Scalar K]

/-- The pairs of items of a list, each with the earlier item first. -/
def pairs {α : Type} : List α → List (α × α)
  | [] => []
  | first :: rest => rest.map (first, ·) ++ pairs rest

/-- The figures of a floorplan; an empty one has zeros throughout. -/
def statistics (plan : Floorplan K) : LayoutStatistics K :=
  let usable := plan.page.usableArea
  let occupied := Scalar.total (plan.placed.map Body.area)
  let distances := (pairs plan.placed).map fun (first, second) =>
    first.centre.distance second.centre
  { totalComponents := plan.placed.length
    areaUtilization :=
      if plan.placed.isEmpty then 0.0 else if 0.0 < usable then occupied / usable else 0.0
    averageSpacing := Scalar.average (Scalar.total distances) distances.length
    boundsViolations := plan.placed.countP fun body => !plan.page.holdsBody body }

end Floorplan
end CircuitSheet
