import CircuitSheet.Floorplan.Search

/-!
# Arrangement strategies

A strategy gives every item a preferred position by its number: in a grid, a row, a column or
a circle. The hierarchical strategy divides the page into zones with a grid for each group of
items.
-/

namespace CircuitSheet

/-- How items are arranged on a page. -/
inductive LayoutStrategy
  | grid
  | row
  | column
  | circular
  | hierarchical
  deriving DecidableEq, Repr

namespace LayoutStrategy

/-- The name of a strategy. -/
def name : LayoutStrategy → String
  | grid => "grid"
  | row => "row"
  | column => "column"
  | circular => "circular"
  | hierarchical => "hierarchical"

/-- All strategies. -/
def all : List LayoutStrategy := [grid, row, column, circular, hierarchical]

/-- The strategy with a name in any case, or a message about the name. -/
def ofName (text : String) : Except String LayoutStrategy :=
  let lowered := Text.lowerString text
  match all.find? (·.name == lowered) with
  | some strategy => .ok strategy
  | none => .error ("unknown layout strategy '" ++ lowered ++ "'")

end LayoutStrategy

/-- Something to arrange. -/
structure LayoutItem where
  reference : String
  occupant : Occupant
  deriving DecidableEq, Repr

/-- The side of the smallest square with at least `count` cells. -/
def squareSide (count : Nat) : Nat :=
  ((List.range (count + 1)).find? fun side => decide (count ≤ side * side)).getD count

/-- The number of rows of `columns` cells that `count` cells fill. -/
def rowCount (count columns : Nat) : Nat :=
  (count + columns - 1) / columns

namespace Floorplan

variable {K : Type} [Scalar K]

/-- The greatest width and the greatest height of some items. -/
def largestBody (items : List LayoutItem) : Size K :=
  items.foldl
    (fun largest item =>
      let size : Size K := item.occupant.bodySize
      ⟨Scalar.greater largest.width size.width, Scalar.greater largest.height size.height⟩)
    ⟨0.0, 0.0⟩

/-- The distance at which `count` centres fill an extent, at least `least`. -/
def stepOver (count : Nat) (extent least : K) : K :=
  let step := if count > 1 then extent / Scalar.ofNat (count - 1) else extent / 2.0
  Scalar.greater step least

/-- A position some steps after a start. -/
def stepsFrom (start step : K) (count : Nat) : K :=
  start + Scalar.ofNat count * step

/-- Positions row by row in a square grid. -/
def gridCandidates (plan : Floorplan K) (items : List LayoutItem) : List (Point K) :=
  let columns := squareSide items.length
  let largest := largestBody items
  let columnStep :=
    stepOver columns (plan.page.usableWidth - largest.width) plan.spacing
  let rowStep :=
    stepOver (rowCount items.length columns) (plan.page.usableHeight - largest.height)
      plan.spacing
  (List.range items.length).map fun index =>
    { x := stepsFrom (plan.page.minX + largest.width / 2.0) columnStep (index % columns)
      y := stepsFrom (plan.page.minY + largest.height / 2.0) rowStep (index / columns) }

/-- Positions from left to right across the middle of the page. -/
def rowCandidates (plan : Floorplan K) (items : List LayoutItem) : List (Point K) :=
  let largest := largestBody items
  let step := stepOver items.length (plan.page.usableWidth - largest.width) plan.spacing
  (List.range items.length).map fun index =>
    ⟨stepsFrom (plan.page.minX + largest.width / 2.0) step index, plan.page.centre.y⟩

/-- The least room between bodies above one another in a column. -/
def columnGap : K := 5.0

/-- Positions from top to bottom along the middle of the page. -/
def columnCandidates (plan : Floorplan K) (items : List LayoutItem) : List (Point K) :=
  let largest := largestBody items
  let least := Scalar.greater plan.spacing (largest.height + columnGap)
  let step := stepOver items.length (plan.page.usableHeight - largest.height) least
  (List.range items.length).map fun index =>
    ⟨plan.page.centre.x, stepsFrom (plan.page.minY + largest.height / 2.0) step index⟩

/-- Positions on a circle around the middle of the page. -/
def circularCandidates (plan : Floorplan K) (items : List LayoutItem) : List (Point K) :=
  let centre := plan.page.centre
  let radius := Scalar.lesser plan.page.usableWidth plan.page.usableHeight / 3.0
  (List.range items.length).map fun index =>
    let angle := Scalar.ofNat index * 2.0 * Scalar.pi / Scalar.ofNat items.length
    ⟨centre.x + radius * Scalar.cos angle, centre.y + radius * Scalar.sin angle⟩

/-- A spot for each item in order, each with its preferred position. -/
def placeAll (plan : Floorplan K) :
    List (LayoutItem × Point K) → List (String × Spot K) × Floorplan K
  | [] => ([], plan)
  | (item, preferred) :: rest =>
      let (spot, next) := plan.place item.reference item.occupant (some preferred)
      let (spots, last) := next.placeAll rest
      ((item.reference, spot) :: spots, last)

/-- The margin within a zone. -/
def zoneMargin : K := 5.0

/-- The positions that a zone's own grid gives to its items, measured from the corner of the
zone. Items of one reference share the body of the first. -/
def zonePreferences (zone : Floorplan K) (members : List LayoutItem) (corner : Point K) :
    List (LayoutItem × Point K) :=
  (zone.placeAll (members.zip (zone.gridCandidates members))).1.map fun (reference, spot) =>
    let occupant := ((members.find? (·.reference == reference)).map (·.occupant)).getD .power
    (⟨reference, occupant⟩, ⟨corner.x + spot.position.x, corner.y + spot.position.y⟩)

end Floorplan
end CircuitSheet
