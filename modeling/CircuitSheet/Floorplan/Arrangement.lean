import CircuitSheet.Circuit.PowerKeys
import CircuitSheet.Floorplan.Strategy
import CircuitSheet.Grouping

/-!
# Arranging items and circuits

Items are placed by a strategy, and circuits by a strategy or by their described positions.
Every placement is recorded on the floorplan.
-/

namespace CircuitSheet

/-- Where an entity was placed. -/
structure Placement (K : Type) where
  reference : String
  position : Point K
  deriving DecidableEq, Repr

namespace Floorplan

variable {K : Type} [Scalar K]

/-- The preferred positions of items grouped by zone; the zones form a square grid. -/
def zonedPreferences (plan : Floorplan K) (groups : List (List LayoutItem)) :
    List (LayoutItem × Point K) :=
  let columns := squareSide groups.length
  let width := plan.page.usableWidth / Scalar.ofNat columns
  let height := plan.page.usableHeight / Scalar.ofNat (rowCount groups.length columns)
  let zone := blank ⟨width, height, zoneMargin⟩ plan.grid plan.spacing
  (groups.zipIdx.map fun (members, index) =>
    zone.zonePreferences members
      { x := stepsFrom plan.page.minX width (index % columns)
        y := stepsFrom plan.page.minY height (index / columns) }).flatten

/-- The items in the order in which a strategy places them, with their preferred positions. -/
def preferences (plan : Floorplan K) (items : List LayoutItem) :
    LayoutStrategy → List (LayoutItem × Point K)
  | .grid => items.zip (plan.gridCandidates items)
  | .row => items.zip (plan.rowCandidates items)
  | .column => items.zip (plan.columnCandidates items)
  | .circular => items.zip (plan.circularCandidates items)
  | .hierarchical => plan.zonedPreferences (groupBy (·.occupant.group) items)

/-- Arrange items by a strategy. -/
def arrange (plan : Floorplan K) (items : List LayoutItem) (strategy : LayoutStrategy) :
    List (String × Spot K) × Floorplan K :=
  plan.placeAll (plan.preferences items strategy)

/-- A component as something to arrange. -/
def itemOf (component : Component K) : LayoutItem :=
  ⟨component.reference, .component component.kind⟩

/-- Move the first component with a reference. -/
def moveFirst (reference : String) (position : Point K) :
    List (Component K) → List (Component K)
  | [] => []
  | component :: rest =>
      if component.reference = reference then { component with position } :: rest
      else component :: moveFirst reference position rest

/-- Give components the positions of spots that go by their references. -/
def moveComponents (components : List (Component K)) (spots : List (String × Spot K)) :
    List (Component K) :=
  spots.foldl (fun moved (reference, spot) => moveFirst reference spot.position moved) components

/-- The components with new positions, the spots, and the floorplan that records them. -/
structure Placed (K : Type) (α : Type) where
  entities : List α
  spots : List (String × Spot K)
  plan : Floorplan K

/-- Place components, by a strategy or next to their described positions. -/
def placeComponents (plan : Floorplan K) (components : List (Component K)) :
    Option LayoutStrategy → Placed K (Component K)
  | some strategy =>
      let (spots, last) := plan.arrange (components.map itemOf) strategy
      ⟨moveComponents components spots, spots, last⟩
  | none =>
      let preferences := components.map fun component => (itemOf component, component.position)
      let (spots, last) := plan.placeAll preferences
      { entities := components.zipWith
          (fun component entry => { component with position := entry.2.position }) spots
        spots := spots
        plan := last }

/-- Place power symbols under their keys, next to their described positions. -/
def placePowers (plan : Floorplan K) (keyed : List (PowerSymbol K × String)) :
    Placed K (PowerSymbol K) :=
  let (spots, last) := plan.placeAll
    (keyed.map fun (power, key) => (⟨key, .power⟩, power.position))
  { entities := keyed.zipWith
      (fun (power, _) entry => { power with position := entry.2.position }) spots
    spots := spots
    plan := last }

/-- A circuit with its final positions. -/
structure LaidOut (K : Type) where
  circuit : Circuit K
  spots : List (String × Spot K)
  plan : Floorplan K

/-- Where the entities of a circuit were placed, in the order of placing. -/
def LaidOut.placements {K : Type} (laidOut : LaidOut K) : List (Placement K) :=
  laidOut.spots.map fun (reference, spot) => ⟨reference, spot.position⟩

/-- Place every entity of a circuit. A strategy arranges the components; power symbols follow
one by one. -/
def layOut (plan : Floorplan K) (circuit : Circuit K) (strategy : Option LayoutStrategy) :
    LaidOut K :=
  let components := plan.placeComponents circuit.components strategy
  let powers := components.plan.placePowers circuit.keyedPowers
  { circuit :=
      { circuit with components := components.entities, powers := powers.entities }
    spots := components.spots ++ powers.spots
    plan := powers.plan }

end Floorplan
end CircuitSheet
