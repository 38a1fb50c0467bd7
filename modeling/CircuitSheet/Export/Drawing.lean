import CircuitSheet.Drawing.Pipeline
import CircuitSheet.Export.Boundary
import CircuitSheet.Export.Wiring

/-!
# Drawings as JSON

What comes of drawing a sheet or of placing a circuit has a form in JSON.
-/

namespace CircuitSheet

variable {K : Type} (number : K → Json)

/-- What comes of placing a circuit as JSON. -/
def Floorplan.LaidOut.toJson [ScalarText K] (laidOut : Floorplan.LaidOut K) : Json :=
  .object
    [("circuit", laidOut.circuit.toJson number),
      ("placements", Json.ofList (Placement.toJson number) laidOut.placements),
      ("statistics", laidOut.plan.statistics.toJson number)]

/-- What comes of drawing a sheet as JSON. -/
def Drawing.toJson (drawing : Drawing K) : Json :=
  .object
    [("circuit", drawing.circuit.toJson number),
      ("schematic", .string (String.ofList drawing.sheet)),
      ("nets", Json.ofList Net.toJson drawing.nets),
      ("routes", Json.ofList (WireRoute.toJson number) drawing.routes),
      ("validation", drawing.review.toJson number),
      ("layout_stats", drawing.layoutFigures.toJson number),
      ("routing_stats", drawing.routingFigures.toJson number),
      ("connectivity_stats", drawing.wiringFigures.toJson),
      ("diagnostics", Json.ofList (Diagnostic.toJson number) drawing.diagnostics)]

end CircuitSheet
