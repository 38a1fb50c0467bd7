import CircuitSheet.Boundary.Review
import CircuitSheet.Drawing.Diagnostic
import CircuitSheet.Drawing.Failure
import CircuitSheet.Drawing.Options
import CircuitSheet.Floorplan.Arrangement
import CircuitSheet.Floorplan.Statistics
import CircuitSheet.Sheet.Document

/-!
# Drawing a sheet

A description is read, its entities are placed, its connections are checked and its nets are
routed, and the sheet is written. Whatever goes wrong on the way is kept as a diagnostic.
-/

namespace CircuitSheet

variable {K : Type} [ScalarText K]

/-- Everything that comes of drawing a sheet. -/
structure Drawing (K : Type) where
  circuit : Circuit K
  sheet : List Char
  nets : List Net
  routes : List (WireRoute K)
  review : BoundaryReport K
  layoutFigures : LayoutStatistics K
  routingFigures : RoutingStatistics K
  wiringFigures : WiringStatistics
  diagnostics : List (Diagnostic K)

/-- The number of wires on a sheet. -/
def Drawing.wireCount {K : Type} (drawing : Drawing K) : Nat :=
  (drawing.routes.flatMap (·.segments)).length

/-- The circuit that a text describes, under some options. -/
def readCircuit (options : DrawingOptions K) (text : List Char) : Except (Failure K) (Circuit K) :=
  match Description.parse options.dialect text with
  | .ok circuit => .ok circuit
  | .error cause => .error (.description cause)

namespace Drawing

/-- A connection to make, with the name of its net where it is a guess. -/
structure Wish where
  connection : Connection
  netName : Option String
  deriving DecidableEq, Repr

/-- The connections to make: those of the circuit, or guesses where it has none and guesses are
wanted. -/
def wishes (infersWiring : Bool) (circuit : Circuit K) : List Wish :=
  if circuit.connections.isEmpty && infersWiring then
    circuit.inferConnections.map fun inferred => ⟨inferred.connection, some inferred.netName⟩
  else circuit.connections.map fun connection => ⟨connection, none⟩

/-- The diagnostic for a connection that is not accepted. -/
def dropped (connection : Connection) : WiringError → Diagnostic K
  | .incompatible source target => .incompatiblePins source target
  | cause => .unknownPin connection.describe cause.message

/-- A wiring in the making: what is wired so far, the names that guesses give to pins, and what
was dropped. -/
structure Wired (K : Type) where
  wiring : Wiring K
  pinNames : Table String
  diagnostics : List (Diagnostic K)

/-- Give both pins of a connection the name of its net, if it has one. -/
def namePins (pinNames : Table String) (first second : PlacedPin K) (netName : Option String) :
    Table String :=
  match netName with
  | some name => (pinNames.insert first.key name).insert second.key name
  | none => pinNames

/-- Make a connection or drop it. -/
def Wired.add (wired : Wired K) (wish : Wish) : Wired K :=
  match wired.wiring.connect wish.connection.source wish.connection.target with
  | .ok ((first, second), wiring) =>
      { wired with wiring, pinNames := namePins wired.pinNames first second wish.netName }
  | .error cause =>
      { wired with diagnostics := wired.diagnostics ++ [dropped wish.connection cause] }

/-- Make the connections of a placed circuit. -/
def wire (circuit : Circuit K) (wishes : List Wish) : Wired K :=
  wishes.foldl Wired.add ⟨Wiring.ofCircuit circuit, Table.empty, []⟩

/-- The start of the names of nets that take them from a pin. -/
def pinNetStart : String := "Net-("

/-- A net that has its name from a pin takes that of the first of its pins that a guess names. -/
def renameNet (pinNames : Table String) (net : Net) : Net :=
  if pinNetStart.toList.isPrefixOf net.name.toList then
    { net with name := (net.pins.findSome? pinNames.find?).getD net.name }
  else net

/-- The nets of a wiring in the order in which they are routed: supply nets come first. -/
def orderedNets (wired : Wired K) : List Net :=
  (wired.wiring.nets.map (renameNet wired.pinNames)).mergeSort fun first second =>
    decide (second.kind.priority ≤ first.kind.priority)

/-- Route nets one after the other. -/
def routeNets (wiring : Wiring K) (strategy : RoutingStrategy) (router : Router K) :
    List Net → Router K × List (RoutingFailure K)
  | [] => (router, [])
  | net :: rest =>
      let ((_, failures), next) :=
        router.routeNet net.name (wiring.pinsOf net) strategy net.kind.priority
      let (last, others) := routeNets wiring strategy next rest
      (last, failures ++ others)

/-- The diagnostics for entities that were described out of bounds. -/
def boundaryDiagnostics (review : BoundaryReport K) (placements : List (Placement K)) :
    List (Diagnostic K) :=
  let places : Table (Point K) := placements.foldl
    (fun table placement => table.insert placement.reference placement.position) Table.empty
  (review.issues.filter (·.isOutOfBounds)).filterMap fun issue => do
    some (.boundaryViolation issue.subject issue.severity (← issue.position)
      (← places.find? issue.subject))

/-- The diagnostic for a connection that was drawn straight. -/
def ofFailure (failure : RoutingFailure K) : Diagnostic K :=
  .routingFailure failure.netName failure.start failure.stop failure.attempts

/-- The diagnostic for the end of a wire off the page. -/
def ofEndpoint (issue : BoundaryIssue K) : Diagnostic K :=
  .wireOutOfBounds issue.subject issue.position

/-- The diagnostic for a finding about the wiring. -/
def ofWarning (issue : WiringIssue) : Diagnostic K :=
  .wiringWarning issue.reference issue.message

/-- The number of the first identifier of a sheet. -/
def firstIdentifier : Nat := 1

/-- Draw the sheet of a circuit. -/
def ofCircuit (options : DrawingOptions K) (described : Circuit K) :
    Except (Failure K) (Drawing K) :=
  let review := options.blankPlan.review described.sites
  let laidOut := options.blankPlan.layOut described options.layout
  let circuit := laidOut.circuit
  let wired := wire circuit (wishes options.infersWiring circuit)
  let nets := orderedNets wired
  let (router, failures) :=
    routeNets wired.wiring options.routing (Router.empty.addBodies laidOut.plan.placed) nets
  let diagnostics :=
    boundaryDiagnostics review laidOut.placements ++ wired.diagnostics ++
      failures.map ofFailure ++
      (options.blankPlan.reviewRoutes router.routes).map ofEndpoint ++
      wired.wiring.audit.map ofWarning
  match Sheet.write firstIdentifier circuit router.routes with
  | .error cause => .error (.writing cause)
  | .ok sheet =>
      .ok
        { circuit := circuit
          sheet := sheet
          nets := nets
          routes := router.routes
          review := review
          layoutFigures := laidOut.plan.statistics
          routingFigures := router.statistics
          wiringFigures := wired.wiring.statistics
          diagnostics := diagnostics }

/-- Draw the sheet of a described circuit. -/
def ofText (options : DrawingOptions K) (text : List Char) : Except (Failure K) (Drawing K) :=
  match readCircuit options text with
  | .error failure => .error failure
  | .ok described => ofCircuit options described

end Drawing

/-- The report on the positions of a described circuit. -/
def reviewText (options : DrawingOptions K) (text : List Char) :
    Except (Failure K) (BoundaryReport K) :=
  match readCircuit options text with
  | .error failure => .error failure
  | .ok described => .ok (options.blankPlan.review described.sites)

/-- Place the entities of a described circuit and nothing else. -/
def layOutText (options : DrawingOptions K) (text : List Char) :
    Except (Failure K) (Floorplan.LaidOut K) :=
  match readCircuit options text with
  | .error failure => .error failure
  | .ok described => .ok (options.blankPlan.layOut described options.layout)

end CircuitSheet
