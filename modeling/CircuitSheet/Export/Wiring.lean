import CircuitSheet.Export.Circuit
import CircuitSheet.Wire.Router
import CircuitSheet.Wiring.Audit
import CircuitSheet.Wiring.Inference

/-!
# Wiring and routes as JSON

Nets, routes and the findings about them have a form in JSON.
-/

namespace CircuitSheet

/-- The name of what a net carries. -/
def NetKind.name : NetKind → String
  | .power => "power"
  | .ground => "ground"
  | .signal => "signal"

/-- A net as JSON. -/
def Net.toJson (net : Net) : Json :=
  .object
    [("name", .string net.name), ("pins", Json.ofList Json.string net.pins),
      ("kind", .string net.kind.name)]

/-- A guessed connection as JSON. -/
def InferredConnection.toJson (inferred : InferredConnection) : Json :=
  .object
    [("connection", inferred.connection.toJson), ("net_name", .string inferred.netName),
      ("kind", .string inferred.kind.name)]

/-- The counts of a wiring as JSON. -/
def WiringStatistics.toJson (figures : WiringStatistics) : Json :=
  .object
    [("total_components", Json.ofNat figures.totalComponents),
      ("total_pins", Json.ofNat figures.totalPins),
      ("connected_pins", Json.ofNat figures.connectedPins),
      ("total_connections", Json.ofNat figures.totalConnections)]

/-- A finding about a wiring as JSON. -/
def WiringIssue.toJson (issue : WiringIssue) : Json :=
  .object
    [("severity", .string issue.severity.name), ("reference", .string issue.reference),
      ("message", .string issue.message)]

/-- The name of an axis. -/
def Orientation.name : Orientation → String
  | .horizontal => "horizontal"
  | .vertical => "vertical"

variable {K : Type} (number : K → Json)

/-- A segment as JSON. -/
def WireSegment.toJson (segment : WireSegment K) : Json :=
  .object
    [("start", segment.start.toJson number), ("end", segment.stop.toJson number),
      ("orientation", .string segment.orientation.name)]

/-- A route as JSON. -/
def WireRoute.toJson (route : WireRoute K) : Json :=
  .object
    [("net_name", .string route.netName),
      ("segments", Json.ofList (WireSegment.toJson number) route.segments),
      ("connected_pins", Json.ofList Json.string route.connectedPins),
      ("priority", Json.ofNat route.priority)]

/-- An obstacle as JSON. -/
def Obstacle.toJson (obstacle : Obstacle K) : Json :=
  .object
    [("min_x", number obstacle.minX), ("min_y", number obstacle.minY),
      ("max_x", number obstacle.maxX), ("max_y", number obstacle.maxY),
      ("owner", .string obstacle.owner)]

/-- A failure to keep a connection clear as JSON. -/
def RoutingFailure.toJson (failure : RoutingFailure K) : Json :=
  .object
    [("net_name", .string failure.netName), ("start", failure.start.toJson number),
      ("end", failure.stop.toJson number), ("attempts", Json.ofNat failure.attempts)]

/-- The figures of the routes as JSON. -/
def RoutingStatistics.toJson (figures : RoutingStatistics K) : Json :=
  .object
    [("total_routes", Json.ofNat figures.totalRoutes),
      ("total_length", number figures.totalLength),
      ("average_length", number figures.averageLength),
      ("total_segments", Json.ofNat figures.totalSegments),
      ("routes_by_priority",
        .object (figures.routesByPriority.map fun (priority, count) =>
          (toString priority, Json.ofNat count)))]

end CircuitSheet
