import CircuitSheet.Pin.Arrangement
import CircuitSheet.Wire.Path

/-!
# Routes

A route draws one net. Nets of several pins are drawn as a star around their first pin. The
router keeps the obstacles and the routes drawn so far.
-/

namespace CircuitSheet

/-- The wires of one net, with the keys of the pins that they join. -/
structure WireRoute (K : Type) where
  netName : String
  segments : List (WireSegment K)
  connectedPins : List String
  priority : Nat
  deriving DecidableEq, Repr

/-- The length of all segments together. -/
def WireRoute.length {K : Type} [Scalar K] (route : WireRoute K) : K :=
  Scalar.total (route.segments.map WireSegment.length)

/-- A connection that was drawn straight because no path keeps clear of all obstacles. -/
structure RoutingFailure (K : Type) where
  netName : String
  start : Point K
  stop : Point K
  attempts : Nat
  deriving DecidableEq, Repr

/-- Figures of the routes drawn so far. -/
structure RoutingStatistics (K : Type) where
  totalRoutes : Nat
  totalLength : K
  averageLength : K
  totalSegments : Nat
  routesByPriority : List (Nat × Nat)
  deriving Repr

/-- Obstacles and the routes drawn so far. -/
structure Router (K : Type) where
  obstacles : List (Obstacle K)
  routes : List (WireRoute K)
  deriving Repr

namespace Router

variable {K : Type} [Scalar K]

/-- No obstacles and no routes. -/
def empty : Router K := ⟨[], []⟩

/-- Keep clear of one more obstacle. -/
def addObstacle (router : Router K) (obstacle : Obstacle K) : Router K :=
  { router with obstacles := router.obstacles ++ [obstacle] }

/-- Keep clear of some bodies. -/
def addBodies (router : Router K) (bodies : List (Body K)) : Router K :=
  { router with obstacles := router.obstacles ++ bodies.map Obstacle.ofBody }

/-- The routing grid in millimetres. -/
def gridUnit : K := 2.54

/-- The nearest point on the routing grid. -/
def snap (point : Point K) : Point K :=
  point.toGrid gridUnit

/-- The path from one pin to another, and the failure to keep it clear. -/
def branch (router : Router K) (netName : String) (strategy : RoutingStrategy)
    (hub pin : PlacedPin K) : List (WireSegment K) × Option (RoutingFailure K) :=
  let start := hub.connectionPoint
  let stop := pin.connectionPoint
  match Path.find router.obstacles [hub.entity, pin.entity] strategy start stop
      (some hub.absoluteAngle) (some pin.absoluteAngle) with
  | .ok path => (path, none)
  | .error path => (path, some ⟨netName, start, stop, Path.maxDetours⟩)

/-- Keep a route. -/
def keep (router : Router K) (route : WireRoute K) : Router K :=
  { router with routes := router.routes ++ [route] }

/-- The route of a net as a star around its first pin, and the failed branches. -/
def star (router : Router K) (netName : String) (pins : List (PlacedPin K))
    (strategy : RoutingStrategy) (priority : Nat) : WireRoute K × List (RoutingFailure K) :=
  let branches :=
    match pins with
    | [] => []
    | hub :: others => others.map (router.branch netName strategy hub)
  ({ netName := netName
     segments := branches.flatMap (·.1)
     connectedPins := pins.map PlacedPin.key
     priority := priority },
    branches.filterMap (·.2))

/-- Draw and keep the route of a net. -/
def routeNet (router : Router K) (netName : String) (pins : List (PlacedPin K))
    (strategy : RoutingStrategy) (priority : Nat) :
    (WireRoute K × List (RoutingFailure K)) × Router K :=
  let drawn := router.star netName pins strategy priority
  (drawn, router.keep drawn.1)

/-- Draw and keep the route of one connection. -/
def routeConnection (router : Router K) (netName : String) (source target : PlacedPin K)
    (strategy : RoutingStrategy) (priority : Nat) :
    (WireRoute K × Option (RoutingFailure K)) × Router K :=
  let (path, failure) := router.branch netName strategy source target
  let route : WireRoute K := ⟨netName, path, [source.key, target.key], priority⟩
  ((route, failure), router.keep route)

/-- The number of routes of each priority, in ascending order of the priorities. -/
def countByPriority (routes : List (WireRoute K)) : List (Nat × Nat) :=
  ((routes.map (·.priority)).mergeSort.eraseDups).map fun priority =>
    (priority, routes.countP (·.priority == priority))

/-- The figures of the routes drawn so far. -/
def statistics (router : Router K) : RoutingStatistics K :=
  let total := Scalar.total (router.routes.map WireRoute.length)
  { totalRoutes := router.routes.length
    totalLength := total
    averageLength := Scalar.average total router.routes.length
    totalSegments := (router.routes.flatMap (·.segments)).length
    routesByPriority := countByPriority router.routes }

end Router
end CircuitSheet
