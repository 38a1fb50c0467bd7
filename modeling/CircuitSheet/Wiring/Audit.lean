import CircuitSheet.Severity
import CircuitSheet.Wiring.Net

/-!
# Auditing the wiring

Counts of what is wired, and warnings about components without connections and consumers
without supply.
-/

namespace CircuitSheet

/-- Counts of entities, pins and connections. -/
structure WiringStatistics where
  totalComponents : Nat
  totalPins : Nat
  connectedPins : Nat
  totalConnections : Nat
  deriving DecidableEq, Repr

/-- A finding about the wiring of one component. -/
structure WiringIssue where
  severity : Severity
  reference : String
  message : String
  deriving DecidableEq, Repr

namespace Wiring

variable {K : Type}

/-- Counts of the entities, pins and connections. Power symbols do not count as components. -/
def statistics (wiring : Wiring K) : WiringStatistics where
  totalComponents := wiring.entities.values.countP (·.kind?.isSome)
  totalPins := wiring.allPins.length
  connectedPins := wiring.neighbours.size
  totalConnections := wiring.accepted.length

/-- A warning about a component. -/
def warn (reference : String) (finding : String) : WiringIssue :=
  ⟨.warning, reference, reference ++ " has no " ++ finding⟩

/-- The warnings about a component. -/
def auditComponent (wiring : Wiring K) (reference : String) (kind : Kind)
    (pins : List (PlacedPin K)) : List WiringIssue :=
  let joined := pins.filter fun placed => wiring.isJoined placed.key
  if joined.isEmpty then [warn reference "connections"]
  else if kind.isConsumer then
    (if joined.any (·.pin.role == .power) then [] else [warn reference "power connection"]) ++
      (if joined.any (·.pin.role == .ground) then [] else [warn reference "ground connection"])
  else []

/-- The warnings about all components, in the order of their references. -/
def audit (wiring : Wiring K) : List WiringIssue :=
  wiring.entities.entries.flatMap fun (reference, entity) =>
    match entity.role with
    | .component kind => wiring.auditComponent reference kind entity.pins
    | .power _ => []

end Wiring
end CircuitSheet
