import CircuitSheet.Grouping
import CircuitSheet.Wiring.Basic
import CircuitSheet.Wiring.DisjointSets

/-!
# Nets

A net is a set of pins that accepted connections link. Nets are listed in the order in which
connections first touch them, and so are the pins of a net. A net takes its name from the
first power symbol on it, or else from its first pin.
-/

namespace CircuitSheet

/-- What a net carries. -/
inductive NetKind
  | power
  | ground
  | signal
  deriving DecidableEq, Repr

/-- Supply nets are drawn before signals. -/
def NetKind.priority : NetKind → Nat
  | .power => 2
  | .ground => 2
  | .signal => 1

/-- The kind of a net on a rail. -/
def NetKind.ofRail (rail : String) : NetKind :=
  if isGround rail then .ground else .power

/-- A named set of pins, given by their keys. -/
structure Net where
  name : String
  pins : List String
  kind : NetKind
  deriving DecidableEq, Repr

namespace Wiring

variable {K : Type}

/-- The pins of accepted connections in the order in which they first appear. -/
def touchedPins (wiring : Wiring K) : List (PlacedPin K) :=
  distinctBy PlacedPin.key (wiring.accepted.flatMap fun (first, second) => [first, second])

/-- The keys of the touched pins. -/
def touchedKeys (wiring : Wiring K) : List String :=
  wiring.touchedPins.map PlacedPin.key

/-- The sets of the places of the touched pins, after every accepted connection has united
those of its ends. -/
def netSets {State : Type} (wiring : Wiring K) (sets : DisjointSets State) : State :=
  let keys := wiring.touchedKeys
  sets.unionAll (sets.discrete keys.length)
    (wiring.accepted.map fun (first, second) => (keys.idxOf first.key, keys.idxOf second.key))

/-- The touched pins grouped by the set of their place. -/
def netMembers {State : Type} (wiring : Wiring K) (sets : DisjointSets State) :
    List (List (PlacedPin K)) :=
  let keys := wiring.touchedKeys
  let united := wiring.netSets sets
  groupBy (fun placed => sets.find united (keys.idxOf placed.key)) wiring.touchedPins

/-- The rail of the first power symbol among some pins. -/
def railOf? (wiring : Wiring K) (members : List (PlacedPin K)) : Option String :=
  members.findSome? fun placed => (wiring.entities.find? placed.entity).bind (·.rail?)

/-- The kind of a net without a rail. -/
def kindOfMembers (members : List (PlacedPin K)) : NetKind :=
  if members.any (·.pin.role == .ground) then .ground
  else if members.any (·.pin.role == .power) then .power
  else .signal

/-- The name of a net without a rail. -/
def nameOfMembers (members : List (PlacedPin K)) : String :=
  match members with
  | first :: _ => "Net-(" ++ first.entity ++ "-" ++ first.pin.number ++ ")"
  | [] => ""

/-- The net of some pins. -/
def describeNet (wiring : Wiring K) (members : List (PlacedPin K)) : Net :=
  match wiring.railOf? members with
  | some rail => ⟨rail, members.map PlacedPin.key, NetKind.ofRail rail⟩
  | none => ⟨nameOfMembers members, members.map PlacedPin.key, kindOfMembers members⟩

/-- The nets of the accepted connections, found by any way to keep disjoint sets. -/
def netsBy {State : Type} (wiring : Wiring K) (sets : DisjointSets State) : List Net :=
  (wiring.netMembers sets).map wiring.describeNet

/-- The nets of the accepted connections. -/
def nets (wiring : Wiring K) : List Net :=
  wiring.netsBy DisjointSets.labels

/-- All pins, by the order of their entities' references. -/
def allPins (wiring : Wiring K) : List (PlacedPin K) :=
  wiring.entities.values.flatMap (·.pins)

/-- The registered pins of a net, in net order. -/
def pinsOf (wiring : Wiring K) (net : Net) : List (PlacedPin K) :=
  net.pins.filterMap fun key => wiring.allPins.find? (·.key == key)

/-- The name of the net that holds a pin. -/
def netNameOf? (wiring : Wiring K) (key : String) : Option String :=
  (wiring.nets.find? fun net => net.pins.contains key).map (·.name)

end Wiring
end CircuitSheet
