import CircuitSheet.Circuit.PowerKeys
import CircuitSheet.Pin.Arrangement
import CircuitSheet.Table

/-!
# Wiring

The wiring of a sheet knows every pin of every placed entity. A connection is accepted when
both of its ends name pins that may be joined; accepted connections are kept in order, and
every joined pin has a set of neighbours.
-/

namespace CircuitSheet

/-- A set of names, in ascending order. -/
abbrev NameSet := Table Unit

/-- What an entity of the wiring is. -/
inductive WiringRole
  | component (kind : Kind)
  | power (rail : String)
  deriving DecidableEq, Repr

/-- An entity with its pins. -/
structure WiringEntity (K : Type) where
  role : WiringRole
  pins : List (PlacedPin K)

/-- The rail of a power symbol. -/
def WiringEntity.rail? {K : Type} (entity : WiringEntity K) : Option String :=
  match entity.role with
  | .power rail => some rail
  | .component _ => none

/-- The kind of a component. -/
def WiringEntity.kind? {K : Type} (entity : WiringEntity K) : Option Kind :=
  match entity.role with
  | .component kind => some kind
  | .power _ => none

/-- Why a connection is not accepted. -/
inductive WiringError
  | unknownEntity (reference : String)
  | unknownPin (reference pin : String)
  | incompatible (source target : String)
  deriving DecidableEq, Repr

/-- The message for a connection that is not accepted. -/
def WiringError.message : WiringError → String
  | .unknownEntity reference => "Unknown component '" ++ reference ++ "'"
  | .unknownPin reference pin => "Component '" ++ reference ++ "' has no pin '" ++ pin ++ "'"
  | .incompatible source target => "Pins " ++ source ++ " and " ++ target ++ " cannot be connected"

/-- Entities by reference, neighbours by pin, and the accepted connections in order. -/
structure Wiring (K : Type) where
  entities : Table (WiringEntity K)
  neighbours : Table NameSet
  accepted : List (PlacedPin K × PlacedPin K)

namespace Wiring

variable {K : Type}

/-- No entities and no connections. -/
def empty : Wiring K := ⟨Table.empty, Table.empty, []⟩

/-- Register a component, in place of any entity with its reference. -/
def addComponent [Scalar K] (wiring : Wiring K) (reference : String) (kind : Kind)
    (position : Point K) (rotation : K) : Wiring K :=
  { wiring with
    entities := wiring.entities.insert reference
      { role := .component kind
        pins := kind.pins.map fun pin => ⟨reference, pin, position, rotation⟩ } }

/-- Register a power symbol, in place of any entity with its reference. -/
def addPower [Scalar K] (wiring : Wiring K) (reference rail : String) (position : Point K) :
    Wiring K :=
  { wiring with
    entities := wiring.entities.insert reference
      { role := .power rail
        pins := [⟨reference, Pin.ofRail rail, position, 0.0⟩] } }

/-- The entities of a placed circuit, without its connections. -/
def ofCircuit [Scalar K] (circuit : Circuit K) : Wiring K :=
  let components := circuit.components.foldl
    (fun wiring component =>
      wiring.addComponent component.reference component.kind component.position 0.0)
    empty
  circuit.keyedPowers.foldl
    (fun wiring (power, key) => wiring.addPower key power.rail power.position)
    components

/-- The pins of an entity. -/
def pins? (wiring : Wiring K) (reference : String) : Option (List (PlacedPin K)) :=
  (wiring.entities.find? reference).map (·.pins)

/-- The entity is a power symbol. -/
def isPower (wiring : Wiring K) (reference : String) : Bool :=
  ((wiring.entities.find? reference).bind (·.rail?)).isSome

/-- The entity with a reference. -/
def entity (wiring : Wiring K) (reference : String) : Except WiringError (WiringEntity K) :=
  match wiring.entities.find? reference with
  | some entity => .ok entity
  | none => .error (.unknownEntity reference)

/-- The pin of an entity with a given number, or else the first one that a token names. -/
def pin (wiring : Wiring K) (reference token : String) : Except WiringError (PlacedPin K) :=
  match wiring.entity reference with
  | .error cause => .error cause
  | .ok entity =>
      match (entity.pins.find? (·.pin.number == token)).or
          (entity.pins.find? (·.pin.isNamedBy token)) with
      | some placed => .ok placed
      | none => .error (.unknownPin reference token)

/-- The role that a pin should have to be joined to a power symbol. -/
def wantedRole? (wiring : Wiring K) (other : Terminal) : Option PinRole :=
  ((wiring.entities.find? other.entity).bind (·.rail?)).map fun rail =>
    if isGround rail then .ground else .power

/-- The pin that a terminal stands for. A terminal without a pin stands for the supply pin
that fits when the other end is a power symbol, and else for the first pin. -/
def resolve (wiring : Wiring K) (terminal other : Terminal) :
    Except WiringError (PlacedPin K) :=
  match terminal.pin with
  | some token => wiring.pin terminal.entity token
  | none =>
      match wiring.entity terminal.entity with
      | .error cause => .error cause
      | .ok entity =>
          match (entity.pins.find? fun placed =>
              some placed.pin.role == wiring.wantedRole? other).or entity.pins.head? with
          | some placed => .ok placed
          | none => .error (.unknownPin terminal.entity "")

/-- Make one pin a neighbour of another. -/
def addNeighbour (neighbours : Table NameSet) (key neighbour : String) : Table NameSet :=
  neighbours.alter key fun earlier => (earlier.getD Table.empty).insert neighbour ()

/-- Record two joined pins. -/
def join (wiring : Wiring K) (first second : PlacedPin K) : Wiring K :=
  { wiring with
    neighbours :=
      addNeighbour (addNeighbour wiring.neighbours first.key second.key) second.key first.key
    accepted := wiring.accepted ++ [(first, second)] }

/-- The pins that a connection joins, if it is acceptable. -/
def check (wiring : Wiring K) (source target : Terminal) :
    Except WiringError (PlacedPin K × PlacedPin K) :=
  match wiring.resolve source target with
  | .error cause => .error cause
  | .ok first =>
      match wiring.resolve target source with
      | .error cause => .error cause
      | .ok second =>
          if first.pin.canJoin second.pin then .ok (first, second)
          else .error (.incompatible first.key second.key)

/-- Accept a connection and record it, or say why it is not accepted. -/
def connect (wiring : Wiring K) (source target : Terminal) :
    Except WiringError ((PlacedPin K × PlacedPin K) × Wiring K) :=
  match wiring.check source target with
  | .error cause => .error cause
  | .ok (first, second) => .ok ((first, second), wiring.join first second)

/-- The keys of the neighbours of a pin, in ascending order. -/
def neighboursOf (wiring : Wiring K) (key : String) : List String :=
  ((wiring.neighbours.find? key).map Table.names).getD []

/-- Two pins are neighbours. -/
def areNeighbours (wiring : Wiring K) (first second : String) : Bool :=
  (wiring.neighbours.find? first).any (·.contains second)

/-- The pin is joined to another one. -/
def isJoined (wiring : Wiring K) (key : String) : Bool :=
  wiring.neighbours.contains key

end Wiring
end CircuitSheet
