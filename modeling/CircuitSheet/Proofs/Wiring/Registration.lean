import CircuitSheet.Proofs.Circuit.PowerKeys
import CircuitSheet.Proofs.Wiring.Connections

/-!
# Registered entities

The wiring of a circuit whose references differ knows every component under its reference and every
power symbol under its key, and nothing else. So a terminal of the circuit stands for the pin that
its component or power symbol has.
-/

namespace CircuitSheet

variable {K : Type} [Scalar K]

/-! ## What is registered -/

/-- A pin of a component, at the place of the component. -/
def Component.placed (component : Component K) (pin : Pin K) : PlacedPin K :=
  ⟨component.reference, pin, component.position, 0.0⟩

/-- A component as an entity of the wiring. -/
def Component.registered (component : Component K) : WiringEntity K where
  role := .component component.kind
  pins := component.kind.pins.map component.placed

/-- The pin of a power symbol under a key. -/
def PowerSymbol.placed (power : PowerSymbol K) (key : String) : PlacedPin K :=
  ⟨key, Pin.ofRail power.rail, power.position, 0.0⟩

/-- A power symbol as an entity of the wiring. -/
def PowerSymbol.registered (power : PowerSymbol K) (key : String) : WiringEntity K where
  role := .power power.rail
  pins := [power.placed key]

@[simp] theorem Component.rail?_registered (component : Component K) :
    component.registered.rail? = none := rfl

@[simp] theorem PowerSymbol.rail?_registered (power : PowerSymbol K) (key : String) :
    (power.registered key).rail? = some power.rail := rfl

namespace Circuit

/-- The entities that the wiring of a circuit registers, with their references and keys. -/
def registrations (circuit : Circuit K) : List (String × WiringEntity K) :=
  circuit.components.map (fun component => (component.reference, component.registered)) ++
    circuit.keyedPowers.map fun (power, key) => (key, power.registered key)

theorem map_fst_registrations (circuit : Circuit K) :
    circuit.registrations.map (·.1) =
      circuit.components.map (·.reference) ++ circuit.powerKeys := by
  rw [registrations, List.map_append, List.map_map, List.map_map, ← map_snd_keyedPowers]
  rfl

/-- Where references differ, nothing is registered in place of something else. -/
theorem DistinctReferences.nodup_registrations {circuit : Circuit K}
    (distinct : circuit.DistinctReferences) : (circuit.registrations.map (·.1)).Nodup := by
  rw [map_fst_registrations]
  exact distinct.nodup_keys

end Circuit

namespace Wiring

/-- The entities of the wiring of a circuit are its registrations, one after the other. -/
theorem entities_ofCircuit (circuit : Circuit K) :
    (ofCircuit circuit).entities =
      circuit.registrations.foldl (fun table entry => table.insert entry.1 entry.2)
        Table.empty := by
  have components : ∀ (components : List (Component K)) (wiring : Wiring K),
      (components.foldl (fun wiring component => wiring.addComponent component.reference
        component.kind component.position 0.0) wiring).entities =
      (components.map fun component => (component.reference, component.registered)).foldl
        (fun table entry => table.insert entry.1 entry.2) wiring.entities := by
    intro components
    induction components with
    | nil => exact fun _ => rfl
    | cons component rest inductionHypothesis => exact fun _ => inductionHypothesis _
  have powers : ∀ (keyed : List (PowerSymbol K × String)) (wiring : Wiring K),
      (keyed.foldl (fun wiring (power, key) => wiring.addPower key power.rail power.position)
        wiring).entities =
      (keyed.map fun (power, key) => (key, power.registered key)).foldl
        (fun table entry => table.insert entry.1 entry.2) wiring.entities := by
    intro keyed
    induction keyed with
    | nil => exact fun _ => rfl
    | cons entry rest inductionHypothesis => exact fun _ => inductionHypothesis _
  rw [ofCircuit, powers, components, Circuit.registrations, List.foldl_append]
  rfl

section Distinct

variable {circuit : Circuit K} (distinct : circuit.DistinctReferences)
include distinct

theorem find?_entities_iff {reference : String} {entity : WiringEntity K} :
    (ofCircuit circuit).entities.find? reference = some entity ↔
      (reference, entity) ∈ circuit.registrations := by
  rw [entities_ofCircuit]
  exact Table.find?_foldl_insert_iff distinct.nodup_registrations

theorem find?_entities_component {component : Component K}
    (member : component ∈ circuit.components) :
    (ofCircuit circuit).entities.find? component.reference = some component.registered :=
  (find?_entities_iff distinct).mpr
    (List.mem_append_left _ (List.mem_map.mpr ⟨component, member, rfl⟩))

theorem find?_entities_power {power : PowerSymbol K} (member : power ∈ circuit.powers)
    (named : power.reference ≠ "") :
    (ofCircuit circuit).entities.find? power.reference =
      some (power.registered power.reference) :=
  (find?_entities_iff distinct).mpr (List.mem_append_right _
    (List.mem_map.mpr ⟨_, Circuit.mem_keyedPowers_of_named member named, rfl⟩))

end Distinct

end Wiring

/-! ## Pins of terminals -/

/-- The pin of a kind with a number, or else the first one that a token names. -/
def Kind.namedPin? (kind : Kind) (token : String) : Option (Pin K) :=
  (kind.pins.find? (·.number == token)).or (kind.pins.find? (·.isNamedBy token))

/-- The role of the supply pins on the nets of a kind. -/
def NetKind.pinRole : NetKind → PinRole
  | .power => .power
  | .ground => .ground
  | .signal => .signal

/-- The first pin of a kind that carries the supply of a net. -/
def Kind.supplyPin? (kind : Kind) (net : NetKind) : Option (Pin K) :=
  kind.pins.find? (·.role == net.pinRole)

theorem Pin.role_ofRail (rail : String) :
    (ofRail rail : Pin K).role = (NetKind.ofRail rail).pinRole := by
  unfold NetKind.ofRail
  cases ground : isGround rail <;> simp [ofRail, ground, NetKind.pinRole]

namespace Wiring

variable {circuit : Circuit K} (distinct : circuit.DistinctReferences)
include distinct

/-- A terminal with a token stands for the pin that the token names. -/
theorem resolve_named {component : Component K} {pin : Pin K} {token : String}
    (member : component ∈ circuit.components) (named : component.kind.namedPin? token = some pin)
    (other : Terminal) :
    (ofCircuit circuit).resolve ⟨component.reference, some token⟩ other =
      .ok (component.placed pin) := by
  have found : (component.registered.pins.find? (·.pin.number == token)).or
      (component.registered.pins.find? (·.pin.isNamedBy token)) =
        some (component.placed pin) := by
    rw [Component.registered, List.find?_map, List.find?_map, ← Option.map_or]
    exact congrArg (Option.map component.placed) named
  simp only [resolve, Wiring.pin, entity, find?_entities_component distinct member, found]

/-- A component as a whole stands for the supply pin that fits the power symbol at the other
end. -/
theorem resolve_toRail {component : Component K} {power : PowerSymbol K} {pin : Pin K}
    (member : component ∈ circuit.components) (powerMember : power ∈ circuit.powers)
    (named : power.reference ≠ "")
    (supplied : component.kind.supplyPin? (NetKind.ofRail power.rail) = some pin) :
    (ofCircuit circuit).resolve ⟨component.reference, none⟩ ⟨power.reference, none⟩ =
      .ok (component.placed pin) := by
  have wanted : (ofCircuit circuit).wantedRole? ⟨power.reference, none⟩ =
      some (NetKind.ofRail power.rail).pinRole := by
    rw [wantedRole?, find?_entities_power distinct powerMember named, ← Pin.role_ofRail (K := K)]
    rfl
  have found : component.registered.pins.find? (fun placed =>
      some placed.pin.role == some (NetKind.ofRail power.rail).pinRole) =
        some (component.placed pin) := by
    rw [Component.registered, List.find?_map]
    exact congrArg (Option.map component.placed) supplied
  simp only [resolve, entity, find?_entities_component distinct member, wanted, found,
    Option.some_or]

/-- A power symbol that faces a component stands for its only pin. -/
theorem resolve_rail {component : Component K} {power : PowerSymbol K}
    (member : component ∈ circuit.components) (powerMember : power ∈ circuit.powers)
    (named : power.reference ≠ "") :
    (ofCircuit circuit).resolve ⟨power.reference, none⟩ ⟨component.reference, none⟩ =
      .ok (power.placed power.reference) := by
  have wanted : (ofCircuit circuit).wantedRole? ⟨component.reference, none⟩ = none := by
    rw [wantedRole?, find?_entities_component distinct member]
    rfl
  simp [resolve, entity, find?_entities_power distinct powerMember named, wanted,
    PowerSymbol.registered]

end Wiring
end CircuitSheet
