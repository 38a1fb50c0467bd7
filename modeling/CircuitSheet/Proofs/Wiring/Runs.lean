import CircuitSheet.Proofs.Wiring.Connections

/-!
# Runs

A wiring comes about by registering entities and trying connections, in any order. Whatever is
done, every registered pin is one of the built-in ones, so the power pins of a wiring either take
supply or give it.
-/

namespace CircuitSheet

variable {K : Type} [Scalar K]

/-- Something that is done to a wiring. -/
inductive WiringAction (K : Type)
  | addComponent (reference : String) (kind : Kind) (position : Point K) (rotation : K)
  | addPower (reference rail : String) (position : Point K)
  | connect (connection : Connection)

/-! ## Built-in pins -/

namespace Pin

/-- The pin belongs to the arrangement of a kind or to the symbol of a rail. -/
def IsBuiltIn (pin : Pin K) : Prop :=
  (∃ kind : Kind, pin ∈ kind.pins) ∨ ∃ rail, pin = ofRail rail

/-- A built-in power pin takes supply or gives it. -/
theorem IsBuiltIn.direction_eq {pin : Pin K} (builtIn : pin.IsBuiltIn) (power : pin.role = .power) :
    pin.direction = .powerIn ∨ pin.direction = .powerOut := by
  rcases builtIn with ⟨kind, member⟩ | ⟨rail, rfl⟩
  · cases kind <;> simp [Kind.pins, pair, passive, standard, transistor] at member <;> grind
  · exact .inl rfl

end Pin

namespace Wiring

/-! ## Runs -/

/-- Do something to a wiring. -/
def act (wiring : Wiring K) : WiringAction K → Wiring K
  | .addComponent reference kind position rotation =>
      wiring.addComponent reference kind position rotation
  | .addPower reference rail position => wiring.addPower reference rail position
  | .connect connection => wiring.attempt connection

/-- The wiring that comes about when things are done one after the other. -/
def run (actions : List (WiringAction K)) : Wiring K :=
  actions.foldl act empty

/-- All registered pins are built-in ones. -/
def HasBuiltInPins (wiring : Wiring K) : Prop :=
  ∀ placed ∈ wiring.allPins, placed.pin.IsBuiltIn

/-- An entity with built-in pins may take the place of another. -/
theorem HasBuiltInPins.insert {wiring : Wiring K} (builtIn : wiring.HasBuiltInPins)
    (reference : String) {entity : WiringEntity K}
    (entityBuiltIn : ∀ placed ∈ entity.pins, placed.pin.IsBuiltIn) :
    HasBuiltInPins { wiring with entities := wiring.entities.insert reference entity } := by
  intro placed member
  obtain ⟨name, found, foundEq, inFound⟩ := mem_allPins_iff.mp member
  rw [Table.find?_insert] at foundEq
  split at foundEq
  · obtain rfl := Option.some.inj foundEq
    exact entityBuiltIn placed inFound
  · exact builtIn placed (mem_allPins_iff.mpr ⟨name, found, foundEq, inFound⟩)

/-- Whatever is done to it, a wiring with built-in pins has no others. -/
theorem HasBuiltInPins.act {wiring : Wiring K} (builtIn : wiring.HasBuiltInPins)
    (action : WiringAction K) : (wiring.act action).HasBuiltInPins := by
  cases action with
  | addComponent reference kind position rotation =>
      refine builtIn.insert reference ?_
      rw [List.forall_mem_map]
      exact fun pin member => .inl ⟨kind, member⟩
  | addPower reference rail position =>
      refine builtIn.insert reference ?_
      rw [List.forall_mem_singleton]
      exact .inr ⟨rail, rfl⟩
  | connect connection =>
      intro placed member
      refine builtIn placed ?_
      rw [allPins, ← entities_attempt wiring connection]
      exact member

theorem hasBuiltInPins_run (actions : List (WiringAction K)) : (run actions).HasBuiltInPins :=
  List.foldlRecOn actions act (by simp [HasBuiltInPins, allPins, empty, Table.values, Table.empty])
    fun _ builtIn action _ => builtIn.act action

end Wiring
end CircuitSheet
