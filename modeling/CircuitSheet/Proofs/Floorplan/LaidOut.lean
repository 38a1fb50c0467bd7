import CircuitSheet.Proofs.Boundary.Correction
import CircuitSheet.Proofs.Floorplan.Run
import CircuitSheet.Wiring.Inference

/-!
# Laid out circuits

Laying out a circuit moves its entities and changes nothing else. So whatever does not depend on
positions is the same before and after: the references, the connections and the guesses.
-/

namespace CircuitSheet

variable {K : Type}

/-! ## Circuits without positions -/

/-- A component without its position. -/
def Component.unplaced (component : Component K) : Component Unit :=
  { component with position := ⟨(), ()⟩ }

/-- A power symbol without its position. -/
def PowerSymbol.unplaced (power : PowerSymbol K) : PowerSymbol Unit :=
  { power with position := ⟨(), ()⟩ }

namespace Circuit

/-- A circuit without positions. -/
def unplaced (circuit : Circuit K) : Circuit Unit :=
  { circuit with
    components := circuit.components.map (·.unplaced)
    powers := circuit.powers.map (·.unplaced) }

theorem powers_unplaced (circuit : Circuit K) :
    circuit.unplaced.powers = circuit.powers.map (·.unplaced) := rfl

/-- Circuits differ at most in positions when they are equal without them. -/
theorem SameBesidesPositions.of_unplaced {one other : Circuit K}
    (same : one.unplaced = other.unplaced) : one.SameBesidesPositions other := by
  obtain ⟨sameName, sameComponents, samePowers, sameConnections⟩ := Circuit.mk.inj same
  refine ⟨sameName.symm, sameConnections.symm, ?_, ?_⟩
  · rw [← List.forall₂_eq_eq_eq, List.forall₂_map_left_iff,
      List.forall₂_map_right_iff] at sameComponents
    refine sameComponents.imp ?_
    rintro ⟨⟩ ⟨⟩ same
    cases same
    rfl
  · rw [← List.forall₂_eq_eq_eq, List.forall₂_map_left_iff,
      List.forall₂_map_right_iff] at samePowers
    refine samePowers.imp ?_
    rintro ⟨⟩ ⟨⟩ same
    cases same
    rfl

theorem map_reference_components_unplaced (circuit : Circuit K) :
    circuit.unplaced.components.map (·.reference) = circuit.components.map (·.reference) := by
  rw [unplaced, List.map_map]
  rfl

theorem map_reference_powers_unplaced (circuit : Circuit K) :
    circuit.unplaced.powers.map (·.reference) = circuit.powers.map (·.reference) := by
  rw [unplaced, List.map_map]
  rfl

/-- Whether references differ is not a matter of positions. -/
theorem distinctReferences_unplaced (circuit : Circuit K) :
    circuit.unplaced.DistinctReferences ↔ circuit.DistinctReferences := by
  rw [DistinctReferences, map_reference_components_unplaced, map_reference_powers_unplaced,
    DistinctReferences]

/-- Circuits that are equal without positions differ in their references alike. -/
theorem DistinctReferences.of_unplaced {one other : Circuit K} (distinct : one.DistinctReferences)
    (same : one.unplaced = other.unplaced) : other.DistinctReferences := by
  rwa [← distinctReferences_unplaced, ← same, distinctReferences_unplaced]

/-! ## Guesses without positions -/

theorem ofKind_unplaced (circuit : Circuit K) (kind : Kind) :
    circuit.unplaced.ofKind kind = (circuit.ofKind kind).map (·.unplaced) := by
  rw [ofKind, unplaced, List.filter_map]
  rfl

theorem consumers_unplaced (circuit : Circuit K) :
    circuit.unplaced.consumers = circuit.consumers.map (·.unplaced) := by
  rw [consumers, unplaced, List.filter_map]
  rfl

theorem batteryRails_unplaced (circuit : Circuit K) :
    circuit.unplaced.batteryRails = circuit.batteryRails := by
  simp only [batteryRails, ofKind_unplaced, consumers_unplaced, List.flatMap_map]
  rfl

theorem symbolRails_unplaced (circuit : Circuit K) :
    circuit.unplaced.symbolRails = circuit.symbolRails := by
  simp only [symbolRails, consumers_unplaced, powers_unplaced, List.filter_map, List.flatMap_map,
    List.map_map]
  rfl

theorem lightPairs_unplaced (circuit : Circuit K) :
    circuit.unplaced.lightPairs = circuit.lightPairs := by
  apply List.ext_getElem?
  intro index
  simp only [lightPairs, ofKind_unplaced, List.zip_map, List.getElem?_mapIdx, List.getElem?_map,
    Option.map_map]
  rfl

theorem audioChain_unplaced (circuit : Circuit K) :
    circuit.unplaced.audioChain = circuit.audioChain := by
  simp only [audioChain, ofKind_unplaced, List.head?_map]
  cases (circuit.ofKind .amplifier).head? with
  | none => rfl
  | some amplifier =>
      cases (circuit.ofKind .connector).head? <;> cases (circuit.ofKind .speaker).head? <;> rfl

/-- Guesses are not a matter of positions. -/
theorem inferConnections_unplaced (circuit : Circuit K) :
    circuit.unplaced.inferConnections = circuit.inferConnections := by
  rw [inferConnections, inferConnections, batteryRails_unplaced, symbolRails_unplaced,
    lightPairs_unplaced, audioChain_unplaced]
  rfl

end Circuit

/-! ## Moved entities -/

namespace Floorplan

theorem map_unplaced_moveFirst (reference : String) (position : Point K)
    (components : List (Component K)) :
    (moveFirst reference position components).map (·.unplaced) =
      components.map (·.unplaced) := by
  induction components with
  | nil => rfl
  | cons component rest inductionHypothesis =>
      rw [moveFirst]
      split
      · rfl
      · rw [List.map_cons, List.map_cons, inductionHypothesis]

theorem map_unplaced_moveComponents (components : List (Component K))
    (spots : List (String × Spot K)) :
    (moveComponents components spots).map (·.unplaced) = components.map (·.unplaced) := by
  induction spots generalizing components with
  | nil => rfl
  | cons spot rest inductionHypothesis =>
      rw [moveComponents, List.foldl_cons, ← moveComponents, inductionHypothesis,
        map_unplaced_moveFirst]

/-- What is paired off with as many spots is still all there. -/
theorem map_zipWith_of_length_eq {α β γ δ : Type} {entities : List α} {spots : List β}
    (paired : entities.length = spots.length) {move : α → β → γ} {unplaced : γ → δ} {kept : α → δ}
    (keeps : ∀ entity spot, unplaced (move entity spot) = kept entity) :
    (List.zipWith move entities spots).map unplaced = entities.map kept := by
  have first : entities.map kept = ((entities.zip spots).map Prod.fst).map kept := by
    rw [List.map_fst_zip paired.le]
  rw [first, List.map_zipWith, List.map_map, ← List.map_uncurry_zip_eq_zipWith]
  apply List.map_congr_left
  intro pair _
  exact keeps pair.1 pair.2

variable [Scalar K]

theorem length_placings (plan : Floorplan K) (items : List (LayoutItem × Option (Point K))) :
    (plan.placings items).length = items.length := by
  induction items generalizing plan with
  | nil => rfl
  | cons head rest inductionHypothesis =>
      simp only [placings, List.length_cons, inductionHypothesis]

/-- There is a spot for every preference. -/
theorem length_placeAll (plan : Floorplan K) (preferences : List (LayoutItem × Point K)) :
    (plan.placeAll preferences).1.length = preferences.length := by
  rw [placeAll_eq, List.length_map, length_placings, List.length_map]

theorem map_unplaced_placeComponents (plan : Floorplan K) (components : List (Component K))
    (strategy : Option LayoutStrategy) :
    (plan.placeComponents components strategy).entities.map (·.unplaced) =
      components.map (·.unplaced) := by
  cases strategy with
  | some strategy => exact map_unplaced_moveComponents ..
  | none =>
      refine map_zipWith_of_length_eq ?_ fun _ _ => rfl
      rw [length_placeAll, List.length_map]

theorem map_unplaced_placePowers (plan : Floorplan K) (circuit : Circuit K) :
    (plan.placePowers circuit.keyedPowers).entities.map (·.unplaced) =
      circuit.powers.map (·.unplaced) := by
  have kept : (plan.placePowers circuit.keyedPowers).entities.map (·.unplaced) =
      circuit.keyedPowers.map fun keyed => keyed.1.unplaced := by
    refine map_zipWith_of_length_eq ?_ fun _ _ => rfl
    rw [length_placeAll, List.length_map]
  rw [kept, ← Circuit.map_fst_keyedPowers, List.map_map]
  rfl

/-- Laying out a circuit changes nothing but positions. -/
theorem unplaced_layOut (plan : Floorplan K) (circuit : Circuit K)
    (strategy : Option LayoutStrategy) :
    (plan.layOut circuit strategy).circuit.unplaced = circuit.unplaced := by
  rw [layOut, Circuit.unplaced, map_unplaced_placeComponents, map_unplaced_placePowers]
  rfl

end Floorplan
end CircuitSheet
