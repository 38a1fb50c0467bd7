import CircuitSheet.Proofs.Floorplan.Arranged
import CircuitSheet.Proofs.Floorplan.Stability

/-!
# Positions of laid out circuits

Components are placed in the order of a strategy and given their positions by reference; power
symbols follow under their keys. Where references differ, every entity of a laid out circuit is at
the spot of the one placing that goes by its reference or key, and the body that was recorded then
is the only one of that reference.
-/

namespace CircuitSheet

variable {K : Type}

namespace Floorplan

/-! ## Components that move -/

theorem map_reference_items (components : List (Component K)) :
    (components.map itemOf).map (·.reference) = components.map (·.reference) := by
  rw [List.map_map]
  rfl

theorem map_reference_moveFirst (reference : String) (position : Point K)
    (components : List (Component K)) :
    (moveFirst reference position components).map (·.reference) =
      components.map (·.reference) := by
  have same := congrArg (List.map Component.reference)
    (map_unplaced_moveFirst reference position components)
  rwa [List.map_map, List.map_map] at same

/-- After a move a component is where it was moved to, or it was there before and has another
reference. -/
theorem mem_moveFirst {reference : String} {position : Point K} {components : List (Component K)}
    (distinct : (components.map (·.reference)).Nodup) {moved : Component K}
    (member : moved ∈ moveFirst reference position components) :
    moved.reference = reference ∧ moved.position = position ∨
      moved ∈ components ∧ moved.reference ≠ reference := by
  induction components with
  | nil => cases member
  | cons component rest inductionHypothesis =>
      obtain ⟨absent, restDistinct⟩ := List.nodup_cons.mp distinct
      rw [moveFirst] at member
      split at member
      case isTrue same =>
        rcases List.mem_cons.mp member with rfl | inRest
        · exact .inl ⟨same, rfl⟩
        · refine .inr ⟨List.mem_cons_of_mem _ inRest, ?_⟩
          rintro sameMoved
          exact absent (List.mem_map.mpr ⟨moved, inRest, sameMoved.trans same.symm⟩)
      case isFalse different =>
        rcases List.mem_cons.mp member with rfl | inRest
        · exact .inr ⟨List.mem_cons_self, different⟩
        · refine (inductionHypothesis restDistinct inRest).imp_right ?_
          exact And.imp_left (List.mem_cons_of_mem _)

/-- After all moves a component is at a spot that goes by its reference, or it is where it was and
no spot does. -/
theorem mem_moveComponents {components : List (Component K)} {spots : List (String × Spot K)}
    (distinct : (components.map (·.reference)).Nodup) {moved : Component K}
    (member : moved ∈ moveComponents components spots) :
    (∃ spot, (moved.reference, spot) ∈ spots ∧ moved.position = spot.position) ∨
      moved ∈ components ∧ moved.reference ∉ spots.map (·.1) := by
  induction spots generalizing components with
  | nil => exact .inr ⟨member, List.not_mem_nil⟩
  | cons entry rest inductionHypothesis =>
      obtain ⟨reference, spot⟩ := entry
      have stillDistinct :
          ((moveFirst reference spot.position components).map (·.reference)).Nodup := by
        rwa [map_reference_moveFirst]
      rcases inductionHypothesis stillDistinct member with
        ⟨later, listed, atSpot⟩ | ⟨afterFirst, notLater⟩
      · exact .inl ⟨later, List.mem_cons_of_mem _ listed, atSpot⟩
      · rcases mem_moveFirst distinct afterFirst with ⟨rfl, atSpot⟩ | ⟨before, different⟩
        · exact .inl ⟨spot, List.mem_cons_self, atSpot⟩
        · exact .inr ⟨before, List.not_mem_cons_of_ne_of_not_mem different notLater⟩

end Floorplan

variable [Scalar K]

/-- The item of a placing at the position that it was given. -/
def Placing.settled (placing : Placing K) : LayoutItem × Point K :=
  (placing.item, placing.spot.position)

namespace Floorplan

variable (plan : Floorplan K)

/-! ## Entities at the spots of placings -/

theorem settled_placeAll (preferences : List (LayoutItem × Point K)) :
    settled preferences (plan.placeAll preferences).1 =
      (plan.placings (preferences.map request)).map Placing.settled := by
  induction preferences generalizing plan with
  | nil => rfl
  | cons head rest inductionHypothesis =>
      obtain ⟨item, preferred⟩ := head
      exact congrArg _ (inductionHypothesis _)

/-- Every component is placed once, whatever the strategy is. -/
theorem items_componentRequests_perm {components : List (Component K)}
    (distinct : (components.map (·.reference)).Nodup) (strategy : Option LayoutStrategy) :
    ((plan.componentRequests components strategy).map (·.1)).Perm (components.map itemOf) := by
  cases strategy with
  | none =>
      rw [componentRequests, List.map_map]
      exact .refl _
  | some strategy =>
      have itemsDistinct : ((components.map itemOf).map (·.reference)).Nodup :=
        (map_reference_items components).symm ▸ distinct
      have ordered := plan.map_fst_preferences itemsDistinct strategy
      rw [componentRequests, List.map_map]
      exact (List.Perm.of_eq ordered).trans (strategy.order_perm _)

/-- Components keep their items when they move. -/
theorem map_itemOf_placeComponents (components : List (Component K))
    (strategy : Option LayoutStrategy) :
    (plan.placeComponents components strategy).entities.map itemOf = components.map itemOf := by
  have same := plan.map_unplaced_placeComponents components strategy
  have kept := congrArg (List.map fun shape : Component Unit =>
    (⟨shape.reference, .component shape.kind⟩ : LayoutItem)) same
  rwa [List.map_map, List.map_map] at kept

/-- A component that a strategy arranged is at the spot of the placing of its item: some spot goes
by its reference, and only its own item has that reference. -/
theorem exists_placing_arranged {components : List (Component K)}
    (distinct : (components.map (·.reference)).Nodup) (strategy : LayoutStrategy)
    {component : Component K}
    (member : component ∈ (plan.placeComponents components (some strategy)).entities) :
    ∃ placing ∈ plan.placings (plan.componentRequests components (some strategy)),
      placing.settled = (itemOf component, component.position) := by
  let placings := plan.placings (plan.componentRequests components (some strategy))
  have perm : (placings.map (·.item)).Perm (components.map itemOf) := by
    rw [map_item_placings]
    exact plan.items_componentRequests_perm distinct (some strategy)
  have isItem : itemOf component ∈ components.map itemOf := by
    rw [← plan.map_itemOf_placeComponents components (some strategy)]
    exact List.mem_map_of_mem member
  have spots := (plan.placeComponents_eq components (some strategy)).1
  have moved : component ∈ moveComponents components (placings.map Placing.outcome) :=
    spots ▸ member
  rcases mem_moveComponents distinct moved with ⟨spot, listed, atSpot⟩ | ⟨-, unplaced⟩
  · obtain ⟨placing, isPlacing, same⟩ := List.mem_map.mp listed
    obtain ⟨sameReference, rfl⟩ := Prod.mk.inj same
    have placed : placing.item ∈ components.map itemOf :=
      perm.mem_iff.mp (List.mem_map_of_mem isPlacing)
    have sameItem : placing.item = itemOf component :=
      List.inj_on_of_nodup_map ((map_reference_items components).symm ▸ distinct) placed isItem
        sameReference
    exact ⟨placing, isPlacing, Prod.ext sameItem atSpot.symm⟩
  · obtain ⟨placing, isPlacing, same⟩ := List.mem_map.mp (perm.mem_iff.mpr isItem)
    have sameReference : placing.item.reference = component.reference :=
      congrArg LayoutItem.reference same
    refine absurd ?_ unplaced
    rw [List.map_map, ← sameReference]
    exact List.mem_map.mpr ⟨placing, isPlacing, rfl⟩

/-- A component that was placed is at the spot of a placing of its item. -/
theorem exists_placing_component {components : List (Component K)}
    (distinct : (components.map (·.reference)).Nodup) (strategy : Option LayoutStrategy)
    {component : Component K}
    (member : component ∈ (plan.placeComponents components strategy).entities) :
    ∃ placing ∈ plan.placings (plan.componentRequests components strategy),
      placing.settled = (itemOf component, component.position) := by
  cases strategy with
  | some strategy => exact plan.exists_placing_arranged distinct strategy member
  | none =>
      have preferred : (itemOf component, component.position) ∈
          componentPreferences (plan.placeComponents components none).entities :=
        List.mem_map.mpr ⟨component, member, rfl⟩
      rw [componentPreferences_placeComponents, settled_placeAll, componentPreferences,
        List.map_map] at preferred
      exact List.mem_map.mp preferred

/-- Every entity of a laid out circuit is at the spot of a placing of its item. -/
theorem exists_placing_of_mem {circuit : Circuit K} (distinct : circuit.DistinctReferences)
    (strategy : Option LayoutStrategy) {preference : LayoutItem × Point K}
    (member : preference ∈ preferencesOf (plan.layOut circuit strategy).circuit) :
    ∃ placing ∈ plan.placings (plan.requests (.layOut circuit strategy)),
      placing.settled = preference := by
  rw [requests, placings_append]
  rcases List.mem_append.mp member with isComponent | isPower
  · obtain ⟨component, listed, rfl⟩ := List.mem_map.mp isComponent
    obtain ⟨placing, isPlacing, settled⟩ :=
      plan.exists_placing_component (List.nodup_append.mp distinct).1 strategy listed
    exact ⟨placing, List.mem_append_left _ isPlacing, settled⟩
  · rw [powerPreferences_layOut, settled_placeAll, (plan.placeComponents_eq ..).2, powerPreferences,
      List.map_map] at isPower
    obtain ⟨placing, isPlacing, settled⟩ := List.mem_map.mp isPower
    exact ⟨placing, List.mem_append_right _ isPlacing, settled⟩

/-! ## Records of laid out circuits -/

/-- The entities of a circuit are placed under different references. -/
theorem nodup_references_requests {circuit : Circuit K} (distinct : circuit.DistinctReferences)
    (strategy : Option LayoutStrategy) :
    ((plan.requests (.layOut circuit strategy)).map (·.1.reference)).Nodup := by
  have components : ((plan.componentRequests circuit.components strategy).map
      (·.1.reference)).Perm (circuit.components.map (·.reference)) := by
    have perm := (plan.items_componentRequests_perm (List.nodup_append.mp distinct).1
      strategy).map LayoutItem.reference
    rwa [List.map_map, map_reference_items] at perm
  have powers : (powerRequests circuit.keyedPowers).map (·.1.reference) = circuit.powerKeys := by
    rw [powerRequests, List.map_map, ← circuit.map_snd_keyedPowers]
    rfl
  rw [requests, List.map_append, powers, (components.append_right _).nodup_iff]
  exact distinct.nodup_keys

theorem placements_layOut (circuit : Circuit K) (strategy : Option LayoutStrategy) :
    (plan.layOut circuit strategy).placements =
      (plan.placings (plan.requests (.layOut circuit strategy))).map Placing.placement := by
  have told : (plan.layOut circuit strategy).spots =
      (plan.placings (plan.requests (.layOut circuit strategy))).map Placing.outcome :=
    plan.perform_outcomes (.layOut circuit strategy)
  rw [LaidOut.placements, told]
  exact placementsOf_outcomes _

/-- No reference is told of twice. -/
theorem nodup_placements_layOut {circuit : Circuit K} (distinct : circuit.DistinctReferences)
    (strategy : Option LayoutStrategy) :
    ((plan.layOut circuit strategy).placements.map (·.reference)).Nodup := by
  have references := plan.nodup_references_requests distinct strategy
  rw [← plan.map_reference_bodies_placings, List.map_map] at references
  rwa [placements_layOut, List.map_map]

/-- The body of an entity of a laid out circuit is what is recorded under its reference, at its
position, and the position is told under that reference. -/
theorem recorded_layOut {circuit : Circuit K} (distinct : circuit.DistinctReferences)
    (strategy : Option LayoutStrategy) {item : LayoutItem} {position : Point K}
    (member : (item, position) ∈ preferencesOf (plan.layOut circuit strategy).circuit) :
    (plan.layOut circuit strategy).plan.placed.filter (·.reference == item.reference) =
        [⟨item.reference, position, item.occupant.bodySize⟩] ∧
      ⟨item.reference, position⟩ ∈ (plan.layOut circuit strategy).placements := by
  obtain ⟨placing, isPlacing, settled⟩ := plan.exists_placing_of_mem distinct strategy member
  obtain ⟨rfl, rfl⟩ := Prod.mk.inj settled
  refine ⟨?_, ?_⟩
  · rw [plan_layOut]
    exact plan.filter_placed_afterAll (plan.nodup_references_requests distinct strategy) isPlacing
  · rw [placements_layOut]
    exact List.mem_map.mpr ⟨placing, isPlacing, rfl⟩

end Floorplan
end CircuitSheet
