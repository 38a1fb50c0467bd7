import CircuitSheet.Proofs.Exact.Lattice
import CircuitSheet.Proofs.Floorplan.LaidOut
import CircuitSheet.Proofs.Floorplan.Room

/-!
# Stability of the layout

Room is found at points of the grid only, and in exact arithmetic these stay where they are when
they are snapped again. So an item that asks for the position it was given is given the same one,
as long as the items before it stay in their places, too: a layout in which every entity found room
is kept when it is laid out again.
-/

namespace CircuitSheet
namespace Floorplan

/-! ## Points of the grid -/

theorem onLattice_snap (plan : Floorplan ℝ) (point : Point ℝ) :
    (plan.snap point).OnLattice plan.grid :=
  point.onLattice_toGrid plan.grid

/-- A point of the grid stays where it is. -/
theorem snap_of_onLattice {plan : Floorplan ℝ} (positive : 0 < plan.grid) {point : Point ℝ}
    (onGrid : point.OnLattice plan.grid) : plan.snap point = point :=
  Point.toGrid_of_onLattice positive onGrid

/-! ## Spots -/

/-- The position is a point of the grid, and the item has room there. -/
structure Fits (plan : Floorplan ℝ) (item : LayoutItem) (position : Point ℝ) : Prop where
  onGrid : position.OnLattice plan.grid
  accepted : plan.accepts item.reference item.occupant.bodySize position = true

variable {plan : Floorplan ℝ}

/-- An item that does not end in the corner fits where it is put. -/
theorem fits_find {item : LayoutItem} {preferred : Option (Point ℝ)} (rises : 0 < plan.spacing)
    (noCorner : (plan.find item.reference item.occupant preferred).source ≠ .corner) :
    plan.Fits item (plan.find item.reference item.occupant preferred).position := by
  have noStall : (plan.find item.reference item.occupant preferred).source ≠ .stalled :=
    findSpot_ne_stalled (.of_forall fun height => lt_add_of_pos_right height rises) preferred
  obtain ⟨point, snapped⟩ := findSpot_snapped noCorner noStall
  refine ⟨snapped ▸ plan.onLattice_snap point, ?_⟩
  rcases plan.findSpot_cases item.reference item.occupant.bodySize preferred with
    ⟨-, accepted⟩ | ⟨corner, -⟩ | ⟨stalled, -⟩
  · exact accepted
  · exact absurd corner noCorner
  · exact absurd stalled noStall

/-- An item stays where it fits. -/
theorem Fits.find_eq {item : LayoutItem} {position : Point ℝ} (fits : plan.Fits item position)
    (positive : 0 < plan.grid) :
    plan.find item.reference item.occupant (some position) = ⟨.preferred, position⟩ := by
  have kept : plan.preferredSpot? item.reference item.occupant.bodySize (some position) =
      some position := by
    have finite : position.isFinite = true := rfl
    rw [preferredSpot?, snap_of_onLattice positive fits.onGrid, finite, fits.accepted]
    rfl
  rw [find, findSpot, kept]

/-! ## Items one after the other -/

section

variable {K : Type} [Scalar K]

/-- The floorplan with all items where they prefer to be. -/
def reserveAll (plan : Floorplan K) (preferences : List (LayoutItem × Point K)) : Floorplan K :=
  preferences.foldl
    (fun plan (item, position) => plan.reserve item.reference item.occupant position) plan

theorem grid_reserveAll (plan : Floorplan K) (preferences : List (LayoutItem × Point K)) :
    (plan.reserveAll preferences).grid = plan.grid := by
  induction preferences generalizing plan with
  | nil => rfl
  | cons head rest inductionHypothesis => exact inductionHypothesis _

omit [Scalar K] in
/-- The spots of items that stay where they prefer to be. -/
def keptSpots (preferences : List (LayoutItem × Point K)) : List (String × Spot K) :=
  preferences.map fun (item, position) => (item.reference, ⟨.preferred, position⟩)

omit [Scalar K] in
/-- The items with the positions that they were given. -/
def settled (preferences : List (LayoutItem × Point K)) (spots : List (String × Spot K)) :
    List (LayoutItem × Point K) :=
  preferences.zipWith (fun (item, _) (_, spot) => (item, spot.position)) spots

/-- The last items are placed where the first ones have left room. -/
theorem placeAll_append (plan : Floorplan K) (first second : List (LayoutItem × Point K)) :
    plan.placeAll (first ++ second) =
      ((plan.placeAll first).1 ++ ((plan.placeAll first).2.placeAll second).1,
        ((plan.placeAll first).2.placeAll second).2) := by
  induction first generalizing plan with
  | nil => rfl
  | cons head rest inductionHypothesis =>
      obtain ⟨item, preferred⟩ := head
      simp only [List.cons_append, placeAll, inductionHypothesis]

/-- Spots go by the references of their items. -/
theorem placements_settled (plan : Floorplan K) (preferences : List (LayoutItem × Point K)) :
    ((settled preferences (plan.placeAll preferences).1).map
        fun (item, position) => (⟨item.reference, position⟩ : Placement K)) =
      (plan.placeAll preferences).1.map fun (reference, spot) => ⟨reference, spot.position⟩ := by
  induction preferences generalizing plan with
  | nil => rfl
  | cons head rest inductionHypothesis =>
      obtain ⟨item, preferred⟩ := head
      exact congrArg _ (inductionHypothesis _)

end

/-- Every item fits where it prefers to be, once the ones before it are in their places. -/
def Keeps (plan : Floorplan ℝ) : List (LayoutItem × Point ℝ) → Prop
  | [] => True
  | (item, position) :: rest =>
      plan.Fits item position ∧ (plan.reserve item.reference item.occupant position).Keeps rest

/-- Items that fit stay where they are. -/
theorem placeAll_of_keeps {preferences : List (LayoutItem × Point ℝ)} (positive : 0 < plan.grid)
    (keeps : plan.Keeps preferences) :
    plan.placeAll preferences = (keptSpots preferences, plan.reserveAll preferences) := by
  induction preferences generalizing plan with
  | nil => rfl
  | cons head rest inductionHypothesis =>
      obtain ⟨item, position⟩ := head
      obtain ⟨fits, later⟩ := keeps
      have sameGrid : 0 < (plan.reserve item.reference item.occupant position).grid := positive
      rw [placeAll, place, fits.find_eq positive]
      dsimp only
      rw [inductionHypothesis sameGrid later]
      rfl

/-- Items for which room was found fit where they were put. -/
theorem keeps_settled {preferences : List (LayoutItem × Point ℝ)} (rises : 0 < plan.spacing)
    (noCorner : ∀ entry ∈ (plan.placeAll preferences).1, entry.2.source ≠ .corner) :
    plan.Keeps (settled preferences (plan.placeAll preferences).1) ∧
      plan.reserveAll (settled preferences (plan.placeAll preferences).1) =
        (plan.placeAll preferences).2 := by
  induction preferences generalizing plan with
  | nil => exact ⟨trivial, rfl⟩
  | cons head rest inductionHypothesis =>
      obtain ⟨item, preferred⟩ := head
      obtain ⟨here, later⟩ := List.forall_mem_cons.mp noCorner
      let next := (plan.place item.reference item.occupant (some preferred)).2
      have sameSpacing : 0 < next.spacing := rises
      have laterNoCorner : ∀ entry ∈ (next.placeAll rest).1, entry.2.source ≠ .corner := later
      obtain ⟨laterKept, last⟩ := inductionHypothesis sameSpacing laterNoCorner
      exact ⟨⟨fits_find rises here, laterKept⟩, last⟩

theorem keeps_append {first second : List (LayoutItem × Point ℝ)} :
    plan.Keeps (first ++ second) ↔
      plan.Keeps first ∧ (plan.reserveAll first).Keeps second := by
  induction first generalizing plan with
  | nil => exact (and_iff_right trivial).symm
  | cons head rest inductionHypothesis =>
      obtain ⟨item, position⟩ := head
      rw [List.cons_append, Keeps, Keeps, inductionHypothesis, and_assoc]
      rfl

end Floorplan

/-! ## Circuits -/

section

variable {K : Type}

namespace Floorplan

/-- Components with their described positions. -/
def componentPreferences (components : List (Component K)) : List (LayoutItem × Point K) :=
  components.map fun component => (itemOf component, component.position)

/-- Power symbols with their described positions, under their keys. -/
def powerPreferences (keyed : List (PowerSymbol K × String)) : List (LayoutItem × Point K) :=
  keyed.map fun (power, key) => (⟨key, .power⟩, power.position)

/-- The entities of a circuit with their described positions, in the order of placing. -/
def preferencesOf (circuit : Circuit K) : List (LayoutItem × Point K) :=
  componentPreferences circuit.components ++ powerPreferences circuit.keyedPowers

/-- A list that was changed entry by entry, beside what is read from the list before. -/
theorem zip_zipWith_map {α β γ δ : Type} (move : α → β → γ) (key : α → δ) (first : List α)
    (second : List β) :
    (List.zipWith move first second).zip (first.map key) =
      List.zipWith (fun one other => (move one other, key one)) first second := by
  induction first generalizing second with
  | nil => rfl
  | cons head rest inductionHypothesis =>
      cases second with
      | nil => rfl
      | cons other others => exact congrArg _ (inductionHypothesis others)

variable [Scalar K]

/-- Laying out keeps the keys of power symbols. -/
theorem powerKeys_layOut (plan : Floorplan K) (circuit : Circuit K)
    (strategy : Option LayoutStrategy) :
    (plan.layOut circuit strategy).circuit.powerKeys = circuit.powerKeys := by
  have same := plan.unplaced_layOut circuit strategy
  apply Circuit.powerKeys_congr
  · rw [← Circuit.map_reference_components_unplaced, same,
      Circuit.map_reference_components_unplaced]
  · rw [← Circuit.map_reference_powers_unplaced, same, Circuit.map_reference_powers_unplaced]

/-- A circuit is laid out by placing its entities one after the other. -/
theorem layOut_eq_placeAll (plan : Floorplan K) (circuit : Circuit K) :
    (plan.layOut circuit none).spots = (plan.placeAll (preferencesOf circuit)).1 ∧
      (plan.layOut circuit none).plan = (plan.placeAll (preferencesOf circuit)).2 := by
  rw [preferencesOf, placeAll_append]
  exact ⟨rfl, rfl⟩

/-- Components that are placed next to their described positions have the ones they were given. -/
theorem componentPreferences_placeComponents (plan : Floorplan K)
    (components : List (Component K)) :
    componentPreferences (plan.placeComponents components none).entities =
      settled (componentPreferences components)
        (plan.placeAll (componentPreferences components)).1 := by
  rw [settled, componentPreferences, componentPreferences, List.zipWith_map_left]
  exact List.map_zipWith ..

/-- Power symbols have the positions that they were given, whatever the components were placed
by. -/
theorem powerPreferences_layOut (plan : Floorplan K) (circuit : Circuit K)
    (strategy : Option LayoutStrategy) :
    powerPreferences (plan.layOut circuit strategy).circuit.keyedPowers =
      settled (powerPreferences circuit.keyedPowers)
        ((plan.placeComponents circuit.components strategy).plan.placeAll
          (powerPreferences circuit.keyedPowers)).1 := by
  rw [Circuit.keyedPowers, powerKeys_layOut, ← circuit.map_snd_keyedPowers, settled,
    powerPreferences, powerPreferences, List.zipWith_map_left]
  refine (congrArg _ (zip_zipWith_map _ Prod.snd circuit.keyedPowers _)).trans ?_
  exact List.map_zipWith ..

/-- Entities that are laid out have the positions that they were given. -/
theorem preferencesOf_layOut (plan : Floorplan K) (circuit : Circuit K) :
    preferencesOf (plan.layOut circuit none).circuit =
      settled (preferencesOf circuit) (plan.layOut circuit none).spots := by
  have sameLength : (componentPreferences circuit.components).length =
      (plan.placeAll (componentPreferences circuit.components)).1.length :=
    (length_placeAll ..).symm
  rw [preferencesOf, powerPreferences_layOut]
  refine (congrArg (· ++ _) (plan.componentPreferences_placeComponents circuit.components)).trans ?_
  exact (List.zipWith_append sameLength).symm

end Floorplan

end

namespace Floorplan

variable {plan : Floorplan ℝ}

/-- Components that fit where they are stay there. -/
theorem placeComponents_of_keeps {components : List (Component ℝ)} (positive : 0 < plan.grid)
    (keeps : plan.Keeps (componentPreferences components)) :
    plan.placeComponents components none =
      ⟨components, keptSpots (componentPreferences components),
        plan.reserveAll (componentPreferences components)⟩ := by
  have placed := placeAll_of_keeps positive keeps
  have same : List.zipWith (fun component entry => { component with position := entry.2.position })
      components (keptSpots (componentPreferences components)) = components := by
    rw [keptSpots, componentPreferences, List.map_map, List.zipWith_map_right,
      List.zipWith_self]
    exact List.map_id' components
  rw [placeComponents, ← componentPreferences, placed]
  dsimp only
  rw [same]

/-- Power symbols that fit where they are stay there. -/
theorem placePowers_of_keeps {keyed : List (PowerSymbol ℝ × String)} (positive : 0 < plan.grid)
    (keeps : plan.Keeps (powerPreferences keyed)) :
    plan.placePowers keyed =
      ⟨keyed.map Prod.fst, keptSpots (powerPreferences keyed),
        plan.reserveAll (powerPreferences keyed)⟩ := by
  have placed := placeAll_of_keeps positive keeps
  have same : List.zipWith (fun (power, _) entry => { power with position := entry.2.position })
      keyed (keptSpots (powerPreferences keyed)) = keyed.map Prod.fst := by
    rw [keptSpots, powerPreferences, List.map_map, List.zipWith_map_right, List.zipWith_self]
    rfl
  rw [placePowers, ← powerPreferences, placed]
  dsimp only
  rw [same]

/-- A circuit whose entities fit where they are is left as it is. -/
theorem layOut_of_keeps {circuit : Circuit ℝ} (positive : 0 < plan.grid)
    (keeps : plan.Keeps (preferencesOf circuit)) :
    plan.layOut circuit none =
      ⟨circuit, keptSpots (preferencesOf circuit), plan.reserveAll (preferencesOf circuit)⟩ := by
  obtain ⟨componentsKept, powersKept⟩ := keeps_append.mp keeps
  have sameGrid : 0 < (plan.reserveAll (componentPreferences circuit.components)).grid := by
    rwa [grid_reserveAll]
  rw [layOut, placeComponents_of_keeps positive componentsKept]
  dsimp only
  rw [placePowers_of_keeps sameGrid powersKept, circuit.map_fst_keyedPowers, preferencesOf,
    keptSpots, keptSpots, keptSpots, List.map_append, reserveAll, reserveAll, reserveAll,
    List.foldl_append]

/-- The placements of a circuit whose entities stay where they are. -/
theorem map_placement_keptSpots (preferences : List (LayoutItem × Point ℝ)) :
    ((keptSpots preferences).map
        fun (reference, spot) => (⟨reference, spot.position⟩ : Placement ℝ)) =
      preferences.map fun (item, position) => ⟨item.reference, position⟩ := by
  rw [keptSpots, List.map_map]
  rfl

/-! ## Bodies that keep apart -/

/-- The body of an item where it prefers to be, whatever its reference is. -/
def outlineOf {K : Type} [Scalar K] (preference : LayoutItem × Point K) : Body K :=
  ⟨"", preference.2, preference.1.occupant.bodySize⟩

/-- Items on the grid whose bodies keep apart fit where they are. -/
theorem keeps_of_apart {preferences : List (LayoutItem × Point ℝ)}
    (onGrid : ∀ preference ∈ preferences, preference.2.OnLattice plan.grid)
    (within : ∀ preference ∈ preferences, plan.page.holdsBody (outlineOf preference) = true)
    (apart : (preferences.map outlineOf).Pairwise fun first second =>
      first.overlaps second = false)
    (free : ∀ preference ∈ preferences, ∀ body ∈ plan.placed,
      body.overlaps (outlineOf preference) = false) : plan.Keeps preferences := by
  induction preferences generalizing plan with
  | nil => trivial
  | cons head rest inductionHypothesis =>
      obtain ⟨item, position⟩ := head
      obtain ⟨onGridHere, onGridLater⟩ := List.forall_mem_cons.mp onGrid
      obtain ⟨withinHere, withinLater⟩ := List.forall_mem_cons.mp within
      obtain ⟨apartHere, apartLater⟩ := List.pairwise_cons.mp apart
      obtain ⟨freeHere, freeLater⟩ := List.forall_mem_cons.mp free
      have isFree : plan.isFree ⟨item.reference, position, item.occupant.bodySize⟩ = true := by
        rw [isFree, Bool.not_eq_true', List.any_eq_false]
        intro body member overlapping
        have clear : body.overlaps ⟨item.reference, position, item.occupant.bodySize⟩ = false :=
          freeHere body member
        rw [clear, Bool.and_false] at overlapping
        cases overlapping
      refine ⟨⟨onGridHere, Bool.and_eq_true_iff.mpr ⟨withinHere, isFree⟩⟩,
        inductionHypothesis onGridLater withinLater apartLater ?_⟩
      -- The bodies beside a later item are the earlier ones and the one that is new.
      intro preference later body member
      rcases List.mem_append.mp member with isEarlier | isNew
      · exact freeLater preference later body (List.mem_filter.mp isEarlier).1
      · rw [List.mem_singleton.mp isNew]
        exact apartHere _ (List.mem_map_of_mem later)

end Floorplan

/-- The body of an entity at its position, whatever its reference is. -/
def Entity.outline {K : Type} [Scalar K] (entity : Entity K) : Body K :=
  ⟨"", entity.position, entity.bodySize⟩

namespace Floorplan

theorem map_outlineOf_preferencesOf (circuit : Circuit ℝ) :
    (preferencesOf circuit).map outlineOf = circuit.entities.map Entity.outline := by
  rw [preferencesOf, Circuit.entities, List.map_append, List.map_append,
    ← circuit.map_fst_keyedPowers, componentPreferences, powerPreferences]
  simp only [List.map_map]
  rfl

/-- Entities on the grid whose bodies keep apart fit where they are. -/
theorem keeps_preferencesOf {plan : Floorplan ℝ} (empty : plan.placed = []) {circuit : Circuit ℝ}
    (onGrid : ∀ entity ∈ circuit.entities, entity.position.OnLattice plan.grid)
    (within : ∀ entity ∈ circuit.entities, plan.page.holdsBody entity.outline = true)
    (apart : (circuit.entities.map Entity.outline).Pairwise fun first second =>
      first.overlaps second = false) : plan.Keeps (preferencesOf circuit) := by
  have centred : ∀ body ∈ circuit.entities.map Entity.outline,
      body.centre.OnLattice plan.grid ∧ plan.page.holdsBody body = true :=
    List.forall_mem_map.mpr fun entity member => ⟨onGrid entity member, within entity member⟩
  rw [← map_outlineOf_preferencesOf] at centred apart
  rw [List.forall_mem_map] at centred
  refine keeps_of_apart (fun preference member => (centred preference member).1)
    (fun preference member => (centred preference member).2) apart ?_
  rw [empty]
  exact fun _ _ => List.forall_mem_nil _

/-- A layout is stable. Where no entity of a circuit falls back to the corner, laying out the
result on a page that starts empty puts every entity at its preferred position: it yields the same
circuit, the same placements and the same floorplan. In particular a circuit whose entities are on
the grid and within the usable area, with bodies that keep apart, is left as it is. -/
theorem layOut_layOut (page : Page ℝ) (grid spacing : ℝ) (circuit : Circuit ℝ) :
    let plan := blank page grid spacing
    let laidOut := plan.layOut circuit none
    ((∀ entry ∈ laidOut.spots, entry.2.source ≠ .corner) →
      let again := plan.layOut laidOut.circuit none
      again.circuit = laidOut.circuit ∧ again.placements = laidOut.placements ∧
        again.plan = laidOut.plan ∧ ∀ entry ∈ again.spots, entry.2.source = .preferred) ∧
    ((∀ entity ∈ circuit.entities, entity.position.OnLattice plan.grid) →
      (∀ entity ∈ circuit.entities, page.holdsBody entity.outline = true) →
      ((circuit.entities.map Entity.outline).Pairwise fun first second =>
        first.overlaps second = false) →
      laidOut.circuit = circuit ∧
        laidOut.placements =
          (preferencesOf circuit).map fun (item, position) => ⟨item.reference, position⟩) := by
  intro plan laidOut
  have positive : 0 < plan.grid := Exact.blank_grid_pos page grid spacing
  have rises : 0 < plan.spacing := Exact.blank_spacing_pos page grid spacing
  obtain ⟨spots, last⟩ := plan.layOut_eq_placeAll circuit
  constructor
  · intro noCorner again
    have given : preferencesOf laidOut.circuit =
        settled (preferencesOf circuit) (plan.placeAll (preferencesOf circuit)).1 := by
      rw [← spots]
      exact plan.preferencesOf_layOut circuit
    have keeps : plan.Keeps (preferencesOf laidOut.circuit) ∧
        plan.reserveAll (preferencesOf laidOut.circuit) = laidOut.plan := by
      rw [given, last]
      exact keeps_settled rises (spots ▸ noCorner)
    have kept : again = ⟨laidOut.circuit, keptSpots (preferencesOf laidOut.circuit),
        plan.reserveAll (preferencesOf laidOut.circuit)⟩ := layOut_of_keeps positive keeps.1
    rw [kept]
    refine ⟨rfl, ?_, keeps.2, ?_⟩
    · rw [LaidOut.placements, map_placement_keptSpots, given, placements_settled, ← spots]
      rfl
    · exact List.forall_mem_map.mpr fun _ _ => rfl
  · intro onGrid within apart
    have kept : laidOut = ⟨circuit, keptSpots (preferencesOf circuit),
        plan.reserveAll (preferencesOf circuit)⟩ :=
      layOut_of_keeps positive (keeps_preferencesOf rfl onGrid within apart)
    rw [kept]
    exact ⟨rfl, map_placement_keptSpots _⟩

/-- Two parts in one place, and a rail without a reference. -/
noncomputable def crowdedCircuit : Circuit ℝ where
  name := "Crowded"
  components := [Component.ofKind "R1" .resistor "1k" ⟨50.0, 50.0⟩,
    Component.ofKind "R2" .resistor "2k" ⟨52.0, 50.0⟩]
  powers := [⟨"", "GND", ⟨200.0, 100.0⟩⟩]
  connections := []

/-- The circuit with its second part in the first place of a scan. -/
noncomputable def spreadCircuit : Circuit ℝ :=
  { crowdedCircuit with
    components := [Component.ofKind "R1" .resistor "1k" ⟨50.0, 50.0⟩,
      Component.ofKind "R2" .resistor "2k" ⟨15.0, 12.5⟩] }

/-- The page that the circuits are laid out on. -/
noncomputable def sparePlan : Floorplan ℝ := blank Page.a4 0.5 10.16

theorem sparePlan_eq : sparePlan = ⟨⟨297.0, 210.0, 10.0⟩, 0.5, 10.16, []⟩ := by
  have grid : positiveOr defaultGrid (0.5 : ℝ) = 0.5 := by
    rw [positiveOr, if_pos ⟨rfl, by norm_num⟩]
  have spacing : positiveOr defaultSpacing (10.16 : ℝ) = 10.16 := by
    rw [positiveOr, if_pos ⟨rfl, by norm_num⟩]
  rw [sparePlan, blank, grid, spacing]
  rfl

theorem onLattice_sparePlan (column row : ℤ) {point : Point ℝ} (x : point.x = column * 0.5)
    (y : point.y = row * 0.5) : point.OnLattice sparePlan.grid := by
  rw [sparePlan_eq]
  exact ⟨AddSubgroup.mem_zmultiples_iff.mpr ⟨column, by rw [x, zsmul_eq_mul]⟩,
    AddSubgroup.mem_zmultiples_iff.mpr ⟨row, by rw [y, zsmul_eq_mul]⟩⟩

theorem entities_spreadCircuit :
    spreadCircuit.entities =
      [.component (Component.ofKind "R1" .resistor "1k" ⟨50.0, 50.0⟩),
        .component (Component.ofKind "R2" .resistor "2k" ⟨15.0, 12.5⟩),
        .power ⟨"", "GND", ⟨200.0, 100.0⟩⟩] := rfl

theorem onLattice_spreadCircuit :
    ∀ entity ∈ spreadCircuit.entities, entity.position.OnLattice sparePlan.grid := by
  rw [entities_spreadCircuit, List.forall_mem_cons, List.forall_mem_cons,
    List.forall_mem_singleton]
  refine ⟨onLattice_sparePlan 100 100 ?_ ?_, onLattice_sparePlan 30 25 ?_ ?_,
    onLattice_sparePlan 400 200 ?_ ?_⟩ <;>
  norm_num [Entity.position, Component.ofKind]

theorem holdsBody_spreadCircuit :
    ∀ entity ∈ spreadCircuit.entities, Page.a4.holdsBody entity.outline = true := by
  rw [entities_spreadCircuit, List.forall_mem_cons, List.forall_mem_cons,
    List.forall_mem_singleton]
  refine ⟨?_, ?_, ?_⟩ <;>
  norm_num [Page.holdsBody, Entity.outline, Entity.position, Entity.bodySize, Component.ofKind,
    Kind.bodySize, PowerSymbol.bodySize, Page.a4, Page.minX, Page.maxX, Page.minY, Page.maxY,
    Page.slack, Body.left, Body.right, Body.top, Body.bottom]

theorem pairwise_spreadCircuit :
    (spreadCircuit.entities.map Entity.outline).Pairwise fun first second =>
      first.overlaps second = false := by
  rw [entities_spreadCircuit]
  norm_num [Entity.outline, Entity.position, Entity.bodySize, Component.ofKind, Kind.bodySize,
    PowerSymbol.bodySize, Body.left, Body.right, Body.top, Body.bottom, Body.overlaps]

theorem preferencesOf_crowdedCircuit :
    preferencesOf crowdedCircuit =
      [(⟨"R1", .component .resistor⟩, ⟨50.0, 50.0⟩), (⟨"R2", .component .resistor⟩, ⟨52.0, 50.0⟩),
        (⟨"#PWR0001", .power⟩, ⟨200.0, 100.0⟩)] := by
  have keys : crowdedCircuit.powerKeys = ["#PWR0001"] := by decide
  rw [preferencesOf, Circuit.keyedPowers, keys]
  rfl

theorem preferencesOf_spreadCircuit :
    preferencesOf spreadCircuit =
      [(⟨"R1", .component .resistor⟩, ⟨50.0, 50.0⟩), (⟨"R2", .component .resistor⟩, ⟨15.0, 12.5⟩),
        (⟨"#PWR0001", .power⟩, ⟨200.0, 100.0⟩)] := by
  have keys : spreadCircuit.powerKeys = ["#PWR0001"] := by decide
  rw [preferencesOf, Circuit.keyedPowers, keys]
  rfl

/-- The page with the first part on it. -/
noncomputable def busyPlan : Floorplan ℝ :=
  sparePlan.reserve "R1" (.component .resistor) ⟨50.0, 50.0⟩

theorem busyPlan_eq :
    busyPlan = ⟨⟨297.0, 210.0, 10.0⟩, 0.5, 10.16, [⟨"R1", ⟨50.0, 50.0⟩, ⟨10.0, 5.0⟩⟩]⟩ := by
  rw [busyPlan, sparePlan_eq]
  rfl

/-- The second part gives way to the first one. -/
theorem find_busyPlan
    (fits : busyPlan.Fits ⟨"R2", .component .resistor⟩ ⟨15.0, 12.5⟩) :
    busyPlan.find "R2" (.component .resistor) (some ⟨52.0, 50.0⟩) = ⟨.scanned, ⟨15.0, 12.5⟩⟩ := by
  have positive : 0 < busyPlan.grid := Exact.blank_grid_pos Page.a4 0.5 10.16
  have refused : busyPlan.preferredSpot? "R2" (Occupant.component .resistor).bodySize
      (some ⟨52.0, 50.0⟩) = none := by
    have onGrid : Point.OnLattice busyPlan.grid ⟨52.0, 50.0⟩ :=
      onLattice_sparePlan 104 100 (by norm_num) (by norm_num)
    have occupied : busyPlan.isFree
        ⟨"R2", ⟨52.0, 50.0⟩, (Occupant.component .resistor).bodySize⟩ = false := by
      rw [busyPlan_eq]
      norm_num [isFree, Occupant.bodySize, Kind.bodySize, Body.left, Body.right, Body.top,
        Body.bottom, Body.overlaps]
      decide
    rw [preferredSpot?, snap_of_onLattice positive onGrid, accepts, occupied, Bool.and_false,
      Bool.and_false]
    rfl
  have found : busyPlan.scan "R2" (Occupant.component .resistor).bodySize =
      .found ⟨15.0, 12.5⟩ := by
    refine scan_of_first ?_ ?_ ?_ fits.accepted
    · rw [busyPlan_eq]
      norm_num [Occupant.bodySize, Kind.bodySize, Page.minX, Page.maxX, Page.slack]
    · rw [busyPlan_eq]
      norm_num [Occupant.bodySize, Kind.bodySize, Page.minY, Page.maxY, Page.slack]
    · have corner : busyPlan.cornerFor (Occupant.component .resistor).bodySize = ⟨15.0, 12.5⟩ := by
        rw [busyPlan_eq]
        norm_num [cornerFor, Occupant.bodySize, Kind.bodySize, Page.minX, Page.minY]
      rw [corner]
      exact snap_of_onLattice positive fits.onGrid
  rw [find, findSpot, refused, found]

/-- The second part is moved to the first place of the scan. -/
theorem spots_crowdedCircuit :
    (sparePlan.layOut crowdedCircuit none).spots =
      [("R1", ⟨.preferred, ⟨50.0, 50.0⟩⟩), ("R2", ⟨.scanned, ⟨15.0, 12.5⟩⟩),
        ("#PWR0001", ⟨.preferred, ⟨200.0, 100.0⟩⟩)] := by
  have keeps : sparePlan.Keeps (preferencesOf spreadCircuit) :=
    keeps_preferencesOf rfl onLattice_spreadCircuit holdsBody_spreadCircuit pairwise_spreadCircuit
  rw [preferencesOf_spreadCircuit] at keeps
  obtain ⟨first, second, third, -⟩ := keeps
  have positive : 0 < sparePlan.grid := Exact.blank_grid_pos ..
  have firstSpot : sparePlan.find "R1" (.component .resistor) (some ⟨50.0, 50.0⟩) =
      ⟨.preferred, ⟨50.0, 50.0⟩⟩ := first.find_eq positive
  have secondSpot : (sparePlan.reserve "R1" (.component .resistor) ⟨50.0, 50.0⟩).find "R2"
      (.component .resistor) (some ⟨52.0, 50.0⟩) = ⟨.scanned, ⟨15.0, 12.5⟩⟩ := find_busyPlan second
  have thirdSpot : ((sparePlan.reserve "R1" (.component .resistor) ⟨50.0, 50.0⟩).reserve "R2"
      (.component .resistor) ⟨15.0, 12.5⟩).find "#PWR0001" .power (some ⟨200.0, 100.0⟩) =
      ⟨.preferred, ⟨200.0, 100.0⟩⟩ := third.find_eq positive
  rw [(layOut_eq_placeAll ..).1, preferencesOf_crowdedCircuit]
  simp only [placeAll, place, firstSpot, secondSpot, thirdSpot]

theorem layOut_layOut_crowded :
    let laidOut := sparePlan.layOut crowdedCircuit none
    let again := sparePlan.layOut laidOut.circuit none
    laidOut.spots =
        [("R1", ⟨.preferred, ⟨50.0, 50.0⟩⟩), ("R2", ⟨.scanned, ⟨15.0, 12.5⟩⟩),
          ("#PWR0001", ⟨.preferred, ⟨200.0, 100.0⟩⟩)] ∧
      (∀ entry ∈ laidOut.spots, entry.2.source ≠ .corner) ∧
      again.circuit = laidOut.circuit ∧ again.placements = laidOut.placements ∧
      again.plan = laidOut.plan ∧
      (∀ entity ∈ spreadCircuit.entities, entity.position.OnLattice sparePlan.grid) ∧
      (∀ entity ∈ spreadCircuit.entities, Page.a4.holdsBody entity.outline = true) ∧
      ((spreadCircuit.entities.map Entity.outline).Pairwise fun first second =>
        first.overlaps second = false) ∧
      (sparePlan.layOut spreadCircuit none).circuit = spreadCircuit := by
  intro laidOut again
  have noCorner : ∀ entry ∈ laidOut.spots, entry.2.source ≠ .corner := by
    rw [spots_crowdedCircuit]
    simp
  obtain ⟨sameCircuit, samePlacements, samePlan, -⟩ :=
    (layOut_layOut Page.a4 0.5 10.16 crowdedCircuit).1 noCorner
  obtain ⟨unchanged, -⟩ := (layOut_layOut Page.a4 0.5 10.16 spreadCircuit).2
    onLattice_spreadCircuit holdsBody_spreadCircuit pairwise_spreadCircuit
  exact ⟨spots_crowdedCircuit, noCorner, sameCircuit, samePlacements, samePlan,
    onLattice_spreadCircuit, holdsBody_spreadCircuit, pairwise_spreadCircuit, unchanged⟩

end Floorplan
end CircuitSheet
