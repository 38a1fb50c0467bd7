import CircuitSheet.Proofs.Boundary.Suggestions
import CircuitSheet.Proofs.Drawing.NetNames
import CircuitSheet.Proofs.Drawing.Routes
import CircuitSheet.Proofs.Floorplan.Positions

/-!
# Positions in drawings

A drawing differs from its description in positions only, and it shows every entity where the
floorplan recorded it. References and keys are the same in the description, in the review, on the
floorplan and in the drawing, so each entity that was described out of bounds is told of once, with
the position of its description and the one that it is drawn at.
-/

namespace CircuitSheet

variable {K : Type}

/-! ## Sites by reference -/

namespace Circuit

/-- The position of the site with a reference, if there is one. -/
def positionOf? (circuit : Circuit K) (reference : String) : Option (Point K) :=
  (circuit.sites.find? (·.reference == reference)).bind (·.position)

theorem map_reference_sites (circuit : Circuit K) :
    circuit.sites.map (·.reference) =
      circuit.components.map (·.reference) ++ circuit.powerKeys := by
  rw [sites, List.map_append, List.map_map, List.map_map, ← map_snd_keyedPowers]
  rfl

/-- Every entity of a circuit has a site, at its position. -/
theorem sites_eq (circuit : Circuit K) :
    circuit.sites = (Floorplan.preferencesOf circuit).map fun (item, position) =>
      ⟨item.reference, item.occupant, some position⟩ := by
  rw [sites, Floorplan.preferencesOf, Floorplan.componentPreferences, Floorplan.powerPreferences,
    List.map_append, List.map_map, List.map_map]
  rfl

/-- Every site of a circuit has a position. -/
theorem exists_position_of_mem_sites (circuit : Circuit K) {site : Site K}
    (member : site ∈ circuit.sites) : ∃ position, site.position = some position := by
  rw [sites_eq] at member
  obtain ⟨preference, -, rfl⟩ := List.mem_map.mp member
  exact ⟨preference.2, rfl⟩

/-- Where references differ, the position under the reference of a site is its own. -/
theorem positionOf?_of_mem {circuit : Circuit K} (distinct : circuit.DistinctReferences)
    {site : Site K} (member : site ∈ circuit.sites) :
    circuit.positionOf? site.reference = site.position := by
  have keys : (circuit.sites.map (·.reference)).Nodup :=
    circuit.map_reference_sites ▸ distinct.nodup_keys
  rw [positionOf?, find?_key_eq keys member]
  rfl

/-- Laying out keeps the references of sites. -/
theorem map_reference_sites_layOut [Scalar K] (plan : Floorplan K) (circuit : Circuit K)
    (strategy : Option LayoutStrategy) :
    (plan.layOut circuit strategy).circuit.sites.map (·.reference) =
      circuit.sites.map (·.reference) := by
  rw [map_reference_sites, map_reference_sites, Floorplan.powerKeys_layOut,
    ← map_reference_components_unplaced, Floorplan.unplaced_layOut,
    map_reference_components_unplaced]

end Circuit

/-- A site of a laid out circuit is where its body was recorded, which is the only one of its
reference, and where it is told to be. -/
theorem recorded_of_mem_sites [ScalarText K] (plan : Floorplan K) {circuit : Circuit K}
    (distinct : circuit.DistinctReferences) (strategy : Option LayoutStrategy) {site : Site K}
    (member : site ∈ (plan.layOut circuit strategy).circuit.sites) :
    ∃ position, site.position = some position ∧
      (plan.layOut circuit strategy).plan.placed.filter (·.reference == site.reference) =
        [site.bodyAt position] ∧
      ⟨site.reference, position⟩ ∈ (plan.layOut circuit strategy).placements := by
  rw [Circuit.sites_eq] at member
  obtain ⟨⟨item, position⟩, preferred, rfl⟩ := List.mem_map.mp member
  exact ⟨position, rfl, plan.recorded_layOut distinct strategy preferred⟩

/-! ## Diagnostics about positions -/

/-- The diagnostic is about a position out of bounds. -/
def Diagnostic.isBoundary : Diagnostic K → Bool
  | .boundaryViolation .. => true
  | _ => false

/-- A diagnostic tells of a finding: with the position at which the entity is described and the one
at which it is drawn. -/
def TellsOf (described drawn : Circuit K) (issue : BoundaryIssue K) (diagnostic : Diagnostic K) :
    Prop :=
  ∃ before after, described.positionOf? issue.subject = some before ∧
    drawn.positionOf? issue.subject = some after ∧
    diagnostic = .boundaryViolation issue.subject issue.severity before after

/-- Where each item gives something, the results stand beside the items. -/
theorem forall₂_filterMap {α β : Type} {relates : α → β → Prop} {give : α → Option β}
    {items : List α} (gives : ∀ item ∈ items, ∃ result, give item = some result ∧
      relates item result) : List.Forall₂ relates items (items.filterMap give) := by
  induction items with
  | nil => exact .nil
  | cons item rest inductionHypothesis =>
      obtain ⟨⟨result, given, related⟩, later⟩ := List.forall_mem_cons.mp gives
      rw [List.filterMap_cons, given]
      exact .cons related (inductionHypothesis later)

namespace Drawing

/-- What a table of placements finds is where an entity was placed. -/
theorem find?_placements {placements : List (Placement K)}
    (distinct : (placements.map (·.reference)).Nodup) {placement : Placement K}
    (member : placement ∈ placements) :
    (placements.foldl
      (fun table placement => table.insert placement.reference placement.position)
      Table.empty).find? placement.reference = some placement.position := by
  have entries : placements.foldl
      (fun table placement => table.insert placement.reference placement.position) Table.empty =
      (placements.map fun placement => (placement.reference, placement.position)).foldl
        (fun table entry => table.insert entry.1 entry.2) Table.empty := by
    rw [List.foldl_map]
  rw [entries, Table.find?_foldl_insert_iff]
  · exact List.mem_map.mpr ⟨placement, member, rfl⟩
  · rwa [List.map_map]

variable [ScalarText K]

/-- What is found out of bounds is a site, at its position. -/
theorem exists_site_of_isOutOfBounds {plan : Floorplan K} {sites : List (Site K)} :
    ∀ issue ∈ (plan.review sites).issues, issue.isOutOfBounds = true →
      ∃ site ∈ sites, issue.subject = site.reference ∧ issue.position = site.position := by
  refine Floorplan.forall_mem_issues fun site member finding isFinding outOfBounds => ?_
  rw [isFinding.issue] at outOfBounds ⊢
  refine ⟨site, member, plan.subject_classifySite site, ?_⟩
  rcases plan.classifySite_cases site with ⟨missing, -⟩ | ⟨-, position, -⟩
  · simp [BoundaryIssue.isOutOfBounds, missing] at outOfBounds
  · exact position

/-- Each site that is found out of bounds is told of once, in the order of the review. -/
theorem tellsOf_boundaryDiagnostics {described : Circuit K}
    (distinct : described.DistinctReferences) (start plan : Floorplan K) (strategy : Option LayoutStrategy) :
    let laidOut := plan.layOut described strategy
    List.Forall₂ (TellsOf described laidOut.circuit)
      ((start.review described.sites).issues.filter (·.isOutOfBounds))
      (boundaryDiagnostics (start.review described.sites) laidOut.placements) := by
  intro laidOut
  apply forall₂_filterMap
  intro issue inFiltered
  obtain ⟨member, outOfBounds⟩ := List.mem_filter.mp inFiltered
  obtain ⟨site, isSite, subject, placed⟩ := exists_site_of_isOutOfBounds issue member outOfBounds
  obtain ⟨before, isBefore⟩ := described.exists_position_of_mem_sites isSite
  -- The site of the same reference in the laid out circuit says where the entity went.
  have kept : site.reference ∈ laidOut.circuit.sites.map (·.reference) := by
    rw [Circuit.map_reference_sites_layOut]
    exact List.mem_map_of_mem isSite
  obtain ⟨moved, isMoved, sameReference⟩ := List.mem_map.mp kept
  obtain ⟨after, isAfter, -, told⟩ := recorded_of_mem_sites plan distinct strategy isMoved
  have found := find?_placements (plan.nodup_placements_layOut distinct strategy) told
  have distinctLaidOut : laidOut.circuit.DistinctReferences :=
    distinct.of_unplaced (plan.unplaced_layOut described strategy).symm
  refine ⟨.boundaryViolation issue.subject issue.severity before after, ?_, before, after, ?_, ?_,
    rfl⟩
  · rw [placed, isBefore, subject, ← sameReference, found]
    rfl
  · rw [subject, Circuit.positionOf?_of_mem distinct isSite, isBefore]
  · rw [subject, ← sameReference, Circuit.positionOf?_of_mem distinctLaidOut isMoved, isAfter]

/-! ## Drawings -/

omit [ScalarText K] in
/-- Diagnostics about connections are not about positions. -/
theorem isBoundary_of_isDropped {diagnostic : Diagnostic K}
    (dropped : diagnostic.isDropped = true) : diagnostic.isBoundary = false := by
  cases diagnostic <;> simp [Diagnostic.isDropped, Diagnostic.isBoundary] at dropped ⊢

omit [ScalarText K] in
theorem filter_isBoundary_boundaryDiagnostics (review : BoundaryReport K)
    (placements : List (Placement K)) :
    (boundaryDiagnostics review placements).filter (·.isBoundary) =
      boundaryDiagnostics review placements := by
  rw [List.filter_eq_self]
  intro diagnostic member
  obtain ⟨_, _, _, _, rfl⟩ := eq_boundaryViolation_of_mem member
  rfl

theorem filter_isBoundary_diagnostics_wired (infersWiring : Bool) (circuit : Circuit K) :
    (wired infersWiring circuit).diagnostics.filter (·.isBoundary) = [] := by
  rw [List.filter_eq_nil_iff, ← filter_isDropped_diagnostics_wired]
  intro diagnostic member
  rw [isBoundary_of_isDropped (List.mem_filter.mp member).2]
  exact Bool.false_ne_true

/-- The diagnostics of a drawing about positions are those of the review of its description. -/
theorem boundaryDiagnostics_of_ofCircuit {options : DrawingOptions K} {described : Circuit K}
    {drawing : Drawing K} (drawn : ofCircuit options described = .ok drawing) :
    let laidOut := options.blankPlan.layOut described options.layout
    drawing.review = options.blankPlan.review described.sites ∧
      drawing.layoutFigures = laidOut.plan.statistics ∧
      drawing.diagnostics.filter (·.isBoundary) =
        boundaryDiagnostics drawing.review laidOut.placements := by
  unfold ofCircuit at drawn
  dsimp only at drawn
  split at drawn
  · cases drawn
  · obtain rfl := Except.ok.inj drawn
    refine ⟨rfl, rfl, ?_⟩
    simp only [List.filter_append, filter_isBoundary_boundaryDiagnostics]
    rw [filter_diagnostics_eq_nil _ fun _ => rfl, filter_diagnostics_eq_nil _ fun _ => rfl,
      filter_diagnostics_eq_nil _ fun _ => rfl]
    simp only [List.append_nil]
    exact (congrArg _ (filter_isBoundary_diagnostics_wired ..)).trans (List.append_nil _)

/-- Whatever text is drawn, by whatever strategy, the drawing differs from what is described in
positions only. Every entity is at the position that the floorplan recorded under its reference, or
under its key if it is a power symbol without one, and nothing else is recorded there. Each site
that the review finds out of bounds is told of once, in the order of the review, with its position
in the description and its position in the drawing. -/
theorem positions_recorded {options : DrawingOptions K} {text : List Char} {drawing : Drawing K}
    (drawn : ofText options text = .ok drawing) :
    ∃ described, readCircuit options text = .ok described ∧
      described.SameBesidesPositions drawing.circuit ∧
      let plan := (options.blankPlan.layOut described options.layout).plan
      drawing.layoutFigures = plan.statistics ∧
      drawing.circuit.sites.map (·.reference) = described.sites.map (·.reference) ∧
      (∀ site ∈ drawing.circuit.sites, ∃ position, site.position = some position ∧
        plan.placed.filter (·.reference == site.reference) = [site.bodyAt position]) ∧
      drawing.review = options.blankPlan.review described.sites ∧
      List.Forall₂ (TellsOf described drawing.circuit)
        (drawing.review.issues.filter (·.isOutOfBounds))
        (drawing.diagnostics.filter (·.isBoundary)) := by
  obtain ⟨described, read, drawnCircuit⟩ := ofText_eq_ok_iff.mp drawn
  have distinct := distinctReferences_of_readCircuit read
  obtain ⟨laidOut, -⟩ := ofCircuit_eq_ok drawnCircuit
  obtain ⟨review, figures, diagnostics⟩ := boundaryDiagnostics_of_ofCircuit drawnCircuit
  refine ⟨described, read, ?_, figures, ?_, ?_, review, ?_⟩
  · refine .of_unplaced ?_
    rw [laidOut, Floorplan.unplaced_layOut]
  · rw [laidOut, Circuit.map_reference_sites_layOut]
  · rw [laidOut]
    intro site member
    obtain ⟨position, placed, recorded, -⟩ :=
      recorded_of_mem_sites options.blankPlan distinct options.layout member
    exact ⟨position, placed, recorded⟩
  · rw [diagnostics, review, laidOut]
    exact tellsOf_boundaryDiagnostics distinct ..

/-- A resistor off the page, a capacitor and a ground. -/
def outlyingText : List Char :=
  ("circuit: x\ncomponents:\nR1 resistor 1k (400, 300)\nC1 capacitor 1u (50, 50)\npower:\n" ++
    "V1 GND (200, 60)\n").toList

/-- The usual options, with a zone for each kind. -/
def zonedOptions : DrawingOptions K :=
  { DrawingOptions.default with layout := some .hierarchical }

/-- The text is drawn, and the resistor is found out of bounds. -/
theorem outlyingText_drawn :
    (ofText (zonedOptions (K := Turning quarterSine quarterCosine)) outlyingText).toOption.map
        (fun drawing =>
          (drawing.circuit.sites.map (·.reference),
            (drawing.review.issues.filter (·.isOutOfBounds)).map (·.subject))) =
      some (["R1", "C1", "V1"], ["R1"]) := by
  simp only [ofText, ofCircuit, orderedNets_eq]
  decide +kernel

theorem positions_recorded_outlying :
    let options := zonedOptions (K := Turning quarterSine quarterCosine)
    ∃ described drawing,
      readCircuit options outlyingText = .ok described ∧
      ofText options outlyingText = .ok drawing ∧
      drawing.circuit.sites.map (·.reference) = ["R1", "C1", "V1"] ∧
      (drawing.review.issues.filter (·.isOutOfBounds)).map (·.subject) = ["R1"] ∧
      let plan := (options.blankPlan.layOut described options.layout).plan
      (∀ site ∈ drawing.circuit.sites, ∃ position, site.position = some position ∧
        plan.placed.filter (·.reference == site.reference) = [site.bodyAt position]) ∧
      List.Forall₂ (TellsOf described drawing.circuit)
        (drawing.review.issues.filter (·.isOutOfBounds))
        (drawing.diagnostics.filter (·.isBoundary)) := by
  obtain ⟨drawing, drawn, seen⟩ := exists_ok_of_toOption outlyingText_drawn
  obtain ⟨references, outOfBounds⟩ := Prod.mk.inj seen
  obtain ⟨described, read, -, -, -, recorded, -, told⟩ := positions_recorded drawn
  exact ⟨described, drawing, read, drawn, references, outOfBounds, recorded, told⟩

end Drawing
end CircuitSheet
