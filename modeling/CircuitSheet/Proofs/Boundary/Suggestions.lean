import CircuitSheet.Binary64
import CircuitSheet.Proofs.Boundary.Correction
import CircuitSheet.Proofs.Table

/-!
# Suggested positions

A review records the bodies that are in order before it suggests anything, and each suggestion
before the next one. References do not repeat, so nothing that was recorded is lost again: a body
that found room overlaps neither a body in order, wherever its site stands, nor a body that is
suggested before or after it.
-/

namespace CircuitSheet

variable {K : Type}

/-- Room was found for the body, and it did not fall back to the corner. -/
def Spot.isFound (spot : Spot K) : Bool :=
  match spot.source with
  | .preferred | .scanned => true
  | .corner | .stalled => false

variable [ScalarText K]

/-- The body of a site at a position. -/
def Site.bodyAt (site : Site K) (position : Point K) : Body K :=
  ⟨site.reference, position, site.occupant.bodySize⟩

namespace Floorplan

/-- The position of a site that is in order. -/
def positionInOrder? (plan : Floorplan K) (site : Site K) : Option (Point K) :=
  if (plan.classifySite site).kind = .valid then site.position else none

/-- The bodies of the sites that are in order. -/
def bodiesInOrder (plan : Floorplan K) (sites : List (Site K)) : List (Body K) :=
  sites.filterMap fun site => (plan.positionInOrder? site).map site.bodyAt

/-- The bodies of the sites for which room was found, at the spots that are suggested. -/
def bodiesMoved (sites : List (Site K)) (findings : List (BoundaryIssue K × Option (Spot K))) :
    List (Body K) :=
  (sites.zip findings).filterMap fun (site, _, spot) =>
    (spot.filter (·.isFound)).map fun found => site.bodyAt found.position

/-! ## Classifications -/

/-- A site is found to be in order or out of bounds at its finite position, and to be without a
position if it has none. -/
theorem classifySite_cases (plan : Floorplan K) (site : Site K) :
    ((plan.classifySite site).kind = .missingPosition ∧ (plan.classifySite site).position = none) ∨
      ((plan.classifySite site).kind ∈ [.offPage, .inMargin, .valid] ∧
        (plan.classifySite site).position = site.position ∧ site.position.isSome = true) := by
  unfold classifySite
  split
  · next position finite =>
      have placed : site.position = some position := (Option.filter_eq_some_iff.mp finite).1
      right
      rw [placed]
      unfold classify
      split
      · simp [offPageIssue]
      · split
        · simp [inMarginIssue]
        · simp [validIssue]
  · exact .inl ⟨rfl, rfl⟩

/-- The body of a site in order is recorded at its position. -/
theorem reserveValid_cons (start plan : Floorplan K) (site : Site K)
    (rest : List (Site K × BoundaryIssue K)) :
    plan.reserveValid ((site, start.classifySite site) :: rest) =
      ((start.positionInOrder? site).elim plan
        fun position => plan.record (site.bodyAt position)).reserveValid rest := by
  rw [reserveValid, List.foldl_cons, reserveValid, positionInOrder?]
  congr 1
  dsimp only
  rcases start.classifySite_cases site with ⟨kind, -⟩ | ⟨-, position, placed⟩
  · simp [kind]
  · obtain ⟨point, isPlaced⟩ := Option.isSome_iff_exists.mp placed
    rw [position, isPlaced]
    cases kind : (start.classifySite site).kind <;> simp [reserve, Site.bodyAt]

/-! ## Records -/

omit [ScalarText K] in
/-- A body whose reference is new is recorded behind all others. -/
theorem placed_record_of_fresh [Scalar K] {plan : Floorplan K} {body : Body K}
    (fresh : body.reference ∉ plan.placed.map (·.reference)) :
    (plan.record body).placed = plan.placed ++ [body] := by
  rw [record, List.filter_eq_self.mpr]
  intro other member
  rw [bne_iff_ne]
  rintro same
  exact fresh (List.mem_map.mpr ⟨other, member, same⟩)

/-- The sites have references of their own, apart from those that are recorded. -/
structure AreNewTo (sites : List (Site K)) (plan : Floorplan K) : Prop where
  distinct : (sites.map (·.reference)).Nodup
  fresh : ∀ site ∈ sites, site.reference ∉ plan.placed.map (·.reference)

/-- Once a body of the first site is recorded the other sites are still new. -/
theorem AreNewTo.record {plan : Floorplan K} {site : Site K} {rest : List (Site K)}
    (areNew : AreNewTo (site :: rest) plan) (position : Point K) :
    (plan.record (site.bodyAt position)).placed = plan.placed ++ [site.bodyAt position] ∧
      AreNewTo rest (plan.record (site.bodyAt position)) := by
  obtain ⟨isNew, restNew⟩ := List.forall_mem_cons.mp areNew.fresh
  obtain ⟨absent, distinct⟩ := List.nodup_cons.mp areNew.distinct
  have placed : (plan.record (site.bodyAt position)).placed =
      plan.placed ++ [site.bodyAt position] := placed_record_of_fresh isNew
  refine ⟨placed, distinct, ?_⟩
  intro other member
  rw [placed, List.map_append, List.mem_append, not_or]
  refine ⟨restNew other member, ?_⟩
  rw [List.map_singleton, List.mem_singleton]
  rintro same
  exact absent (List.mem_map.mpr ⟨other, member, same⟩)

omit [ScalarText K] in
theorem AreNewTo.tail {plan : Floorplan K} {site : Site K} {rest : List (Site K)}
    (areNew : AreNewTo (site :: rest) plan) : AreNewTo rest plan :=
  ⟨(List.nodup_cons.mp areNew.distinct).2, (List.forall_mem_cons.mp areNew.fresh).2⟩

/-- Exactly the bodies in order are recorded. -/
theorem placed_reserveValid (start : Floorplan K) {plan : Floorplan K} {sites : List (Site K)}
    (areNew : AreNewTo sites plan) :
    (plan.reserveValid (sites.map fun site => (site, start.classifySite site))).placed =
      plan.placed ++ start.bodiesInOrder sites := by
  induction sites generalizing plan with
  | nil => simp [reserveValid, bodiesInOrder]
  | cons site rest inductionHypothesis =>
      rw [List.map_cons, reserveValid_cons, bodiesInOrder, List.filterMap_cons, ← bodiesInOrder]
      cases start.positionInOrder? site with
      | none => exact inductionHypothesis areNew.tail
      | some position =>
          obtain ⟨placed, restNew⟩ := areNew.record position
          rw [Option.elim_some, inductionHypothesis restNew, placed, List.append_assoc]
          rfl

/-! ## Suggestions -/

/-- A body lies within the usable area of a page and overlaps none of some others. -/
def HasOwnRoom (page : Page K) (others : List (Body K)) (body : Body K) : Prop :=
  page.holdsBody body = true ∧ ∀ other ∈ others, other.overlaps body = false

/-- Bodies have room of their own beside some others, and no two of them overlap. -/
structure KeepClear (page : Page K) (others bodies : List (Body K)) : Prop where
  ownRoom : ∀ body ∈ bodies, HasOwnRoom page others body
  apart : bodies.Pairwise fun first second => first.overlaps second = false

section KeepClear

variable {page : Page K} {others bodies : List (Body K)} {body : Body K}

theorem KeepClear.of_append (clear : KeepClear page (others ++ [body]) bodies) :
    KeepClear page others bodies where
  ownRoom other member :=
    ⟨(clear.ownRoom other member).1,
      (List.forall_mem_append.mp (clear.ownRoom other member).2).1⟩
  apart := clear.apart

/-- What keeps clear of a body can be put behind it. -/
theorem KeepClear.cons (ownRoom : HasOwnRoom page others body)
    (clear : KeepClear page (others ++ [body]) bodies) :
    KeepClear page others (body :: bodies) where
  ownRoom := List.forall_mem_cons.mpr ⟨ownRoom, clear.of_append.ownRoom⟩
  apart := by
    refine List.pairwise_cons.mpr ⟨fun other member => ?_, clear.apart⟩
    exact (clear.ownRoom other member).2 body (by simp)

end KeepClear

/-- A spot that was found has room apart from all bodies of other references. -/
theorem hasOwnRoom_of_isFound {plan : Floorplan K} {site : Site K}
    (fresh : site.reference ∉ plan.placed.map (·.reference)) (preferred : Option (Point K))
    (found : (plan.find site.reference site.occupant preferred).isFound = true) :
    HasOwnRoom plan.page plan.placed
      (site.bodyAt (plan.find site.reference site.occupant preferred).position) := by
  rcases plan.findSpot_cases site.reference site.occupant.bodySize preferred with
    ⟨-, accepted⟩ | ⟨corner, -⟩ | ⟨stalled, -⟩
  · have room := hasRoomFor_of_accepts accepted
    refine ⟨room.within, fun other member => room.free other member ?_⟩
    rintro same
    exact fresh (List.mem_map.mpr ⟨other, member, same⟩)
  · simp [Spot.isFound, find, corner] at found
  · simp [Spot.isFound, find, stalled] at found

/-- The suggestion for the first site comes first, if room was found. -/
theorem bodiesMoved_cons (site : Site K) (rest : List (Site K)) (issue : BoundaryIssue K)
    (spot : Spot K) (findings : List (BoundaryIssue K × Option (Spot K))) :
    bodiesMoved (site :: rest) ((issue, some spot) :: findings) =
      if spot.isFound = true then site.bodyAt spot.position :: bodiesMoved rest findings
      else bodiesMoved rest findings := by
  cases found : spot.isFound <;> simp [bodiesMoved, Option.filter, found]

/-- The sites that are out of bounds. -/
def sitesOutOfBounds (plan : Floorplan K) (sites : List (Site K)) : List (Site K) :=
  sites.filter fun site => (plan.classifySite site).isOutOfBounds

-- The records grow with every suggestion, so the induction is over all floorplans.
/-- Bodies that are moved keep clear of what was recorded before and of one another. -/
theorem keepClear_bodiesMoved (start : Floorplan K) {plan : Floorplan K} {sites : List (Site K)}
    (areNew : AreNewTo (start.sitesOutOfBounds sites) plan) :
    KeepClear plan.page plan.placed
      (bodiesMoved sites
        (plan.suggest (sites.map fun site => (site, start.classifySite site)))) := by
  induction sites generalizing plan with
  | nil => exact ⟨nofun, .nil⟩
  | cons site rest inductionHypothesis =>
      rw [sitesOutOfBounds, List.filter_cons, ← sitesOutOfBounds] at areNew
      rw [List.map_cons, suggest]
      split at areNew
      case isFalse inBounds =>
        rw [if_neg inBounds]
        exact inductionHypothesis areNew
      case isTrue outOfBounds =>
        rw [if_pos outOfBounds]
        generalize (start.classifySite site).position = preferred
        have isNew := areNew.fresh site (List.mem_cons_self ..)
        have ownRoom := hasOwnRoom_of_isFound isNew preferred
        simp only [place, bodiesMoved_cons]
        generalize plan.find site.reference site.occupant preferred = spot at ownRoom ⊢
        obtain ⟨placed, restNew⟩ := areNew.record spot.position
        have later := inductionHypothesis restNew
        rw [placed] at later
        split
        · next found => exact later.cons (ownRoom found)
        · exact later.of_append

/-- The bodies that are recorded first are in order, so those out of bounds are new to them. -/
theorem areNewTo_reserveValid {plan : Floorplan K} {sites : List (Site K)}
    (areNew : AreNewTo sites plan) (empty : plan.placed = []) :
    AreNewTo (plan.sitesOutOfBounds sites)
      (plan.reserveValid (sites.map fun site => (site, plan.classifySite site))) := by
  refine ⟨areNew.distinct.sublist (List.filter_sublist.map _), ?_⟩
  rintro site inFiltered recorded
  obtain ⟨member, outOfBounds⟩ := List.mem_filter.mp inFiltered
  rw [placed_reserveValid plan areNew, empty, List.nil_append] at recorded
  obtain ⟨body, inOrder, sameReference⟩ := List.mem_map.mp recorded
  obtain ⟨other, otherMember, atPosition⟩ := List.mem_filterMap.mp inOrder
  obtain ⟨position, isInOrder, rfl⟩ := Option.map_eq_some_iff.mp atPosition
  obtain rfl : other = site :=
    List.inj_on_of_nodup_map areNew.distinct otherMember member sameReference
  unfold positionInOrder? at isInOrder
  split at isInOrder
  · next valid => simp [BoundaryIssue.isOutOfBounds, valid] at outOfBounds
  · cases isInOrder

/-! ## Findings -/

/-- The finding about a site is its classification, with the position of a spot where the site is
out of bounds. -/
structure IsFinding (plan : Floorplan K) (site : Site K)
    (finding : BoundaryIssue K × Option (Spot K)) : Prop where
  issue : finding.1 = { plan.classifySite site with suggestion := finding.2.map (·.position) }
  spot : finding.2.isSome = finding.1.isOutOfBounds

theorem suggest_isFinding (start plan : Floorplan K) (sites : List (Site K)) :
    List.Forall₂ start.IsFinding sites
      (plan.suggest (sites.map fun site => (site, start.classifySite site))) := by
  induction sites generalizing plan with
  | nil => exact .nil
  | cons site rest inductionHypothesis =>
      rw [List.map_cons, suggest]
      cases outOfBounds : (start.classifySite site).isOutOfBounds with
      | true => exact .cons ⟨rfl, outOfBounds.symm⟩ (inductionHypothesis _)
      | false =>
          have unchanged : start.classifySite site =
              { start.classifySite site with suggestion := none } := by
            rw [← start.suggestion_classifySite site]
          exact .cons ⟨unchanged, outOfBounds.symm⟩ (inductionHypothesis _)

/-- A review has a finding about every site in turn. -/
theorem findings_isFinding (plan : Floorplan K) (sites : List (Site K)) :
    List.Forall₂ plan.IsFinding sites (plan.findings sites) :=
  suggest_isFinding plan _ sites

/-- What holds of the finding about each site holds of all findings of a review. -/
theorem forall_mem_issues {plan : Floorplan K} {sites : List (Site K)}
    {holds : BoundaryIssue K → Prop}
    (each : ∀ site ∈ sites, ∀ finding, plan.IsFinding site finding → holds finding.1) :
    ∀ issue ∈ (plan.review sites).issues, holds issue := by
  have isFinding := plan.findings_isFinding sites
  change ∀ issue ∈ (plan.findings sites).map (·.1), holds issue
  generalize plan.findings sites = findings at isFinding
  induction isFinding with
  | nil => exact nofun
  | cons first _ inductionHypothesis =>
      obtain ⟨here, later⟩ := List.forall_mem_cons.mp each
      exact List.forall_mem_cons.mpr ⟨here _ first, inductionHypothesis later⟩

/-- There is a suggestion exactly where a site is out of bounds. -/
theorem isSome_suggestion_of_mem_issues (plan : Floorplan K) (sites : List (Site K)) :
    ∀ issue ∈ (plan.review sites).issues, issue.suggestion.isSome = issue.isOutOfBounds := by
  refine forall_mem_issues fun site _ finding isFinding => ?_
  have suggestion : finding.1.suggestion = finding.2.map (·.position) := by
    rw [isFinding.issue]
  rw [suggestion, Option.isSome_map, isFinding.spot]

/-- A site is reported as without a position, out of bounds or valid. -/
theorem kind_of_mem_issues (plan : Floorplan K) (sites : List (Site K)) :
    ∀ issue ∈ (plan.review sites).issues,
      issue.kind = .missingPosition ∨ issue.kind ∈ [.offPage, .inMargin, .valid] := by
  refine forall_mem_issues fun site _ finding isFinding => ?_
  rw [isFinding.issue]
  exact (plan.classifySite_cases site).imp And.left And.left

omit [ScalarText K] in
/-- Every finding about a site is counted once. -/
theorem countP_kinds {issues : List (BoundaryIssue K)}
    (kinds : ∀ issue ∈ issues,
      issue.kind = .missingPosition ∨ issue.kind ∈ [.offPage, .inMargin, .valid]) :
    issues.countP (·.kind == .valid) + issues.countP (·.isOutOfBounds) +
      issues.countP (·.kind == .missingPosition) = issues.length := by
  induction issues with
  | nil => rfl
  | cons issue rest inductionHypothesis =>
      obtain ⟨kind, laterKinds⟩ := List.forall_mem_cons.mp kinds
      have counted := inductionHypothesis laterKinds
      have once : (if (issue.kind == .valid) = true then 1 else 0) +
          (if issue.isOutOfBounds = true then 1 else 0) +
          (if (issue.kind == .missingPosition) = true then 1 else 0) = 1 := by
        rw [BoundaryIssue.isOutOfBounds]
        cases here : issue.kind <;> simp [here] at kind ⊢
      rw [List.countP_cons, List.countP_cons, List.countP_cons, List.length_cons]
      omega

/-! ## Corrections -/

/-- There is one correction for every reference that is out of bounds, and no other. -/
theorem names_corrections_perm {plan : Floorplan K} {sites : List (Site K)}
    (distinct : ((plan.review sites).issues.map (·.subject)).Nodup) :
    (plan.review sites).corrections.names.Perm
      (((plan.review sites).issues.filter (·.isOutOfBounds)).map (·.subject)) := by
  refine (List.perm_ext_iff_of_nodup (Table.nodup_names _)
    (distinct.sublist (List.filter_sublist.map _))).mpr fun name => ?_
  rw [Table.mem_names_iff, List.mem_map]
  change ((correctionsOf (plan.review sites).issues).find? name).isSome = true ↔ _
  have suggested := plan.isSome_suggestion_of_mem_issues sites
  constructor
  · intro found
    have isSubject : name ∈ (plan.review sites).issues.map (·.subject) := by
      by_contra absent
      rw [find?_correctionsOf_of_absent absent] at found
      cases found
    obtain ⟨issue, member, rfl⟩ := List.mem_map.mp isSubject
    rw [find?_correctionsOf_of_mem distinct member, suggested issue member] at found
    exact ⟨issue, List.mem_filter.mpr ⟨member, found⟩, rfl⟩
  · rintro ⟨issue, inFiltered, rfl⟩
    obtain ⟨member, outOfBounds⟩ := List.mem_filter.mp inFiltered
    rw [find?_correctionsOf_of_mem distinct member, suggested issue member]
    exact outOfBounds

/-! ## Exact arithmetic -/

/-- In exact arithmetic, where every step rises, no search stalls. -/
theorem ne_stalled_of_mem_suggest {plan : Floorplan ℝ} (positive : 0 < plan.spacing)
    (classified : List (Site ℝ × BoundaryIssue ℝ)) :
    ∀ finding ∈ plan.suggest classified, ∀ spot ∈ finding.2, spot.source ≠ .stalled := by
  induction classified generalizing plan with
  | nil => exact List.forall_mem_nil _
  | cons pair rest inductionHypothesis =>
      obtain ⟨site, issue⟩ := pair
      rw [suggest]
      split
      · refine List.forall_mem_cons.mpr ⟨fun spot isSpot => ?_, inductionHypothesis positive⟩
        rw [← Option.mem_some_iff.mp isSpot]
        exact findSpot_ne_stalled (.of_forall fun height => lt_add_of_pos_right height positive) _
      · refine List.forall_mem_cons.mpr ⟨fun spot isSpot => ?_, inductionHypothesis positive⟩
        exact absurd isSpot (Option.not_mem_none spot)

/-! ## Reviews -/

/-- A review of sites whose references differ has a finding about every one in turn, with a
suggestion where it is out of bounds; the suggestions are the corrections. Every site is counted
once, as valid, out of bounds or without a position, and the review succeeds when none is out of
bounds. The bodies for which room was found lie within the usable area and overlap neither a body in
order nor one another. A search that does not find room ends in the corner or, where steps are lost
in rounding, stalls and never comes to an end; in exact arithmetic no search stalls. -/
theorem review_keepClear :
    (∀ {K : Type} [ScalarText K] (page : Page K) (grid spacing : K) (sites : List (Site K)),
      (sites.map (·.reference)).Nodup →
        let plan := blank page grid spacing
        let report := plan.review sites
        report.issues = (plan.findings sites).map (·.1) ∧
        List.Forall₂ plan.IsFinding sites (plan.findings sites) ∧
        report.corrections.names.Perm
          ((report.issues.filter (·.isOutOfBounds)).map (·.subject)) ∧
        (∀ issue ∈ report.issues,
          report.corrections.find? issue.subject = issue.suggestion) ∧
        report.totalComponents = sites.length ∧
        report.outOfBoundsComponents = report.corrections.size ∧
        report.validatedComponents + report.outOfBoundsComponents +
          report.issues.countP (·.kind == .missingPosition) = report.totalComponents ∧
        (report.success = true ↔ ∀ issue ∈ report.issues, issue.isOutOfBounds = false) ∧
        KeepClear page (plan.bodiesInOrder sites) (bodiesMoved sites (plan.findings sites))) ∧
    ∀ (page : Page ℝ) (grid spacing : ℝ) (sites : List (Site ℝ)),
      ∀ finding ∈ (blank page grid spacing).findings sites,
        ∀ spot ∈ finding.2, spot.source ≠ .stalled := by
  refine ⟨?_, ?_⟩
  · intro K _ page grid spacing sites distinct plan report
    have subjects : (report.issues.map (·.subject)).Nodup :=
      (plan.subjects_review sites).symm ▸ distinct
    have names := names_corrections_perm subjects
    have counted : report.outOfBoundsComponents = report.corrections.size := by
      rw [← Table.length_names, names.length_eq, List.length_map, ← List.countP_eq_length_filter]
      rfl
    have total : report.issues.length = sites.length := by
      rw [← List.length_map (f := (·.subject)), plan.subjects_review, List.length_map]
    have areNew : AreNewTo sites plan := ⟨distinct, fun _ _ => List.not_mem_nil⟩
    have clear := keepClear_bodiesMoved plan (areNewTo_reserveValid areNew rfl)
    have same : SameSettings plan plan := ⟨rfl, rfl, rfl⟩
    rw [placed_reserveValid plan areNew, (same.reserveValid _).page] at clear
    have allCounted : report.validatedComponents + report.outOfBoundsComponents +
        report.issues.countP (·.kind == .missingPosition) = report.totalComponents :=
      (countP_kinds (plan.kind_of_mem_issues sites)).trans total
    have succeeds : report.success = true ↔
        ∀ issue ∈ report.issues, issue.isOutOfBounds = false := by
      change (report.issues.countP (·.isOutOfBounds) == 0) = true ↔ _
      simp [List.countP_eq_zero]
    exact ⟨rfl, plan.findings_isFinding sites, names,
      fun issue member => find?_correctionsOf_of_mem subjects member, rfl, counted, allCounted,
      succeeds, clear⟩
  · intro page grid spacing sites
    have same : SameSettings (blank page grid spacing) (blank page grid spacing) :=
      ⟨rfl, rfl, rfl⟩
    refine ne_stalled_of_mem_suggest ?_ _
    rw [(same.reserveValid _).spacing]
    exact Exact.blank_spacing_pos page grid spacing

/-- A resistor off the page, a lamp that reaches into the margin, a ground without a place, and a
capacitor in order next to the place on a coarse grid that the resistor comes to. -/
def crowdedSites : List (Site Float) :=
  [⟨"R1", .component .resistor, some ⟨298.0, 90.0⟩⟩,
    ⟨"LED1", .component .led, some ⟨285.0, 130.0⟩⟩,
    ⟨"GND", .power, none⟩,
    ⟨"C1", .component .capacitor, some ⟨270.5, 80.0⟩⟩]

theorem review_keepClear_crowded :
    let plan : Floorplan Float := blank Page.a4 40.0 10.16
    let moved := bodiesMoved crowdedSites (plan.findings crowdedSites)
    (crowdedSites.map (·.reference)).Nodup ∧
      (plan.bodiesInOrder crowdedSites).map (·.reference) = ["C1"] ∧
      moved.map (·.reference) = ["R1", "LED1"] ∧
      KeepClear Page.a4 (plan.bodiesInOrder crowdedSites) moved := by
  intro plan moved
  have distinct : (crowdedSites.map (·.reference)).Nodup := by decide
  obtain ⟨-, -, -, -, -, -, -, -, clear⟩ :=
    review_keepClear.1 Page.a4 40.0 10.16 crowdedSites distinct
  exact ⟨distinct, by decide +kernel, by decide +kernel, clear⟩

end Floorplan
end CircuitSheet
