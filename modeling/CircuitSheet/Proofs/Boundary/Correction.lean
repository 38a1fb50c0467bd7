import CircuitSheet.Boundary.Review
import CircuitSheet.Proofs.Circuit.PowerKeys
import CircuitSheet.Proofs.Floorplan.Room

/-!
# Corrected positions

A review classifies every site by the page alone and suggests a position for those that are out of
bounds. In exact arithmetic every suggestion is in order for a body that is not larger than the
usable area, be it a place that was found or the corner. So correcting sites once settles them: what
is reviewed again is in order, and correcting it again changes nothing. A circuit is corrected as
its sites are.
-/

namespace CircuitSheet

/-- The body of the occupant is no wider and no taller than the usable area. -/
structure Occupant.FitsOn {K : Type} [Scalar K] (occupant : Occupant) (page : Page K) : Prop where
  narrow : occupant.bodySize.width ≤ page.usableWidth
  low : occupant.bodySize.height ≤ page.usableHeight

/-- The circuits differ at most in positions. -/
structure Circuit.SameBesidesPositions {K : Type} (one other : Circuit K) : Prop where
  name : other.name = one.name
  connections : other.connections = one.connections
  components : List.Forall₂
    (fun before after => after = { before with position := after.position })
    one.components other.components
  powers : List.Forall₂
    (fun before after => after = { before with position := after.position })
    one.powers other.powers

/-! ## Exact arithmetic -/

namespace Exact

/-- Every body is at least a millimetre wide and high. -/
theorem one_le_bodySize (occupant : Occupant) :
    (1 : ℝ) ≤ occupant.bodySize.width ∧ (1 : ℝ) ≤ occupant.bodySize.height := by
  cases occupant with
  | component kind => cases kind <;> simp only [Occupant.bodySize, Kind.bodySize] <;> norm_num
  | power => simp only [Occupant.bodySize, PowerSymbol.bodySize]; norm_num

/-- The centre of a body within the usable area lies on the page: the slack at its edges is less
than half of the body. -/
theorem holdsPoint_of_holdsBody {page : Page ℝ} (margin : 0 ≤ page.margin) {reference : String}
    {occupant : Occupant} {position : Point ℝ}
    (within : page.holdsBody ⟨reference, position, occupant.bodySize⟩ = true) :
    page.holdsPoint position = true := by
  obtain ⟨wide, high⟩ := one_le_bodySize occupant
  simp only [Page.holdsBody, Page.slack, Page.minX, Page.maxX, Page.minY, Page.maxY, Body.left,
    Body.right, Body.top, Body.bottom, Bool.and_eq_true] at within
  obtain ⟨⟨⟨left, right⟩, top⟩, bottom⟩ := within
  norm_num at left right top bottom
  simp only [Page.holdsPoint, Bool.and_eq_true, decide_eq_true_iff]
  norm_num
  refine ⟨⟨?_, ?_⟩, ?_, ?_⟩ <;> linarith

end Exact

namespace Floorplan

/-! ## Positions in order -/

section

variable {K : Type} [ScalarText K]

/-- The position lies on the page, and the body of the occupant within the usable area. -/
structure Suits (plan : Floorplan K) (occupant : Occupant) (position : Point K) : Prop where
  onPage : plan.page.holdsPoint position = true
  admitted : plan.admits occupant.bodySize position = true

/-- A position that suits is found to be in order. -/
theorem Suits.classify {plan : Floorplan K} {occupant : Occupant} {position : Point K}
    (suits : plan.Suits occupant position) (reference : String) :
    plan.classify reference occupant position = validIssue reference position := by
  simp [Floorplan.classify, suits.onPage, suits.admitted]

/-- The site has no position that is out of bounds. -/
def IsSettled (plan : Floorplan K) (site : Site K) : Prop :=
  (plan.classifySite site).isOutOfBounds = false

theorem Suits.isSettled {plan : Floorplan K} {site : Site K} {position : Point K}
    (suits : plan.Suits site.occupant position) (placed : site.position = some position) :
    plan.IsSettled site := by
  unfold IsSettled classifySite
  rw [placed]
  cases finite : position.isFinite with
  | false => simp [Option.filter, finite, missingIssue, BoundaryIssue.isOutOfBounds]
  | true =>
      simp only [Option.filter, finite, if_true]
      rw [suits.classify]
      rfl

theorem subject_classify (plan : Floorplan K) (reference : String) (occupant : Occupant)
    (position : Point K) : (plan.classify reference occupant position).subject = reference := by
  unfold classify
  split
  · rfl
  · split <;> rfl

theorem suggestion_classify (plan : Floorplan K) (reference : String) (occupant : Occupant)
    (position : Point K) : (plan.classify reference occupant position).suggestion = none := by
  unfold classify
  split
  · rfl
  · split <;> rfl

@[simp] theorem subject_classifySite (plan : Floorplan K) (site : Site K) :
    (plan.classifySite site).subject = site.reference := by
  unfold classifySite
  split
  · exact plan.subject_classify ..
  · rfl

@[simp] theorem suggestion_classifySite (plan : Floorplan K) (site : Site K) :
    (plan.classifySite site).suggestion = none := by
  unfold classifySite
  split
  · exact plan.suggestion_classify ..
  · rfl

/-! ## Suggestions -/

theorem SameSettings.reserveValid {start plan : Floorplan K} (same : SameSettings start plan)
    (classified : List (Site K × BoundaryIssue K)) :
    SameSettings start (plan.reserveValid classified) := by
  unfold Floorplan.reserveValid
  refine List.foldlRecOn _ _ same ?_
  rintro before kept ⟨site, issue⟩ -
  dsimp only
  split
  · exact ⟨kept.page, kept.grid, kept.spacing⟩
  · exact kept

/-- What is reported about a site with a classification: the classification, and where it is out of
bounds, a spot that was found on a floorplan with the same page and grid. -/
inductive Reports (start : Floorplan K) (site : Site K) (classification : BoundaryIssue K) :
    BoundaryIssue K → Prop
  | inOrder (settled : classification.isOutOfBounds = false) :
      Reports start site classification classification
  | moved (outOfBounds : classification.isOutOfBounds = true) {before : Floorplan K}
      (same : SameSettings start before) :
      Reports start site classification
        { classification with
          suggestion :=
            some (before.find site.reference site.occupant classification.position).position }

theorem suggest_reports {start plan : Floorplan K} (same : SameSettings start plan)
    (classified : List (Site K × BoundaryIssue K)) :
    List.Forall₂ (fun pair finding => Reports start pair.1 pair.2 finding.1) classified
      (plan.suggest classified) := by
  induction classified generalizing plan with
  | nil => exact .nil
  | cons pair rest inductionHypothesis =>
      obtain ⟨site, issue⟩ := pair
      rw [suggest]
      cases outOfBounds : issue.isOutOfBounds with
      | true =>
          simp only [if_true]
          exact .cons (.moved outOfBounds same)
            (inductionHypothesis ⟨same.page, same.grid, same.spacing⟩)
      | false =>
          simp only [Bool.false_eq_true, if_false]
          exact .cons (.inOrder outOfBounds) (inductionHypothesis same)

/-- A review reports on every site in turn. -/
theorem review_reports (plan : Floorplan K) (sites : List (Site K)) :
    List.Forall₂ (fun site issue => Reports plan site (plan.classifySite site) issue) sites
      (plan.review sites).issues := by
  have same : SameSettings plan plan := ⟨rfl, rfl, rfl⟩
  have reports := suggest_reports
    (same.reserveValid (sites.map fun site => (site, plan.classifySite site)))
    (sites.map fun site => (site, plan.classifySite site))
  rw [List.forall₂_map_left_iff] at reports
  exact List.forall₂_map_right_iff.mpr reports

namespace Reports

variable {start : Floorplan K} {site : Site K} {issue : BoundaryIssue K}

theorem subject_eq (reports : Reports start site (start.classifySite site) issue) :
    issue.subject = site.reference := by
  cases reports <;> simp

/-- There is a suggestion exactly where the site is out of bounds. -/
theorem isOutOfBounds_eq (reports : Reports start site (start.classifySite site) issue) :
    issue.isOutOfBounds = issue.suggestion.isSome := by
  cases reports with
  | inOrder settled => simp [settled]
  | moved outOfBounds => simpa [BoundaryIssue.isOutOfBounds] using outOfBounds

end Reports

theorem subjects_review (plan : Floorplan K) (sites : List (Site K)) :
    (plan.review sites).issues.map (·.subject) = sites.map (·.reference) := by
  have reports := plan.review_reports sites
  generalize (plan.review sites).issues = issues at reports
  induction reports with
  | nil => rfl
  | cons first _ inductionHypothesis =>
      rw [List.map_cons, List.map_cons, first.subject_eq, inductionHypothesis]

/-! ## The table of corrections -/

omit [ScalarText K] in
/-- The suggestion of the last issue with a subject counts. -/
theorem find?_correctionsOf_append (issues : List (BoundaryIssue K)) (last : BoundaryIssue K)
    (name : String) :
    (correctionsOf (issues ++ [last])).find? name =
      if name = last.subject then last.suggestion.or ((correctionsOf issues).find? name)
      else (correctionsOf issues).find? name := by
  rw [correctionsOf, List.foldl_append, ← correctionsOf]
  cases given : last.suggestion with
  | none => simp [given]
  | some position => simp [given]

omit [ScalarText K] in
theorem find?_correctionsOf_of_absent {issues : List (BoundaryIssue K)} {name : String}
    (absent : name ∉ issues.map (·.subject)) : (correctionsOf issues).find? name = none := by
  induction issues using List.reverseRecOn with
  | nil => rfl
  | append_singleton issues last inductionHypothesis =>
      simp only [List.map_append, List.map_cons, List.map_nil, List.mem_append,
        List.mem_singleton, not_or] at absent
      rw [find?_correctionsOf_append, if_neg absent.2, inductionHypothesis absent.1]

omit [ScalarText K] in
/-- When no subject repeats, each one's correction is its suggestion. -/
theorem find?_correctionsOf_of_mem {issues : List (BoundaryIssue K)} {issue : BoundaryIssue K}
    (distinct : (issues.map (·.subject)).Nodup) (member : issue ∈ issues) :
    (correctionsOf issues).find? issue.subject = issue.suggestion := by
  induction issues using List.reverseRecOn with
  | nil => cases member
  | append_singleton issues last inductionHypothesis =>
      rw [List.map_append, List.nodup_append] at distinct
      obtain ⟨earlierDistinct, -, differ⟩ := distinct
      rw [find?_correctionsOf_append]
      rcases List.mem_append.mp member with earlier | isLast
      · have different : issue.subject ≠ last.subject :=
          differ _ (List.mem_map_of_mem earlier) _ (by simp)
        rw [if_neg different, inductionHypothesis earlierDistinct earlier]
      · obtain rfl := List.mem_singleton.mp isLast
        have absent : issue.subject ∉ issues.map (·.subject) :=
          fun earlier => differ _ earlier _ (by simp) rfl
        rw [if_pos rfl, find?_correctionsOf_of_absent absent, Option.or_none]

/-! ## Corrected sites -/

/-- The site at the position that is suggested if it is out of bounds. -/
def relocate (site : Site K) (issue : BoundaryIssue K) : Site K :=
  if issue.isOutOfBounds then { site with position := issue.suggestion } else site

theorem map_correct_eq_zipWith {plan : Floorplan K} {sites : List (Site K)}
    {issues : List (BoundaryIssue K)} {corrections : Table (Point K)}
    (reports : List.Forall₂ (fun site issue => Reports plan site (plan.classifySite site) issue)
      sites issues)
    (corrected : ∀ issue ∈ issues, corrections.find? issue.subject = issue.suggestion) :
    (sites.map fun site =>
        { site with position := (corrections.find? site.reference).or site.position }) =
      List.zipWith relocate sites issues := by
  induction reports with
  | nil => rfl
  | @cons site issue sites issues first _ inductionHypothesis =>
      obtain ⟨here, later⟩ := List.forall_mem_cons.mp corrected
      rw [List.map_cons, List.zipWith_cons_cons, inductionHypothesis later, ← first.subject_eq,
        here, relocate, first.isOutOfBounds_eq, first.subject_eq]
      cases issue.suggestion <;> rfl

/-- Corrected sites are those that were given, relocated where they were reported out of
bounds. -/
theorem correctSites_eq_zipWith (plan : Floorplan K) {sites : List (Site K)}
    (distinct : (sites.map (·.reference)).Nodup) :
    (plan.correctSites sites).1 = List.zipWith relocate sites (plan.review sites).issues := by
  apply map_correct_eq_zipWith (plan.review_reports sites)
  intro issue member
  exact find?_correctionsOf_of_mem ((plan.subjects_review sites).symm ▸ distinct) member

/-- Settled sites are reported as they are classified. -/
theorem issues_review_of_settled {plan : Floorplan K} {sites : List (Site K)}
    (settled : ∀ site ∈ sites, plan.IsSettled site) :
    (plan.review sites).issues = sites.map plan.classifySite := by
  have reports := plan.review_reports sites
  generalize (plan.review sites).issues = issues at reports
  induction reports with
  | nil => rfl
  | @cons site issue sites issues first _ inductionHypothesis =>
      obtain ⟨here, later⟩ := List.forall_mem_cons.mp settled
      rw [List.map_cons, inductionHypothesis later]
      cases first with
      | inOrder => rfl
      | moved outOfBounds =>
          rw [IsSettled, outOfBounds] at here
          cases here

/-- A review of settled sites succeeds and corrects nothing. -/
theorem review_of_settled {plan : Floorplan K} {sites : List (Site K)}
    (settled : ∀ site ∈ sites, plan.IsSettled site) :
    (plan.review sites).success = true ∧ (plan.review sites).corrections = Table.empty := by
  have issues := issues_review_of_settled settled
  have none : (plan.review sites).issues.countP (·.isOutOfBounds) = 0 := by
    rw [issues, List.countP_eq_zero]
    intro issue member
    obtain ⟨site, inSites, rfl⟩ := List.mem_map.mp member
    have here : (plan.classifySite site).isOutOfBounds = false := settled site inSites
    simp [here]
  refine ⟨by simpa [review] using none, ?_⟩
  change correctionsOf (plan.review sites).issues = Table.empty
  rw [issues]
  clear none issues settled
  induction sites using List.reverseRecOn with
  | nil => rfl
  | append_singleton sites last inductionHypothesis =>
      rw [correctionsOf] at inductionHypothesis ⊢
      simp [inductionHypothesis]

theorem correctSites_of_settled {plan : Floorplan K} {sites : List (Site K)}
    (settled : ∀ site ∈ sites, plan.IsSettled site) : (plan.correctSites sites).1 = sites := by
  simp [correctSites, (review_of_settled settled).2]

/-! ## Corrected circuits -/

/-- A circuit is corrected as its sites are: power symbols keep their keys. -/
theorem sites_correctCircuit (plan : Floorplan K) (circuit : Circuit K) :
    (plan.correctCircuit circuit).1.sites = (plan.correctSites circuit.sites).1 := by
  have references : (circuit.keyedPowers.map fun keyed => keyed.1.reference) =
      circuit.powers.map (·.reference) := by
    rw [← circuit.map_fst_keyedPowers, List.map_map]
    rfl
  have keys : (plan.correctCircuit circuit).1.powerKeys = circuit.keyedPowers.map Prod.snd := by
    rw [Circuit.map_snd_keyedPowers]
    apply Circuit.powerKeys_congr
    · simp [correctCircuit, Function.comp_def]
    · simpa [correctCircuit, Function.comp_def] using references
  rw [Circuit.sites, Circuit.keyedPowers, keys, correctSites, correctCircuit]
  generalize plan.review circuit.sites = report
  simp only [Circuit.sites, List.map_append, List.map_map, List.zip_map', Function.comp_def]
  congr 1
  · apply List.map_congr_left
    intro component _
    cases report.corrections.find? component.reference <;> rfl
  · apply List.map_congr_left
    intro keyed _
    cases report.corrections.find? keyed.2 <;> rfl

theorem sameBesidesPositions_correctCircuit (plan : Floorplan K) (circuit : Circuit K) :
    circuit.SameBesidesPositions (plan.correctCircuit circuit).1 where
  name := rfl
  connections := rfl
  components := by
    rw [correctCircuit, List.forall₂_map_right_iff, List.forall₂_same]
    intro component _
    rfl
  powers := by
    have keyed : List.Forall₂
        (fun before after => after = { before with position := after.position })
        (circuit.keyedPowers.map Prod.fst) (plan.correctCircuit circuit).1.powers := by
      rw [correctCircuit, List.forall₂_map_left_iff, List.forall₂_map_right_iff, List.forall₂_same]
      intro keyedPower _
      rfl
    rwa [circuit.map_fst_keyedPowers] at keyed

end

/-! ## Settled sites -/

/-- In exact arithmetic whatever is found suits a body that is not larger than the usable area. -/
theorem suits_find {start before : Floorplan ℝ} (margin : 0 ≤ start.page.margin)
    (positive : 0 < start.spacing) (same : SameSettings start before) {occupant : Occupant}
    (fits : occupant.FitsOn start.page) (reference : String) (preferred : Option (Point ℝ)) :
    start.Suits occupant (before.find reference occupant preferred).position := by
  have within : start.page.holdsBody
      ⟨reference, (before.find reference occupant preferred).position, occupant.bodySize⟩ =
        true := by
    rw [← same.page] at fits ⊢
    rcases before.findSpot_cases reference occupant.bodySize preferred with
      ⟨-, accepted⟩ | ⟨-, atCorner, -⟩ | ⟨-, stalled⟩
    · exact (hasRoomFor_of_accepts accepted).within
    · rw [find, atCorner]
      exact Exact.holdsBody_corner fits.narrow fits.low reference
    · have rises : ∀ height : ℝ, height < height + before.spacing :=
        fun height => lt_add_of_pos_right height (same.spacing ▸ positive)
      exact absurd stalled (scan_ne_stalled (.of_forall rises))
  exact ⟨Exact.holdsPoint_of_holdsBody margin within, within⟩

theorem relocate_moved {K : Type} (site : Site K) {issue : BoundaryIssue K} (position : Point K)
    (outOfBounds : issue.isOutOfBounds = true) :
    relocate site { issue with suggestion := some position } =
      { site with position := some position } :=
  if_pos outOfBounds

/-- A site is settled where it is relocated to. -/
theorem isSettled_relocate {start : Floorplan ℝ} (margin : 0 ≤ start.page.margin)
    (positive : 0 < start.spacing) {site : Site ℝ} {issue : BoundaryIssue ℝ}
    (fits : site.occupant.FitsOn start.page)
    (reports : Reports start site (start.classifySite site) issue) :
    start.IsSettled (relocate site issue) := by
  cases reports with
  | inOrder settled => simp [relocate, settled, IsSettled]
  | moved outOfBounds same =>
      rw [relocate_moved site _ outOfBounds]
      refine Suits.isSettled ?_ rfl
      exact suits_find margin positive same fits ..

/-- Corrected sites are settled. -/
theorem isSettled_of_mem_correctSites {plan : Floorplan ℝ} (margin : 0 ≤ plan.page.margin)
    (positive : 0 < plan.spacing) {sites : List (Site ℝ)}
    (distinct : (sites.map (·.reference)).Nodup)
    (fits : ∀ site ∈ sites, site.occupant.FitsOn plan.page) :
    ∀ site ∈ (plan.correctSites sites).1, plan.IsSettled site := by
  rw [plan.correctSites_eq_zipWith distinct]
  have reports := plan.review_reports sites
  generalize (plan.review sites).issues = issues at reports
  clear distinct
  induction reports with
  | nil => simp
  | @cons site issue sites issues first _ inductionHypothesis =>
      obtain ⟨here, later⟩ := List.forall_mem_cons.mp fits
      rw [List.zipWith_cons_cons, List.forall_mem_cons]
      exact ⟨isSettled_relocate margin positive here first, inductionHypothesis later⟩

/-- Correcting sites on a page changes no more than the positions of those that are reported out of
bounds. In exact arithmetic, for bodies that are not larger than the usable area, what is corrected
is then found to be in order, and correcting it again changes nothing. A circuit is corrected as its
sites are and with their report, and nothing but positions changes. -/
theorem correctSites_settles :
    (∀ (page : Page ℝ) (grid spacing : ℝ) (sites : List (Site ℝ)),
      0 ≤ page.margin → (sites.map (·.reference)).Nodup →
      (∀ site ∈ sites, site.occupant.FitsOn page) →
        let plan := blank page grid spacing
        let corrected := (plan.correctSites sites).1
        let report := (plan.correctSites sites).2
        report.issues.map (·.subject) = sites.map (·.reference) ∧
        corrected = List.zipWith relocate sites report.issues ∧
        (plan.review corrected).success = true ∧
        (plan.review corrected).corrections = Table.empty ∧
        (plan.correctSites corrected).1 = corrected) ∧
    ∀ {K : Type} [ScalarText K] (plan : Floorplan K) (circuit : Circuit K),
      ((plan.correctCircuit circuit).1.sites, (plan.correctCircuit circuit).2) =
          plan.correctSites circuit.sites ∧
        circuit.SameBesidesPositions (plan.correctCircuit circuit).1 := by
  refine ⟨?_, ?_⟩
  · intro page grid spacing sites margin distinct fits plan corrected report
    have positive : 0 < plan.spacing := Exact.blank_spacing_pos page grid spacing
    have settled : ∀ site ∈ (plan.correctSites sites).1, plan.IsSettled site :=
      isSettled_of_mem_correctSites margin positive distinct fits
    obtain ⟨success, nothing⟩ := review_of_settled settled
    exact ⟨plan.subjects_review sites, plan.correctSites_eq_zipWith distinct, success, nothing,
      correctSites_of_settled settled⟩
  · intro K _ plan circuit
    refine ⟨?_, plan.sameBesidesPositions_correctCircuit circuit⟩
    rw [plan.sites_correctCircuit]
    rfl

/-- A resistor off the page and a ground without a position. -/
noncomputable def strayedSites : List (Site ℝ) :=
  [⟨"R1", .component .resistor, some ⟨-5, 100⟩⟩, ⟨"GND", .power, none⟩]

theorem correctSites_settles_strayed :
    let plan := blank (Page.a4 : Page ℝ) 1 10
    let corrected := (plan.correctSites strayedSites).1
    plan.page.holdsPoint ⟨-5, 100⟩ = false ∧ 0 ≤ plan.page.margin ∧
      (strayedSites.map (·.reference)).Nodup ∧
      (∀ site ∈ strayedSites, site.occupant.FitsOn plan.page) ∧
      (plan.review corrected).success = true ∧ (plan.correctSites corrected).1 = corrected := by
  intro plan corrected
  have strayed : plan.page.holdsPoint ⟨-5, 100⟩ = false := by
    simp only [Page.holdsPoint]
    norm_num
  have margin : (0 : ℝ) ≤ Page.a4.margin := by
    simp only [Page.a4]
    norm_num
  have distinct : (strayedSites.map (·.reference)).Nodup := by
    simp [strayedSites]
  have fits : ∀ site ∈ strayedSites, site.occupant.FitsOn (Page.a4 : Page ℝ) := by
    intro site member
    rcases List.mem_pair.mp member with rfl | rfl <;> constructor <;>
      simp only [Occupant.bodySize, Kind.bodySize, PowerSymbol.bodySize, Page.usableWidth,
        Page.usableHeight, Page.minX, Page.maxX, Page.minY, Page.maxY, Page.a4] <;>
      norm_num
  obtain ⟨-, -, success, -, again⟩ :=
    correctSites_settles.1 Page.a4 1 10 strayedSites margin distinct fits
  exact ⟨strayed, margin, distinct, fits, success, again⟩

end Floorplan
end CircuitSheet
