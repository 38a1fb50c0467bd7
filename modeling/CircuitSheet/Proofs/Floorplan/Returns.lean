import CircuitSheet.Proofs.Binary64.Steps
import CircuitSheet.Proofs.Binary64.Turning
import CircuitSheet.Proofs.Floorplan.Passes

/-!
# When searches return

In double precision a step of the scan can be lost in rounding. A search returns on every page,
whatever else stands there, if no step is lost on its way; otherwise there are bodies among which it
never returns. No step is lost as long as the page is not too many times as large as the spacing.
-/

namespace CircuitSheet

open Binary64

/-! ## Positive numbers -/

/-- The number is finite and positive, as a step or half a side of a body. -/
structure IsPositive (value : Float) : Prop where
  finite : value.isFinite = true
  positive : 0 < number value

theorem number_zero : number 0.0 = 0 := by
  have zero : parts 0.0 = .finite false 0 lowestExponent := by
    decide +kernel
  rw [number_of_parts zero, Nat.cast_zero, zero_mul, mul_zero]

theorem isPositive_iff {value : Float} :
    IsPositive value ↔ value.isFinite = true ∧ 0.0 < value := by
  have zeroFinite : (0.0 : Float).isFinite = true := by
    decide +kernel
  constructor
  · rintro ⟨finite, positive⟩
    refine ⟨finite, (lt_iff_number zeroFinite finite).mpr ?_⟩
    rwa [number_zero]
  · rintro ⟨finite, positive⟩
    refine ⟨finite, ?_⟩
    rwa [lt_iff_number zeroFinite finite, number_zero] at positive

/-- A positive step that does not lead to a greater coordinate is lost, wherever a climb makes
it. -/
theorem IsPositive.risesOrStays {step : Float} (positive : IsPositive step) :
    RisesOrStays step := by
  intro height margin ceiling below notRising
  cases found : parts height with
  | finite negative mantissa exponent =>
      have finite := isFinite_iff.mpr ⟨_, _, _, found⟩
      exact (lt_add_or_eq finite positive.finite positive.positive).resolve_left notRising
  | infinite negative => exact add_eq_of_infinite found positive.finite
  | undefined => exact absurd below (not_add_le_of_undefined found margin ceiling)

/-! ## Coarse steps -/

/-- The ends of a climb are finite, and not too many times as large as its step. -/
structure IsCoarse (step start ceiling : Float) : Prop where
  startFinite : start.isFinite = true
  ceilingFinite : ceiling.isFinite = true
  startNear : |number start| ≤ 2 ^ 52 * number step
  ceilingNear : |number ceiling| ≤ 2 ^ 52 * number step

/-- A step of a millimetre is coarse between ends of moderate size. -/
theorem isCoarse_of_isModerate {step start ceiling : Float} (stepFinite : step.isFinite = true)
    (millimetre : 1.0 ≤ step) (startModerate : isModerate start = true)
    (ceilingModerate : isModerate ceiling = true) : IsCoarse step start ceiling := by
  have one : number 1.0 = 1 := by
    rw [number_of_parts parts_one]
    norm_num
  rw [le_iff_number (isFinite_iff.mpr ⟨_, _, _, parts_one⟩) stepFinite, one] at millimetre
  obtain ⟨startFinite, startSmall⟩ := spec_of_isModerate startModerate
  obtain ⟨ceilingFinite, ceilingSmall⟩ := spec_of_isModerate ceilingModerate
  exact ⟨startFinite, ceilingFinite, by linarith, by linarith⟩

section

variable {step margin ceiling start : Float} (stepPositive : IsPositive step)
  (marginPositive : IsPositive margin)
include stepPositive marginPositive

/-- The next rung of a climb has the same ceiling, so it is not too large either. -/
theorem IsCoarse.above (coarse : IsCoarse step start ceiling)
    (below : start + step + margin ≤ ceiling) : IsCoarse step (start + step) ceiling := by
  rcases small_or_infinite coarse.startFinite stepPositive.finite false
    (by simpa using stepPositive.positive) with small | infinite
  · have rounded := roundedFrom_add coarse.startFinite stepPositive.finite
    have finite := (rounded.represents small).finite
    have low : number start ≤ number (start + step) :=
      rounded.le_number small coarse.startFinite (by linarith [stepPositive.positive])
    have high : number (start + step) ≤ number ceiling :=
      number_le_of_add_le finite marginPositive.finite marginPositive.positive
        coarse.ceilingFinite below
    refine ⟨finite, coarse.ceilingFinite, abs_le.mpr ⟨?_, ?_⟩, coarse.ceilingNear⟩
    · exact (abs_le.mp coarse.startNear).1.trans low
    · exact high.trans (abs_le.mp coarse.ceilingNear).2
  · rw [add_eq_of_infinite infinite marginPositive.finite] at below
    exact absurd below (not_infinite_le coarse.ceilingFinite infinite)

/-- A coarse step rises from every rung. -/
theorem IsCoarse.lt_add (coarse : IsCoarse step start ceiling) {height : Float}
    (rung : IsRung step margin ceiling start height) : height < height + step := by
  induction rung with
  | here =>
      exact lt_add_of_abs_le coarse.startFinite stepPositive.finite stepPositive.positive
        coarse.startNear
  | above _ higher inductionHypothesis =>
      exact inductionHypothesis (coarse.above stepPositive marginPositive higher.start_le)

end

namespace Floorplan

theorem isPositive_positiveOr {fallback : Float} (positive : IsPositive fallback)
    (value : Float) : IsPositive (positiveOr fallback value) := by
  unfold positiveOr
  split
  case isTrue usable => exact isPositive_iff.mpr usable
  case isFalse => exact positive

theorem isPositive_spacing (page : Page Float) (grid spacing : Float) :
    IsPositive (blank page grid spacing).spacing := by
  apply isPositive_positiveOr
  exact isPositive_iff.mpr (by decide +kernel)

theorem isPositive_halves (occupant : Occupant) :
    IsPositive ((occupant.bodySize : Size Float).width / 2.0) ∧
      IsPositive ((occupant.bodySize : Size Float).height / 2.0) := by
  rw [isPositive_iff, isPositive_iff]
  rcases occupant with kind | _
  · cases kind with
    | other name =>
        change (((10.0 : Float) / 2.0).isFinite = true ∧ (0.0 : Float) < 10.0 / 2.0) ∧
          ((8.0 : Float) / 2.0).isFinite = true ∧ (0.0 : Float) < 8.0 / 2.0
        decide +kernel
    | _ => decide +kernel
  · decide +kernel

/-! ## Bodies all over the page -/

/-- The floorplan with other bodies. -/
def withBodies {K : Type} (plan : Floorplan K) (bodies : List (Body K)) : Floorplan K :=
  { plan with placed := bodies }

/-- Bodies like that of an occupant, at finite positions and under references that do not repeat
and differ from a given one. -/
structure IsCrowd (occupant : Occupant) (reference : String) (bodies : List (Body Float)) :
    Prop where
  alike : ∀ body ∈ bodies, body.size = occupant.bodySize
  finite : ∀ body ∈ bodies, body.centre.isFinite = true
  distinct : (reference :: bodies.map (·.reference)).Nodup

/-- There is a crowd at any finite positions. -/
theorem exists_isCrowd (occupant : Occupant) (reference : String) {points : List (Point Float)}
    (finite : ∀ point ∈ points, point.isFinite = true) :
    ∃ bodies, IsCrowd occupant reference bodies ∧ bodies.map (·.centre) = points := by
  induction points with
  | nil => exact ⟨[], ⟨nofun, nofun, List.nodup_singleton _⟩, rfl⟩
  | cons point points inductionHypothesis =>
      obtain ⟨pointFinite, pointsFinite⟩ := List.forall_mem_cons.mp finite
      obtain ⟨bodies, ⟨alike, finite, distinct⟩, centres⟩ := inductionHypothesis pointsFinite
      obtain ⟨fresh, unused⟩ :=
        Infinite.exists_notMem_finset (reference :: bodies.map (·.reference)).toFinset
      rw [List.mem_toFinset, List.mem_cons, not_or] at unused
      obtain ⟨notReference, notUsed⟩ := unused
      refine ⟨⟨fresh, point, occupant.bodySize⟩ :: bodies, ⟨?_, ?_, ?_⟩, ?_⟩
      · exact List.forall_mem_cons.mpr ⟨rfl, alike⟩
      · exact List.forall_mem_cons.mpr ⟨pointFinite, finite⟩
      · rw [List.nodup_cons] at distinct
        rw [List.map_cons, List.nodup_cons, List.nodup_cons, List.mem_cons, not_or]
        exact ⟨⟨Ne.symm notReference, distinct.1⟩, notUsed, distinct.2⟩
      · rw [List.map_cons, centres]

/-- A body overlaps every body of its size at its place. -/
theorem overlaps_of_same_place {centre : Point Float} {size : Size Float}
    (finite : centre.isFinite = true) (width : IsPositive (size.width / 2.0))
    (height : IsPositive (size.height / 2.0)) (first second : String) :
    Body.overlaps ⟨first, centre, size⟩ ⟨second, centre, size⟩ = true := by
  have apart {middle half : Float} (finite : middle.isFinite = true) (positive : IsPositive half) :
      ¬middle + half < middle - half := by
    rw [sub_eq_add_neg_of_isFinite positive.finite]
    have negative : number (-half) < 0 := by
      rw [number_neg positive.finite]
      exact neg_lt_zero.mpr positive.positive
    have up := lt_add_or_eq finite positive.finite positive.positive
    have down := add_lt_or_eq finite (isFinite_neg positive.finite) negative
    intro crossed
    rcases up with up | up <;> rcases down with down | down
    · exact Binary64.lt_irrefl _ (Binary64.lt_trans up (Binary64.lt_trans crossed down))
    · rw [down] at crossed
      exact Binary64.lt_irrefl _ (Binary64.lt_trans up crossed)
    · rw [up] at crossed
      exact Binary64.lt_irrefl _ (Binary64.lt_trans crossed down)
    · rw [up, down] at crossed
      exact Binary64.lt_irrefl _ crossed
  obtain ⟨xFinite, yFinite⟩ := Bool.and_eq_true_iff.mp finite
  have horizontal (first second : String) :
      ¬Body.right ⟨first, centre, size⟩ < Body.left ⟨second, centre, size⟩ := apart xFinite width
  have vertical (first second : String) :
      ¬Body.bottom ⟨first, centre, size⟩ < Body.top ⟨second, centre, size⟩ := apart yFinite height
  simp [Body.overlaps, horizontal, vertical]

/-- A crowd that stands everywhere leaves no room for a body of its kind. -/
theorem IsCrowd.refuses {occupant : Occupant} {reference : String} {bodies : List (Body Float)}
    (crowd : IsCrowd occupant reference bodies)
    (everywhere : ∀ point : Point Float, point.isFinite = true → point ∈ bodies.map (·.centre))
    (plan : Floorplan Float) (position : Point Float) :
    (plan.withBodies bodies).accepts reference occupant.bodySize position = false := by
  cases finite : position.isFinite with
  | false => rw [accepts, admits, finite, Bool.false_and, Bool.false_and]
  | true =>
      obtain ⟨body, member, rfl⟩ := List.mem_map.mp (everywhere position finite)
      have other : body.reference ≠ reference := by
        intro same
        apply (List.nodup_cons.mp crowd.distinct).1
        rw [← same]
        exact List.mem_map_of_mem member
      have overlaps : body.overlaps ⟨reference, body.centre, occupant.bodySize⟩ = true := by
        obtain ⟨width, height⟩ := isPositive_halves occupant
        rw [← crowd.alike body member] at width height ⊢
        exact overlaps_of_same_place finite width height body.reference reference
      have taken : (plan.withBodies bodies).isFree ⟨reference, body.centre, occupant.bodySize⟩ =
          false := by
        rw [isFree, Bool.not_eq_false']
        refine List.any_eq_true.mpr ⟨body, member, ?_⟩
        rw [overlaps, Bool.and_true, bne_iff_ne]
        exact other
      rw [accepts, taken, Bool.and_false]

instance : Finite Float :=
  .of_injective Float.toBits fun _ _ same => eq_of_toBits (congrArg UInt64.toNat same)

instance : Finite (Point Float) := by
  apply Finite.of_injective fun point : Point Float => (point.x, point.y)
  rintro ⟨x, y⟩ ⟨otherX, otherY⟩ same
  obtain ⟨rfl, rfl⟩ := Prod.mk.inj same
  rfl

/-- There is a crowd that leaves no room anywhere. -/
theorem exists_refusing (occupant : Occupant) (reference : String) :
    ∃ bodies, IsCrowd occupant reference bodies ∧
      ∀ (plan : Floorplan Float) (position : Point Float),
        (plan.withBodies bodies).accepts reference occupant.bodySize position = false := by
  have finitelyMany := Set.toFinite { point : Point Float | point.isFinite = true }
  have listed (point : Point Float) :
      point ∈ finitelyMany.toFinset.toList ↔ point.isFinite = true := by
    rw [Finset.mem_toList, Set.Finite.mem_toFinset, Set.mem_ofPred_eq]
  obtain ⟨bodies, crowd, centres⟩ :=
    exists_isCrowd occupant reference fun point => (listed point).mp
  refine ⟨bodies, crowd, crowd.refuses fun point finite => ?_⟩
  rw [centres]
  exact (listed point).mpr finite

/-! ## Returning searches -/

/-- A search among bodies that leave no room anywhere stalls, unless all its steps rise. -/
theorem source_find_of_refusing {K : Type} [Scalar K] {plan : Floorplan K} {reference : String}
    {occupant : Occupant} (preferred : Option (Point K))
    (refusing : ∀ position, plan.accepts reference occupant.bodySize position = false)
    (lost : ¬plan.Rises occupant.bodySize) :
    (plan.find reference occupant preferred).source = .stalled := by
  rw [find, findSpot]
  cases atPreference : plan.preferredSpot? reference occupant.bodySize preferred with
  | some position =>
      have accepted := preferredSpot?_eq_some atPreference
      rw [refusing] at accepted
      cases accepted
  | none =>
      cases result : plan.scan reference occupant.bodySize with
      | found position =>
          have accepted := (scan_found result).2
          rw [refusing] at accepted
          cases accepted
      | exhausted => exact absurd (rises_of_scan_exhausted result) lost
      | stalled => rfl

/-- On a page of any size, with any grid and any spacing, the search for room for an occupant
returns the position that is found for it, whatever bodies there are and whatever is preferred, if
every step of its scan rises. If a step is lost in rounding there are bodies like the occupant's,
all at finite positions, among which the search never returns. Every step rises where the ends of
the usable area are at most two to the fifty-second spacings away from zero. -/
theorem search_returns_as_steps_rise (page : Page Float) (grid spacing : Float)
    (occupant : Occupant) :
    let plan := blank page grid spacing
    let size : Size Float := occupant.bodySize
    (plan.Rises size →
      ∀ bodies reference preferred position,
        (plan.withBodies bodies).Returns reference occupant preferred position ↔
          ((plan.withBodies bodies).find reference occupant preferred).position = position) ∧
    (¬plan.Rises size →
      ∀ reference, ∃ bodies, IsCrowd occupant reference bodies ∧
        ∀ preferred position,
          ¬(plan.withBodies bodies).Returns reference occupant preferred position) ∧
    (IsCoarse plan.spacing (page.minX + size.width / 2.0) (page.maxX + Page.slack) →
      IsCoarse plan.spacing (page.minY + size.height / 2.0) (page.maxY + Page.slack) →
      plan.Rises size) := by
  intro plan size
  have spacingPositive : IsPositive plan.spacing := isPositive_spacing page grid spacing
  have returns (bodies : List (Body Float)) {reference : String}
      {preferred : Option (Point Float)} {position : Point Float} :=
    @returns_iff _ _ (plan.withBodies bodies) reference spacingPositive.risesOrStays occupant
      preferred position
  refine ⟨?_, ?_, ?_⟩
  · intro rises bodies reference preferred position
    have there : (plan.withBodies bodies).Rises size := ⟨rises.rows, rises.columns⟩
    rw [returns]
    exact and_iff_right (findSpot_ne_stalled there preferred)
  · intro lost reference
    obtain ⟨bodies, crowd, refusing⟩ := exists_refusing occupant reference
    refine ⟨bodies, crowd, fun preferred position => ?_⟩
    have lostThere : ¬(plan.withBodies bodies).Rises size :=
      fun rises => lost ⟨rises.rows, rises.columns⟩
    rw [returns]
    intro returned
    exact returned.1 (source_find_of_refusing preferred (refusing plan) lostThere)
  · intro wide high
    obtain ⟨width, height⟩ := isPositive_halves occupant
    exact ⟨fun y row => high.lt_add spacingPositive height row,
      fun x y place => wide.lt_add spacingPositive width place.2⟩

/-- A small page with a spacing that is lost beside any of its coordinates. -/
def stamp : Floorplan Float :=
  blank ⟨20.0, 10.0, 2.0⟩ 1.0 1e-20

theorem search_returns_as_steps_rise_resistor :
    (∀ bodies reference preferred position,
      ((blank Page.a4 1.0 10.16).withBodies bodies).Returns reference (.component .resistor)
          preferred position ↔
        (((blank Page.a4 1.0 10.16).withBodies bodies).find reference (.component .resistor)
          preferred).position = position) ∧
    ∀ reference, ∃ bodies, IsCrowd (.component .resistor) reference bodies ∧
      ∀ preferred position,
        ¬(stamp.withBodies bodies).Returns reference (.component .resistor) preferred position := by
  have onA4 := search_returns_as_steps_rise Page.a4 1.0 10.16 (.component .resistor)
  have onStamp := search_returns_as_steps_rise ⟨20.0, 10.0, 2.0⟩ 1.0 1e-20 (.component .resistor)
  refine ⟨onA4.1 (onA4.2.2 ?_ ?_), onStamp.2.1 ?_⟩
  · exact isCoarse_of_isModerate (by decide +kernel) (by decide +kernel) (by decide +kernel)
      (by decide +kernel)
  · exact isCoarse_of_isModerate (by decide +kernel) (by decide +kernel) (by decide +kernel)
      (by decide +kernel)
  · intro rises
    exact absurd (rises.rows _ (.here (by decide +kernel))) (by decide +kernel)

/-- The search for room beside a single resistor never returns on the small page. -/
theorem not_returns_beside_resistor :
    ¬∃ position, (stamp.reserve "R1" (.component .resistor) ⟨7.0, 5.0⟩).Returns "R2"
      (.component .resistor) none position := by
  rintro ⟨position, returned⟩
  have stays : RisesOrStays (stamp.reserve "R1" (.component .resistor) ⟨7.0, 5.0⟩).spacing :=
    (isPositive_spacing ⟨20.0, 10.0, 2.0⟩ 1.0 1e-20).risesOrStays
  rw [returns_iff stays, find, findSpot, preferredSpot?, scan_of_first_lost (by decide +kernel)
    (by decide +kernel) (by decide +kernel) (by decide +kernel)] at returned
  exact returned.1 rfl

end Floorplan
end CircuitSheet
