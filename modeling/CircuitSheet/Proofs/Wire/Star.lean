import CircuitSheet.Proofs.Wire.Clearance
import CircuitSheet.Wire.Router

/-!
# Stars

A net is drawn as a star: one branch leads from its first pin to each of the others. On a lattice
that is coarser than the tolerance of joints no branch stops short of its pin, whichever way it is
drawn, so all pins of the net are joined. A branch for which detours do not help is one segment,
and there is a failure for each of these.
-/

namespace CircuitSheet

/-! ## Paths -/

namespace Path

variable {unit : ℝ} {start stop : Point ℝ} {obstacles : List (Obstacle ℝ)}
  {ignored : List String}

/-- Segments between points of a coarse lattice survive merging, whether or not they keep to an
axis. -/
theorem survivesMerging_onLattice (coarse : WireSegment.joinTolerance < unit) :
    WireSegment.SurvivesMerging fun segment : WireSegment ℝ =>
      segment.start.OnLattice unit ∧ segment.stop.OnLattice unit where
  short _ ends := WireSegment.start_eq_stop_of_isShort coarse ends.1 ends.2
  joined _ _ firstEnds secondEnds _ _ := ⟨firstEnds.1, secondEnds.2⟩

/-- The straight path leads from start to stop; between points that are joined there is none. -/
theorem connects_straight (coarse : WireSegment.joinTolerance < unit)
    (startOn : start.OnLattice unit) (stopOn : stop.OnLattice unit) :
    Connects start stop (straight start stop) := by
  unfold straight
  split
  case isTrue joined =>
    simp only [Point.near, Scalar.within, Exact.magnitude_eq_abs, Bool.and_eq_true,
      decide_eq_true_iff] at joined
    exact Point.ext (Exact.eq_of_abs_sub_lt startOn.x stopOn.x (joined.1.trans_lt coarse))
      (Exact.eq_of_abs_sub_lt startOn.y stopOn.y (joined.2.trans_lt coarse))
  case isFalse => exact ⟨rfl, rfl⟩

/-- A path that is found leads from start to stop without a gap, whichever way it is drawn. -/
theorem connects_of_find (coarse : WireSegment.joinTolerance < unit)
    (offset : detourOffset ∈ AddSubgroup.zmultiples unit)
    (edges : ∀ obstacle ∈ obstacles, obstacle.OnLattice unit) (startOn : start.OnLattice unit)
    (stopOn : stop.OnLattice unit) {strategy : RoutingStrategy} {startAngle stopAngle : Option ℝ}
    {path : List (WireSegment ℝ)}
    (found : find obstacles ignored strategy start stop startAngle stopAngle = .ok path) :
    Connects start stop path := by
  have bentFits := fits_bent coarse startOn stopOn startAngle stopAngle
  cases strategy with
  | direct =>
      obtain rfl := Except.ok.inj found
      refine ((survivesMerging_onLattice coarse).merge ?_
        (connects_straight coarse startOn stopOn)).1
      intro segment member
      unfold straight at member
      split at member
      · cases member
      · rw [List.mem_singleton.mp member]
        exact ⟨startOn, stopOn⟩
  | manhattan =>
      obtain rfl := Except.ok.inj found
      exact ((survivesMerging_fits coarse).merge bentFits.segments bentFits.connects).1
  | optimized =>
      obtain ⟨clear, avoided, rfl⟩ := exists_avoid?_of_find found
      obtain ⟨clearFits, -⟩ := bentFits.avoid? coarse offset edges avoided
      exact ((survivesMerging_fits coarse).merge clearFits.segments clearFits.connects).1

/-- A path is given up when it is to take detours and they do not help; it is straight then. -/
theorem find_eq_error_iff {K : Type} [Scalar K] {obstacles : List (Obstacle K)}
    {strategy : RoutingStrategy} {start stop : Point K} {startAngle stopAngle : Option K}
    {path : List (WireSegment K)} :
    find obstacles ignored strategy start stop startAngle stopAngle = .error path ↔
      (strategy = .optimized ∧
        avoid? obstacles ignored maxDetours (bent start stop startAngle stopAngle) = none) ∧
      path = [WireSegment.between start stop] := by
  cases strategy with
  | direct => simp [find]
  | manhattan => simp [find]
  | optimized =>
      simp only [find, true_and]
      cases avoid? obstacles ignored maxDetours (bent start stop startAngle stopAngle) <;>
        simp [eq_comm]

end Path

/-! ## Nets -/

namespace Router

section

variable {K : Type} [Scalar K]

/-- Detours are to be taken between two pins and do not help. -/
def givesUp (router : Router K) (strategy : RoutingStrategy) (hub pin : PlacedPin K) : Bool :=
  strategy == .optimized &&
    (Path.avoid? router.obstacles [hub.entity, pin.entity] Path.maxDetours
      (Path.bent hub.connectionPoint pin.connectionPoint (some hub.absoluteAngle)
        (some pin.absoluteAngle))).isNone

/-- The failure of the branch between two pins. -/
def failureOf (netName : String) (hub pin : PlacedPin K) : RoutingFailure K :=
  ⟨netName, hub.connectionPoint, pin.connectionPoint, Path.maxDetours⟩

/-- A branch is a path that is found, or one segment and a failure. -/
theorem branch_cases (router : Router K) (netName : String) (strategy : RoutingStrategy)
    (hub pin : PlacedPin K) :
    (router.givesUp strategy hub pin = true ∧
      router.branch netName strategy hub pin =
        ([WireSegment.between hub.connectionPoint pin.connectionPoint],
          some (failureOf netName hub pin))) ∨
    (router.givesUp strategy hub pin = false ∧
      ∃ path, Path.find router.obstacles [hub.entity, pin.entity] strategy hub.connectionPoint
          pin.connectionPoint (some hub.absoluteAngle) (some pin.absoluteAngle) = .ok path ∧
        router.branch netName strategy hub pin = (path, none)) := by
  unfold branch givesUp
  dsimp only
  cases found : Path.find router.obstacles [hub.entity, pin.entity] strategy hub.connectionPoint
      pin.connectionPoint (some hub.absoluteAngle) (some pin.absoluteAngle) with
  | ok path =>
      right
      refine ⟨?_, path, rfl, rfl⟩
      rw [Bool.eq_false_iff]
      intro gaveUp
      rw [Bool.and_eq_true, beq_iff_eq, Option.isNone_iff_eq_none] at gaveUp
      rw [Path.find_eq_error_iff.mpr ⟨gaveUp, rfl⟩] at found
      cases found
  | error path =>
      obtain ⟨⟨rfl, helpless⟩, rfl⟩ := Path.find_eq_error_iff.mp found
      exact .inl ⟨by rw [helpless]; rfl, rfl⟩

/-- The failures of a star are those of its given up branches, in order. -/
theorem filterMap_branch (router : Router K) (netName : String) (strategy : RoutingStrategy)
    (hub : PlacedPin K) (others : List (PlacedPin K)) :
    (others.map (router.branch netName strategy hub)).filterMap (·.2) =
      (others.filter (router.givesUp strategy hub)).map (failureOf netName hub) := by
  induction others with
  | nil => rfl
  | cons pin rest inductionHypothesis =>
      rw [List.map_cons, List.filterMap_cons, List.filter_cons, inductionHypothesis]
      rcases router.branch_cases netName strategy hub pin with
        ⟨gaveUp, drawn⟩ | ⟨found, path, -, drawn⟩
      · rw [drawn, gaveUp]
        rfl
      · rw [drawn, found]
        rfl

/-- A star of two pins is the branch between them. -/
theorem star_pair (router : Router K) (netName : String) (source target : PlacedPin K)
    (strategy : RoutingStrategy) (priority : ℕ) :
    router.star netName [source, target] strategy priority =
      (⟨netName, (router.branch netName strategy source target).1, [source.key, target.key],
        priority⟩, (router.branch netName strategy source target).2.toList) := by
  unfold star
  cases failure : (router.branch netName strategy source target).2 <;> simp [failure]

end

/-- The branches of a net lead from its first pin to each of the others in turn. One that is given
up is a single segment, and there is a failure for each of these. -/
def JoinsPins (router : Router ℝ) (netName : String) (strategy : RoutingStrategy) :
    List (PlacedPin ℝ) → List (List (WireSegment ℝ)) → List (RoutingFailure ℝ) → Prop
  | [], branches, failures => branches = [] ∧ failures = []
  | hub :: others, branches, failures =>
      List.Forall₂
        (fun pin branch =>
          Path.Connects hub.connectionPoint pin.connectionPoint branch ∧
            (router.givesUp strategy hub pin = true →
              branch = [WireSegment.between hub.connectionPoint pin.connectionPoint]))
        others branches ∧
      failures = (others.filter (router.givesUp strategy hub)).map (failureOf netName hub)

/-- Every branch of a star leads to its pin. -/
theorem joinsPins_star {unit : ℝ} (coarse : WireSegment.joinTolerance < unit)
    (offset : Path.detourOffset ∈ AddSubgroup.zmultiples unit) {router : Router ℝ}
    (edges : ∀ obstacle ∈ router.obstacles, obstacle.OnLattice unit) {pins : List (PlacedPin ℝ)}
    (places : ∀ pin ∈ pins, pin.connectionPoint.OnLattice unit) (netName : String)
    (strategy : RoutingStrategy) (priority : ℕ) :
    ∃ branches,
      (router.star netName pins strategy priority).1 =
        ⟨netName, branches.flatten, pins.map (·.key), priority⟩ ∧
      router.JoinsPins netName strategy pins branches
        (router.star netName pins strategy priority).2 := by
  cases pins with
  | nil => exact ⟨[], rfl, rfl, rfl⟩
  | cons hub others =>
      obtain ⟨hubPlace, otherPlaces⟩ := List.forall_mem_cons.mp places
      refine ⟨(others.map (router.branch netName strategy hub)).map (·.1), ?_, ?_,
        router.filterMap_branch netName strategy hub others⟩
      · rw [star, List.flatMap_def]
      · rw [List.map_map, List.forall₂_map_right_iff, List.forall₂_same]
        intro pin member
        rw [Function.comp_apply]
        rcases router.branch_cases netName strategy hub pin with
          ⟨-, drawn⟩ | ⟨notGivenUp, path, found, drawn⟩
        · rw [drawn]
          exact ⟨⟨rfl, rfl⟩, fun _ => rfl⟩
        · rw [drawn, notGivenUp]
          exact ⟨Path.connects_of_find coarse offset edges hubPlace (otherPlaces pin member) found,
            nofun⟩

/-- The route of a net joins all of its pins: where the pins, the edges of obstacles and the offset
of detours lie on a lattice coarser than the tolerance of joints, its segments are those of one
branch for each pin after the first, which leads to it from the first pin without a gap. A failure
stands for each branch that was given up and drawn straight, in order. The route is kept behind the
earlier ones, and nothing else changes. A net of two pins is drawn as their connection is. -/
theorem routeNet_joinsPins :
    (∀ (unit : ℝ) (router : Router ℝ) (netName : String) (pins : List (PlacedPin ℝ))
      (strategy : RoutingStrategy) (priority : ℕ),
      WireSegment.joinTolerance < unit → Path.detourOffset ∈ AddSubgroup.zmultiples unit →
      (∀ obstacle ∈ router.obstacles, obstacle.OnLattice unit) →
      (∀ pin ∈ pins, pin.connectionPoint.OnLattice unit) →
        let drawn := router.routeNet netName pins strategy priority
        let route := drawn.1.1
        (∃ branches, route = ⟨netName, branches.flatten, pins.map (·.key), priority⟩ ∧
          router.JoinsPins netName strategy pins branches drawn.1.2) ∧
        drawn.2 = { router with routes := router.routes ++ [route] }) ∧
    ∀ {K : Type} [Scalar K] (router : Router K) (netName : String) (source target : PlacedPin K)
      (strategy : RoutingStrategy) (priority : ℕ),
      let drawn := router.routeNet netName [source, target] strategy priority
      let connection := router.routeConnection netName source target strategy priority
      connection.1.1 = drawn.1.1 ∧ connection.1.2.toList = drawn.1.2 ∧
        connection.2 = drawn.2 := by
  refine ⟨?_, ?_⟩
  · intro unit router netName pins strategy priority coarse offset edges places
    exact ⟨joinsPins_star coarse offset edges places netName strategy priority, rfl⟩
  · intro K _ router netName source target strategy priority
    rw [routeNet, star_pair]
    exact ⟨rfl, rfl, rfl⟩

/-- The pin of a rail at a place. -/
noncomputable def railPin (entity : String) (x y : ℤ) : PlacedPin ℝ :=
  ⟨entity, Pin.ofRail "VCC", ⟨x, y⟩, 0⟩

/-- The pin of a rail has no stub, so it is met where it stands. -/
theorem connectionPoint_railPin (entity : String) (x y : ℤ) :
    (railPin entity x y).connectionPoint = ⟨x, y⟩ := by
  have rounded (value : ℤ) : (Scalar.roundTo 1e6 (value : ℝ)) = value := by
    have scaled : (value : ℝ) * 1e6 = ((value * 1000000 : ℤ) : ℝ) := by
      push_cast
      norm_num
    change (Exact.nearest ((value : ℝ) * 1e6) : ℝ) / 1e6 = value
    rw [scaled, Exact.nearest_intCast, ← scaled]
    exact mul_div_cancel_right₀ _ (by norm_num)
  have zero : (0.0 : ℝ) = 0 := by norm_num
  simp only [PlacedPin.connectionPoint, railPin, Pin.ofRail, Point.origin, zero, zero_mul,
    sub_zero, add_zero, rounded]

/-- A body in the way of the first branch, and one that holds the first pin. -/
noncomputable def sampleRouter : Router ℝ :=
  ⟨Path.sampleObstacles, []⟩

/-- A pin inside a body, one behind the other body, and one apart. -/
noncomputable def samplePins : List (PlacedPin ℝ) :=
  [railPin "R1" 0 0, railPin "V2" 60 0, railPin "V3" 0 40]

theorem routeNet_joinsPins_sample :
    WireSegment.joinTolerance < (0.02 : ℝ) ∧
    Path.detourOffset ∈ AddSubgroup.zmultiples (0.02 : ℝ) ∧
    (∀ obstacle ∈ sampleRouter.obstacles, obstacle.OnLattice 0.02) ∧
    (∀ pin ∈ samplePins, pin.connectionPoint.OnLattice 0.02) ∧
    ∃ branches failures,
      sampleRouter.JoinsPins "VCC" .optimized samplePins branches failures ∧
      sampleRouter.routeNet "VCC" samplePins .optimized 2 =
        ((⟨"VCC", branches.flatten, ["R1.1", "V2.1", "V3.1"], 2⟩, failures),
          ⟨Path.sampleObstacles, [⟨"VCC", branches.flatten, ["R1.1", "V2.1", "V3.1"], 2⟩]⟩) := by
  have places : ∀ pin ∈ samplePins, pin.connectionPoint.OnLattice 0.02 := by
    have place (entity : String) (x y : ℤ) :
        (railPin entity x y).connectionPoint.OnLattice 0.02 := by
      rw [connectionPoint_railPin]
      exact ⟨Path.intCast_mem_fiftieths x, Path.intCast_mem_fiftieths y⟩
    exact List.forall_mem_cons.mpr ⟨place "R1" 0 0, List.forall_mem_cons.mpr
      ⟨place "V2" 60 0, List.forall_mem_singleton.mpr (place "V3" 0 40)⟩⟩
  obtain ⟨⟨branches, route, joined⟩, kept⟩ :=
    routeNet_joinsPins.1 0.02 sampleRouter "VCC" samplePins .optimized 2
      Path.joinTolerance_lt_fiftieth Path.detourOffset_mem_fiftieths
      Path.onLattice_sampleObstacles places
  refine ⟨Path.joinTolerance_lt_fiftieth, Path.detourOffset_mem_fiftieths,
    Path.onLattice_sampleObstacles, places, branches, _, joined, ?_⟩
  exact Prod.ext (Prod.ext route rfl) (by rw [kept, route]; rfl)

end Router
end CircuitSheet
