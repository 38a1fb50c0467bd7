import CircuitSheet.Proofs.Exact.Lattice
import CircuitSheet.Proofs.Wire.Unbroken

/-!
# Detours

On a coarse lattice that holds the ends of a path, the edges of obstacles and the offset of
detours, every path is unbroken and keeps to the axes, however many detours it takes.
-/

namespace CircuitSheet

/-! ## Steps -/

namespace Path

section Steps

variable {K : Type} [Scalar K] {obstacles : List (Obstacle K)} {ignored : List String}
  {path next : List (WireSegment K)}

/-- There is no detour to take exactly when nothing is in the way of any segment. -/
theorem detourFirst?_eq_none_iff :
    detourFirst? obstacles ignored path = none ↔
      ∀ segment ∈ path, Obstacle.firstBlocking? obstacles ignored segment = none := by
  induction path with
  | nil => simp [detourFirst?]
  | cons segment rest inductionHypothesis =>
      rw [detourFirst?, List.forall_mem_cons, ← inductionHypothesis]
      cases Obstacle.firstBlocking? obstacles ignored segment <;> simp

theorem avoid?_of_clear (clear : detourFirst? obstacles ignored path = none) (budget : ℕ) :
    avoid? obstacles ignored budget path = some path := by
  cases budget <;> simp [avoid?, clear]

theorem avoid?_succ (blocked : detourFirst? obstacles ignored path = some next) (budget : ℕ) :
    avoid? obstacles ignored (budget + 1) path =
      avoid? obstacles ignored budget (next.filter (·.isLong)) := by
  simp [avoid?, blocked]

end Steps

end Path

/-! ## Paths on a lattice -/

/-- All edges are multiples of a unit. -/
structure Obstacle.OnLattice (unit : ℝ) (obstacle : Obstacle ℝ) : Prop where
  minX : obstacle.minX ∈ AddSubgroup.zmultiples unit
  minY : obstacle.minY ∈ AddSubgroup.zmultiples unit
  maxX : obstacle.maxX ∈ AddSubgroup.zmultiples unit
  maxY : obstacle.maxY ∈ AddSubgroup.zmultiples unit

namespace Path

/-- An unbroken path of segments that keep to their axes between points of a lattice. -/
structure Fits (unit : ℝ) (start stop : Point ℝ) (path : List (WireSegment ℝ)) : Prop where
  connects : Connects start stop path
  segments : ∀ segment ∈ path, segment.Fits unit

variable {unit : ℝ} {start middle stop : Point ℝ} {first second path : List (WireSegment ℝ)}

theorem Fits.append (firstFits : Fits unit start middle first)
    (secondFits : Fits unit middle stop second) : Fits unit start stop (first ++ second) :=
  ⟨connects_append firstFits.connects secondFits.connects,
    List.forall_mem_append.mpr ⟨firstFits.segments, secondFits.segments⟩⟩

theorem fits_singleton {segment : WireSegment ℝ} (fits : segment.Fits unit) :
    Fits unit segment.start segment.stop [segment] :=
  ⟨⟨rfl, rfl⟩, List.forall_mem_singleton.mpr fits⟩

theorem fits_horizontal (startOn : start.OnLattice unit) (stopOn : stop.OnLattice unit)
    (level : start.y = stop.y) : Fits unit start stop [⟨start, stop, .horizontal⟩] :=
  ⟨⟨rfl, rfl⟩, List.forall_mem_singleton.mpr ⟨level, startOn, stopOn⟩⟩

theorem fits_vertical (startOn : start.OnLattice unit) (stopOn : stop.OnLattice unit)
    (upright : start.x = stop.x) : Fits unit start stop [⟨start, stop, .vertical⟩] :=
  ⟨⟨rfl, rfl⟩, List.forall_mem_singleton.mpr ⟨upright, startOn, stopOn⟩⟩

/-- The path with one bend fits a coarse lattice that holds its ends. -/
theorem fits_bent (coarse : WireSegment.joinTolerance < unit) (startOn : start.OnLattice unit)
    (stopOn : stop.OnLattice unit) (startAngle stopAngle : Option ℝ) :
    Fits unit start stop (bent start stop startAngle stopAngle) := by
  have equal {first second : ℝ} (firstMultiple : first ∈ AddSubgroup.zmultiples unit)
      (secondMultiple : second ∈ AddSubgroup.zmultiples unit)
      (close : decide (Scalar.magnitude (second - first) ≤ WireSegment.joinTolerance) = true) :
      first = second := by
    rw [decide_eq_true_iff, Exact.magnitude_eq_abs] at close
    exact (Exact.eq_of_abs_sub_lt secondMultiple firstMultiple (close.trans_lt coarse)).symm
  have sameX := equal startOn.x stopOn.x
  have sameY := equal startOn.y stopOn.y
  have corner : Point.OnLattice unit ⟨stop.x, start.y⟩ := ⟨stopOn.x, startOn.y⟩
  have otherCorner : Point.OnLattice unit ⟨start.x, stop.y⟩ := ⟨startOn.x, stopOn.y⟩
  simp only [bent]
  split_ifs with joined level upright sideways
  · rw [Bool.and_eq_true] at joined
    exact ⟨Point.ext (sameX joined.1) (sameY joined.2), by simp⟩
  · exact fits_horizontal startOn stopOn (sameY level)
  · exact fits_vertical startOn stopOn (sameX upright)
  · exact (fits_horizontal startOn corner rfl).append (fits_vertical corner stopOn rfl)
  · exact (fits_vertical startOn otherCorner rfl).append (fits_horizontal otherCorner stopOn rfl)

/-- Going round a segment at a level of the lattice. -/
theorem fits_bypass {segment : WireSegment ℝ} (fits : segment.Fits unit) {level : ℝ}
    (multiple : level ∈ AddSubgroup.zmultiples unit) :
    Fits unit segment.start segment.stop (bypass segment level) := by
  obtain ⟨-, startOn, stopOn⟩ := fits
  unfold bypass
  split
  · have leave : Point.OnLattice unit ⟨segment.start.x, level⟩ := ⟨startOn.x, multiple⟩
    have meet : Point.OnLattice unit ⟨segment.stop.x, level⟩ := ⟨stopOn.x, multiple⟩
    exact (fits_vertical startOn leave rfl).append
      ((fits_horizontal leave meet rfl).append (fits_vertical meet stopOn rfl))
  · have leave : Point.OnLattice unit ⟨level, segment.start.y⟩ := ⟨multiple, startOn.y⟩
    have meet : Point.OnLattice unit ⟨level, segment.stop.y⟩ := ⟨multiple, stopOn.y⟩
    exact (fits_horizontal startOn leave rfl).append
      ((fits_vertical leave meet rfl).append (fits_horizontal meet stopOn rfl))

/-- The levels on either side of an obstacle lie on the lattice. -/
theorem bypassLevels_mem_zmultiples (offset : detourOffset ∈ AddSubgroup.zmultiples unit)
    (segment : WireSegment ℝ) {obstacle : Obstacle ℝ} (edges : obstacle.OnLattice unit) :
    (bypassLevels segment obstacle).1 ∈ AddSubgroup.zmultiples unit ∧
      (bypassLevels segment obstacle).2 ∈ AddSubgroup.zmultiples unit := by
  have left := sub_mem edges.minX offset
  have right := add_mem edges.maxX offset
  have below := sub_mem edges.minY offset
  have above := add_mem edges.maxY offset
  unfold bypassLevels
  cases segment.orientation <;> dsimp only <;> split <;> exact ⟨‹_›, ‹_›⟩

variable {obstacles : List (Obstacle ℝ)} {ignored : List String}

theorem fits_detour (offset : detourOffset ∈ AddSubgroup.zmultiples unit)
    {segment : WireSegment ℝ} (fits : segment.Fits unit) {obstacle : Obstacle ℝ}
    (edges : obstacle.OnLattice unit) :
    Fits unit segment.start segment.stop (detour obstacles ignored segment obstacle) := by
  obtain ⟨nearer, farther⟩ := bypassLevels_mem_zmultiples offset segment edges
  unfold detour
  refine fits_bypass fits ?_
  dsimp only
  split_ifs <;> assumption

/-- One detour leads to a path that fits again. -/
theorem Fits.detourFirst? (fits : Fits unit start stop path)
    (offset : detourOffset ∈ AddSubgroup.zmultiples unit)
    (edges : ∀ obstacle ∈ obstacles, obstacle.OnLattice unit) {next : List (WireSegment ℝ)}
    (stepped : Path.detourFirst? obstacles ignored path = some next) :
    Fits unit start stop next := by
  induction path generalizing start next with
  | nil => cases stepped
  | cons segment rest inductionHypothesis =>
      obtain ⟨⟨rfl, restConnects⟩, segmentsFit⟩ := fits
      obtain ⟨segmentFits, restFits⟩ := List.forall_mem_cons.mp segmentsFit
      unfold Path.detourFirst? at stepped
      split at stepped
      · next obstacle blocking =>
          obtain rfl := Option.some.inj stepped
          have member := List.mem_of_find?_eq_some blocking
          exact (fits_detour offset segmentFits (edges obstacle member)).append
            ⟨restConnects, restFits⟩
      · obtain ⟨tail, tailStepped, rfl⟩ := Option.map_eq_some_iff.mp stepped
        exact (fits_singleton segmentFits).append
          (inductionHypothesis ⟨restConnects, restFits⟩ tailStepped)

theorem Fits.filter_isLong (fits : Fits unit start stop path)
    (coarse : WireSegment.joinTolerance < unit) :
    Fits unit start stop (path.filter (·.isLong)) := by
  refine ⟨connects_filter fits.connects ?_, ?_⟩
  · intro segment member dropped
    refine (fits.segments segment member).start_eq_stop coarse ?_
    simpa [WireSegment.isLong, WireSegment.isShort] using dropped
  · intro segment member
    exact fits.segments segment (List.mem_of_mem_filter member)

/-- A path that comes clear within a budget of detours fits, and nothing is in its way. -/
theorem Fits.avoid? (fits : Fits unit start stop path)
    (coarse : WireSegment.joinTolerance < unit)
    (offset : detourOffset ∈ AddSubgroup.zmultiples unit)
    (edges : ∀ obstacle ∈ obstacles, obstacle.OnLattice unit) {budget : ℕ}
    {clear : List (WireSegment ℝ)}
    (avoided : Path.avoid? obstacles ignored budget path = some clear) :
    Fits unit start stop clear ∧
      ∀ segment ∈ clear, Obstacle.firstBlocking? obstacles ignored segment = none := by
  fun_induction Path.avoid? obstacles ignored budget path with
  | case1 budget path unblocked =>
      obtain rfl := Option.some.inj avoided
      exact ⟨fits, detourFirst?_eq_none_iff.mp unblocked⟩
  | case2 path next blocked => cases avoided
  | case3 path next more blocked inductionHypothesis =>
      have nextFits := fits.detourFirst? offset edges blocked
      exact inductionHypothesis (nextFits.filter_isLong coarse) avoided

end Path
end CircuitSheet
