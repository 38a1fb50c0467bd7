import CircuitSheet.Proofs.Wire.Detours

/-!
# Clearance

A segment is clear of an obstacle when it lies on one side of it. Once no segment of a path is
blocked, none is after merging either: where a segment carries on or turns back on the one before
it, both lie on the same side of every obstacle with an inside.
-/

namespace CircuitSheet

namespace Obstacle

/-- The rectangle has an inside. -/
structure HasInside (obstacle : Obstacle ℝ) : Prop where
  width : obstacle.minX < obstacle.maxX
  height : obstacle.minY < obstacle.maxY

/-- A segment keeps clear of an obstacle when both of its ends lie on one side of it. -/
theorem blocks_eq_false_iff {obstacle : Obstacle ℝ} {segment : WireSegment ℝ} :
    obstacle.blocks segment = false ↔
      (obstacle.maxX ≤ segment.start.x ∧ obstacle.maxX ≤ segment.stop.x) ∨
      (segment.start.x ≤ obstacle.minX ∧ segment.stop.x ≤ obstacle.minX) ∨
      (obstacle.maxY ≤ segment.start.y ∧ obstacle.maxY ≤ segment.stop.y) ∨
      (segment.start.y ≤ obstacle.minY ∧ segment.stop.y ≤ obstacle.minY) := by
  simp only [blocks, Exact.lesser_eq_min, Exact.greater_eq_max, Bool.and_eq_false_iff,
    decide_eq_false_iff_not, not_lt, le_min_iff, max_le_iff, or_assoc]

end Obstacle

namespace WireSegment

/-- No obstacle blocks the segment, apart from those of ignored owners. -/
def IsClear {K : Type} [Scalar K] (obstacles : List (Obstacle K)) (ignored : List String)
    (segment : WireSegment K) : Prop :=
  ∀ obstacle ∈ obstacles, obstacle.owner ∉ ignored → obstacle.blocks segment = false

theorem firstBlocking?_eq_none_iff {K : Type} [Scalar K] {obstacles : List (Obstacle K)}
    {ignored : List String} {segment : WireSegment K} :
    Obstacle.firstBlocking? obstacles ignored segment = none ↔
      segment.IsClear obstacles ignored := by
  simp [Obstacle.firstBlocking?, IsClear]

variable {first second : WireSegment ℝ}

/-- Two straight segments that follow one another along an axis make a straight one. -/
theorem IsStraight.joined (firstStraight : first.IsStraight) (secondStraight : second.IsStraight)
    (meets : first.stop = second.start) (sameOrientation : first.orientation = second.orientation) :
    IsStraight { first with stop := second.stop } := by
  cases axis : first.orientation with
  | horizontal =>
      rw [isStraight_of_horizontal axis, meets] at firstStraight
      rw [isStraight_of_horizontal (sameOrientation ▸ axis)] at secondStraight
      exact (isStraight_of_horizontal rfl).mpr (firstStraight.trans secondStraight)
  | vertical =>
      rw [isStraight_of_vertical axis, meets] at firstStraight
      rw [isStraight_of_vertical (sameOrientation ▸ axis)] at secondStraight
      exact (isStraight_of_vertical rfl).mpr (firstStraight.trans secondStraight)

/-- Two straight segments that follow one another along an axis and keep clear of an obstacle
do so when they are made one: on the axis both lie on the same side of it. -/
theorem IsStraight.joined_clear {obstacle : Obstacle ℝ} (inside : obstacle.HasInside)
    (firstStraight : first.IsStraight) (secondStraight : second.IsStraight)
    (meets : first.stop = second.start) (sameOrientation : first.orientation = second.orientation)
    (firstClear : obstacle.blocks first = false) (secondClear : obstacle.blocks second = false) :
    obstacle.blocks { first with stop := second.stop } = false := by
  obtain ⟨width, height⟩ := inside
  rw [Obstacle.blocks_eq_false_iff] at *
  rw [← meets] at secondClear
  cases axis : first.orientation with
  | horizontal =>
      rw [isStraight_of_horizontal axis] at firstStraight
      rw [isStraight_of_horizontal (sameOrientation ▸ axis), ← meets] at secondStraight
      grind
  | vertical =>
      rw [isStraight_of_vertical axis] at firstStraight
      rw [isStraight_of_vertical (sameOrientation ▸ axis), ← meets] at secondStraight
      grind

end WireSegment

/-! ## Merged paths -/

namespace Path

variable {unit : ℝ} {start stop : Point ℝ} {obstacles : List (Obstacle ℝ)}
  {ignored : List String}

theorem survivesMerging_fits (coarse : WireSegment.joinTolerance < unit) :
    WireSegment.SurvivesMerging (WireSegment.Fits unit) where
  short _ fits := fits.start_eq_stop coarse
  joined _ _ firstFits secondFits meets sameOrientation :=
    ⟨firstFits.straight.joined secondFits.straight meets sameOrientation, firstFits.start,
      secondFits.stop⟩

/-- Segments that fit and have nothing in their way survive merging. -/
theorem survivesMerging_clear (coarse : WireSegment.joinTolerance < unit)
    (inside : ∀ obstacle ∈ obstacles, obstacle.HasInside) :
    WireSegment.SurvivesMerging fun segment =>
      segment.Fits unit ∧ segment.IsClear obstacles ignored where
  short _ holds := holds.1.start_eq_stop coarse
  joined first second firstHolds secondHolds meets sameOrientation := by
    refine ⟨(survivesMerging_fits coarse).joined first second firstHolds.1 secondHolds.1 meets
      sameOrientation, ?_⟩
    intro obstacle member other
    exact firstHolds.1.straight.joined_clear (inside obstacle member) secondHolds.1.straight meets
      sameOrientation (firstHolds.2 obstacle member other) (secondHolds.2 obstacle member other)

/-- The bent path is found, without a gap and along the axes. -/
theorem find_manhattan (coarse : WireSegment.joinTolerance < unit) (startOn : start.OnLattice unit)
    (stopOn : stop.OnLattice unit) (startAngle stopAngle : Option ℝ) :
    ∃ path, find obstacles ignored .manhattan start stop startAngle stopAngle = .ok path ∧
      Connects start stop path ∧ ∀ segment ∈ path, segment.IsStraight := by
  have bentFits := fits_bent coarse startOn stopOn startAngle stopAngle
  obtain ⟨connects, segments⟩ :=
    (survivesMerging_fits coarse).merge bentFits.segments bentFits.connects
  exact ⟨_, rfl, connects, fun segment member => (segments segment member).straight⟩

/-- A path with detours that is found comes from one that is clear. -/
theorem exists_avoid?_of_find {K : Type} [Scalar K] {obstacles : List (Obstacle K)}
    {start stop : Point K} {startAngle stopAngle : Option K} {path : List (WireSegment K)}
    (found : find obstacles ignored .optimized start stop startAngle stopAngle = .ok path) :
    ∃ clear, avoid? obstacles ignored maxDetours (bent start stop startAngle stopAngle) =
      some clear ∧ path = WireSegment.merge clear := by
  unfold find at found
  dsimp only at found
  split at found
  · next clear avoided => exact ⟨clear, avoided, (Except.ok.inj found).symm⟩
  · cases found

/-- Where detours do not help, the error is the segment between the ends. -/
theorem eq_between_of_find {K : Type} [Scalar K] {obstacles : List (Obstacle K)}
    {start stop : Point K} {startAngle stopAngle : Option K} {path : List (WireSegment K)}
    (failed : find obstacles ignored .optimized start stop startAngle stopAngle = .error path) :
    path = [WireSegment.between start stop] := by
  unfold find at failed
  dsimp only at failed
  split at failed
  · cases failed
  · exact (Except.error.inj failed).symm

/-- The straight and the bent path are always found; where detours do not help, the error is the
segment between the ends. In exact arithmetic, where the ends of a path, the edges of obstacles
with an inside and the offset of detours lie on a lattice coarser than the tolerance of joints,
the bent path leads from start to stop without a gap, along the axes. With detours, a path that is
found does so too, and no obstacle blocks any of its merged segments, apart from those of ignored
owners. -/
theorem find_unbroken :
    (∀ {K : Type} [Scalar K] (obstacles : List (Obstacle K)) (ignored : List String)
      (start stop : Point K) (startAngle stopAngle : Option K),
      (∃ path, find obstacles ignored .direct start stop startAngle stopAngle = .ok path) ∧
      (∃ path, find obstacles ignored .manhattan start stop startAngle stopAngle = .ok path) ∧
      ∀ path, find obstacles ignored .optimized start stop startAngle stopAngle = .error path →
        path = [WireSegment.between start stop]) ∧
    ∀ (unit : ℝ) (obstacles : List (Obstacle ℝ)) (ignored : List String) (start stop : Point ℝ)
      (startAngle stopAngle : Option ℝ),
      WireSegment.joinTolerance < unit → detourOffset ∈ AddSubgroup.zmultiples unit →
      (∀ obstacle ∈ obstacles, obstacle.HasInside ∧ obstacle.OnLattice unit) →
      start.OnLattice unit → stop.OnLattice unit →
      (∃ path, find obstacles ignored .manhattan start stop startAngle stopAngle = .ok path ∧
        Connects start stop path ∧ ∀ segment ∈ path, segment.IsStraight) ∧
      ∀ path, find obstacles ignored .optimized start stop startAngle stopAngle = .ok path →
        Connects start stop path ∧
          ∀ segment ∈ path, segment.IsStraight ∧ segment.IsClear obstacles ignored := by
  refine ⟨?_, ?_⟩
  · intro K _ obstacles ignored start stop startAngle stopAngle
    exact ⟨⟨_, rfl⟩, ⟨_, rfl⟩, fun path failed => eq_between_of_find failed⟩
  · intro unit obstacles ignored start stop startAngle stopAngle coarse offset lawful startOn stopOn
    refine ⟨find_manhattan coarse startOn stopOn startAngle stopAngle, ?_⟩
    intro path found
    obtain ⟨clear, avoided, rfl⟩ := exists_avoid?_of_find found
    have bentFits := fits_bent coarse startOn stopOn startAngle stopAngle
    obtain ⟨clearFits, unblocked⟩ :=
      bentFits.avoid? coarse offset (fun obstacle member => (lawful obstacle member).2) avoided
    have clearHolds : ∀ segment ∈ clear,
        segment.Fits unit ∧ segment.IsClear obstacles ignored :=
      fun segment member => ⟨clearFits.segments segment member,
        WireSegment.firstBlocking?_eq_none_iff.mp (unblocked segment member)⟩
    obtain ⟨connects, segments⟩ :=
      (survivesMerging_clear coarse fun obstacle member => (lawful obstacle member).1).merge
        clearHolds clearFits.connects
    exact ⟨connects, fun segment member =>
      ⟨(segments segment member).1.straight, (segments segment member).2⟩⟩

/-- Two bodies in the way. -/
noncomputable def sampleObstacles : List (Obstacle ℝ) :=
  [⟨-5.0, -5.0, 5.0, 5.0, "R1"⟩, ⟨20.0, -10.0, 40.0, 10.0, "U1"⟩]

/-- The path around the second body, on its low side. -/
noncomputable def sampleDetour : List (WireSegment ℝ) :=
  [⟨⟨0, 0⟩, ⟨0, -12.54⟩, .vertical⟩, ⟨⟨0, -12.54⟩, ⟨60.0, -12.54⟩, .horizontal⟩,
    ⟨⟨60.0, -12.54⟩, ⟨60.0, 0⟩, .vertical⟩]

/-- A path that may cross the first body goes round the second one. -/
theorem find_sampleDetour :
    find sampleObstacles ["R1"] .optimized ⟨0, 0⟩ ⟨60, 0⟩ (some 0) none = .ok sampleDetour := by
  have level : bent (⟨0, 0⟩ : Point ℝ) ⟨60, 0⟩ (some 0) none =
      [⟨⟨0, 0⟩, ⟨60, 0⟩, .horizontal⟩] := by
    simp [bent, WireSegment.joinTolerance]
    norm_num
  have blocked : detourFirst? sampleObstacles ["R1"] [⟨⟨0, 0⟩, ⟨60, 0⟩, .horizontal⟩] =
      some sampleDetour := by
    simp [detourFirst?, sampleObstacles, sampleDetour, Obstacle.firstBlocking?,
      Obstacle.blocks, detour, bypassLevels, bypassMiddle, bypass, detourOffset]
    norm_num
  have long : sampleDetour.filter (·.isLong) = sampleDetour := by
    simp [sampleDetour, WireSegment.isLong, WireSegment.length, WireSegment.joinTolerance,
      Exact.distance_eq]
    norm_num
  have clear : detourFirst? sampleObstacles ["R1"] sampleDetour = none := by
    simp [detourFirst?, sampleObstacles, sampleDetour, Obstacle.firstBlocking?, Obstacle.blocks]
    norm_num
  have merged : WireSegment.merge sampleDetour = sampleDetour := by
    simp [sampleDetour, WireSegment.merge, WireSegment.mergeOnto, WireSegment.continues,
      WireSegment.isShort, WireSegment.length, WireSegment.joinTolerance, Exact.distance_eq]
    norm_num
  unfold find
  dsimp only
  rw [level, maxDetours, avoid?_succ blocked, long, avoid?_of_clear clear]
  dsimp only
  rw [merged]

theorem intCast_mem_fiftieths (value : ℤ) : (value : ℝ) ∈ AddSubgroup.zmultiples (0.02 : ℝ) := by
  refine AddSubgroup.mem_zmultiples_iff.mpr ⟨50 * value, ?_⟩
  rw [zsmul_eq_mul]
  push_cast
  ring

/-- The offset of detours is a whole number of fiftieths, so they keep to that lattice. -/
theorem detourOffset_mem_fiftieths :
    detourOffset ∈ AddSubgroup.zmultiples (0.02 : ℝ) := by
  refine AddSubgroup.mem_zmultiples_iff.mpr ⟨127, ?_⟩
  norm_num [detourOffset]

theorem joinTolerance_lt_fiftieth : WireSegment.joinTolerance < (0.02 : ℝ) := by
  norm_num [WireSegment.joinTolerance]

theorem onLattice_sampleObstacles : ∀ obstacle ∈ sampleObstacles, obstacle.OnLattice 0.02 := by
  have whole {edge : ℝ} (value : ℤ) (same : edge = value) :
      edge ∈ AddSubgroup.zmultiples (0.02 : ℝ) :=
    same ▸ intCast_mem_fiftieths value
  refine List.forall_mem_cons.mpr ⟨?_, List.forall_mem_singleton.mpr ?_⟩
  · exact ⟨whole (-5) (by norm_num), whole (-5) (by norm_num), whole 5 (by norm_num),
      whole 5 (by norm_num)⟩
  · exact ⟨whole 20 (by norm_num), whole (-10) (by norm_num), whole 40 (by norm_num),
      whole 10 (by norm_num)⟩

theorem find_unbroken_sample :
    (WireSegment.joinTolerance < (0.02 : ℝ) ∧ detourOffset ∈ AddSubgroup.zmultiples (0.02 : ℝ) ∧
      (∀ obstacle ∈ sampleObstacles, obstacle.HasInside ∧ obstacle.OnLattice 0.02) ∧
      Point.OnLattice 0.02 ⟨0, 0⟩ ∧ Point.OnLattice 0.02 ⟨60, 0⟩) ∧
    find sampleObstacles ["R1"] .optimized ⟨0, 0⟩ ⟨60, 0⟩ (some 0) none = .ok sampleDetour ∧
    Connects ⟨0, 0⟩ ⟨60, 0⟩ sampleDetour ∧
    ∀ segment ∈ sampleDetour,
      segment.IsStraight ∧ segment.IsClear sampleObstacles ["R1"] := by
  have startOn : Point.OnLattice 0.02 ⟨0, 0⟩ := ⟨zero_mem _, zero_mem _⟩
  have stopOn : Point.OnLattice 0.02 ⟨60, 0⟩ :=
    ⟨by exact_mod_cast intCast_mem_fiftieths 60, zero_mem _⟩
  have inside : ∀ obstacle ∈ sampleObstacles, obstacle.HasInside := by
    refine List.forall_mem_cons.mpr ⟨⟨?_, ?_⟩, List.forall_mem_singleton.mpr ⟨?_, ?_⟩⟩ <;>
      norm_num
  have lawful : ∀ obstacle ∈ sampleObstacles, obstacle.HasInside ∧ obstacle.OnLattice 0.02 :=
    fun obstacle member => ⟨inside obstacle member, onLattice_sampleObstacles obstacle member⟩
  exact ⟨⟨joinTolerance_lt_fiftieth, detourOffset_mem_fiftieths, lawful, startOn, stopOn⟩,
    find_sampleDetour,
    (find_unbroken.2 0.02 sampleObstacles ["R1"] ⟨0, 0⟩ ⟨60, 0⟩ (some 0) none
      joinTolerance_lt_fiftieth detourOffset_mem_fiftieths lawful startOn stopOn).2
      sampleDetour find_sampleDetour⟩

end Path
end CircuitSheet
