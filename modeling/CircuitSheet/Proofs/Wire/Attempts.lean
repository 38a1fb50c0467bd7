import CircuitSheet.Binary64
import CircuitSheet.Proofs.Wire.Star

/-!
# How many detours are taken

A path takes detours one after the other. Each goes round the first obstacle in the way of the first
segment that has one in its way, on the nearer side unless only the other side is clear, and then
pieces that are too short are left out. The path that is drawn is the first one that is clear, if no
more than sixteen detours lead to it; if after sixteen detours something is still in the way, the
connection is drawn straight and the failure tells so.
-/

namespace CircuitSheet

/-! ## One detour -/

/-- The obstacle is in the way of a segment, and none of those before it is. -/
def Obstacle.StandsFirst {K : Type} [Scalar K] (obstacles : List (Obstacle K))
    (ignored : List String) (segment : WireSegment K) (obstacle : Obstacle K) : Prop :=
  obstacle.owner ∉ ignored ∧ obstacle.blocks segment = true ∧
    ∃ earlier later, obstacles = earlier ++ obstacle :: later ∧ segment.IsClear earlier ignored

theorem Obstacle.firstBlocking?_eq_some_iff {K : Type} [Scalar K] {obstacles : List (Obstacle K)}
    {ignored : List String} {segment : WireSegment K} {obstacle : Obstacle K} :
    firstBlocking? obstacles ignored segment = some obstacle ↔
      StandsFirst obstacles ignored segment obstacle := by
  simp [firstBlocking?, List.find?_eq_some_iff_append, StandsFirst, WireSegment.IsClear, and_assoc,
    or_iff_not_imp_left]

namespace Path

section Detour

variable {K : Type} [Scalar K]

/-- The height of a horizontal segment and the column of a vertical one. -/
def lineOf (segment : WireSegment K) : K :=
  match segment.orientation with
  | .horizontal => segment.start.y
  | .vertical => segment.start.x

/-- The edge of an obstacle on the low side of a segment. -/
def lowEdge (segment : WireSegment K) (obstacle : Obstacle K) : K :=
  match segment.orientation with
  | .horizontal => obstacle.minY
  | .vertical => obstacle.minX

/-- The edge of an obstacle on the high side of a segment. -/
def highEdge (segment : WireSegment K) (obstacle : Obstacle K) : K :=
  match segment.orientation with
  | .horizontal => obstacle.maxY
  | .vertical => obstacle.maxX

/-- The way to the high side of an obstacle is shorter than the way to its low side. -/
def HighIsNearer (segment : WireSegment K) (obstacle : Obstacle K) : Prop :=
  Scalar.magnitude (highEdge segment obstacle + detourOffset - lineOf segment) <
    Scalar.magnitude (lineOf segment - (lowEdge segment obstacle - detourOffset))

/-- The levels on either side of an obstacle, the nearer one first. On a tie that is the one on the
low side. -/
inductive Levels (segment : WireSegment K) (obstacle : Obstacle K) : K → K → Prop
  | low (notHigh : ¬HighIsNearer segment obstacle) :
      Levels segment obstacle (lowEdge segment obstacle - detourOffset)
        (highEdge segment obstacle + detourOffset)
  | high (isHigh : HighIsNearer segment obstacle) :
      Levels segment obstacle (highEdge segment obstacle + detourOffset)
        (lowEdge segment obstacle - detourOffset)

/-- One goes round an obstacle at the nearer level, unless the middle piece is clear only at the
farther one. -/
inductive GoesRound (obstacles : List (Obstacle K)) (ignored : List String)
    (segment : WireSegment K) (obstacle : Obstacle K) : K → Prop
  | nearer {near far : K} (levels : Levels segment obstacle near far)
      (notOnlyFar : (bypassMiddle segment far).IsClear obstacles ignored →
        (bypassMiddle segment near).IsClear obstacles ignored) :
      GoesRound obstacles ignored segment obstacle near
  | farther {near far : K} (levels : Levels segment obstacle near far)
      (blocked : ¬(bypassMiddle segment near).IsClear obstacles ignored)
      (clear : (bypassMiddle segment far).IsClear obstacles ignored) :
      GoesRound obstacles ignored segment obstacle far

/-- Nothing is in the way of any segment. -/
def Clear (obstacles : List (Obstacle K)) (ignored : List String)
    (path : List (WireSegment K)) : Prop :=
  ∀ segment ∈ path, segment.IsClear obstacles ignored

/-- One detour: three segments go round the first obstacle in the way of the first segment that has
one in its way, and then only pieces that are longer than the tolerance are kept. -/
inductive DetourStep (obstacles : List (Obstacle K)) (ignored : List String) :
    List (WireSegment K) → List (WireSegment K) → Prop
  | around {before after : List (WireSegment K)} {segment : WireSegment K} {obstacle : Obstacle K}
      {level : K} (clear : Clear obstacles ignored before)
      (inWay : obstacle.StandsFirst obstacles ignored segment)
      (round : GoesRound obstacles ignored segment obstacle level) :
      DetourStep obstacles ignored (before ++ segment :: after)
        ((before ++ (bypass segment level ++ after)).filter (·.isLong))

variable {obstacles : List (Obstacle K)} {ignored : List String} {segment : WireSegment K}
  {obstacle : Obstacle K} {path next : List (WireSegment K)}

theorem levels_iff {near far : K} :
    Levels segment obstacle near far ↔ bypassLevels segment obstacle = (near, far) := by
  have levels : bypassLevels segment obstacle =
      if Scalar.magnitude (highEdge segment obstacle + detourOffset - lineOf segment) <
          Scalar.magnitude (lineOf segment - (lowEdge segment obstacle - detourOffset)) then
        (highEdge segment obstacle + detourOffset, lowEdge segment obstacle - detourOffset)
      else (lowEdge segment obstacle - detourOffset, highEdge segment obstacle + detourOffset) := by
    unfold bypassLevels lowEdge highEdge lineOf
    cases segment.orientation <;> rfl
  rw [levels]
  constructor
  · rintro (notHigh | isHigh)
    · exact if_neg notHigh
    · exact if_pos isHigh
  · split
    · next isHigh => rintro ⟨⟩; exact .high isHigh
    · next notHigh => rintro ⟨⟩; exact .low notHigh

/-- A detour goes round at such a level. -/
theorem GoesRound.detour_eq {level : K}
    (round : GoesRound obstacles ignored segment obstacle level) :
    detour obstacles ignored segment obstacle = bypass segment level := by
  have isClear (level : K) :
      (Obstacle.firstBlocking? obstacles ignored (bypassMiddle segment level)).isNone = true ↔
        (bypassMiddle segment level).IsClear obstacles ignored := by
    rw [Option.isNone_iff_eq_none, WireSegment.firstBlocking?_eq_none_iff]
  unfold detour
  cases round with
  | nearer levels notOnlyFar =>
      rw [levels_iff.mp levels]
      dsimp only
      split_ifs with nearClear farClear
      · rfl
      · exact absurd ((isClear _).mpr (notOnlyFar ((isClear _).mp farClear))) nearClear
      · rfl
  | farther levels blocked clear =>
      rw [levels_iff.mp levels]
      dsimp only
      rw [if_neg (mt (isClear _).mp blocked), if_pos ((isClear _).mpr clear)]

/-- There always is one. -/
theorem exists_goesRound (obstacles : List (Obstacle K)) (ignored : List String)
    (segment : WireSegment K) (obstacle : Obstacle K) :
    ∃ level, GoesRound obstacles ignored segment obstacle level := by
  have levels : Levels segment obstacle _ _ := levels_iff.mpr rfl
  by_cases onlyFar : ¬(bypassMiddle segment (bypassLevels segment obstacle).1).IsClear obstacles
      ignored ∧ (bypassMiddle segment (bypassLevels segment obstacle).2).IsClear obstacles ignored
  · exact ⟨_, .farther levels onlyFar.1 onlyFar.2⟩
  · exact ⟨_, .nearer levels fun clear => by_contra fun blocked => onlyFar ⟨blocked, clear⟩⟩

/-- There is no detour to take exactly when a path is clear. -/
theorem detourFirst?_eq_none_iff_clear :
    detourFirst? obstacles ignored path = none ↔ Clear obstacles ignored path := by
  simp only [detourFirst?_eq_none_iff, WireSegment.firstBlocking?_eq_none_iff, Clear]

/-- Segments that nothing is in the way of stay as they are. -/
theorem detourFirst?_append {before : List (WireSegment K)}
    (clear : Clear obstacles ignored before) (rest : List (WireSegment K)) :
    detourFirst? obstacles ignored (before ++ rest) =
      (detourFirst? obstacles ignored rest).map (before ++ ·) := by
  induction before with
  | nil => simp
  | cons segment before inductionHypothesis =>
      obtain ⟨segmentClear, beforeClear⟩ := List.forall_mem_cons.mp clear
      rw [List.cons_append, detourFirst?, WireSegment.firstBlocking?_eq_none_iff.mpr segmentClear]
      simp only [inductionHypothesis beforeClear, Option.map_map]
      rfl

theorem exists_split_of_detourFirst? {whole : List (WireSegment K)}
    (stepped : detourFirst? obstacles ignored path = some whole) :
    ∃ before segment after obstacle, path = before ++ segment :: after ∧
      Clear obstacles ignored before ∧ obstacle.StandsFirst obstacles ignored segment ∧
      whole = before ++ (detour obstacles ignored segment obstacle ++ after) := by
  induction path generalizing whole with
  | nil => cases stepped
  | cons segment rest inductionHypothesis =>
      rw [detourFirst?] at stepped
      split at stepped
      · next obstacle blocking =>
          have inWay := Obstacle.firstBlocking?_eq_some_iff.mp blocking
          exact ⟨[], segment, rest, obstacle, rfl, List.forall_mem_nil _, inWay,
            (Option.some.inj stepped).symm⟩
      · next unblocked =>
          obtain ⟨tail, tailStepped, rfl⟩ := Option.map_eq_some_iff.mp stepped
          obtain ⟨before, blocked, after, obstacle, rfl, clear, inWay, rfl⟩ :=
            inductionHypothesis tailStepped
          have segmentClear := WireSegment.firstBlocking?_eq_none_iff.mp unblocked
          exact ⟨segment :: before, blocked, after, obstacle, rfl,
            List.forall_mem_cons.mpr ⟨segmentClear, clear⟩, inWay, rfl⟩

/-- The detour that is taken is the one that is described. -/
theorem detourStep_iff :
    DetourStep obstacles ignored path next ↔
      ∃ whole, detourFirst? obstacles ignored path = some whole ∧
        next = whole.filter (·.isLong) := by
  constructor
  · rintro ⟨clear, inWay, round⟩
    refine ⟨_, ?_, rfl⟩
    rw [detourFirst?_append clear, detourFirst?, Obstacle.firstBlocking?_eq_some_iff.mpr inWay,
      ← round.detour_eq]
    rfl
  · rintro ⟨whole, stepped, rfl⟩
    obtain ⟨before, segment, after, obstacle, rfl, clear, inWay, rfl⟩ :=
      exists_split_of_detourFirst? stepped
    obtain ⟨level, round⟩ := exists_goesRound obstacles ignored segment obstacle
    rw [round.detour_eq]
    exact .around clear inWay round

/-- A detour can be taken exactly when a path is not clear. -/
theorem exists_detourStep_iff :
    (∃ next, DetourStep obstacles ignored path next) ↔ ¬Clear obstacles ignored path := by
  rw [← detourFirst?_eq_none_iff_clear, ← ne_eq, Option.ne_none_iff_exists']
  simp only [detourStep_iff]
  constructor
  · rintro ⟨next, whole, stepped, -⟩
    exact ⟨whole, stepped⟩
  · rintro ⟨whole, stepped⟩
    exact ⟨_, whole, stepped, rfl⟩

/-- It can be taken in one way only. -/
theorem DetourStep.unique {other : List (WireSegment K)}
    (step : DetourStep obstacles ignored path next)
    (otherStep : DetourStep obstacles ignored path other) : next = other := by
  obtain ⟨whole, stepped, rfl⟩ := detourStep_iff.mp step
  obtain ⟨otherWhole, otherStepped, rfl⟩ := detourStep_iff.mp otherStep
  rw [stepped] at otherStepped
  rw [Option.some.inj otherStepped]

/-! ## Many detours -/

/-- A number of detours, one after the other. -/
inductive Detours (obstacles : List (Obstacle K)) (ignored : List String) :
    ℕ → List (WireSegment K) → List (WireSegment K) → Prop
  | none (path : List (WireSegment K)) : Detours obstacles ignored 0 path path
  | step {count : ℕ} {path next last : List (WireSegment K)}
      (first : DetourStep obstacles ignored path next)
      (others : Detours obstacles ignored count next last) :
      Detours obstacles ignored (count + 1) path last

theorem detours_zero_iff {last : List (WireSegment K)} :
    Detours obstacles ignored 0 path last ↔ last = path :=
  ⟨fun | .none _ => rfl, fun same => same ▸ .none last⟩

theorem detours_succ_iff {count : ℕ} {last : List (WireSegment K)} :
    Detours obstacles ignored (count + 1) path last ↔
      ∃ next, DetourStep obstacles ignored path next ∧ Detours obstacles ignored count next last :=
  ⟨fun | .step first others => ⟨_, first, others⟩, fun ⟨_, first, others⟩ => .step first others⟩

/-- A clear path takes no detours. -/
theorem detours_iff_of_clear (clear : Clear obstacles ignored path) {count : ℕ}
    {last : List (WireSegment K)} :
    Detours obstacles ignored count path last ↔ count = 0 ∧ last = path := by
  cases count with
  | zero => simp [detours_zero_iff]
  | succ count =>
      have stays : ¬∃ next, DetourStep obstacles ignored path next :=
        fun step => exists_detourStep_iff.mp step clear
      rw [detours_succ_iff]
      exact ⟨fun ⟨next, first, _⟩ => absurd ⟨next, first⟩ stays, nofun⟩

/-- A path that is not clear takes its only detour first. -/
theorem DetourStep.detours_iff (step : DetourStep obstacles ignored path next) {count : ℕ}
    {last : List (WireSegment K)} :
    Detours obstacles ignored (count + 1) path last ↔
      Detours obstacles ignored count next last := by
  rw [detours_succ_iff]
  exact ⟨fun ⟨_, first, others⟩ => step.unique first ▸ others, fun others => ⟨next, step, others⟩⟩

/-- Fewer detours lead to a path that is not clear. -/
theorem Detours.exists_of_lt {count fewer : ℕ} {last : List (WireSegment K)}
    (detours : Detours obstacles ignored count path last) (isFewer : fewer < count) :
    ∃ earlier, Detours obstacles ignored fewer path earlier ∧
      ¬Clear obstacles ignored earlier := by
  induction detours generalizing fewer with
  | none => exact absurd isFewer (Nat.not_lt_zero _)
  | step first others inductionHypothesis =>
      cases fewer with
      | zero => exact ⟨_, .none _, exists_detourStep_iff.mp ⟨_, first⟩⟩
      | succ fewer =>
          obtain ⟨earlier, reached, blocked⟩ :=
            inductionHypothesis (Nat.lt_of_succ_lt_succ isFewer)
          exact ⟨earlier, .step first reached, blocked⟩

/-! ## The budget of detours -/

theorem avoid?_zero_of_step (step : DetourStep obstacles ignored path next) :
    avoid? obstacles ignored 0 path = none := by
  obtain ⟨whole, stepped, -⟩ := detourStep_iff.mp step
  simp [avoid?, stepped]

theorem avoid?_succ_of_step (step : DetourStep obstacles ignored path next) (budget : ℕ) :
    avoid? obstacles ignored (budget + 1) path = avoid? obstacles ignored budget next := by
  obtain ⟨whole, stepped, rfl⟩ := detourStep_iff.mp step
  exact avoid?_succ stepped budget

/-- A path comes clear within a budget when some number of detours up to it makes it clear. -/
theorem avoid?_eq_some_iff {budget : ℕ} {last : List (WireSegment K)} :
    avoid? obstacles ignored budget path = some last ↔
      ∃ count ≤ budget, Detours obstacles ignored count path last ∧
        Clear obstacles ignored last := by
  induction budget generalizing path with
  | zero =>
      simp only [Nat.le_zero, exists_eq_left, detours_zero_iff]
      by_cases clear : Clear obstacles ignored path
      · rw [avoid?_of_clear (detourFirst?_eq_none_iff_clear.mpr clear), Option.some.injEq]
        exact ⟨fun same => ⟨same.symm, same ▸ clear⟩, fun same => same.1.symm⟩
      · obtain ⟨next, step⟩ := exists_detourStep_iff.mpr clear
        rw [avoid?_zero_of_step step]
        exact ⟨nofun, fun same => absurd (same.1 ▸ same.2) clear⟩
  | succ budget inductionHypothesis =>
      by_cases clear : Clear obstacles ignored path
      · rw [avoid?_of_clear (detourFirst?_eq_none_iff_clear.mpr clear), Option.some.injEq]
        simp only [detours_iff_of_clear clear]
        exact ⟨fun same => ⟨0, Nat.zero_le _, ⟨rfl, same.symm⟩, same ▸ clear⟩,
          fun ⟨_, _, same, _⟩ => same.2.symm⟩
      · obtain ⟨next, step⟩ := exists_detourStep_iff.mpr clear
        rw [avoid?_succ_of_step step, inductionHypothesis]
        constructor
        · rintro ⟨count, within, others, isClear⟩
          exact ⟨count + 1, Nat.succ_le_succ within, step.detours_iff.mpr others, isClear⟩
        · rintro ⟨count, within, detours, isClear⟩
          cases count with
          | zero => exact absurd (detours_zero_iff.mp detours ▸ isClear) clear
          | succ count =>
              exact ⟨count, Nat.le_of_succ_le_succ within, step.detours_iff.mp detours, isClear⟩

/-- It does not when every number of detours up to the budget leaves something in the way. -/
theorem avoid?_eq_none_iff {budget : ℕ} :
    avoid? obstacles ignored budget path = none ↔
      ∀ count ≤ budget, ∃ later,
        Detours obstacles ignored count path later ∧ ¬Clear obstacles ignored later := by
  induction budget generalizing path with
  | zero =>
      simp only [Nat.le_zero, forall_eq, detours_zero_iff, exists_eq_left]
      by_cases clear : Clear obstacles ignored path
      · simp [avoid?_of_clear (detourFirst?_eq_none_iff_clear.mpr clear), clear]
      · obtain ⟨next, step⟩ := exists_detourStep_iff.mpr clear
        simp [avoid?_zero_of_step step, clear]
  | succ budget inductionHypothesis =>
      by_cases clear : Clear obstacles ignored path
      · rw [avoid?_of_clear (detourFirst?_eq_none_iff_clear.mpr clear)]
        refine ⟨nofun, fun stuck => ?_⟩
        obtain ⟨later, detours, blocked⟩ := stuck 0 (Nat.zero_le _)
        exact absurd (detours_zero_iff.mp detours ▸ clear) blocked
      · obtain ⟨next, step⟩ := exists_detourStep_iff.mpr clear
        rw [avoid?_succ_of_step step, inductionHypothesis]
        constructor
        · intro stuck count within
          cases count with
          | zero => exact ⟨path, .none path, clear⟩
          | succ count =>
              obtain ⟨later, detours, blocked⟩ := stuck count (Nat.le_of_succ_le_succ within)
              exact ⟨later, step.detours_iff.mpr detours, blocked⟩
        · intro stuck count within
          obtain ⟨later, detours, blocked⟩ := stuck (count + 1) (Nat.succ_le_succ within)
          exact ⟨later, step.detours_iff.mp detours, blocked⟩

/-- Something is in the way at the start and after each number of detours up to sixteen. -/
def StaysBlocked (obstacles : List (Obstacle K)) (ignored : List String)
    (path : List (WireSegment K)) : Prop :=
  ∀ count ≤ 16, ∃ later,
    Detours obstacles ignored count path later ∧ ¬Clear obstacles ignored later

variable {start stop : Point K} {startAngle stopAngle : Option K}

/-- A path with detours is the first clear one, merged. -/
theorem find_optimized_eq_ok_iff {wires : List (WireSegment K)} :
    find obstacles ignored .optimized start stop startAngle stopAngle = .ok wires ↔
      ∃ count ≤ 16, ∃ path,
        Detours obstacles ignored count (bent start stop startAngle stopAngle) path ∧
        Clear obstacles ignored path ∧ wires = WireSegment.merge path := by
  constructor
  · intro found
    obtain ⟨path, avoided, rfl⟩ := exists_avoid?_of_find found
    obtain ⟨count, within, detours, clear⟩ := avoid?_eq_some_iff.mp avoided
    exact ⟨count, within, path, detours, clear, rfl⟩
  · rintro ⟨count, within, path, detours, clear, rfl⟩
    have avoided := avoid?_eq_some_iff.mpr ⟨count, within, detours, clear⟩
    simp only [find, maxDetours, avoided]

/-- No path is found where something stays in the way. -/
theorem exists_find_optimized_eq_error_iff :
    (∃ wires, find obstacles ignored .optimized start stop startAngle stopAngle = .error wires) ↔
      StaysBlocked obstacles ignored (bent start stop startAngle stopAngle) := by
  rw [StaysBlocked, ← avoid?_eq_none_iff]
  simp only [find_eq_error_iff, true_and, exists_and_left, exists_eq, and_true, maxDetours]

end Detour

/-! ## Exact arithmetic -/

/-- In exact arithmetic the nearer side is the one whose edge is nearer. -/
theorem highIsNearer_iff {segment : WireSegment ℝ} {obstacle : Obstacle ℝ}
    (inside : obstacle.HasInside) :
    HighIsNearer segment obstacle ↔
      |highEdge segment obstacle - lineOf segment| <
        |lineOf segment - lowEdge segment obstacle| := by
  have wide : lowEdge segment obstacle < highEdge segment obstacle := by
    unfold lowEdge highEdge
    cases segment.orientation
    · exact inside.height
    · exact inside.width
  have away : (0 : ℝ) < detourOffset := by norm_num [detourOffset]
  simp only [HighIsNearer, Exact.magnitude_eq_abs]
  rw [← sq_lt_sq, ← sq_lt_sq]
  constructor <;> intro nearer <;> nlinarith

end Path

/-! ## Failures -/

namespace Router

open CircuitSheet.Path (StaysBlocked bent)

variable {K : Type} [Scalar K] (router : Router K) (netName : String) (hub pin : PlacedPin K)

/-- A branch fails where something stays in the way of its path. -/
theorem givesUp_optimized_iff :
    router.givesUp .optimized hub pin = true ↔
      StaysBlocked router.obstacles [hub.entity, pin.entity]
        (bent hub.connectionPoint pin.connectionPoint (some hub.absoluteAngle)
          (some pin.absoluteAngle)) := by
  rw [StaysBlocked, ← Path.avoid?_eq_none_iff, givesUp, Bool.and_eq_true,
    Option.isNone_iff_eq_none]
  exact ⟨And.right, fun helpless => ⟨rfl, helpless⟩⟩

/-- The failure of a connection tells its ends and the number of detours. -/
theorem routeConnection_failure_iff (priority : ℕ) (failure : RoutingFailure K) :
    (router.routeConnection netName hub pin .optimized priority).1.2 = some failure ↔
      StaysBlocked router.obstacles [hub.entity, pin.entity]
        (bent hub.connectionPoint pin.connectionPoint (some hub.absoluteAngle)
          (some pin.absoluteAngle)) ∧
      failure = ⟨netName, hub.connectionPoint, pin.connectionPoint, 16⟩ := by
  rw [← givesUp_optimized_iff]
  have kept : (router.routeConnection netName hub pin .optimized priority).1.2 =
      (router.branch netName .optimized hub pin).2 := rfl
  rw [kept]
  rcases router.branch_cases netName .optimized hub pin with
    ⟨gaveUp, drawn⟩ | ⟨found, path, -, drawn⟩
  · rw [drawn, gaveUp]
    simp [failureOf, Path.maxDetours, eq_comm]
  · rw [drawn, found]
    simp

/-- The failures of a net are those of the connections from its first pin, in order. -/
theorem routeNet_failures (others : List (PlacedPin K)) (priority : ℕ) :
    (router.routeNet netName (hub :: others) .optimized priority).1.2 =
      others.filterMap fun pin =>
        (router.routeConnection netName hub pin .optimized priority).1.2 :=
  List.filterMap_map ..

end Router

namespace Path

/-- A path that is not clear has one detour to take, and a clear one has none. The path that is
drawn is the first clear one that detours lead to from the bent path, merged, as long as that takes
no more than sixteen of them; none is found exactly where something stays in the way at the start
and after each number of detours up to sixteen. A connection fails there and tells its ends and the
number sixteen, and the failures of a net are those of the connections from its first pin. In exact
arithmetic the nearer side of an obstacle is the one whose edge is nearer, and what is left out is
at most as long as the tolerance. -/
theorem find_firstClear :
    (∀ {K : Type} [Scalar K] (obstacles : List (Obstacle K)) (ignored : List String),
      (∀ path, (∃ next, DetourStep obstacles ignored path next) ↔ ¬Clear obstacles ignored path) ∧
      (∀ path next other, DetourStep obstacles ignored path next →
        DetourStep obstacles ignored path other → next = other) ∧
      ∀ (start stop : Point K) (startAngle stopAngle : Option K),
        let simple := bent start stop startAngle stopAngle
        (∀ wires,
          find obstacles ignored .optimized start stop startAngle stopAngle = .ok wires ↔
            ∃ count ≤ 16, ∃ path, Detours obstacles ignored count simple path ∧
              Clear obstacles ignored path ∧
              (∀ fewer < count, ∃ earlier, Detours obstacles ignored fewer simple earlier ∧
                ¬Clear obstacles ignored earlier) ∧
              wires = WireSegment.merge path) ∧
        ((∃ wires,
          find obstacles ignored .optimized start stop startAngle stopAngle = .error wires) ↔
            StaysBlocked obstacles ignored simple)) ∧
    (∀ {K : Type} [Scalar K] (router : Router K) (netName : String) (hub : PlacedPin K)
      (priority : ℕ),
      (∀ pin failure,
        (router.routeConnection netName hub pin .optimized priority).1.2 = some failure ↔
          StaysBlocked router.obstacles [hub.entity, pin.entity]
            (bent hub.connectionPoint pin.connectionPoint (some hub.absoluteAngle)
              (some pin.absoluteAngle)) ∧
          failure = ⟨netName, hub.connectionPoint, pin.connectionPoint, 16⟩) ∧
      ∀ others, (router.routeNet netName (hub :: others) .optimized priority).1.2 =
        others.filterMap fun pin =>
          (router.routeConnection netName hub pin .optimized priority).1.2) ∧
    ∀ segment : WireSegment ℝ,
      (segment.isLong = false ↔ segment.length ≤ WireSegment.joinTolerance) ∧
      ∀ obstacle : Obstacle ℝ, obstacle.HasInside →
        (HighIsNearer segment obstacle ↔
          |highEdge segment obstacle - lineOf segment| <
            |lineOf segment - lowEdge segment obstacle|) := by
  refine ⟨?_, ?_, ?_⟩
  · intro K _ obstacles ignored
    refine ⟨fun path => exists_detourStep_iff, fun path next other => DetourStep.unique, ?_⟩
    intro start stop startAngle stopAngle
    refine ⟨fun wires => ?_, exists_find_optimized_eq_error_iff⟩
    rw [find_optimized_eq_ok_iff]
    constructor
    · rintro ⟨count, within, path, detours, clear, rfl⟩
      exact ⟨count, within, path, detours, clear, fun fewer => detours.exists_of_lt, rfl⟩
    · rintro ⟨count, within, path, detours, clear, -, rfl⟩
      exact ⟨count, within, path, detours, clear, rfl⟩
  · intro K _ router netName hub priority
    exact ⟨fun pin => router.routeConnection_failure_iff netName hub pin priority,
      fun others => router.routeNet_failures netName hub others priority⟩
  · intro segment
    exact ⟨by simp [WireSegment.isLong], fun obstacle => highIsNearer_iff⟩

/-- Bodies below one another, each in the way of the detour around the one above it, and a body
above the first one. -/
def stairs (count : ℕ) : List (Obstacle Float) :=
  ⟨20.0, 3.0, 80.0, 5.0, "U0"⟩ :: (List.range count).map fun index =>
    let level : Float := -4.0 * Float.ofNat index
    ⟨20.0, level - 1.46, 80.0, level + 1.54, "U1"⟩

/-- The path below sixteen of these bodies. -/
def stairsPath : List (WireSegment Float) :=
  [⟨⟨100.0, 0.0⟩, ⟨100.0, -64.0⟩, .vertical⟩, ⟨⟨100.0, -64.0⟩, ⟨0.0, -64.0⟩, .horizontal⟩,
    ⟨⟨0.0, -64.0⟩, ⟨0.0, 0.0⟩, .vertical⟩]

theorem find_firstClear_stairs :
    find (stairs 16) [] .optimized ⟨100.0, 0.0⟩ ⟨0.0, 0.0⟩ none none = .ok stairsPath ∧
      (∃ count ≤ 16, ∃ path,
        Detours (stairs 16) [] count (bent ⟨100.0, 0.0⟩ ⟨0.0, 0.0⟩ none none) path ∧
          stairsPath = WireSegment.merge path) ∧
      StaysBlocked (stairs 17) [] (bent ⟨100.0, 0.0⟩ ⟨0.0, 0.0⟩ none none) := by
  have found :
      find (stairs 16) [] .optimized ⟨100.0, 0.0⟩ ⟨0.0, 0.0⟩ none none = .ok stairsPath := by
    decide +kernel
  have failed : find (stairs 17) [] .optimized ⟨100.0, 0.0⟩ ⟨0.0, 0.0⟩ none none =
      .error [WireSegment.between ⟨100.0, 0.0⟩ ⟨0.0, 0.0⟩] := by
    decide +kernel
  obtain ⟨-, -, reaches⟩ := find_firstClear.1 (stairs 16) []
  obtain ⟨-, -, stuck⟩ := find_firstClear.1 (stairs 17) []
  obtain ⟨count, within, path, detours, -, -, merged⟩ := ((reaches _ _ none none).1 _).mp found
  exact ⟨found, ⟨count, within, path, detours, merged⟩, (stuck _ _ none none).2.mp ⟨_, failed⟩⟩

end Path
end CircuitSheet
