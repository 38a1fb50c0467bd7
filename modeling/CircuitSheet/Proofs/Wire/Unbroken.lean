import CircuitSheet.Wire.Path

/-!
# Unbroken paths

A path is unbroken when every segment starts where the one before it ends. Leaving out segments
that lead nowhere and merging segments that follow one another keep a path unbroken.
-/

namespace CircuitSheet

variable {K : Type}

namespace Path

/-- The segments lead from one point to another without a gap. -/
def Connects (start stop : Point K) : List (WireSegment K) → Prop
  | [] => start = stop
  | segment :: rest => segment.start = start ∧ Connects segment.stop stop rest

theorem connects_append {start middle stop : Point K} {first second : List (WireSegment K)}
    (firstConnects : Connects start middle first) (secondConnects : Connects middle stop second) :
    Connects start stop (first ++ second) := by
  induction first generalizing start with
  | nil =>
      obtain rfl : start = middle := firstConnects
      exact secondConnects
  | cons segment rest inductionHypothesis =>
      exact ⟨firstConnects.1, inductionHypothesis firstConnects.2⟩

/-- Segments that lead nowhere can be left out. -/
theorem connects_filter {keep : WireSegment K → Bool} {start stop : Point K}
    {path : List (WireSegment K)} (connects : Connects start stop path)
    (dropped : ∀ segment ∈ path, keep segment = false → segment.start = segment.stop) :
    Connects start stop (path.filter keep) := by
  induction path generalizing start with
  | nil => exact connects
  | cons segment rest inductionHypothesis =>
      obtain ⟨headDropped, restDropped⟩ := List.forall_mem_cons.mp dropped
      obtain ⟨rfl, restConnects⟩ := connects
      have filtered := inductionHypothesis restConnects restDropped
      rw [List.filter_cons]
      split
      case isTrue kept => exact ⟨rfl, filtered⟩
      case isFalse notKept =>
        rw [headDropped (eq_false_of_ne_true notKept)]
        exact filtered

end Path

namespace WireSegment

open CircuitSheet.Path (Connects)

variable [Scalar K] {holds : WireSegment K → Prop} {start stop : Point K}
  {path : List (WireSegment K)}

/-- The property tells that short segments lead nowhere, and two segments that follow one another
along an axis keep it when they are made one. -/
structure SurvivesMerging (holds : WireSegment K → Prop) : Prop where
  short : ∀ segment, holds segment → segment.isShort = true → segment.start = segment.stop
  joined : ∀ first second, holds first → holds second → first.stop = second.start →
    first.orientation = second.orientation → holds { first with stop := second.stop }

-- The last segment grows as the rest is merged into it, so it is as general as the rest.
theorem SurvivesMerging.mergeOnto (survives : SurvivesMerging holds) {last : WireSegment K}
    (lastHolds : holds last) (pathHolds : ∀ segment ∈ path, holds segment)
    (connects : Connects last.stop stop path) :
    Connects last.start stop (mergeOnto last path) ∧
      ∀ segment ∈ mergeOnto last path, holds segment := by
  induction path generalizing last with
  | nil => exact ⟨⟨rfl, connects⟩, List.forall_mem_singleton.mpr lastHolds⟩
  | cons segment rest inductionHypothesis =>
      obtain ⟨segmentHolds, restHolds⟩ := List.forall_mem_cons.mp pathHolds
      obtain ⟨meets, restConnects⟩ := connects
      unfold WireSegment.mergeOnto
      split
      case isTrue isShort =>
        have nowhere := survives.short segment segmentHolds isShort
        rw [← nowhere, meets] at restConnects
        exact inductionHypothesis lastHolds restHolds restConnects
      case isFalse =>
        split
        case isTrue goesOn =>
          have sameOrientation : last.orientation = segment.orientation := by
            simp only [continues, Bool.and_eq_true, beq_iff_eq] at goesOn
            exact goesOn.1.1
          have mergedHolds :=
            survives.joined last segment lastHolds segmentHolds meets.symm sameOrientation
          exact inductionHypothesis mergedHolds restHolds restConnects
        case isFalse =>
          obtain ⟨mergedConnects, mergedHolds⟩ :=
            inductionHypothesis segmentHolds restHolds restConnects
          rw [meets] at mergedConnects
          exact ⟨⟨rfl, mergedConnects⟩, List.forall_mem_cons.mpr ⟨lastHolds, mergedHolds⟩⟩

/-- Merging keeps a path unbroken, and what survives merging holds of the merged segments. -/
theorem SurvivesMerging.merge (survives : SurvivesMerging holds)
    (pathHolds : ∀ segment ∈ path, holds segment) (connects : Connects start stop path) :
    Connects start stop (merge path) ∧ ∀ segment ∈ merge path, holds segment := by
  induction path generalizing start with
  | nil => exact ⟨connects, by simp [WireSegment.merge]⟩
  | cons segment rest inductionHypothesis =>
      obtain ⟨segmentHolds, restHolds⟩ := List.forall_mem_cons.mp pathHolds
      obtain ⟨rfl, restConnects⟩ := connects
      unfold WireSegment.merge
      split
      case isTrue isShort =>
        rw [survives.short segment segmentHolds isShort]
        exact inductionHypothesis restHolds restConnects
      case isFalse => exact survives.mergeOnto segmentHolds restHolds restConnects

end WireSegment
end CircuitSheet
