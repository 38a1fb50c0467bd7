import CircuitSheet.Binary64
import CircuitSheet.Proofs.Exact.Real
import CircuitSheet.Proofs.Floorplan.Run

/-!
# Room on the page

Throughout a run references never repeat, and an item that finds room is recorded within the
usable area and apart from all others. So as long as every item finds room, all bodies keep
apart. In exact arithmetic even the corner lies within the usable area, for every body that is
not larger.
-/

namespace CircuitSheet

variable {K : Type} [Scalar K]

namespace Floorplan

/-- No two bodies share a reference. -/
def HasDistinctBodies (plan : Floorplan K) : Prop :=
  (plan.placed.map (·.reference)).Nodup

omit [Scalar K] in
theorem HasDistinctBodies.record {plan : Floorplan K} (distinct : plan.HasDistinctBodies)
    (body : Body K) : (plan.record body).HasDistinctBodies := by
  have others : ((plan.placed.filter (·.reference != body.reference)).map (·.reference)).Nodup :=
    distinct.sublist (List.filter_sublist.map _)
  rw [HasDistinctBodies, Floorplan.record, List.map_append, List.nodup_append]
  refine ⟨others, by simp, ?_⟩
  intro reference inOthers same isSame equal
  obtain ⟨other, member, rfl⟩ := List.mem_map.mp inOthers
  have different := (List.mem_filter.mp member).2
  simp_all

/-- All bodies lie within the usable area of a page, and no two of them overlap. -/
structure KeepsApart (page : Page K) (plan : Floorplan K) : Prop where
  within : ∀ body ∈ plan.placed, page.holdsBody body = true
  apart : plan.placed.Pairwise fun first second => first.overlaps second = false

/-- A body that lies within the usable area and overlaps no body of another reference. -/
structure HasRoomFor (page : Page K) (plan : Floorplan K) (body : Body K) : Prop where
  within : page.holdsBody body = true
  free : ∀ other ∈ plan.placed, other.reference ≠ body.reference → other.overlaps body = false

theorem hasRoomFor_of_accepts {plan : Floorplan K} {reference : String} {size : Size K}
    {position : Point K} (accepted : plan.accepts reference size position = true) :
    HasRoomFor plan.page plan ⟨reference, position, size⟩ := by
  rw [accepts, admits, isFree, Bool.and_eq_true, Bool.and_eq_true, Bool.not_eq_true',
    List.any_eq_false] at accepted
  refine ⟨accepted.1.2, fun other member different => ?_⟩
  have clear := accepted.2 other member
  simpa [different] using clear

theorem KeepsApart.record {page : Page K} {plan : Floorplan K} {body : Body K}
    (apart : KeepsApart page plan) (room : HasRoomFor page plan body) :
    KeepsApart page (plan.record body) := by
  refine ⟨?_, ?_⟩
  · intro other member
    rcases List.mem_append.mp member with inOthers | isNew
    · exact apart.within other (List.mem_filter.mp inOthers).1
    · rw [List.mem_singleton.mp isNew]
      exact room.within
  · refine List.pairwise_append.mpr ⟨apart.apart.filter _, List.pairwise_singleton _ _, ?_⟩
    intro other inOthers new isNew
    obtain ⟨member, different⟩ := List.mem_filter.mp inOthers
    rw [List.mem_singleton.mp isNew]
    exact room.free other member (by simpa using different)

end Floorplan

/-- A placing finds room, or falls back to the corner for want of room, or stalls. -/
theorem Placing.cases (placing : Placing K) :
    (placing.FoundRoom ∧
        Floorplan.HasRoomFor placing.before.page placing.before placing.body) ∨
      (placing.spot.source = .corner ∧
        placing.spot.position = placing.before.cornerFor placing.item.occupant.bodySize ∧
        placing.before.HasNoRoom placing.item.reference placing.item.occupant.bodySize
          placing.preferred) ∨
      (placing.spot.source = .stalled ∧
        placing.before.scan placing.item.reference placing.item.occupant.bodySize = .stalled) := by
  rcases placing.before.findSpot_cases placing.item.reference placing.item.occupant.bodySize
    placing.preferred with ⟨found, accepted⟩ | corner | stalled
  · exact .inl ⟨found, Floorplan.hasRoomFor_of_accepts accepted⟩
  · exact .inr (.inl corner)
  · exact .inr (.inr stalled)

theorem Placing.hasRoomFor {placing : Placing K} (found : placing.FoundRoom) :
    Floorplan.HasRoomFor placing.before.page placing.before placing.body := by
  rcases placing.cases with ⟨-, room⟩ | ⟨corner, -⟩ | ⟨stalled, -⟩
  · exact room
  · simp [FoundRoom, corner] at found
  · simp [FoundRoom, stalled] at found

theorem Placing.hasNoRoom {placing : Placing K} (corner : placing.spot.source = .corner) :
    placing.spot.position = placing.before.cornerFor placing.item.occupant.bodySize ∧
      placing.before.HasNoRoom placing.item.reference placing.item.occupant.bodySize
        placing.preferred := by
  rcases placing.cases with ⟨found, -⟩ | ⟨-, noRoom⟩ | ⟨stalled, -⟩
  · simp [FoundRoom, corner] at found
  · exact noRoom
  · simp [corner] at stalled

/-! ## Exact arithmetic -/

namespace Exact

/-- The corner lies within the usable area for a body that is not larger. -/
theorem holdsBody_corner {plan : Floorplan ℝ} {size : Size ℝ}
    (narrow : size.width ≤ plan.page.usableWidth) (low : size.height ≤ plan.page.usableHeight)
    (reference : String) :
    plan.page.holdsBody ⟨reference, plan.cornerFor size, size⟩ = true := by
  have slack : (0 : ℝ) ≤ Page.slack := by
    change (0 : ℝ) ≤ 1e-9
    norm_num
  have width : size.width ≤ plan.page.maxX - plan.page.minX := narrow
  have height : size.height ≤ plan.page.maxY - plan.page.minY := low
  have halves (length : ℝ) : length / 2.0 + length / 2.0 = length := by
    norm_num
  simp only [Page.holdsBody, Bool.and_eq_true, decide_eq_true_iff]
  refine ⟨⟨⟨?_, ?_⟩, ?_⟩, ?_⟩
  · change plan.page.minX - Page.slack ≤
      plan.page.minX + size.width / 2.0 - size.width / 2.0
    linarith
  · change plan.page.minX + size.width / 2.0 + size.width / 2.0 ≤ plan.page.maxX + Page.slack
    linarith [halves size.width]
  · change plan.page.minY - Page.slack ≤
      plan.page.minY + size.height / 2.0 - size.height / 2.0
    linarith
  · change plan.page.minY + size.height / 2.0 + size.height / 2.0 ≤ plan.page.maxY + Page.slack
    linarith [halves size.height]

theorem positiveOr_pos {fallback : ℝ} (positive : 0 < fallback) (value : ℝ) :
    0 < Floorplan.positiveOr fallback value := by
  unfold Floorplan.positiveOr
  split
  case isTrue usable =>
    have above : (0.0 : ℝ) < value := usable.2
    norm_num at above
    exact above
  case isFalse => exact positive

theorem blank_grid_pos (page : Page ℝ) (grid spacing : ℝ) :
    0 < (Floorplan.blank page grid spacing).grid := by
  refine positiveOr_pos ?_ grid
  change (0 : ℝ) < 1.0
  norm_num

theorem blank_spacing_pos (page : Page ℝ) (grid spacing : ℝ) :
    0 < (Floorplan.blank page grid spacing).spacing := by
  refine positiveOr_pos ?_ spacing
  change (0 : ℝ) < 10.16
  norm_num

end Exact

/-! ## Runs -/

namespace Floorplan

/-- The page, the grid and the spacing are those of another floorplan. -/
structure SameSettings (start plan : Floorplan K) : Prop where
  page : plan.page = start.page
  grid : plan.grid = start.grid
  spacing : plan.spacing = start.spacing

theorem sameSettings_of_mem_history {start : Floorplan K} {actions : List (LayoutAction K)}
    {placing : Placing K} (member : placing ∈ start.history actions) :
    SameSettings start placing.before := by
  have kept : ∀ placing ∈ start.history actions,
      SameSettings start placing.before → SameSettings start placing.after :=
    fun _ _ same => ⟨same.page, same.grid, same.spacing⟩
  have keptByClearing : ∀ plan, SameSettings start plan → SameSettings start plan.cleared :=
    fun _ same => ⟨same.page, same.grid, same.spacing⟩
  exact (history_invariant ⟨rfl, rfl, rfl⟩ kept keptByClearing).1 placing member

variable (page : Page K) (grid spacing : K) (actions : List (LayoutAction K))

/-- References do not repeat at any moment of a run. -/
theorem distinctBodies_of_run :
    (∀ placing ∈ (blank page grid spacing).history actions, placing.before.HasDistinctBodies) ∧
      ((blank page grid spacing).performAll actions).2.HasDistinctBodies := by
  have start : (blank page grid spacing).HasDistinctBodies := List.nodup_nil
  have kept : ∀ placing ∈ (blank page grid spacing).history actions,
      placing.before.HasDistinctBodies → placing.after.HasDistinctBodies :=
    fun placing _ before => before.record placing.body
  have keptByClearing : ∀ plan : Floorplan K,
      plan.HasDistinctBodies → plan.cleared.HasDistinctBodies :=
    fun _ _ => List.nodup_nil
  exact history_invariant start kept keptByClearing

/-- All bodies keep apart after a run in which every item finds room. -/
theorem keepsApart_of_run
    (found : ∀ placing ∈ (blank page grid spacing).history actions, placing.FoundRoom) :
    KeepsApart page ((blank page grid spacing).performAll actions).2 := by
  have empty (plan : Floorplan K) (none : plan.placed = []) : KeepsApart page plan :=
    ⟨by simp [none], by simp [none]⟩
  have kept : ∀ placing ∈ (blank page grid spacing).history actions,
      KeepsApart page placing.before → KeepsApart page placing.after := by
    intro placing member before
    have samePage : placing.before.page = page := (sameSettings_of_mem_history member).page
    exact before.record (samePage ▸ placing.hasRoomFor (found placing member))
  exact (history_invariant (empty _ rfl) kept fun _ _ => empty _ rfl).2

/-- No scan of a run stalls in exact arithmetic, where every step rises. -/
theorem ne_stalled_of_mem_history {page : Page ℝ} {grid spacing : ℝ}
    {actions : List (LayoutAction ℝ)} {placing : Placing ℝ}
    (member : placing ∈ (blank page grid spacing).history actions) :
    placing.spot.source ≠ .stalled := by
  have sameSpacing := (sameSettings_of_mem_history member).spacing
  have positive : 0 < placing.before.spacing :=
    sameSpacing ▸ Exact.blank_spacing_pos page grid spacing
  exact findSpot_ne_stalled (.of_forall fun height => lt_add_of_pos_right height positive) _

/-- An item that falls back to the corner in a run lies within the usable area if it is not
larger. -/
theorem holdsBody_of_mem_history {page : Page ℝ} {grid spacing : ℝ}
    {actions : List (LayoutAction ℝ)} {placing : Placing ℝ}
    (member : placing ∈ (blank page grid spacing).history actions)
    (corner : placing.spot.source = .corner)
    (narrow : placing.body.size.width ≤ page.usableWidth)
    (low : placing.body.size.height ≤ page.usableHeight) :
    page.holdsBody placing.body = true := by
  have samePage : placing.before.page = page := (sameSettings_of_mem_history member).page
  have atCorner := (placing.hasNoRoom corner).1
  rw [Placing.body, atCorner, ← samePage]
  exact Exact.holdsBody_corner (samePage ▸ narrow) (samePage ▸ low) _

/-- In every run on a page that starts empty, no two bodies ever share a reference. An item that
finds room lies within the usable area and overlaps no body of another reference; if every item
finds room, all bodies keep apart. An item falls back to the corner only when neither its
preferred position nor any place of the scan is accepted; where steps of the scan are lost in
rounding, it stalls and never comes to an end. In exact arithmetic no scan stalls, and the corner
lies within the usable area for a body that is not larger. -/
theorem run_keeps_apart :
    (∀ {K : Type} [Scalar K] (page : Page K) (grid spacing : K) (actions : List (LayoutAction K)),
      let start := blank page grid spacing
      let last := (start.performAll actions).2
      (start.performAll actions).1 = (start.history actions).map Placing.outcome ∧
      last.HasDistinctBodies ∧
      (∀ placing ∈ start.history actions,
        placing.before.HasDistinctBodies ∧
        (placing.FoundRoom → HasRoomFor page placing.before placing.body) ∧
        (placing.spot.source = .corner →
          placing.before.HasNoRoom placing.item.reference placing.item.occupant.bodySize
            placing.preferred)) ∧
      ((∀ placing ∈ start.history actions, placing.FoundRoom) → KeepsApart page last)) ∧
    ∀ (page : Page ℝ) (grid spacing : ℝ) (actions : List (LayoutAction ℝ)),
      ∀ placing ∈ (blank page grid spacing).history actions,
        placing.spot.source ≠ .stalled ∧
        (placing.spot.source = .corner →
          placing.body.size.width ≤ page.usableWidth →
          placing.body.size.height ≤ page.usableHeight →
          page.holdsBody placing.body = true) := by
  refine ⟨?_, ?_⟩
  · intro K _ page grid spacing actions start last
    obtain ⟨before, atEnd⟩ := distinctBodies_of_run page grid spacing actions
    refine ⟨start.performAll_outcomes actions, atEnd, ?_,
      keepsApart_of_run page grid spacing actions⟩
    intro placing member
    have samePage : placing.before.page = page := (sameSettings_of_mem_history member).page
    exact ⟨before placing member, fun found => samePage ▸ placing.hasRoomFor found,
      fun corner => (placing.hasNoRoom corner).2⟩
  · intro page grid spacing actions placing member
    refine ⟨ne_stalled_of_mem_history member, ?_⟩
    intro corner narrow low
    exact holdsBody_of_mem_history member corner narrow low

/-- Two parts are placed, one of them again, and a circuit with a rail is laid out. -/
def sampleActions : List (LayoutAction Float) :=
  [.place ⟨"R1", .component .resistor⟩ (some ⟨50.2, 50.0⟩),
    .place ⟨"C1", .component .capacitor⟩ (some ⟨80.4, 50.0⟩),
    .place ⟨"R1", .component .resistor⟩ (some ⟨120.0, 50.0⟩),
    .layOut
      { name := "Rails"
        components := [Component.ofKind "C1" .capacitor "100n" ⟨50.0, 50.0⟩]
        powers := [⟨"", "GND", ⟨200.0, 100.0⟩⟩]
        connections := [] }
      none]

theorem run_keeps_apart_sample :
    (∀ placing ∈ (blank Page.a4 1.0 10.16).history sampleActions, placing.FoundRoom) ∧
      KeepsApart Page.a4 ((blank Page.a4 1.0 10.16).performAll sampleActions).2 := by
  have found :
      ∀ placing ∈ (blank Page.a4 1.0 10.16).history sampleActions, placing.FoundRoom := by
    unfold Placing.FoundRoom
    decide +kernel
  exact ⟨found, (run_keeps_apart.1 Page.a4 1.0 10.16 sampleActions).2.2.2 found⟩

end Floorplan
end CircuitSheet
