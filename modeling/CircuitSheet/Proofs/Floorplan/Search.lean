import CircuitSheet.Floorplan.Search

/-!
# What a search finds

A search that finds a spot finds one that the floorplan accepts. It ends in the corner only
when neither the preferred position nor any place of the scan is accepted.
-/

namespace CircuitSheet

variable {K : Type} [Scalar K]

/-! ## Climbing -/

/-- The coordinate is reached from a start in equal steps that all stay a margin below a
ceiling. -/
inductive IsRung (step margin ceiling : K) : K → K → Prop
  | here {height : K} : height + margin ≤ ceiling → IsRung step margin ceiling height height
  | above {start height : K} : start + margin ≤ ceiling →
      IsRung step margin ceiling (start + step) height → IsRung step margin ceiling start height

theorem IsRung.start_le {step margin ceiling start height : K}
    (rung : IsRung step margin ceiling start height) : start + margin ≤ ceiling := by
  cases rung <;> assumption

/-- What a climb finds it finds at one of its rungs. -/
theorem climb_found {α : Type} {step margin ceiling start : K} {visit : K → SearchResult α}
    {value : α} (found : climb step margin ceiling visit start = .found value) :
    ∃ height, IsRung step margin ceiling start height ∧ visit height = .found value := by
  fun_induction climb step margin ceiling visit start with
  | case1 start below _ _ inductionHypothesis =>
      obtain ⟨height, rung, visited⟩ := inductionHypothesis found
      exact ⟨height, .above below rung, visited⟩
  | case2 => cases found
  | case3 start below => exact ⟨start, .here below, found⟩
  | case4 => cases found

/-- A climb that comes to its end has visited every rung in vain. -/
theorem climb_exhausted {α : Type} {step margin ceiling start : K} {visit : K → SearchResult α}
    (exhausted : climb step margin ceiling visit start = .exhausted) {height : K}
    (rung : IsRung step margin ceiling start height) : visit height = .exhausted := by
  fun_induction climb step margin ceiling visit start with
  | case1 start _ visited _ inductionHypothesis =>
      cases rung with
      | here => exact visited
      | above _ higher => exact inductionHypothesis exhausted higher
  | case2 => cases exhausted
  | case3 start _ notExhausted => exact absurd exhausted notExhausted
  | case4 start above => exact absurd rung.start_le above

/-- Every step of a climb that comes to its end rises. -/
theorem climb_rises {α : Type} {step margin ceiling start : K} {visit : K → SearchResult α}
    (exhausted : climb step margin ceiling visit start = .exhausted) {height : K}
    (rung : IsRung step margin ceiling start height) : height < height + step := by
  fun_induction climb step margin ceiling visit start with
  | case1 start _ _ rises inductionHypothesis =>
      cases rung with
      | here => exact rises
      | above _ higher => exact inductionHypothesis exhausted higher
  | case2 => cases exhausted
  | case3 start _ notExhausted => exact absurd exhausted notExhausted
  | case4 start above => exact absurd rung.start_le above

/-- A climb stalls only where the step from a rung does not rise or a visit stalls. -/
theorem climb_ne_stalled {α : Type} {step margin ceiling start : K} {visit : K → SearchResult α}
    (rises : ∀ height, IsRung step margin ceiling start height → height < height + step)
    (visits : ∀ height, IsRung step margin ceiling start height → visit height ≠ .stalled) :
    climb step margin ceiling visit start ≠ .stalled := by
  fun_induction climb step margin ceiling visit start with
  | case1 start below _ _ inductionHypothesis =>
      exact inductionHypothesis (fun height rung => rises height (.above below rung))
        (fun height rung => visits height (.above below rung))
  | case2 start below _ notRising => exact absurd (rises start (.here below)) notRising
  | case3 start below => exact visits start (.here below)
  | case4 => nofun

namespace Floorplan

/-! ## Scanning -/

/-- The scan for a body of some size comes to a place. -/
def IsPlace (plan : Floorplan K) (size : Size K) (x y : K) : Prop :=
  IsRung plan.spacing (size.height / 2.0) (plan.page.maxY + Page.slack)
      (plan.page.minY + size.height / 2.0) y ∧
    IsRung plan.spacing (size.width / 2.0) (plan.page.maxX + Page.slack)
      (plan.page.minX + size.width / 2.0) x

/-- Every step of a scan for a body of some size rises, as long as no place is accepted. -/
structure Rises (plan : Floorplan K) (size : Size K) : Prop where
  rows : ∀ y, IsRung plan.spacing (size.height / 2.0) (plan.page.maxY + Page.slack)
    (plan.page.minY + size.height / 2.0) y → y < y + plan.spacing
  columns : ∀ x y, plan.IsPlace size x y → x < x + plan.spacing

variable {plan : Floorplan K} {reference : String} {size : Size K}

theorem Rises.of_forall (rises : ∀ height : K, height < height + plan.spacing) :
    plan.Rises size :=
  ⟨fun y _ => rises y, fun x _ _ => rises x⟩

theorem tryPlace_found {x y : K} {position : Point K}
    (found : plan.tryPlace reference size x y = .found position) :
    position = plan.snap ⟨x, y⟩ ∧ plan.accepts reference size position = true := by
  simp only [tryPlace] at found
  split at found
  case isTrue accepted =>
    cases found
    exact ⟨rfl, accepted⟩
  case isFalse => cases found

theorem tryPlace_exhausted {x y : K}
    (exhausted : plan.tryPlace reference size x y = .exhausted) :
    plan.accepts reference size (plan.snap ⟨x, y⟩) = false := by
  simp only [tryPlace] at exhausted
  split at exhausted
  case isTrue => cases exhausted
  case isFalse refused => exact Bool.eq_false_iff.mpr refused

theorem tryPlace_ne_stalled (x y : K) : plan.tryPlace reference size x y ≠ .stalled := by
  simp only [tryPlace]
  split <;> nofun

/-- A scan finds a place that is accepted. -/
theorem scan_found {position : Point K} (found : plan.scan reference size = .found position) :
    (∃ x y, plan.IsPlace size x y ∧ position = plan.snap ⟨x, y⟩) ∧
      plan.accepts reference size position = true := by
  obtain ⟨y, row, inRow⟩ := climb_found found
  obtain ⟨x, column, atPlace⟩ := climb_found inRow
  obtain ⟨snapped, accepted⟩ := tryPlace_found atPlace
  exact ⟨⟨x, y, ⟨row, column⟩, snapped⟩, accepted⟩

/-- A scan that comes to its end has had no place accepted. -/
theorem scan_exhausted (exhausted : plan.scan reference size = .exhausted) {x y : K}
    (place : plan.IsPlace size x y) :
    plan.accepts reference size (plan.snap ⟨x, y⟩) = false := by
  have row := climb_exhausted exhausted place.1
  exact tryPlace_exhausted (climb_exhausted row place.2)

theorem scan_ne_stalled (rises : plan.Rises size) : plan.scan reference size ≠ .stalled := by
  apply climb_ne_stalled rises.rows
  intro y row
  apply climb_ne_stalled
  · intro x column
    exact rises.columns x y ⟨row, column⟩
  · intro x _
    exact tryPlace_ne_stalled x y

/-- Every step of a scan that comes to its end rises. -/
theorem rises_of_scan_exhausted (exhausted : plan.scan reference size = .exhausted) :
    plan.Rises size where
  rows _ row := climb_rises exhausted row
  columns _ _ place := climb_rises (climb_exhausted exhausted place.1) place.2

/-- A scan whose first place is accepted ends there. -/
theorem scan_of_first {position : Point K}
    (wide : plan.page.minX + size.width / 2.0 + size.width / 2.0 ≤ plan.page.maxX + Page.slack)
    (high : plan.page.minY + size.height / 2.0 + size.height / 2.0 ≤ plan.page.maxY + Page.slack)
    (snapped : plan.snap (plan.cornerFor size) = position)
    (accepted : plan.accepts reference size position = true) :
    plan.scan reference size = .found position := by
  have first : plan.tryPlace reference size (plan.page.minX + size.width / 2.0)
      (plan.page.minY + size.height / 2.0) = .found position := by
    rw [cornerFor] at snapped
    rw [tryPlace, snapped, if_pos accepted]
  have row : plan.scanRow reference size (plan.page.minY + size.height / 2.0) =
      .found position := by
    rw [scanRow, climb, if_pos wide, first]
  rw [scan, climb, if_pos high, row]

/-- A scan stalls at its first place if that is refused and the step to the next one is lost. -/
theorem scan_of_first_lost
    (wide : plan.page.minX + size.width / 2.0 + size.width / 2.0 ≤ plan.page.maxX + Page.slack)
    (high : plan.page.minY + size.height / 2.0 + size.height / 2.0 ≤ plan.page.maxY + Page.slack)
    (refused : plan.accepts reference size (plan.snap (plan.cornerFor size)) = false)
    (lost : ¬plan.page.minX + size.width / 2.0 <
      plan.page.minX + size.width / 2.0 + plan.spacing) :
    plan.scan reference size = .stalled := by
  have first : plan.tryPlace reference size (plan.page.minX + size.width / 2.0)
      (plan.page.minY + size.height / 2.0) = .exhausted := by
    rw [cornerFor] at refused
    rw [tryPlace, refused, if_neg Bool.false_ne_true]
  have row : plan.scanRow reference size (plan.page.minY + size.height / 2.0) = .stalled := by
    rw [scanRow, climb, if_pos wide, first]
    exact if_neg lost
  rw [scan, climb, if_pos high, row]

/-! ## Spots -/

/-- Neither the position on the grid next to a finite preference nor any place of the scan is
accepted. -/
structure HasNoRoom (plan : Floorplan K) (reference : String) (size : Size K)
    (preferred : Option (Point K)) : Prop where
  preference : ∀ point ∈ preferred, point.isFinite = true →
    plan.accepts reference size (plan.snap point) = false
  places : ∀ x y, plan.IsPlace size x y →
    plan.accepts reference size (plan.snap ⟨x, y⟩) = false

theorem preferredSpot?_eq_some {preferred : Option (Point K)} {position : Point K}
    (found : plan.preferredSpot? reference size preferred = some position) :
    plan.accepts reference size position = true := by
  cases preferred with
  | none => cases found
  | some point =>
      simp only [preferredSpot?] at found
      split at found
      case isTrue fits =>
        cases found
        exact (Bool.and_eq_true_iff.mp fits).2
      case isFalse => cases found

theorem preferredSpot?_eq_none {preferred : Option (Point K)}
    (notFound : plan.preferredSpot? reference size preferred = none) :
    ∀ point ∈ preferred, point.isFinite = true →
      plan.accepts reference size (plan.snap point) = false := by
  rintro point ⟨⟩ finite
  simpa [preferredSpot?, finite] using notFound

/-- A spot is accepted, or it is the corner and there is no room, or the scan has stalled. -/
theorem findSpot_cases (plan : Floorplan K) (reference : String) (size : Size K)
    (preferred : Option (Point K)) :
    let spot := plan.findSpot reference size preferred
    ((spot.source = .preferred ∨ spot.source = .scanned) ∧
        plan.accepts reference size spot.position = true) ∨
      (spot.source = .corner ∧ spot.position = plan.cornerFor size ∧
        plan.HasNoRoom reference size preferred) ∨
      (spot.source = .stalled ∧ plan.scan reference size = .stalled) := by
  unfold findSpot
  cases atPreference : plan.preferredSpot? reference size preferred with
  | some position => exact .inl ⟨.inl rfl, preferredSpot?_eq_some atPreference⟩
  | none =>
      have preference := preferredSpot?_eq_none atPreference
      cases scanned : plan.scan reference size with
      | found position => exact .inl ⟨.inr rfl, (scan_found scanned).2⟩
      | exhausted =>
          exact .inr (.inl ⟨rfl, rfl, preference, fun x y place => scan_exhausted scanned place⟩)
      | stalled => exact .inr (.inr ⟨rfl, rfl⟩)

theorem findSpot_ne_stalled (rises : plan.Rises size)
    (preferred : Option (Point K)) :
    (plan.findSpot reference size preferred).source ≠ .stalled := by
  intro stalled
  rcases plan.findSpot_cases reference size preferred with
    ⟨found, -⟩ | ⟨corner, -⟩ | ⟨-, scanStalled⟩
  · simp [stalled] at found
  · simp [stalled] at corner
  · exact scan_ne_stalled rises scanStalled

/-- A spot where a body fits is a point of the grid. -/
theorem findSpot_snapped {preferred : Option (Point K)}
    (noCorner : (plan.findSpot reference size preferred).source ≠ .corner)
    (noStall : (plan.findSpot reference size preferred).source ≠ .stalled) :
    ∃ point, (plan.findSpot reference size preferred).position = plan.snap point := by
  unfold findSpot at noCorner noStall ⊢
  cases atPreference : plan.preferredSpot? reference size preferred with
  | some position =>
      cases preferred with
      | none => cases atPreference
      | some point =>
          rw [preferredSpot?, Option.ite_none_right_eq_some] at atPreference
          exact ⟨point, (Option.some.inj atPreference.2).symm⟩
  | none =>
      rw [atPreference] at noCorner noStall
      cases scanned : plan.scan reference size with
      | found position =>
          obtain ⟨⟨x, y, -, snapped⟩, -⟩ := scan_found scanned
          exact ⟨⟨x, y⟩, snapped⟩
      | exhausted => exact absurd (by rw [scanned]) noCorner
      | stalled => exact absurd (by rw [scanned]) noStall

end Floorplan
end CircuitSheet
