import CircuitSheet.Proofs.Floorplan.Search
import Mathlib.Logic.Function.Iterate

/-!
# Searches pass by pass

The rows and the places of a row are two loops, one inside the other. Here each pass of them is a
step from one state of the search to the next, and nothing stops a search that makes no headway. It
returns the position that is found for the body, unless the search stalls: then it never returns.
-/

namespace CircuitSheet

/-- Where a search stands: ahead of a row, ahead of a place in a row, or at its end. -/
inductive SearchState (K : Type)
  | row (y : K)
  | place (y x : K)
  | ended (position : Point K)

variable {K : Type} [Scalar K]

/-- A step that does not lead to a greater coordinate leads nowhere, wherever a climb makes it. -/
def RisesOrStays (step : K) : Prop :=
  ∀ {height margin ceiling : K}, height + margin ≤ ceiling → ¬height < height + step →
    height + step = height

namespace Floorplan

/-! ## Passes -/

/-- One pass of a search. The body is placed in the corner when there are no more rows. -/
def pass (plan : Floorplan K) (reference : String) (size : Size K) :
    SearchState K → SearchState K
  | .row y =>
      if y + size.height / 2.0 ≤ plan.page.maxY + Page.slack then
        .place y (plan.page.minX + size.width / 2.0)
      else .ended (plan.cornerFor size)
  | .place y x =>
      if x + size.width / 2.0 ≤ plan.page.maxX + Page.slack then
        if plan.accepts reference size (plan.snap ⟨x, y⟩) then .ended (plan.snap ⟨x, y⟩)
        else .place y (x + plan.spacing)
      else .row (y + plan.spacing)
  | .ended position => .ended position

/-- Where a search sets out: at its end if the body fits at the preferred position, else ahead of
the first row. -/
def outset (plan : Floorplan K) (reference : String) (size : Size K)
    (preferred : Option (Point K)) : SearchState K :=
  match plan.preferredSpot? reference size preferred with
  | some position => .ended position
  | none => .row (plan.page.minY + size.height / 2.0)

/-- A search comes from one state to another in some number of passes. -/
def Leads (plan : Floorplan K) (reference : String) (size : Size K)
    (state next : SearchState K) : Prop :=
  ∃ passes, (plan.pass reference size)^[passes] state = next

/-- The search for an occupant's position ends, and this is the position. -/
def Returns (plan : Floorplan K) (reference : String) (occupant : Occupant)
    (preferred : Option (Point K)) (position : Point K) : Prop :=
  plan.Leads reference occupant.bodySize (plan.outset reference occupant.bodySize preferred)
    (.ended position)

variable {plan : Floorplan K} {reference : String} {size : Size K}
  {state next last : SearchState K}

theorem iterate_pass_ended (passes : ℕ) (position : Point K) :
    (plan.pass reference size)^[passes] (.ended position) = .ended position :=
  Function.iterate_fixed rfl passes

namespace Leads

theorem refl (state : SearchState K) : plan.Leads reference size state state :=
  ⟨0, rfl⟩

theorem trans (first : plan.Leads reference size state next)
    (second : plan.Leads reference size next last) : plan.Leads reference size state last := by
  obtain ⟨passes, rfl⟩ := first
  obtain ⟨morePasses, rfl⟩ := second
  exact ⟨morePasses + passes, Function.iterate_add_apply ..⟩

theorem of_pass (passed : plan.pass reference size state = next) :
    plan.Leads reference size state next :=
  ⟨1, passed⟩

/-- A search that ends does so from every state on its way. -/
theorem ended {position : Point K} (atEnd : plan.Leads reference size state (.ended position))
    (onTheWay : plan.Leads reference size state next) :
    plan.Leads reference size next (.ended position) := by
  obtain ⟨passes, atEnd⟩ := atEnd
  obtain ⟨fewer, rfl⟩ := onTheWay
  refine ⟨passes, ?_⟩
  rw [← Function.iterate_add_apply, Nat.add_comm, Function.iterate_add_apply, atEnd,
    iterate_pass_ended]

/-- A search ends with one position only. -/
theorem ended_iff {position other : Point K}
    (atEnd : plan.Leads reference size state (.ended position)) :
    plan.Leads reference size state (.ended other) ↔ position = other := by
  constructor
  · intro otherEnd
    obtain ⟨passes, same⟩ := atEnd.ended otherEnd
    rw [iterate_pass_ended] at same
    exact (SearchState.ended.inj same).symm
  · rintro rfl
    exact atEnd

/-- A search that comes back to a state never ends. -/
theorem not_ended_of_cycle (passes : ℕ) {position : Point K}
    (cycle : (plan.pass reference size)^[passes + 1] state = state)
    (running : state ≠ .ended position) : ¬plan.Leads reference size state (.ended position) := by
  rintro ⟨enough, atEnd⟩
  have around : (plan.pass reference size)^[passes * enough + enough] state = state := by
    rw [← Nat.succ_mul, Function.iterate_mul]
    exact Function.iterate_fixed cycle enough
  rw [Function.iterate_add_apply, atEnd, iterate_pass_ended] at around
  exact running around.symm

end Leads

/-! ## Loops -/

/-- What becomes of a search in a loop with a given result: it ends with what is found, goes on to
another state when the loop is exhausted, and never ends in a loop that stalls. -/
def Meets (plan : Floorplan K) (reference : String) (size : Size K)
    (state next : SearchState K) : SearchResult (Point K) → Prop
  | .found position => plan.Leads reference size state (.ended position)
  | .exhausted => plan.Leads reference size state next
  | .stalled => ∀ position, ¬plan.Leads reference size state (.ended position)

theorem Leads.meets {middle : SearchState K} {result : SearchResult (Point K)}
    (leads : plan.Leads reference size state middle)
    (meets : plan.Meets reference size middle next result) :
    plan.Meets reference size state next result := by
  cases result with
  | found position => exact leads.trans meets
  | exhausted => exact leads.trans meets
  | stalled => exact fun position atEnd => meets position (atEnd.ended leads)

variable (stays : RisesOrStays plan.spacing)
include stays

/-- The passes through the places of a row do what trying its places one by one comes to. -/
theorem meets_row (y x : K) :
    plan.Meets reference size (.place y x) (.row (y + plan.spacing))
      (climb plan.spacing (size.width / 2.0) (plan.page.maxX + Page.slack)
        (fun x => plan.tryPlace reference size x y) x) := by
  fun_induction climb plan.spacing (size.width / 2.0) (plan.page.maxX + Page.slack)
    (fun x => plan.tryPlace reference size x y) x with
  | case1 x within refused _ inductionHypothesis =>
      refine Leads.meets (.of_pass ?_) inductionHypothesis
      rw [pass, if_pos within, tryPlace_exhausted refused, if_neg Bool.false_ne_true]
  | case2 x within refused notRising =>
      intro position
      apply Leads.not_ended_of_cycle 0
      · change plan.pass reference size (.place y x) = .place y x
        rw [pass, if_pos within, tryPlace_exhausted refused, if_neg Bool.false_ne_true,
          stays within notRising]
      · intro same
        cases same
  | case3 x within notRefused =>
      rw [tryPlace] at notRefused ⊢
      split at notRefused
      case isTrue accepted =>
        rw [if_pos accepted]
        apply Leads.of_pass
        rw [pass, if_pos within, if_pos accepted]
      case isFalse => exact absurd rfl notRefused
  | case4 x beyond => exact .of_pass (if_neg beyond)

/-- The passes through the rows do what trying row by row comes to. -/
theorem meets_scan (y : K) :
    plan.Meets reference size (.row y) (.ended (plan.cornerFor size))
      (climb plan.spacing (size.height / 2.0) (plan.page.maxY + Page.slack)
        (plan.scanRow reference size) y) := by
  have enters {y : K} (within : y + size.height / 2.0 ≤ plan.page.maxY + Page.slack) :
      plan.Meets reference size (.place y (plan.page.minX + size.width / 2.0))
          (.row (y + plan.spacing)) (plan.scanRow reference size y) ∧
        plan.pass reference size (.row y) = .place y (plan.page.minX + size.width / 2.0) :=
    ⟨meets_row stays y _, if_pos within⟩
  fun_induction climb plan.spacing (size.height / 2.0) (plan.page.maxY + Page.slack)
    (plan.scanRow reference size) y with
  | case1 y within refused _ inductionHypothesis =>
      obtain ⟨row, entry⟩ := enters within
      rw [refused] at row
      exact ((Leads.of_pass entry).trans row).meets inductionHypothesis
  | case2 y within refused notRising =>
      obtain ⟨row, entry⟩ := enters within
      rw [refused, stays within notRising] at row
      obtain ⟨passes, back⟩ := row
      intro position
      apply Leads.not_ended_of_cycle passes
      · rw [Function.iterate_succ_apply, entry, back]
      · intro same
        cases same
  | case3 y within notRefused =>
      obtain ⟨row, entry⟩ := enters within
      apply (Leads.of_pass entry).meets
      cases result : plan.scanRow reference size y with
      | found position =>
          rw [result] at row
          exact row
      | exhausted => exact absurd result notRefused
      | stalled =>
          rw [result] at row
          exact row
  | case4 y beyond => exact .of_pass (if_neg beyond)

/-! ## Searches -/

/-- A search returns nothing but the position that is found, and it does return unless it
stalls. -/
theorem returns_iff {occupant : Occupant} {preferred : Option (Point K)} {position : Point K} :
    plan.Returns reference occupant preferred position ↔
      (plan.find reference occupant preferred).source ≠ .stalled ∧
        (plan.find reference occupant preferred).position = position := by
  unfold Returns outset find findSpot
  cases plan.preferredSpot? reference occupant.bodySize preferred with
  | some spot =>
      rw [(Leads.refl _).ended_iff]
      exact (and_iff_right nofun).symm
  | none =>
      have met : plan.Meets reference occupant.bodySize
          (.row (plan.page.minY + occupant.bodySize.height / 2.0))
          (.ended (plan.cornerFor occupant.bodySize)) (plan.scan reference occupant.bodySize) :=
        meets_scan stays _
      cases result : plan.scan reference occupant.bodySize with
      | found spot =>
          rw [result] at met
          rw [Leads.ended_iff met]
          exact (and_iff_right nofun).symm
      | exhausted =>
          rw [result] at met
          rw [Leads.ended_iff met]
          exact (and_iff_right nofun).symm
      | stalled =>
          rw [result] at met
          exact iff_of_false (met position) fun returned => returned.1 rfl

end Floorplan
end CircuitSheet
