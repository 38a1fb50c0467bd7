import CircuitSheet.Floorplan.Arrangement
import CircuitSheet.Proofs.Floorplan.Search

/-!
# Runs of a floorplan

Whatever is asked of a floorplan comes down to placings: one item after the other is given a
spot and recorded there. An invariant of single placings therefore holds throughout a run.
-/

namespace CircuitSheet

/-- What can be asked of a floorplan. -/
inductive LayoutAction (K : Type)
  | place (item : LayoutItem) (preferred : Option (Point K))
  | arrange (items : List LayoutItem) (strategy : LayoutStrategy)
  | layOut (circuit : Circuit K) (strategy : Option LayoutStrategy)
  | clear

/-- An item that is placed on a floorplan. -/
structure Placing (K : Type) where
  before : Floorplan K
  item : LayoutItem
  preferred : Option (Point K)

variable {K : Type} [Scalar K]

namespace Placing

/-- The spot that the item is given. -/
def spot (placing : Placing K) : Spot K :=
  placing.before.find placing.item.reference placing.item.occupant placing.preferred

/-- The body that is recorded. -/
def body (placing : Placing K) : Body K :=
  ⟨placing.item.reference, placing.spot.position, placing.item.occupant.bodySize⟩

/-- The floorplan with the body. -/
def after (placing : Placing K) : Floorplan K :=
  placing.before.record placing.body

/-- What is told of the placing. -/
def outcome (placing : Placing K) : String × Spot K :=
  (placing.item.reference, placing.spot)

/-- The item found room, at its preferred position or in the scan. -/
def FoundRoom (placing : Placing K) : Prop :=
  placing.spot.source = .preferred ∨ placing.spot.source = .scanned

end Placing

namespace Floorplan

/-! ## Actions -/

/-- Where an action puts things, and the floorplan after it. -/
def perform (plan : Floorplan K) : LayoutAction K → List (String × Spot K) × Floorplan K
  | .place item preferred =>
      let (spot, next) := plan.place item.reference item.occupant preferred
      ([(item.reference, spot)], next)
  | .arrange items strategy => plan.arrange items strategy
  | .layOut circuit strategy =>
      let laidOut := plan.layOut circuit strategy
      (laidOut.spots, laidOut.plan)
  | .clear => ([], plan.cleared)

/-- Where actions put things one after the other, and the floorplan after all of them. -/
def performAll (plan : Floorplan K) :
    List (LayoutAction K) → List (String × Spot K) × Floorplan K
  | [] => ([], plan)
  | action :: rest =>
      let (spots, next) := plan.perform action
      let (others, last) := next.performAll rest
      (spots ++ others, last)

/-- An item with the position that it prefers. -/
def request (preference : LayoutItem × Point K) : LayoutItem × Option (Point K) :=
  (preference.1, some preference.2)

/-- The components of a circuit with the positions that they prefer, by a strategy or as they
were described. -/
def componentRequests (plan : Floorplan K) (components : List (Component K)) :
    Option LayoutStrategy → List (LayoutItem × Option (Point K))
  | some strategy => (plan.preferences (components.map itemOf) strategy).map request
  | none => components.map fun component => request (itemOf component, component.position)

/-- Power symbols under their keys, with their described positions. -/
def powerRequests (keyed : List (PowerSymbol K × String)) :
    List (LayoutItem × Option (Point K)) :=
  keyed.map fun (power, key) => request (⟨key, .power⟩, power.position)

/-- The items that an action places, with the positions that they prefer. -/
def requests (plan : Floorplan K) : LayoutAction K → List (LayoutItem × Option (Point K))
  | .place item preferred => [(item, preferred)]
  | .arrange items strategy => (plan.preferences items strategy).map request
  | .layOut circuit strategy =>
      plan.componentRequests circuit.components strategy ++ powerRequests circuit.keyedPowers
  | .clear => []

/-- The placings of items one after the other. -/
def placings (plan : Floorplan K) : List (LayoutItem × Option (Point K)) → List (Placing K)
  | [] => []
  | (item, preferred) :: rest =>
      let placing : Placing K := ⟨plan, item, preferred⟩
      placing :: placing.after.placings rest

/-- The floorplan after placing items one after the other. -/
def afterAll (plan : Floorplan K) (items : List (LayoutItem × Option (Point K))) : Floorplan K :=
  (plan.placings items).foldl (fun _ placing => placing.after) plan

/-- All placings of a run. -/
def history (plan : Floorplan K) : List (LayoutAction K) → List (Placing K)
  | [] => []
  | action :: rest =>
      plan.placings (plan.requests action) ++ (plan.perform action).2.history rest

/-! ## Actions come down to placings -/

theorem placings_append (plan : Floorplan K) (first second : List (LayoutItem × Option (Point K))) :
    plan.placings (first ++ second) =
      plan.placings first ++ (plan.afterAll first).placings second := by
  induction first generalizing plan with
  | nil => rfl
  | cons head rest inductionHypothesis =>
      obtain ⟨item, preferred⟩ := head
      simp only [List.cons_append, placings, inductionHypothesis]
      rfl

theorem afterAll_append (plan : Floorplan K) (first second : List (LayoutItem × Option (Point K))) :
    plan.afterAll (first ++ second) = (plan.afterAll first).afterAll second := by
  rw [afterAll, placings_append, List.foldl_append]
  rfl

theorem placeAll_eq (plan : Floorplan K) (preferences : List (LayoutItem × Point K)) :
    plan.placeAll preferences =
      ((plan.placings (preferences.map request)).map Placing.outcome,
        plan.afterAll (preferences.map request)) := by
  induction preferences generalizing plan with
  | nil => rfl
  | cons head rest inductionHypothesis =>
      obtain ⟨item, preferred⟩ := head
      simp only [placeAll, place, inductionHypothesis]
      rfl

theorem placeComponents_eq (plan : Floorplan K) (components : List (Component K))
    (strategy : Option LayoutStrategy) :
    (plan.placeComponents components strategy).spots =
        (plan.placings (plan.componentRequests components strategy)).map Placing.outcome ∧
      (plan.placeComponents components strategy).plan =
        plan.afterAll (plan.componentRequests components strategy) := by
  cases strategy with
  | some strategy => simp only [placeComponents, arrange, placeAll_eq, componentRequests, and_self]
  | none =>
      simp only [placeComponents, placeAll_eq, componentRequests, List.map_map]
      exact ⟨rfl, rfl⟩

theorem placePowers_eq (plan : Floorplan K) (keyed : List (PowerSymbol K × String)) :
    (plan.placePowers keyed).spots = (plan.placings (powerRequests keyed)).map Placing.outcome ∧
      (plan.placePowers keyed).plan = plan.afterAll (powerRequests keyed) := by
  simp only [placePowers, placeAll_eq, powerRequests, List.map_map]
  exact ⟨rfl, rfl⟩

/-- What an action tells is what its placings tell. -/
theorem perform_outcomes (plan : Floorplan K) (action : LayoutAction K) :
    (plan.perform action).1 = (plan.placings (plan.requests action)).map Placing.outcome := by
  cases action with
  | place item preferred => rfl
  | arrange items strategy => simp only [perform, arrange, placeAll_eq, requests]
  | layOut circuit strategy =>
      obtain ⟨componentSpots, componentPlan⟩ :=
        plan.placeComponents_eq circuit.components strategy
      obtain ⟨powerSpots, -⟩ :=
        (plan.afterAll (plan.componentRequests circuit.components strategy)).placePowers_eq
          circuit.keyedPowers
      simp only [perform, layOut, requests, placings_append, List.map_append, powerSpots,
        componentSpots, componentPlan]
  | clear => rfl

/-- Laying out a circuit leaves what its placings leave. -/
theorem plan_layOut (plan : Floorplan K) (circuit : Circuit K) (strategy : Option LayoutStrategy) :
    (plan.layOut circuit strategy).plan =
      plan.afterAll (plan.requests (.layOut circuit strategy)) := by
  obtain ⟨-, componentPlan⟩ := plan.placeComponents_eq circuit.components strategy
  obtain ⟨-, powerPlan⟩ :=
    (plan.afterAll (plan.componentRequests circuit.components strategy)).placePowers_eq
      circuit.keyedPowers
  simp only [layOut, requests, afterAll_append, powerPlan, componentPlan]

/-- An action that does not clear the floorplan leaves what its placings leave. -/
theorem perform_plan (plan : Floorplan K) (action : LayoutAction K) :
    (plan.perform action).2 = plan.afterAll (plan.requests action) ∨
      (plan.perform action).2 = plan.cleared := by
  cases action with
  | place item preferred => exact .inl rfl
  | arrange items strategy =>
      exact .inl (by simp only [perform, arrange, placeAll_eq, requests])
  | layOut circuit strategy => exact .inl (plan.plan_layOut circuit strategy)
  | clear => exact .inr rfl

/-- What a run tells is what its placings tell. -/
theorem performAll_outcomes (plan : Floorplan K) (actions : List (LayoutAction K)) :
    (plan.performAll actions).1 = (plan.history actions).map Placing.outcome := by
  induction actions generalizing plan with
  | nil => rfl
  | cons action rest inductionHypothesis =>
      simp only [performAll, history, List.map_append, perform_outcomes, inductionHypothesis]

/-! ## Invariants -/

/-- What holds at the start and is kept by every placing holds before all of them and at the
end. -/
theorem placings_invariant {invariant : Floorplan K → Prop} {plan : Floorplan K}
    {items : List (LayoutItem × Option (Point K))} (start : invariant plan)
    (kept : ∀ placing ∈ plan.placings items, invariant placing.before → invariant placing.after) :
    (∀ placing ∈ plan.placings items, invariant placing.before) ∧
      invariant (plan.afterAll items) := by
  induction items generalizing plan with
  | nil => exact ⟨nofun, start⟩
  | cons head rest inductionHypothesis =>
      obtain ⟨item, preferred⟩ := head
      obtain ⟨keptHere, keptLater⟩ := List.forall_mem_cons.mp kept
      obtain ⟨before, last⟩ := inductionHypothesis (keptHere start) keptLater
      exact ⟨List.forall_mem_cons.mpr ⟨start, before⟩, last⟩

/-- What holds at the start and is kept by every placing and by clearing the floorplan holds
throughout a run. -/
theorem history_invariant {invariant : Floorplan K → Prop} {plan : Floorplan K}
    {actions : List (LayoutAction K)} (start : invariant plan)
    (kept : ∀ placing ∈ plan.history actions, invariant placing.before → invariant placing.after)
    (keptByClearing : ∀ plan, invariant plan → invariant plan.cleared) :
    (∀ placing ∈ plan.history actions, invariant placing.before) ∧
      invariant (plan.performAll actions).2 := by
  induction actions generalizing plan with
  | nil => exact ⟨nofun, start⟩
  | cons action rest inductionHypothesis =>
      obtain ⟨keptHere, keptLater⟩ := List.forall_mem_append.mp kept
      obtain ⟨before, afterPlacings⟩ := placings_invariant start keptHere
      have next : invariant (plan.perform action).2 := by
        rcases plan.perform_plan action with same | cleared
        · exact same ▸ afterPlacings
        · exact cleared ▸ keptByClearing plan start
      obtain ⟨later, last⟩ := inductionHypothesis next keptLater
      exact ⟨List.forall_mem_append.mpr ⟨before, later⟩, last⟩

end Floorplan
end CircuitSheet
