import CircuitSheet.Binary64
import CircuitSheet.Proofs.Wiring.Runs

/-!
# The direction of connections

Of two connections between the same terminals in opposite directions, either both are accepted
or none, and both leave the same neighbours, unless a power pin that gives supply meets a power
pin that takes it: then only the connection from the former to the latter is accepted.
-/

namespace CircuitSheet

variable {K : Type}

namespace Pin

/-- Joining pins depends on their order only where both are power pins of which one alone takes
supply. -/
theorem canJoin_comm_iff {first second : Pin K} :
    first.canJoin second = second.canJoin first ↔
      ¬(first.role = .power ∧ second.role = .power ∧
        first.direction.takesSupply ≠ second.direction.takesSupply) := by
  unfold canJoin
  by_cases firstPower : first.role = .power <;> by_cases secondPower : second.role = .power
  · simp [firstPower, secondPower, eq_comm]
  · simp [firstPower, secondPower]
  · simp [firstPower, secondPower]
  · simp only [firstPower, secondPower]
    grind [PinDirection.takesOutput]

/-- The first pin gives the supply that the second one takes. -/
structure Supplies (first second : Pin K) : Prop where
  power : first.role = .power
  gives : first.direction = .powerOut
  otherPower : second.role = .power
  takes : second.direction = .powerIn

theorem Supplies.canJoin {first second : Pin K} (supplies : first.Supplies second) :
    first.canJoin second = true := by
  simp [Pin.canJoin, supplies.power, supplies.takes, PinDirection.takesSupply]

theorem Supplies.not_canJoin {first second : Pin K} (supplies : first.Supplies second) :
    second.canJoin first = false := by
  simp [Pin.canJoin, supplies.otherPower, supplies.gives, PinDirection.takesSupply]

theorem canJoin_comm_iff_of_isBuiltIn [Scalar K] {first second : Pin K}
    (firstBuiltIn : first.IsBuiltIn) (secondBuiltIn : second.IsBuiltIn) :
    first.canJoin second = second.canJoin first ↔
      ¬(first.Supplies second ∨ second.Supplies first) := by
  rw [canJoin_comm_iff, not_iff_not]
  constructor
  · rintro ⟨firstPower, secondPower, differ⟩
    rcases firstBuiltIn.direction_eq firstPower with firstTakes | firstGives <;>
      rcases secondBuiltIn.direction_eq secondPower with secondTakes | secondGives
    · simp [firstTakes, secondTakes] at differ
    · exact .inr ⟨secondPower, secondGives, firstPower, firstTakes⟩
    · exact .inl ⟨firstPower, firstGives, secondPower, secondTakes⟩
    · simp [firstGives, secondGives] at differ
  · rintro (⟨power, gives, otherPower, takes⟩ | ⟨power, gives, otherPower, takes⟩)
    · exact ⟨power, otherPower, by simp [gives, takes, PinDirection.takesSupply]⟩
    · exact ⟨otherPower, power, by simp [gives, takes, PinDirection.takesSupply]⟩

end Pin

namespace Wiring

/-- The connection is accepted. -/
def Accepts (wiring : Wiring K) (source target : Terminal) : Prop :=
  ∃ result, wiring.connect source target = .ok result

/-- Of the pins at the two ends, one gives the supply that the other one takes. -/
def MeetsSupply (wiring : Wiring K) (source target : Terminal) : Prop :=
  ∃ first second, wiring.resolve source target = .ok first ∧
    wiring.resolve target source = .ok second ∧
    (first.pin.Supplies second.pin ∨ second.pin.Supplies first.pin)

theorem connect_eq_ok_iff {wiring after : Wiring K} {source target : Terminal}
    {first second : PlacedPin K} :
    wiring.connect source target = .ok ((first, second), after) ↔
      wiring.check source target = .ok (first, second) ∧ wiring.join first second = after := by
  unfold connect
  cases wiring.check source target with
  | error cause => simp
  | ok pins =>
      simp only [Except.ok.injEq, Prod.mk.injEq]
      grind

theorem accepts_iff {wiring : Wiring K} {source target : Terminal} :
    wiring.Accepts source target ↔
      ∃ first second, wiring.resolve source target = .ok first ∧
        wiring.resolve target source = .ok second ∧ first.pin.canJoin second.pin = true := by
  simp only [Accepts, Prod.exists, connect_eq_ok_iff, check_eq_ok_iff]
  simp

/-- Between terminals that stand for pins, acceptance is a matter of those pins. -/
theorem accepts_iff_canJoin {wiring : Wiring K} {source target : Terminal}
    {first second : PlacedPin K} (firstResolved : wiring.resolve source target = .ok first)
    (secondResolved : wiring.resolve target source = .ok second) :
    wiring.Accepts source target ↔ first.pin.canJoin second.pin = true := by
  rw [accepts_iff, firstResolved, secondResolved]
  simp

/-- Neighbours do not depend on the order in which two pins are joined. -/
theorem neighbours_join_comm (wiring : Wiring K) (first second : PlacedPin K) :
    (wiring.join first second).neighbours = (wiring.join second first).neighbours := by
  by_cases same : first.key = second.key
  · simp only [join, same]
  · apply Table.ext_of_find?
    intro key
    simp only [join, addNeighbour, Table.find?_alter]
    grind

/-- Where all pins are built in, acceptance depends on the direction exactly where supply meets
power. -/
theorem HasBuiltInPins.accepts_comm_iff [Scalar K] {wiring : Wiring K}
    (builtIn : wiring.HasBuiltInPins) (source target : Terminal) :
    (wiring.Accepts source target ↔ wiring.Accepts target source) ↔
      ¬wiring.MeetsSupply source target := by
  cases firstResolved : wiring.resolve source target with
  | error cause => simp [accepts_iff, MeetsSupply, firstResolved]
  | ok first =>
      cases secondResolved : wiring.resolve target source with
      | error cause => simp [accepts_iff, MeetsSupply, secondResolved]
      | ok second =>
          have firstBuiltIn := builtIn first (resolve_mem_allPins firstResolved)
          have secondBuiltIn := builtIn second (resolve_mem_allPins secondResolved)
          rw [accepts_iff_canJoin firstResolved secondResolved,
            accepts_iff_canJoin secondResolved firstResolved, ← Bool.eq_iff_iff,
            Pin.canJoin_comm_iff_of_isBuiltIn firstBuiltIn secondBuiltIn]
          simp [MeetsSupply, firstResolved, secondResolved]

/-- In every wiring that comes about, a connection is accepted in both directions or in neither,
exactly unless a power pin that gives supply meets one that takes it; then it is accepted from
the former to the latter alone. A connection that is accepted in both directions leaves the same
neighbours. -/
theorem connect_reversed [Scalar K] (actions : List (WiringAction K)) (source target : Terminal) :
    (((run actions).Accepts source target ↔ (run actions).Accepts target source) ↔
      ¬(run actions).MeetsSupply source target) ∧
    (∀ first second, (run actions).resolve source target = .ok first →
      (run actions).resolve target source = .ok second → first.pin.Supplies second.pin →
        (run actions).Accepts source target ∧ ¬(run actions).Accepts target source) ∧
    ∀ pins after pinsBack afterBack, (run actions).connect source target = .ok (pins, after) →
      (run actions).connect target source = .ok (pinsBack, afterBack) →
        after.neighbours = afterBack.neighbours := by
  refine ⟨?_, ?_, ?_⟩
  · exact (hasBuiltInPins_run actions).accepts_comm_iff source target
  · intro first second firstResolved secondResolved supplies
    rw [accepts_iff_canJoin firstResolved secondResolved,
      accepts_iff_canJoin secondResolved firstResolved]
    exact ⟨supplies.canJoin, by simp [supplies.not_canJoin]⟩
  · rintro ⟨first, second⟩ after ⟨second', first'⟩ afterBack connected connectedBack
    obtain ⟨accepted, rfl⟩ := connect_eq_ok_iff.mp connected
    obtain ⟨acceptedBack, rfl⟩ := connect_eq_ok_iff.mp connectedBack
    obtain ⟨firstResolved, secondResolved, -⟩ := check_eq_ok_iff.mp accepted
    obtain ⟨secondAgain, firstAgain, -⟩ := check_eq_ok_iff.mp acceptedBack
    obtain rfl := Except.ok.inj (firstResolved.symm.trans firstAgain)
    obtain rfl := Except.ok.inj (secondResolved.symm.trans secondAgain)
    exact neighbours_join_comm _ first second

/-- A battery and an integrated circuit. -/
def sampleActions : List (WiringAction Float) :=
  [.addComponent "BAT1" .battery ⟨20.0, 20.0⟩ 0.0,
    .addComponent "U1" .integratedCircuit ⟨80.0, 80.0⟩ 0.0]

/-- The grounds of a battery and an integrated circuit are joined in either direction. -/
theorem connect_reversed_grounds :
    ∃ pins after pinsBack afterBack,
      (run sampleActions).connect ⟨"BAT1", some "-"⟩ ⟨"U1", some "GND"⟩ = .ok (pins, after) ∧
      (run sampleActions).connect ⟨"U1", some "GND"⟩ ⟨"BAT1", some "-"⟩ =
        .ok (pinsBack, afterBack) ∧
      after.neighbours = afterBack.neighbours :=
  ⟨_, _, _, _, rfl, rfl, (connect_reversed sampleActions ⟨"BAT1", some "-"⟩
    ⟨"U1", some "GND"⟩).2.2 _ _ _ _ rfl rfl⟩

/-- A battery may be joined to the supply pin of an integrated circuit, but not the other way
round. -/
theorem connect_battery_backwards :
    (run sampleActions).Accepts ⟨"BAT1", some "+"⟩ ⟨"U1", some "VCC"⟩ ∧
      ¬(run sampleActions).Accepts ⟨"U1", some "VCC"⟩ ⟨"BAT1", some "+"⟩ := by
  refine ⟨⟨_, rfl⟩, ?_⟩
  rintro ⟨_, accepted⟩
  cases accepted

end Wiring
end CircuitSheet
