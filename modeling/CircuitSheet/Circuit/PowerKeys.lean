import CircuitSheet.Circuit.Basic
import CircuitSheet.Decimal.Digits

/-!
# Keys of power symbols

Every power symbol of a sheet needs a reference. One without gets the next numbered name
that no entity of the circuit bears; the numbers run on through the circuit.
-/

namespace CircuitSheet

/-- The reference with a number, written with at least three digits. -/
def powerName (number : Nat) : String :=
  "#PWR0" ++ String.ofList (Decimal.padZeros 3 (Decimal.natDigits number))

namespace Circuit

variable {K : Type}

/-- The first number after `counter` whose name is free. Among one more number than there are
entities one is free. -/
def nextPowerNumber (circuit : Circuit K) (counter : Nat) : Nat :=
  let candidates := List.range' (counter + 1) (circuit.entities.length + 1)
  (candidates.find? fun number => !circuit.isTaken (powerName number)).getD (counter + 1)

/-- The keys of power symbols when the numbers up to `counter` have been tried. -/
def keysFrom (circuit : Circuit K) (counter : Nat) : List (PowerSymbol K) → List String
  | [] => []
  | power :: rest =>
      if power.reference = "" then
        let number := circuit.nextPowerNumber counter
        powerName number :: circuit.keysFrom number rest
      else power.reference :: circuit.keysFrom counter rest

/-- The key of each power symbol of a circuit: its reference, or a numbered name. -/
def powerKeys (circuit : Circuit K) : List String :=
  circuit.keysFrom 0 circuit.powers

/-- Each power symbol with its key. -/
def keyedPowers (circuit : Circuit K) : List (PowerSymbol K × String) :=
  circuit.powers.zip circuit.powerKeys

theorem length_keysFrom (circuit : Circuit K) (counter : Nat) (powers : List (PowerSymbol K)) :
    (circuit.keysFrom counter powers).length = powers.length := by
  induction powers generalizing counter with
  | nil => rfl
  | cons head tail inductionHypothesis =>
      unfold keysFrom
      split <;> simp [inductionHypothesis]

/-- There is one key for each power symbol. -/
@[simp] theorem length_powerKeys (circuit : Circuit K) :
    circuit.powerKeys.length = circuit.powers.length :=
  circuit.length_keysFrom 0 circuit.powers

end Circuit
end CircuitSheet
