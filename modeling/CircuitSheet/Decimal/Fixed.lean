import CircuitSheet.Decimal.Digits
import CircuitSheet.Binary64.Parts

/-!
# Decimals with a fixed number of places

The exact value is rounded once to the wanted places, a half going to the even neighbour.
-/

namespace CircuitSheet
namespace Decimal

/-- The whole number nearest to a quotient; a half goes to the even neighbour. -/
def roundDivEven (numerator denominator : Nat) : Nat :=
  let quotient := numerator / denominator
  let twiceRest := 2 * (numerator % denominator)
  if twiceRest < denominator ∨ (twiceRest = denominator ∧ quotient % 2 = 0) then quotient
  else quotient + 1

/-- A number with `places` digits after the point. -/
def fixed (places : Nat) (value : Float) : List Char :=
  match Binary64.parts value with
  | .undefined => ['N', 'a', 'N']
  | .infinite negative => signed negative ['i', 'n', 'f']
  | .finite negative mantissa exponent =>
      let units :=
        roundDivEven (mantissa * Nat.pow 2 exponent.toNat * Nat.pow 10 places)
          (Nat.pow 2 (-exponent).toNat)
      signed negative (insertPoint places (natDigits units))

end Decimal
end CircuitSheet
