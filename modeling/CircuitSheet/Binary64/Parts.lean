/-!
# The parts of a binary floating-point number

A double-precision number is not a number, infinite, or a signed whole number times a power
of two. Reading these parts and putting them together again makes exact integer arithmetic
available where rounding has to be decided exactly.
-/

namespace CircuitSheet
namespace Binary64

/-- What the bits of a floating-point number say. -/
inductive Parts
  | undefined
  | infinite (negative : Bool)
  | finite (negative : Bool) (mantissa : Nat) (exponent : Int)
  deriving DecidableEq, Repr

/-- The exponent of the last binary place of the smallest numbers. -/
def lowestExponent : Int := -1074

/-- The number of fractions that one exponent goes with. -/
def fractionCount : Nat := Nat.pow 2 52

/-- The number of biased exponents. -/
def exponentCount : Nat := Nat.pow 2 11

/-- What a minus sign adds to the bits. -/
def signBit : Nat := Nat.pow 2 63

/-- Split a number into sign, whole mantissa and binary exponent. -/
def parts (value : Float) : Parts :=
  let bits := value.toBits.toNat
  let negative := bits ≥ signBit
  let biased := bits / fractionCount % exponentCount
  let fraction := bits % fractionCount
  if biased = exponentCount - 1 then
    if fraction = 0 then .infinite negative else .undefined
  else if biased = 0 then .finite negative fraction lowestExponent
  else .finite negative (fractionCount + fraction) (lowestExponent + (biased - 1 : Nat))

/-- The number with a given sign, mantissa and binary exponent, when it is representable:
the mantissa has at most 53 significant places and none lies below the lowest place. -/
def ofParts (negative : Bool) (mantissa : Nat) (exponent : Int) : Float :=
  let sign : Nat := if negative then signBit else 0
  if mantissa = 0 then Float.ofBits (UInt64.ofNat sign)
  else
    let top := mantissa.log2
    let place := exponent + top
    if place > 1023 then Float.ofBits (UInt64.ofNat (sign + (exponentCount - 1) * fractionCount))
    else if place ≥ -1022 then
      let fraction := if top ≤ 52 then mantissa <<< (52 - top) else mantissa >>> (top - 52)
      let biased := (place + 1023).toNat
      Float.ofBits (UInt64.ofNat (sign + biased * fractionCount + fraction % fractionCount))
    else
      let shift := exponent - lowestExponent
      let fraction := if shift ≥ 0 then mantissa <<< shift.toNat else mantissa >>> (-shift).toNat
      Float.ofBits (UInt64.ofNat (sign + fraction))

/-- The whole number nearest to a mantissa over a power of two; a half is rounded up. -/
def roundHalfUp (mantissa : Nat) (places : Nat) : Nat :=
  (mantissa + Nat.pow 2 places / 2) / Nat.pow 2 places

/-- The nearest whole number; a half goes away from zero. Numbers from `2 ^ 52` on are whole
already. -/
def nearest (value : Float) : Float :=
  match parts value with
  | .finite negative mantissa exponent =>
      if exponent ≥ 0 then value
      else ofParts negative (roundHalfUp mantissa (-exponent).toNat) 0
  | _ => value

/-- The exact remainder that lies between zero and the size of the divisor, rounded once. -/
def modulo (value divisor : Float) : Float :=
  match parts value, parts divisor with
  | .finite negative mantissa exponent, .finite _ divisorMantissa divisorExponent =>
      if divisorMantissa = 0 then 0.0 / 0.0
      else
        let lowest := min exponent divisorExponent
        let dividend := mantissa <<< (exponent - lowest).toNat
        let unit := divisorMantissa <<< (divisorExponent - lowest).toNat
        let remainder := ofParts negative (dividend % unit) lowest
        if remainder < 0.0 then remainder + divisor.abs else remainder
  | .finite .., .infinite .. =>
      if value < 0.0 then value + divisor.abs else value
  | _, _ => 0.0 / 0.0

end Binary64
end CircuitSheet
