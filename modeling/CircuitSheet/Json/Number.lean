import CircuitSheet.Decimal.Reading

/-!
# Reading JSON numbers

A JSON number is read as a whole significand of at most 64 bits, scaled by one power of ten.
Digits that do not fit the significand only count for the scale. The significand and the
scaling are each rounded, and a number too large for the range is an error.
-/

namespace CircuitSheet
namespace Json

/-- The largest significand. -/
def largestSignificand : Nat := Nat.pow 2 64 - 1

/-- Append digits to a significand as long as it does not overflow; return also the digits
that are left. -/
def appendDigits (significand : Nat) : List Char → Nat × List Char
  | [] => (significand, [])
  | digit :: rest =>
      let longer := 10 * significand + Decimal.digitValue digit
      if longer > largestSignificand then (significand, digit :: rest)
      else appendDigits longer rest

/-- Ten to a power as a floating-point number. -/
def powerOfTen (exponent : Nat) : Float :=
  Float.ofScientific 1 false exponent

/-- Divide by a power of ten, in steps that are themselves in range. -/
def scaleDown (value : Float) (places : Nat) : Float :=
  if places ≤ 308 then value / powerOfTen places
  else if value == 0.0 then value
  else scaleDown (value / powerOfTen 308) (places - 308)
termination_by places

/-- Multiply by a power of ten; there is no result when it is too large. -/
def scaleUp? (value : Float) (zeros : Nat) : Option Float :=
  if zeros ≤ 308 then
    let scaled := value * powerOfTen zeros
    if scaled.isInf then none else some scaled
  else if value == 0.0 then some value
  else none

/-- The significand scaled by a power of ten. -/
def scale? (significand : Nat) (exponent : Int) : Option Float :=
  match exponent with
  | .ofNat zeros => scaleUp? (Float.ofNat significand) zeros
  | .negSucc places => some (scaleDown (Float.ofNat significand) (places + 1))

/-- The parts of the text of a number. -/
structure NumberParts where
  negative : Bool
  whole : List Char
  fraction : Option (List Char)
  exponent : Option Int

/-- Digits that follow a point, of which there has to be one at least. -/
def splitFraction? : List Char → Option (Option (List Char) × List Char)
  | '.' :: rest =>
      let (digits, after) := Decimal.spanDigits rest
      if digits.isEmpty then none else some (some digits, after)
  | text => some (none, text)

/-- A whole number with an optional sign that follows the letter of an exponent. -/
def splitExponent? : List Char → Option (Option Int × List Char)
  | [] => some (none, [])
  | letter :: rest =>
      if letter = 'e' ∨ letter = 'E' then
        let (negative, unsigned) := Decimal.splitSign rest
        let (digits, after) := Decimal.spanDigits unsigned
        if digits.isEmpty then none
        else
          let size : Int := Decimal.ofDigits digits
          some (some (if negative then -size else size), after)
      else some (none, letter :: rest)

/-- Take the number at the start of a text apart. A whole part has no superfluous zero. -/
def splitNumber? (text : List Char) : Option (NumberParts × List Char) := do
  let (negative, unsigned) :=
    match text with
    | '-' :: rest => (true, rest)
    | _ => (false, text)
  let (whole, afterWhole) := Decimal.spanDigits unsigned
  if whole.isEmpty || (whole.length > 1 && whole.head? == some '0') then none
  else
    let (fraction, afterFraction) ← splitFraction? afterWhole
    let (exponent, rest) ← splitExponent? afterFraction
    some (⟨negative, whole, fraction, exponent⟩, rest)

/-- The floating-point number for the parts of a number's text. -/
def NumberParts.value? (parts : NumberParts) : Option Float :=
  let (whole, dropped) := appendDigits 0 parts.whole
  let fraction := parts.fraction.getD []
  let (significand, unread) := appendDigits whole fraction
  let exponent : Int :=
    parts.exponent.getD 0 + dropped.length - (fraction.length - unread.length : Nat)
  let size :=
    if parts.fraction.isNone && parts.exponent.isNone && dropped.isEmpty then
      some (Float.ofNat significand)
    else scale? significand exponent
  size.map fun value => if parts.negative then -value else value

/-- The floating-point number that a text is. -/
def numberValue? (text : List Char) : Option Float :=
  match splitNumber? text with
  | some (parts, []) => parts.value?
  | _ => none

end Json
end CircuitSheet
