/-!
# Decimal digits

A decimal number is a whole number of units of a power of ten. This module writes such
numbers as text: in plain positional form, or in the compact form that changes to an
exponent when the number grows too long.
-/

namespace CircuitSheet
namespace Decimal

/-- `coefficient` units of ten to the power `scale`. -/
structure Digits where
  coefficient : Nat
  scale : Int
  deriving DecidableEq, Repr

/-- The decimal digits of a count. -/
def natDigits (number : Nat) : List Char :=
  Nat.toDigits 10 number

/-- Fill a text up to a width with leading zeros. -/
def padZeros (width : Nat) (digits : List Char) : List Char :=
  List.replicate (width - digits.length) '0' ++ digits

@[simp] theorem length_padZeros (width : Nat) (digits : List Char) :
    (padZeros width digits).length = max width digits.length := by
  simp [padZeros]
  omega

/-- Put a point in front of the last `places` digits, with a digit before it. -/
def insertPoint (places : Nat) (digits : List Char) : List Char :=
  let padded := padZeros (places + 1) digits
  if places = 0 then padded
  else
    let whole := padded.length - places
    padded.take whole ++ '.' :: padded.drop whole

/-- Whether a plus sign marks an exponent that is not negative. -/
inductive ExponentMark
  | unmarked
  | plus
  deriving DecidableEq, Repr

/-- An exponent with its mark. -/
def ExponentMark.text (mark : ExponentMark) (exponent : Int) : List Char :=
  let digits := (toString exponent).toList
  match mark with
  | .unmarked => digits
  | .plus => if exponent < 0 then digits else '+' :: digits

/-- A minus sign in front of a negative number. -/
def signed (negative : Bool) (text : List Char) : List Char :=
  if negative then '-' :: text else text

namespace Digits

/-- Every digit in its place, with no exponent and no superfluous point. -/
def plain (number : Digits) : List Char :=
  if number.coefficient = 0 then ['0']
  else
    match number.scale with
    | .ofNat zeros => natDigits number.coefficient ++ List.replicate zeros '0'
    | .negSucc places => insertPoint (places + 1) (natDigits number.coefficient)

/-- The exponent of the leading digit, plus one. -/
def pointPosition (number : Digits) : Int :=
  (natDigits number.coefficient).length + number.scale

/-- Numbers of at most sixteen places before the point and four zeros after it are written
positionally, and always with a fractional part; all others with an exponent. -/
def compact (mark : ExponentMark) (number : Digits) : List Char :=
  let digits := natDigits number.coefficient
  let position := number.pointPosition
  if number.coefficient = 0 then ['0', '.', '0']
  else if 0 ≤ number.scale ∧ position ≤ 16 then number.plain ++ ['.', '0']
  else if -5 < position ∧ position ≤ 16 then number.plain
  else
    let exponent := mark.text (position - 1)
    match digits with
    | leading :: second :: others => leading :: '.' :: second :: others ++ 'e' :: exponent
    | _ => digits ++ 'e' :: exponent

end Digits
end Decimal
end CircuitSheet
