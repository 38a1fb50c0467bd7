import CircuitSheet.Decimal.Digits
import CircuitSheet.Binary64.Parts

/-!
# Reading decimals

A decimal literal is an optional sign followed by digits with an optional point and an
optional exponent, or one of the words for infinity and for an undefined number in any case
of letters. At least one digit has to stand beside the point.
-/

namespace CircuitSheet
namespace Decimal

/-- What a decimal literal names. -/
inductive Literal
  | undefined
  | infinite (negative : Bool)
  | number (negative : Bool) (coefficient : Nat) (scale : Int)
  deriving DecidableEq, Repr

/-- The value of a digit. -/
def digitValue (digit : Char) : Nat :=
  digit.toNat - '0'.toNat

/-- The number that decimal digits name. -/
def ofDigits (digits : List Char) : Nat :=
  digits.foldl (fun number digit => 10 * number + digitValue digit) 0

/-- Split the leading digits off a text. -/
def spanDigits (text : List Char) : List Char × List Char :=
  (text.takeWhile Char.isDigit, text.dropWhile Char.isDigit)

/-- Split a leading sign off a text; `true` stands for a minus. -/
def splitSign : List Char → Bool × List Char
  | '-' :: rest => (true, rest)
  | '+' :: rest => (false, rest)
  | text => (false, text)

/-- The exponent part of a literal: empty, or a letter and a whole number. -/
def exponent? : List Char → Option Int
  | [] => some 0
  | letter :: rest =>
      if letter = 'e' ∨ letter = 'E' then
        let (negative, digits) := splitSign rest
        if digits.isEmpty || !digits.all Char.isDigit then none
        else
          let size : Int := ofDigits digits
          some (if negative then -size else size)
      else none

/-- The fractional part of a literal and what follows it. -/
def splitFraction : List Char → List Char × List Char
  | '.' :: rest => spanDigits rest
  | text => ([], text)

/-- An unsigned literal made of digits. -/
def unsigned? (negative : Bool) (text : List Char) : Option Literal :=
  let (whole, afterWhole) := spanDigits text
  let (fraction, afterFraction) := splitFraction afterWhole
  if whole.isEmpty && fraction.isEmpty then none
  else
    match exponent? afterFraction with
    | none => none
    | some exponent =>
        some (.number negative (ofDigits (whole ++ fraction)) (exponent - fraction.length))

/-- The literal that a whole text is. -/
def literal? (text : List Char) : Option Literal :=
  let (negative, rest) := splitSign text
  let word := rest.map Char.toLower
  if word = ['i', 'n', 'f'] ∨ word = ['i', 'n', 'f', 'i', 'n', 'i', 't', 'y'] then
    some (.infinite negative)
  else if word = ['n', 'a', 'n'] then some .undefined
  else unsigned? negative rest

/-- The nearest floating-point number. Numbers far beyond either end of the range are
infinite or zero without their power of ten being computed. -/
def Literal.value : Literal → Float
  | .undefined => 0.0 / 0.0
  | .infinite negative => if negative then -(1.0 / 0.0) else 1.0 / 0.0
  | .number negative coefficient scale =>
      let top := (natDigits coefficient).length + scale
      let size : Float :=
        if coefficient = 0 then 0.0
        else if top > 400 then 1.0 / 0.0
        else if top < -400 then 0.0
        else
          match scale with
          | .ofNat zeros => Float.ofScientific coefficient false zeros
          | .negSucc places => Float.ofScientific coefficient true (places + 1)
      if negative then -size else size

/-- The floating-point number nearest to the literal that a text is. -/
def read? (text : List Char) : Option Float :=
  (literal? text).map Literal.value

end Decimal
end CircuitSheet
