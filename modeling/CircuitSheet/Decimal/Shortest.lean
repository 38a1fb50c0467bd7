import CircuitSheet.Decimal.Digits
import CircuitSheet.Binary64.Parts

/-!
# Shortest decimals

The shortest decimal of a floating-point number is the nearest point of the coarsest decimal
grid that has a point within the reals that round to the number. Everything is decided in
exact whole-number arithmetic.
-/

namespace CircuitSheet
namespace Decimal

/-- Which of two equally near neighbours on a decimal grid is taken. -/
inductive Tie
  | up
  | toEven
  deriving DecidableEq, Repr

/-- The reals that round to a positive number, in quarters of its last binary place:
`low / 4` to `high / 4` units of two to the power `exponent`, the ends included or not. -/
structure Interval where
  low : Nat
  centre : Nat
  high : Nat
  exponent : Int
  closed : Bool
  deriving Repr

/-- The reals that round to a mantissa times a power of two. Below a power of two the
neighbour is only half as far away, except at the lowest exponent. -/
def Interval.ofParts (mantissa : Nat) (exponent : Int) : Interval where
  low := 4 * mantissa -
    (if mantissa = Binary64.fractionCount ∧ exponent ≠ Binary64.lowestExponent then 1 else 2)
  centre := 4 * mantissa
  high := 4 * mantissa + 2
  exponent := exponent - 2
  closed := mantissa % 2 = 0

/-- A decimal grid and a binary grid on one common scale: a point `d` of the decimal grid
and a point `n` of the binary one compare as `d * decimal` and `n * binary`. -/
structure CommonScale where
  decimal : Nat
  binary : Nat

/-- The common scale of a power of ten and a power of two. -/
def CommonScale.of (tens : Int) (twos : Int) : CommonScale where
  decimal := Nat.pow 10 tens.toNat * Nat.pow 2 (-twos).toNat
  binary := Nat.pow 10 (-tens).toNat * Nat.pow 2 twos.toNat

/-- A multiple of the decimal unit lies in the interval. -/
def Interval.contains (interval : Interval) (scale : CommonScale) (multiple : Nat) : Bool :=
  let point := multiple * scale.decimal
  if interval.closed then
    decide (interval.low * scale.binary ≤ point ∧ point ≤ interval.high * scale.binary)
  else
    decide (interval.low * scale.binary < point ∧ point < interval.high * scale.binary)

/-- The multiple of ten to the power `tens` in the interval that is nearest to its centre. -/
def Interval.nearestOn? (interval : Interval) (tie : Tie) (tens : Int) : Option Nat :=
  let scale := CommonScale.of tens interval.exponent
  let below := interval.centre * scale.binary / scale.decimal
  let above := below + 1
  match interval.contains scale below, interval.contains scale above with
  | false, false => none
  | true, false => some below
  | false, true => some above
  | true, true =>
      let twiceCentre := 2 * (interval.centre * scale.binary)
      let middle := (below + above) * scale.decimal
      if twiceCentre < middle then some below
      else if middle < twiceCentre then some above
      else if tie = .toEven ∧ below % 2 = 0 then some below
      else some above

/-- Search ever finer grids for a point of the interval. -/
def Interval.shortest (interval : Interval) (tie : Tie) : Nat → Int → Digits
  | 0, tens => ⟨(interval.nearestOn? tie tens).getD 0, tens⟩
  | finer + 1, tens =>
      match interval.nearestOn? tie tens with
      | some multiple => ⟨multiple, tens⟩
      | none => interval.shortest tie finer (tens - 1)

/-- The shortest decimal of a mantissa times a power of two. The search starts at a grid that
is coarser than the number itself; eighteen finer ones reach past seventeen digits, which
always suffice. -/
def shortestDigits (tie : Tie) (mantissa : Nat) (exponent : Int) : Digits :=
  if mantissa = 0 then ⟨0, 0⟩
  else
    let start := (exponent + mantissa.log2) * 30103 / 100000 + 1
    (Interval.ofParts mantissa exponent).shortest tie 20 start

/-- The shortest decimal without an exponent; a number half way between two candidates is
written as the upper one. -/
def plain (value : Float) : List Char :=
  match Binary64.parts value with
  | .undefined => ['N', 'a', 'N']
  | .infinite negative => signed negative ['i', 'n', 'f']
  | .finite negative mantissa exponent =>
      signed negative (shortestDigits .up mantissa exponent).plain

/-- The shortest decimal in compact form, for finite numbers. -/
def compact? (mark : ExponentMark) (value : Float) : Option (List Char) :=
  match Binary64.parts value with
  | .finite negative mantissa exponent =>
      some (signed negative ((shortestDigits .toEven mantissa exponent).compact mark))
  | _ => none

end Decimal
end CircuitSheet
