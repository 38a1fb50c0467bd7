/-!
# Scalars

Coordinates, lengths and angles are measured by scalars. The class lists the operations
that drawing a sheet needs, so that every later definition can be run on binary
floating-point numbers and studied over an ordered field as well.
-/

namespace CircuitSheet

/-- The arithmetic, order and rounding that coordinates need. No law is assumed except that
equal steps which keep on rising do not rise for ever below a ceiling. -/
class Scalar (K : Type) extends Add K, Sub K, Mul K, Div K, Neg K, LT K, LE K, OfScientific K where
  /-- Strict order is decidable. -/
  decideLT : DecidableLT K
  /-- Order is decidable. -/
  decideLE : DecidableLE K
  /-- The scalar of a count. -/
  ofNat : Nat → K
  /-- Whether a scalar is a number at all: neither infinite nor undefined. -/
  isFinite : K → Bool
  /-- The square root. -/
  sqrt : K → K
  /-- The nearest whole number; a half goes away from zero. -/
  nearest : K → K
  /-- The remainder of a division that lies between zero and the divisor. -/
  modulo : K → K → K
  /-- The sine of an angle in radians. -/
  sin : K → K
  /-- The cosine of an angle in radians. -/
  cos : K → K
  /-- Half a turn in radians. -/
  pi : K
  /-- Steps of one size that rise strictly cannot go on for ever below a ceiling. -/
  climb_wellFounded (step margin ceiling : K) :
    WellFounded fun higher lower : K =>
      lower < higher ∧ higher = lower + step ∧ lower + margin ≤ ceiling

namespace Scalar

-- A type that has an arithmetic of its own keeps it.
attribute [instance (100)] toAdd toSub toMul toDiv toNeg toLT toLE toOfScientific

variable {K : Type} [Scalar K]

instance (priority := 100) instDecidableLT : DecidableLT K := decideLT

instance (priority := 100) instDecidableLE : DecidableLE K := decideLE

/-- Neither number is greater than the other. -/
@[inline] def same (first second : K) : Bool :=
  decide (first ≤ second) && decide (second ≤ first)

/-- The distance from zero. -/
@[inline] def magnitude (value : K) : K :=
  if value < 0.0 then -value else value

/-- The smaller of two scalars; an undefined one gives way to the other. -/
@[inline] def lesser (first second : K) : K :=
  if first ≤ second then first
  else if second < first then second
  else if first ≤ first then first
  else second

/-- The larger of two scalars; an undefined one gives way to the other. -/
@[inline] def greater (first second : K) : K :=
  if second ≤ first then first
  else if first < second then second
  else if first ≤ first then first
  else second

/-- The product of a scalar with itself. -/
@[inline] def square (value : K) : K :=
  value * value

/-- An angle in radians from one in degrees. -/
@[inline] def radians (degrees : K) : K :=
  degrees * (pi / 180.0)

/-- The nearest multiple of a positive unit. -/
@[inline] def toMultiple (unit value : K) : K :=
  nearest (value / unit) * unit

/-- The value rounded to the grid of one over `scale`. -/
@[inline] def roundTo (scale value : K) : K :=
  nearest (value * scale) / scale

/-- Two scalars differ by at most a tolerance. -/
@[inline] def within (tolerance first second : K) : Bool :=
  decide (magnitude (first - second) ≤ tolerance)

/-- The sum of some scalars. It starts from the negative zero, which added to any scalar leaves
it as it is. -/
def total (values : List K) : K :=
  values.foldl (· + ·) (-0.0)

/-- The quotient of a sum and the number of its terms, or zero for no terms. -/
def average (sum : K) (count : Nat) : K :=
  if count = 0 then 0.0 else sum / ofNat count

end Scalar

/-- Scalars that can be written as decimal text and read back from it. -/
class ScalarText (K : Type) extends Scalar K where
  /-- The shortest decimal that reads back as the scalar, without an exponent. -/
  shortest : K → List Char
  /-- The decimal with a given number of places after the point. -/
  fixed : Nat → K → List Char
  /-- The scalar that a decimal text names. -/
  read? : List Char → Option K

end CircuitSheet
