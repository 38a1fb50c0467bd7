import CircuitSheet.Decimal.Reading
import CircuitSheet.Geometry.Point
import Mathlib

/-!
# Exact arithmetic

The real numbers are scalars with exact operations. Those that are whole numbers of units of a
power of ten have a decimal text; a decimal text names the number it denotes.
-/

namespace CircuitSheet
namespace Exact

/-! ## Rounding -/

/-- The nearest whole number; a half goes away from zero. -/
noncomputable def nearest (value : ℝ) : ℤ :=
  if value < 0 then ⌈value - 1 / 2⌉ else ⌊value + 1 / 2⌋

/-- The nearest whole number; a half goes to the even neighbour. -/
noncomputable def nearestEven (value : ℝ) : ℤ :=
  if Int.fract value < 1 / 2 ∨ (Int.fract value = 1 / 2 ∧ Even ⌊value⌋) then ⌊value⌋
  else ⌊value⌋ + 1

/-- The remainder of a division that lies between zero and the divisor. -/
noncomputable def modulo (value divisor : ℝ) : ℝ :=
  value - |divisor| * ⌊value / |divisor|⌋

/-! ## Decimals -/

/-- The number is a whole number of units of ten to the power `-places`. -/
def HasPlaces (places : ℕ) (value : ℝ) : Prop :=
  ∃ units : ℤ, value = units / 10 ^ places

/-- The number has a decimal that ends. -/
def IsDecimal (value : ℝ) : Prop :=
  ∃ places, HasPlaces places value

/-- The least number of places of a decimal. -/
noncomputable def places (value : ℝ) : ℕ :=
  sInf {places | HasPlaces places value}

/-- Units of ten to the power `-places`, with a point in front of the places. -/
def decimalText (places : ℕ) (units : ℤ) : List Char :=
  Decimal.signed (decide (units < 0)) (Decimal.insertPoint places (Decimal.natDigits units.natAbs))

/-- The decimal text without superfluous places. A number whose decimal does not end has the
text of its whole part. -/
noncomputable def shortest (value : ℝ) : List Char :=
  decimalText (places value) ⌊value * 10 ^ places value⌋

/-- The decimal text with a number of places. -/
noncomputable def fixed (places : ℕ) (value : ℝ) : List Char :=
  Decimal.signed (decide (value < 0))
    (Decimal.insertPoint places (Decimal.natDigits (nearestEven (|value| * 10 ^ places)).natAbs))

/-- The number that a literal denotes, if it denotes one. -/
noncomputable def ofLiteral? : Decimal.Literal → Option ℝ
  | .number negative coefficient scale =>
      some ((if negative then -1 else 1) * coefficient * 10 ^ scale)
  | _ => none

/-- Steps of one size that rise cannot go on for ever below a ceiling. -/
theorem climb_wellFounded (step margin ceiling : ℝ) :
    WellFounded fun higher lower : ℝ =>
      lower < higher ∧ higher = lower + step ∧ lower + margin ≤ ceiling := by
  -- The measure counts the steps that are left.
  let left (lower : ℝ) : ℕ := ⌊(ceiling - margin - lower) / step + 1⌋₊
  refine Subrelation.wf ?_ (measure left).wf
  rintro higher lower ⟨rises, rfl, below⟩
  have positive : 0 < step := by linarith
  have room : 0 ≤ (ceiling - margin - lower) / step :=
    div_nonneg (by linarith) positive.le
  have next : (ceiling - margin - (lower + step)) / step + 1 =
      (ceiling - margin - lower) / step := by
    field_simp
    ring
  change ⌊(ceiling - margin - (lower + step)) / step + 1⌋₊ <
    ⌊(ceiling - margin - lower) / step + 1⌋₊
  rw [next, Nat.floor_add_one room]
  exact Nat.lt_succ_self _

end Exact

noncomputable instance : ScalarText ℝ where
  decideLT := inferInstance
  decideLE := inferInstance
  ofNat count := count
  isFinite _ := true
  sqrt := Real.sqrt
  nearest value := Exact.nearest value
  modulo := Exact.modulo
  sin := Real.sin
  cos := Real.cos
  pi := Real.pi
  climb_wellFounded := Exact.climb_wellFounded
  shortest := Exact.shortest
  fixed := Exact.fixed
  read? text := (Decimal.literal? text).bind Exact.ofLiteral?

namespace Exact

/-- A number that is rounded stays as it is. -/
theorem nearest_intCast (units : ℤ) : nearest (units : ℝ) = units := by
  unfold nearest
  split
  · rw [Int.ceil_eq_iff]
    constructor <;> norm_num
  · rw [Int.floor_eq_iff]
    constructor <;> norm_num

/-- Two real numbers of which neither is greater are equal. -/
@[simp] theorem same_iff {first second : ℝ} :
    Scalar.same first second = true ↔ first = second := by
  rw [Scalar.same, Bool.and_eq_true, decide_eq_true_iff, decide_eq_true_iff]
  exact antisymm_iff

@[simp] theorem isFinite_eq_true (value : ℝ) : Scalar.isFinite value = true := rfl

@[simp] theorem magnitude_eq_abs (value : ℝ) : Scalar.magnitude value = |value| := by
  change (if value < 0.0 then -value else value) = |value|
  rw [show (0.0 : ℝ) = 0 by norm_num]
  split
  case isTrue negative => rw [abs_of_neg negative]
  case isFalse positive => rw [abs_of_nonneg (not_lt.mp positive)]

@[simp] theorem lesser_eq_min (first second : ℝ) :
    Scalar.lesser first second = min first second := by
  unfold Scalar.lesser
  split
  case isTrue le => rw [min_eq_left le]
  case isFalse above =>
    have lt : second < first := not_le.mp above
    rw [if_pos lt, min_eq_right lt.le]

@[simp] theorem greater_eq_max (first second : ℝ) :
    Scalar.greater first second = max first second := by
  unfold Scalar.greater
  split
  case isTrue le => rw [max_eq_left le]
  case isFalse above =>
    have lt : first < second := not_le.mp above
    rw [if_pos lt, max_eq_right lt.le]

end Exact
end CircuitSheet
