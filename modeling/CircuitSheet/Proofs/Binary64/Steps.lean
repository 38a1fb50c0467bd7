import CircuitSheet.Proofs.Binary64.Order

/-!
# Steps in double precision

A finite number and a positive step have a sum above the number, or else the step is lost in
rounding and the sum is the number itself. The step is not lost as long as the number is not too
many times as large.
-/

namespace CircuitSheet
namespace Binary64

open Float.Model

/-! ## Infinite numbers -/

theorem parts_pack_infinity (negative : Bool) :
    parts (.ofModel (.pack (.infinity (signOf negative)))) = .infinite negative := by
  cases negative <;> rfl

/-- An infinite number compares with a finite one by its sign. -/
theorem compare_infinite {value bound : Float} {negative : Bool} (finite : value.isFinite = true)
    (infinite : parts bound = .infinite negative) :
    bound.toModel.unpack.compare value.toModel.unpack = some (if negative then .lt else .gt) ∧
      value.toModel.unpack.compare bound.toModel.unpack =
        some (if negative then .gt else .lt) := by
  obtain ⟨sign, mantissa, exponent, valueParts⟩ := isFinite_iff.mp finite
  rw [unpack_eq_unpacked, unpack_eq_decoded valueParts, infinite, Parts.unpacked, decoded]
  cases negative <;> split <;> exact ⟨rfl, rfl⟩

theorem lt_of_infinite {value bound : Float} (finite : value.isFinite = true)
    (infinite : parts bound = .infinite false) : value < bound := by
  rw [lt_iff_unpacked, UnpackedFloat.lt, (compare_infinite finite infinite).2]
  rfl

theorem infinite_lt {value bound : Float} (finite : value.isFinite = true)
    (infinite : parts bound = .infinite true) : bound < value := by
  rw [lt_iff_unpacked, UnpackedFloat.lt, (compare_infinite finite infinite).1]
  rfl

theorem not_infinite_le {value bound : Float} (finite : value.isFinite = true)
    (infinite : parts bound = .infinite false) : ¬bound ≤ value := by
  rw [le_iff_unpacked, UnpackedFloat.le, (compare_infinite finite infinite).1]
  exact Bool.false_ne_true

/-- No step leads away from an infinite number. -/
theorem add_eq_of_infinite {value step : Float} {negative : Bool}
    (infinite : parts value = .infinite negative) (finite : step.isFinite = true) :
    value + step = value := by
  obtain ⟨sign, mantissa, exponent, stepParts⟩ := isFinite_iff.mp finite
  have sum : value + step = .ofModel (.pack (.infinity (signOf negative))) := by
    change Float.ofModel (.pack (UnpackedFloat.add Format.binary64 value.toModel.unpack
      step.toModel.unpack)) = _
    rw [unpack_eq_unpacked, infinite, unpack_eq_decoded stepParts, decoded]
    split <;> rfl
  exact eq_of_infinite (sum ▸ parts_pack_infinity negative) infinite

/-- What is undefined is not below a bound after an addition. -/
theorem not_add_le_of_undefined {value : Float} (undefined : parts value = .undefined)
    (margin ceiling : Float) : ¬value + margin ≤ ceiling := by
  have sum : value + margin = .ofModel (.pack .notANumber) := by
    change Float.ofModel (.pack (UnpackedFloat.add Format.binary64 value.toModel.unpack
      margin.toModel.unpack)) = _
    rw [unpack_eq_unpacked, undefined]
    generalize margin.toModel.unpack = unpacked
    cases unpacked <;> rfl
  rw [le_iff_unpacked, sum]
  change ¬UnpackedFloat.le .notANumber _ = true
  exact Bool.false_ne_true

/-! ## Sums that are too large -/

/-- A number beyond the highest exponent is packed as an infinite one. -/
theorem parts_pack_of_beyond {mantissa : ℕ} {exponent : ℤ} (positive : 0 < mantissa)
    (beyond : 971 < exponent) (negative : Bool) :
    parts (.ofModel (.pack (decoded negative mantissa exponent))) = .infinite negative := by
  have packed : UnpackedFloat.pack Format.binary64 (decoded negative mantissa exponent) =
      UnpackedFloat.pack Format.binary64 (.infinity (signOf negative)) := by
    have tooLarge : 2 ^ 11 ≤ (exponent + Format.binary64.exponentBias + (52 : ℕ)).toNat + 1 := by
      rw [show (Format.binary64.exponentBias : ℤ) = 1023 from rfl]
      omega
    rw [decoded_of_pos positive]
    exact if_pos tooLarge
  have same : Float.ofModel (.pack (decoded negative mantissa exponent)) =
      .ofModel (.pack (.infinity (signOf negative))) :=
    eq_of_toBits (congrArg BitVec.toNat packed)
  rw [same]
  exact parts_pack_infinity negative

section

variable {value : ℚ} {whole : ℕ} {place : ℤ} (rounded : IsRounded value whole place)
  (large : overflow ≤ value)
include rounded large

theorem IsRounded.le_place_of_overflow : 971 ≤ place := by
  by_contra fine
  have below : value < 2 ^ (52 + 971 : ℤ) :=
    rounded.below.trans_le (zpow_le_zpow_right₀ one_le_two (by omega))
  rw [zpow_add₀ two_ne_zero, ← topUnit] at below
  have positive := topUnit_pos
  rw [overflow] at large
  norm_num at below
  linarith

/-- At the highest place the only short mantissa that is near enough is an odd one, half a unit
away. -/
theorem IsRounded.long_of_overflow (last : place = 971) : 2 ^ 53 ≤ whole := by
  by_contra short
  have atLeast : (2 ^ 53 - 1 / 2 : ℚ) ≤ value / 2 ^ place :=
    (le_div_iff₀ (by positivity)).mpr (last ▸ large)
  have atMost : (whole : ℚ) + 1 ≤ 2 ^ 53 := by exact_mod_cast not_le.mp short
  have above := rounded.nearest.above
  have odd : whole = 2 ^ 53 - 1 := by
    have same : (whole : ℚ) + 1 = 2 ^ 53 := by linarith
    have natural : whole + 1 = 2 ^ 53 := by exact_mod_cast same
    omega
  have even := rounded.nearest.even (.inr (by linarith))
  rw [odd] at even
  exact absurd even (by decide)

end

/-- A rounding beyond the range is infinite. -/
theorem IsRounding.parts_of_overflow {result : UnpackedFloat} {negative : Bool} {value : ℚ}
    (rounding : IsRounding result negative value) (large : overflow ≤ value) :
    parts (.ofModel (.pack result)) = .infinite negative := by
  obtain ⟨whole, place, rounded, rfl⟩ := rounding
  have high := rounded.le_place_of_overflow large
  have higher : place ≠ lowestExponent := by
    rw [lowestExponent]
    omega
  rw [carried]
  split
  case isTrue short =>
    have beyond : place ≠ 971 := fun last => short.not_ge (rounded.long_of_overflow large last)
    have positive : 0 < whole := (Nat.two_pow_pos 52).trans_le (rounded.two_pow_le_whole higher)
    exact parts_pack_of_beyond positive (high.lt_of_ne beyond.symm) negative
  case isFalse => exact parts_pack_of_beyond (Nat.two_pow_pos 52) (by omega) negative

/-- Rounding moves a value by half a unit of its place at most. -/
theorem IsRounded.abs_sub_le {value : ℚ} {whole : ℕ} {place : ℤ}
    (rounded : IsRounded value whole place) : |value - whole * 2 ^ place| ≤ 2 ^ place / 2 := by
  have unit : (0 : ℚ) < 2 ^ place := by positivity
  have below := (le_div_iff₀ unit).mp rounded.nearest.below
  have above := (div_le_iff₀ unit).mp rounded.nearest.above
  rw [abs_le]
  constructor <;> linarith

section

variable {first second : Float} (firstFinite : first.isFinite = true)
  (secondFinite : second.isFinite = true)
include firstFinite secondFinite

/-- A sum beyond the range is infinite. -/
theorem parts_add_of_overflow {negative : Bool}
    (large : overflow ≤ factor negative * (number first + number second)) :
    parts (first + second) = .infinite negative := by
  have room : 0 < overflow := (by positivity : (0 : ℚ) < 2 ^ 0).trans
    (two_pow_lt_overflow (by decide))
  cases roundedFrom_add firstFinite secondFinite with
  | zero sign none packed =>
      rw [none, mul_zero] at large
      exact absurd large room.not_ge
  | nonzero sign result some signed packed rounding =>
      have size := abs_pos.mpr some
      have same : sign = negative := by
        rw [signed] at large
        cases sign <;> cases negative <;>
          simp only [factor_false, factor_true, one_mul, neg_mul] at large ⊢ <;> linarith
      subst same
      rw [packed]
      apply rounding.parts_of_overflow
      rw [signed, ← mul_assoc] at large
      cases sign <;> simpa using large

/-- A sum with a step is rounded, or it is infinite with the sign of the step. -/
theorem small_or_infinite (negative : Bool) (signed : 0 < factor negative * number second) :
    |number first + number second| < overflow ∨ parts (first + second) = .infinite negative := by
  refine or_iff_not_imp_left.mpr fun large => ?_
  apply parts_add_of_overflow firstFinite secondFinite
  have size : |factor negative * (number first + number second)| =
      |number first + number second| := by
    rw [abs_mul, abs_factor, one_mul]
  rw [not_lt, ← size] at large
  refine (le_abs.mp large).resolve_right fun opposite => ?_
  have most : |factor negative * number first| ≤ (2 ^ 53 - 1) * topUnit := by
    rw [abs_mul, abs_factor, one_mul]
    exact abs_number_le first
  have least := neg_abs_le (factor negative * number first)
  have unit := topUnit_pos
  rw [overflow, mul_add] at opposite
  linarith

/-- Adding a step that is lost leaves a number as it is, even a zero. -/
theorem add_eq_of_number_eq (small : |number first + number second| < overflow)
    (some : number second ≠ 0) (lost : number (first + second) = number first) :
    first + second = first := by
  have rounded := roundedFrom_add firstFinite secondFinite
  refine eq_of_number_eq (rounded.represents small).finite firstFinite lost fun zero => some ?_
  have exact : number first + number second = number second := by rw [← lost, zero, zero_add]
  have low := rounded.le_number small secondFinite exact.ge
  have high := rounded.number_le small secondFinite exact.le
  exact (low.antisymm high).trans zero

/-- A positive step leads to a larger number or is lost. -/
theorem lt_add_or_eq (positive : 0 < number second) :
    first < first + second ∨ first + second = first := by
  rcases small_or_infinite firstFinite secondFinite false (by simpa using positive) with
    small | infinite
  · have rounded := roundedFrom_add firstFinite secondFinite
    rcases (rounded.le_number small firstFinite (by linarith)).lt_or_eq with above | lost
    · exact .inl ((lt_iff_number firstFinite (rounded.represents small).finite).mpr above)
    · exact .inr (add_eq_of_number_eq firstFinite secondFinite small positive.ne' lost.symm)
  · exact .inl (lt_of_infinite firstFinite infinite)

/-- A negative step leads to a smaller number or is lost. -/
theorem add_lt_or_eq (negative : number second < 0) :
    first + second < first ∨ first + second = first := by
  rcases small_or_infinite firstFinite secondFinite true (by simpa using negative) with
    small | infinite
  · have rounded := roundedFrom_add firstFinite secondFinite
    rcases (rounded.number_le small firstFinite (by linarith)).lt_or_eq with below | lost
    · exact .inl ((lt_iff_number (rounded.represents small).finite firstFinite).mpr below)
    · exact .inr (add_eq_of_number_eq firstFinite secondFinite small negative.ne lost)
  · exact .inl (infinite_lt firstFinite infinite)

/-- A number is below what it is below after a positive step. -/
theorem number_le_of_add_le {ceiling : Float} (positive : 0 < number second)
    (ceilingFinite : ceiling.isFinite = true) (below : first + second ≤ ceiling) :
    number first ≤ number ceiling := by
  rcases small_or_infinite firstFinite secondFinite false (by simpa using positive) with
    small | infinite
  · have rounded := roundedFrom_add firstFinite secondFinite
    rw [le_iff_number (rounded.represents small).finite ceilingFinite] at below
    exact (rounded.le_number small firstFinite (by linarith)).trans below
  · exact absurd below (not_infinite_le ceilingFinite infinite)

omit firstFinite in
/-- There is a least positive number. -/
theorem two_zpow_le_number (positive : 0 < number second) :
    2 ^ lowestExponent ≤ number second := by
  obtain ⟨negative, mantissa, exponent, secondParts⟩ := isFinite_iff.mp secondFinite
  have size := abs_number_of_parts secondParts
  rw [abs_of_pos positive] at size
  rw [size] at positive ⊢
  have some : (0 : ℚ) < mantissa := pos_of_mul_pos_left positive (by positivity)
  have whole : (1 : ℚ) ≤ mantissa := by exact_mod_cast Nat.succ_le_of_lt (by exact_mod_cast some)
  calc (2 : ℚ) ^ lowestExponent
      ≤ 2 ^ exponent := zpow_le_zpow_right₀ one_le_two (short_of_parts secondParts).2
    _ ≤ mantissa * 2 ^ exponent := le_mul_of_one_le_left (by positivity) whole

/-- A step is lost only beside a number that is many times as large. -/
theorem lt_add_of_abs_le (positive : 0 < number second)
    (near : |number first| ≤ 2 ^ 52 * number second) : first < first + second := by
  refine (lt_add_or_eq firstFinite secondFinite positive).resolve_right fun lost => ?_
  have small : |number first + number second| < overflow := by
    refine (small_or_infinite firstFinite secondFinite false
      (by simpa using positive)).resolve_right fun infinite => ?_
    rw [lost] at infinite
    exact lt_irrefl first (lt_of_infinite firstFinite infinite)
  rcases (roundedFrom_add firstFinite secondFinite).number_cases small with
    ⟨none, zero⟩ | ⟨negative, whole, place, -, signed, rounded, same⟩
  · rw [lost] at zero
    rw [zero, zero_add] at none
    exact positive.ne' none
  · rw [lost] at same
    have unit : (0 : ℚ) < 2 ^ place := by positivity
    have step : number second ≤ 2 ^ place / 2 := by
      calc number second
          = factor negative * (|number first + number second| - whole * 2 ^ place) := by
            rw [mul_sub, ← signed, ← same, add_sub_cancel_left]
        _ ≤ |factor negative * (|number first + number second| - whole * 2 ^ place)| :=
            le_abs_self _
        _ = |(|number first + number second|) - whole * 2 ^ place| := by
            rw [abs_mul, abs_factor, one_mul]
        _ ≤ 2 ^ place / 2 := rounded.abs_sub_le
    rcases eq_or_ne place lowestExponent with rfl | higher
    · have least := two_zpow_le_number secondFinite positive
      linarith
    · have long : (2 : ℚ) ^ 52 ≤ whole := by exact_mod_cast rounded.two_pow_le_whole higher
      have size : |number first| = whole * 2 ^ place := by
        rw [same, abs_mul, abs_factor, one_mul, abs_of_nonneg (by positivity)]
      have large : 2 ^ 52 * 2 ^ place ≤ |number first| := by
        rw [size]
        exact mul_le_mul_of_nonneg_right long unit.le
      linarith

end

end Binary64
end CircuitSheet
