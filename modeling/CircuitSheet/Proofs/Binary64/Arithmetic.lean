import CircuitSheet.Proofs.Binary64.Rounding

/-!
# Arithmetic in double precision

The product, the quotient and the sum of two numbers are the exact ones, rounded. So what is known
of the size of the exact result is known of the rounded one.
-/

namespace CircuitSheet
namespace Binary64

open Float.Model
open Float.Model.UnpackedFloat (Accuracy Sign ExtendedMantissa)

/-- The number that results when a positive number is rounded and given a sign. -/
def IsRounding (result : UnpackedFloat) (negative : Bool) (value : ℚ) : Prop :=
  ∃ whole place, IsRounded value whole place ∧ result = carried negative whole place

/-- A number that rounds to a canonical one gives that one. -/
theorem IsRounding.parts_pack {result : UnpackedFloat} {negative : Bool} {value : ℚ}
    (rounding : IsRounding result negative value) {mantissa : ℕ} {exponent : ℤ}
    (canonical : IsCanonical mantissa exponent) (roundsTo : RoundsTo value mantissa exponent) :
    parts (.ofModel (.pack result)) = .finite negative mantissa exponent := by
  obtain ⟨whole, place, rounded, rfl⟩ := rounding
  rw [rounded.carried_eq canonical roundsTo]
  exact Binary64.parts_pack (.inr canonical)

/-! ## Whole mantissas -/

theorem log2_mul_two_pow {mantissa : ℕ} (positive : 0 < mantissa) (places : ℕ) :
    (mantissa * 2 ^ places).log2 = mantissa.log2 + places := by
  have shifted : mantissa * 2 ^ places ≠ 0 := (Nat.mul_pos positive (Nat.two_pow_pos _)).ne'
  apply le_antisymm
  · rw [← Nat.lt_succ_iff, Nat.log2_lt shifted, Nat.succ_eq_add_one, add_right_comm, pow_add]
    exact Nat.mul_lt_mul_of_pos_right Nat.lt_log2_self (Nat.two_pow_pos _)
  · rw [Nat.le_log2 shifted, pow_add]
    exact Nat.mul_le_mul_right _ (Nat.log2_self_le positive.ne')

/-- A whole number of units of some place is rounded. -/
theorem isRounding_round {mantissa : ℕ} (positive : 0 < mantissa) (exponent : ℤ)
    (negative : Bool) :
    IsRounding (UnpackedFloat.round Format.binary64 (signOf negative) mantissa exponent) negative
      (mantissa * 2 ^ exponent) := by
  unfold UnpackedFloat.round UnpackedFloat.decreaseExponent
  dsimp only
  rw [targetExponent_eq, Nat.shiftLeft_eq]
  obtain ⟨places, steps⟩ :
      ∃ places, (exponent - lastPlace (mantissa.log2 + exponent)).toNat = places := ⟨_, rfl⟩
  rw [steps]
  refine exists_roundWithAccuracy_eq_carried (fun zero => ?_) ?_ ?_ negative
  · exact absurd zero (Nat.mul_pos positive (Nat.two_pow_pos _)).ne'
  · have exact : (mantissa * 2 ^ exponent : ℚ) / 2 ^ (exponent - places) =
        (mantissa * 2 ^ places : ℕ) := by
      rw [zpow_sub₀ two_ne_zero, zpow_natCast]
      push_cast
      field_simp
    rw [exact]
    exact standsFor_exact _
  · rw [log2_mul_two_pow positive]
    have same : ((mantissa.log2 + places : ℕ) : ℤ) + (exponent - places) =
        mantissa.log2 + exponent := by
      push_cast
      ring
    rw [same]
    omega

/-! ## Products and quotients -/

theorem signOf_mul (first second : Bool) :
    signOf first * signOf second = signOf (first ^^ second) := by
  cases first <;> cases second <;> rfl

theorem signOf_div (first second : Bool) :
    signOf first / signOf second = signOf (first ^^ second) := by
  cases first <;> cases second <;> rfl

section

variable {mantissa other : ℕ} (positive : 0 < mantissa) (otherPositive : 0 < other)
  (exponent otherExponent : ℤ) (negative otherNegative : Bool)
include positive otherPositive

/-- A product with enough places is rounded. -/
theorem isRounding_mul
    (room : exponent + otherExponent ≤
      lastPlace ((mantissa * other).log2 + (exponent + otherExponent))) :
    IsRounding
      (UnpackedFloat.mul Format.binary64 (decoded negative mantissa exponent)
        (decoded otherNegative other otherExponent))
      (negative ^^ otherNegative) (mantissa * 2 ^ exponent * (other * 2 ^ otherExponent)) := by
  rw [decoded_of_pos positive, decoded_of_pos otherPositive, UnpackedFloat.mul, signOf_mul]
  refine exists_roundWithAccuracy_eq_carried
    (fun zero => absurd zero (Nat.mul_pos positive otherPositive).ne') ?_ room _
  have exact : (mantissa * 2 ^ exponent * (other * 2 ^ otherExponent) : ℚ) /
      2 ^ (exponent + otherExponent) = (mantissa * other : ℕ) := by
    rw [zpow_add₀ two_ne_zero]
    push_cast
    field_simp
  rw [exact]
  exact standsFor_exact _

omit positive in
/-- The remainder of a division tells where the quotient lies. -/
theorem standsFor_quotient (dividend : ℕ) :
    StandsFor
      (.ofMantissaAndAccuracy (dividend / other)
        (UnpackedFloat.accuracyOfFraction (dividend % other) other))
      (dividend / other) := by
  have split : (dividend : ℚ) = other * (dividend / other : ℕ) + (dividend % other : ℕ) := by
    exact_mod_cast (Nat.div_add_mod dividend other).symm
  have less : dividend % other < other := Nat.mod_lt _ otherPositive
  have divisor : (0 : ℚ) < other := by exact_mod_cast otherPositive
  generalize dividend / other = quotient at split ⊢
  generalize dividend % other = rest at split less ⊢
  have value : (dividend / other : ℚ) = quotient + rest / other := by
    rw [split]
    field_simp
  rw [value, UnpackedFloat.accuracyOfFraction]
  split
  case isTrue zero => simp [zero, StandsFor, ExtendedMantissa.ofMantissaAndAccuracy]
  case isFalse someRest =>
    have restPositive : (0 : ℚ) < rest / other :=
      div_pos (by exact_mod_cast Nat.pos_of_ne_zero someRest) divisor
    have restLess : (rest / other : ℚ) < 1 := by
      rw [div_lt_one divisor]
      exact_mod_cast less
    cases order : compare (2 * rest) other with
    | lt =>
        have half : (rest / other : ℚ) < 1 / 2 := by
          rw [div_lt_iff₀ divisor]
          have := Nat.compare_eq_lt.mp order
          have cast : (2 * rest : ℚ) < other := by exact_mod_cast this
          linarith
        exact ⟨by linarith, by linarith⟩
    | eq =>
        have half : (rest / other : ℚ) = 1 / 2 := by
          rw [div_eq_iff divisor.ne']
          have := Nat.compare_eq_eq.mp order
          have cast : (2 * rest : ℚ) = other := by exact_mod_cast this
          linarith
        simp only [StandsFor, ExtendedMantissa.ofMantissaAndAccuracy, half]
    | gt =>
        have half : (1 / 2 : ℚ) < rest / other := by
          rw [lt_div_iff₀ divisor]
          have := Nat.compare_eq_gt.mp order
          have cast : (other : ℚ) < 2 * rest := by exact_mod_cast this
          linarith
        exact ⟨by linarith, by linarith⟩

/-- A dividend with enough places has a long quotient. -/
theorem two_pow_le_div {places : ℕ} (gap : other.log2 + 53 ≤ mantissa.log2 + places) :
    2 ^ 52 ≤ mantissa * 2 ^ places / other := by
  rw [Nat.le_div_iff_mul_le otherPositive]
  calc 2 ^ 52 * other
      ≤ 2 ^ 52 * 2 ^ (other.log2 + 1) := Nat.mul_le_mul_left _ Nat.lt_log2_self.le
    _ = 2 ^ (other.log2 + 53) := by rw [← pow_add]; congr 1; omega
    _ ≤ 2 ^ (mantissa.log2 + places) := Nat.pow_le_pow_right two_pos gap
    _ ≤ mantissa * 2 ^ places := by
        rw [pow_add]
        exact Nat.mul_le_mul_right _ (Nat.log2_self_le positive.ne')

/-- A quotient is rounded. -/
theorem isRounding_div :
    IsRounding
      (UnpackedFloat.div Format.binary64 (decoded negative mantissa exponent)
        (decoded otherNegative other otherExponent))
      (negative ^^ otherNegative) (mantissa * 2 ^ exponent / (other * 2 ^ otherExponent)) := by
  rw [decoded_of_pos positive, decoded_of_pos otherPositive, UnpackedFloat.div, signOf_div]
  unfold UnpackedFloat.divCore
  dsimp only
  rw [targetExponent_eq_lastPlace, Nat.shiftLeft_eq]
  set target := min (exponent - otherExponent)
    (lastPlace (totalExponent mantissa exponent - totalExponent other otherExponent - 1))
    with targetEq
  obtain ⟨places, steps⟩ : ∃ places : ℕ, exponent - otherExponent = target + places :=
    ⟨(exponent - otherExponent - target).toNat, by omega⟩
  rw [steps, add_sub_cancel_left, Int.toNat_natCast]
  -- A target above the lowest place leaves the quotient enough places.
  have long : lowestExponent < target → 2 ^ 52 ≤ mantissa * 2 ^ places / other := by
    intro higher
    have gap : other.log2 + 53 ≤ mantissa.log2 + places := by
      rw [targetEq, lastPlace] at *
      simp only [totalExponent] at *
      omega
    exact two_pow_le_div positive otherPositive gap
  refine exists_roundWithAccuracy_eq_carried (fun zero => ?_) ?_ ?_ _
  · by_contra higher
    exact absurd (long (not_le.mp higher)) (by rw [zero]; decide)
  · have exact : (mantissa * 2 ^ exponent / (other * 2 ^ otherExponent) : ℚ) / 2 ^ target =
        (mantissa * 2 ^ places : ℕ) / other := by
      have split : exponent = otherExponent + target + places := by omega
      rw [split, zpow_add₀ two_ne_zero, zpow_add₀ two_ne_zero, zpow_natCast]
      push_cast
      field_simp
    rw [exact]
    exact standsFor_quotient otherPositive _
  · rcases le_or_gt target lowestExponent with low | higher
    · exact low.trans (le_max_right ..)
    · have enough := long higher
      have top := (Nat.le_log2 (by omega : mantissa * 2 ^ places / other ≠ 0)).mpr enough
      refine le_trans ?_ (le_max_left ..)
      omega

end

/-- Two canonical mantissas have enough places together. -/
theorem room_mul {mantissa other : ℕ} {exponent otherExponent : ℤ}
    (canonical : IsCanonical mantissa exponent)
    (otherCanonical : IsCanonical other otherExponent) :
    exponent + otherExponent ≤
      lastPlace ((mantissa * other).log2 + (exponent + otherExponent)) := by
  have product := Nat.mul_pos canonical.positive otherCanonical.positive
  have long (enough : 2 ^ 52 ≤ mantissa * other) : exponent + otherExponent ≤
      lastPlace ((mantissa * other).log2 + (exponent + otherExponent)) := by
    have top := (Nat.le_log2 product.ne').mpr enough
    rw [lastPlace]
    generalize (mantissa * other).log2 = places at top
    omega
  by_cases low : exponent = lowestExponent
  · by_cases otherLow : otherExponent = lowestExponent
    · rw [low, otherLow]
      exact le_trans (by decide) (le_max_right ..)
    · exact long ((otherCanonical.normal otherLow).trans
        (Nat.le_mul_of_pos_left _ canonical.positive))
  · exact long ((canonical.normal low).trans (Nat.le_mul_of_pos_right _ otherCanonical.positive))

end Binary64
end CircuitSheet
