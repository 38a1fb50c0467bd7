import CircuitSheet.Proofs.Binary64.Arithmetic

/-!
# Literals in double precision

A decimal literal names the number that its exact value rounds to, whether it is read by one
operation on exact numbers or in whole-number arithmetic.
-/

namespace CircuitSheet
namespace Binary64

open Float.Model

/-! ## Exact numbers -/

/-- A number other than zero is represented without rounding. -/
def IsExactly (value : Float) (number : ℚ) : Prop :=
  ∃ mantissa exponent, parts value = .finite false mantissa exponent ∧
    IsCanonical mantissa exponent ∧ mantissa * 2 ^ exponent = number

section

variable {first second : Float} {number other : ℚ} (exact : IsExactly first number)
  (otherExact : IsExactly second other) {mantissa : ℕ} {exponent : ℤ}
  (canonical : IsCanonical mantissa exponent)
include exact otherExact canonical

/-- The product of exact numbers is rounded once. -/
theorem IsExactly.parts_mul (roundsTo : RoundsTo (number * other) mantissa exponent) :
    parts (first * second) = .finite false mantissa exponent := by
  obtain ⟨firstMantissa, firstExponent, firstParts, firstCanonical, rfl⟩ := exact
  obtain ⟨secondMantissa, secondExponent, secondParts, secondCanonical, rfl⟩ := otherExact
  have rounding := isRounding_mul firstCanonical.positive secondCanonical.positive
    firstExponent secondExponent false false (room_mul firstCanonical secondCanonical)
  rw [← unpack_eq_decoded firstParts, ← unpack_eq_decoded secondParts] at rounding
  exact rounding.parts_pack canonical roundsTo

/-- The quotient of exact numbers is rounded once. -/
theorem IsExactly.parts_div (roundsTo : RoundsTo (number / other) mantissa exponent) :
    parts (first / second) = .finite false mantissa exponent := by
  obtain ⟨firstMantissa, firstExponent, firstParts, firstCanonical, rfl⟩ := exact
  obtain ⟨secondMantissa, secondExponent, secondParts, secondCanonical, rfl⟩ := otherExact
  have rounding := isRounding_div firstCanonical.positive secondCanonical.positive
    firstExponent secondExponent false false
  rw [← unpack_eq_decoded firstParts, ← unpack_eq_decoded secondParts] at rounding
  exact rounding.parts_pack canonical roundsTo

end

/-- A whole number with few binary digits is shifted to a full mantissa. -/
theorem exists_canonical_of_lt {number : ℕ} (positive : 0 < number) (fits : number < 2 ^ 53) :
    ∃ mantissa exponent, IsCanonical mantissa exponent ∧
      (mantissa * 2 ^ exponent : ℚ) = number := by
  have top : number.log2 ≤ 52 := Nat.lt_succ_iff.mp ((Nat.log2_lt positive.ne').mpr fits)
  refine ⟨number * 2 ^ (52 - number.log2), number.log2 - 52, ?_, ?_⟩
  · have normal : 2 ^ 52 ≤ number * 2 ^ (52 - number.log2) := by
      calc 2 ^ 52 = 2 ^ number.log2 * 2 ^ (52 - number.log2) := by
            rw [← pow_add, Nat.add_sub_cancel' top]
        _ ≤ _ := Nat.mul_le_mul_right _ (Nat.log2_self_le positive.ne')
    have short : number * 2 ^ (52 - number.log2) < 2 ^ 53 := by
      calc number * 2 ^ (52 - number.log2)
          < 2 ^ (number.log2 + 1) * 2 ^ (52 - number.log2) :=
            Nat.mul_lt_mul_of_pos_right Nat.lt_log2_self (Nat.two_pow_pos _)
        _ = 2 ^ 53 := by
            rw [← pow_add]
            congr 1
            omega
    exact ⟨by positivity, short, by rw [lowestExponent]; omega, fun _ => normal, by omega⟩
  · have split : ((number.log2 : ℤ) - 52) = -((52 - number.log2 : ℕ) : ℤ) := by omega
    rw [split, zpow_neg, zpow_natCast]
    push_cast
    field_simp

/-- A whole number that fits is represented without rounding. -/
theorem isExactly_toFloat {number : ℕ} (positive : 0 < number) (fits : number < 2 ^ 53) :
    IsExactly number.toUInt64.toFloat number := by
  obtain ⟨mantissa, exponent, canonical, value⟩ := exists_canonical_of_lt positive fits
  refine ⟨mantissa, exponent, ?_, canonical, value⟩
  have small : number.toUInt64.toNat = number := by
    rw [Nat.toUInt64_eq, UInt64.toNat_ofNat']
    exact Nat.mod_eq_of_lt (fits.trans (by decide))
  have above : compare (number : ℤ) 0 = .gt := Int.compare_eq_gt.mpr (Int.natCast_pos.mpr positive)
  have packed : number.toUInt64.toFloat =
      .ofModel (.pack (UnpackedFloat.round Format.binary64 (signOf false) number 0)) := by
    change Float.ofModel (.pack (UnpackedFloat.normalize Format.binary64
      (number.toUInt64.toNat : ℤ) 0 .positive)) = _
    rw [small, UnpackedFloat.normalize, above]
    rfl
  have rounding := isRounding_round positive 0 false
  rw [zpow_zero, mul_one, ← value] at rounding
  rw [packed]
  exact rounding.parts_pack canonical (roundsTo_self _ _)

/-- The powers of ten that are kept ready are exact. -/
theorem isExactly_power (places : Fin Float.exactlyRepresentablePowersOfTen.size) :
    IsExactly Float.exactlyRepresentablePowersOfTen[places] (10 ^ places.val) := by
  have table : ∀ places : Fin Float.exactlyRepresentablePowersOfTen.size,
      parts Float.exactlyRepresentablePowersOfTen[places] =
          .finite false (10 ^ places.val * 2 ^ 52 / 2 ^ (10 ^ places.val).log2)
            ((10 ^ places.val).log2 - 52) ∧
        10 ^ places.val * 2 ^ 52 / 2 ^ (10 ^ places.val).log2 * 2 ^ (10 ^ places.val).log2 =
          10 ^ places.val * 2 ^ 52 := by
    decide +kernel
  obtain ⟨finite, exact⟩ := table places
  generalize (10 ^ places.val).log2 = top at finite exact
  refine ⟨_, _, finite, ?_, ?_⟩
  · rcases (spec_of_parts finite).1 with ⟨zero, -⟩ | canonical
    · rw [zero, Nat.zero_mul] at exact
      exact absurd exact (by positivity)
    · exact canonical
  · have cast : ((10 ^ places.val * 2 ^ 52 / 2 ^ top : ℕ) : ℚ) * 2 ^ top =
        10 ^ places.val * 2 ^ 52 := by
      exact_mod_cast exact
    rw [zpow_sub₀ two_ne_zero, zpow_natCast, ← mul_div_assoc, cast]
    push_cast
    ring

/-! ## Scientific literals -/

section

variable {coefficient places : ℕ} (positive : 0 < coefficient) (bounded : places ≤ 2 ^ 11)
  {mantissa : ℕ} {exponent : ℤ} (canonical : IsCanonical mantissa exponent)
include positive bounded canonical

/-- A literal with zeros behind its digits names the number that its value rounds to. -/
theorem parts_ofScientific_zeros
    (roundsTo : RoundsTo (coefficient * 10 ^ places) mantissa exponent) :
    parts (Float.ofScientific coefficient false places) = .finite false mantissa exponent := by
  unfold Float.ofScientific
  by_cases fast : coefficient < 2 ^ 53 ∧ places ≤ 22
  · rw [dif_pos fast]
    exact (isExactly_toFloat positive fast.1).parts_mul
      (isExactly_power ⟨places, Nat.lt_succ_of_le fast.2⟩) canonical roundsTo
  · rw [dif_neg fast]
    have inRange : ¬(places : ℤ) > 2 ^ Format.binary64.exponentBits := by
      rw [not_lt]
      exact_mod_cast bounded
    have notTiny : ¬(places : ℤ) < -((2 ^ Format.binary64.exponentBits : ℤ) + coefficient.log2) := by
      omega
    have shifted : 0 < coefficient <<< 53 := by
      rw [Nat.shiftLeft_eq]
      positivity
    have power : 0 < 10 ^ places := by positivity
    have room : (-53 : ℤ) + 0 ≤
        lastPlace ((coefficient <<< 53 * 10 ^ places).log2 + (-53 + 0)) := by
      rw [Nat.shiftLeft_eq, Nat.mul_right_comm,
        log2_mul_two_pow (Nat.mul_pos positive power), lastPlace]
      omega
    have rounding := isRounding_mul shifted power (-53) 0 false false room
    have value : ((coefficient <<< 53 : ℕ) * 2 ^ (-53 : ℤ) * ((10 ^ places : ℕ) * 2 ^ (0 : ℤ)) : ℚ) =
        coefficient * 10 ^ places := by
      rw [Nat.shiftLeft_eq, zpow_neg]
      push_cast
      field_simp
    rw [value] at rounding
    have slow : UnpackedFloat.ofScientific Format.binary64 coefficient places =
        UnpackedFloat.mul Format.binary64 (decoded false (coefficient <<< 53) (-53))
          (decoded false (10 ^ places) 0) := by
      rw [UnpackedFloat.ofScientific, dif_neg positive.ne', if_neg inRange, if_neg notTiny,
        if_pos (Int.natCast_nonneg _), decoded_of_pos shifted, decoded_of_pos power]
      rfl
    change parts (.ofModel (.pack (UnpackedFloat.ofScientific Format.binary64 coefficient places))) =
      _
    rw [slow]
    exact rounding.parts_pack canonical roundsTo

/-- A literal with a point in front of some digits names the number that its value rounds to. -/
theorem parts_ofScientific_places (somePlaces : 0 < places)
    (roundsTo : RoundsTo (coefficient / 10 ^ places) mantissa exponent) :
    parts (Float.ofScientific coefficient true places) = .finite false mantissa exponent := by
  unfold Float.ofScientific
  by_cases fast : coefficient < 2 ^ 53 ∧ places ≤ 22
  · rw [dif_pos fast]
    exact (isExactly_toFloat positive fast.1).parts_div
      (isExactly_power ⟨places, Nat.lt_succ_of_le fast.2⟩) canonical roundsTo
  · rw [dif_neg fast]
    have inRange : ¬-(places : ℤ) > 2 ^ Format.binary64.exponentBits := by
      have : (0 : ℤ) ≤ 2 ^ Format.binary64.exponentBits := by positivity
      omega
    have notTiny :
        ¬-(places : ℤ) < -((2 ^ Format.binary64.exponentBits : ℤ) + coefficient.log2) := by
      have : (places : ℤ) ≤ 2 ^ Format.binary64.exponentBits := by exact_mod_cast bounded
      omega
    have power : 0 < 10 ^ places := by positivity
    have rounding := isRounding_div positive power 0 0 false false
    have value : ((coefficient * 2 ^ (0 : ℤ)) / ((10 ^ places : ℕ) * 2 ^ (0 : ℤ)) : ℚ) =
        coefficient / 10 ^ places := by
      push_cast
      norm_num
    rw [value] at rounding
    have slow : UnpackedFloat.ofScientific Format.binary64 coefficient (Int.negOfNat places) =
        UnpackedFloat.div Format.binary64 (decoded false coefficient 0)
          (decoded false (10 ^ places) 0) := by
      have negative : ¬0 ≤ -(places : ℤ) := by omega
      rw [Int.negOfNat_eq, Int.ofNat_eq_natCast, UnpackedFloat.ofScientific,
        dif_neg positive.ne', if_neg inRange, if_neg notTiny, if_neg negative,
        decoded_of_pos positive, decoded_of_pos power]
      simp only [neg_neg, Int.toNat_natCast]
      rfl
    change parts (.ofModel (.pack (UnpackedFloat.ofScientific Format.binary64 coefficient
      (Int.negOfNat places)))) = _
    rw [slow]
    exact rounding.parts_pack canonical roundsTo

end

end Binary64
end CircuitSheet
