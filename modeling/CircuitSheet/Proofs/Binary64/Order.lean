import CircuitSheet.Proofs.Binary64.Range

/-!
# The order of finite numbers

The mantissa and the exponent that double precision has for a number put the numbers in the order of
their exact values. Rounding keeps to that order: what lies on one side of a number is not carried
to the other side of it.
-/

namespace CircuitSheet
namespace Binary64

open Float.Model

/-! ## Exponents and mantissas -/

section

variable {mantissa other : ℕ} {exponent otherExponent : ℤ}
  (canonical : IsCanonical mantissa exponent) (otherCanonical : IsCanonical other otherExponent)
include canonical otherCanonical

/-- A higher exponent outweighs every mantissa. -/
theorem mul_zpow_lt_of_lt (below : exponent < otherExponent) :
    (mantissa * 2 ^ exponent : ℚ) < other * 2 ^ otherExponent := by
  have short : (mantissa : ℚ) < 2 ^ 53 := by exact_mod_cast canonical.short
  have long : (2 : ℚ) ^ 52 ≤ other := by
    exact_mod_cast otherCanonical.normal (canonical.lowest.trans_lt below).ne'
  have double : (2 : ℚ) * 2 ^ exponent ≤ 2 ^ otherExponent := by
    rw [← zpow_one_add₀ two_ne_zero]
    exact zpow_le_zpow_right₀ one_le_two (by omega)
  calc (mantissa * 2 ^ exponent : ℚ)
      < 2 ^ 53 * 2 ^ exponent := mul_lt_mul_of_pos_right short (by positivity)
    _ = 2 ^ 52 * (2 * 2 ^ exponent) := by ring
    _ ≤ other * 2 ^ otherExponent := mul_le_mul long double (by positivity) (by positivity)

/-- Canonical numbers compare by their exponents, and under one exponent by their mantissas. -/
theorem cmp_mul_zpow :
    cmp (mantissa * 2 ^ exponent : ℚ) (other * 2 ^ otherExponent) =
      (compare exponent otherExponent).then (compare mantissa other) := by
  rcases lt_trichotomy exponent otherExponent with below | rfl | above
  · rw [Int.compare_eq_lt.mpr below]
    exact cmp_eq_lt_iff _ _ |>.mpr (mul_zpow_lt_of_lt canonical otherCanonical below)
  · have unit : (0 : ℚ) < 2 ^ exponent := by positivity
    rw [cmp_mul_pos_right unit, Int.compare_eq_eq.mpr rfl, Ordering.eq_then,
      Nat.strictMono_cast.cmp_map_eq, cmp_eq_compare]
  · rw [Int.compare_eq_gt.mpr above]
    exact cmp_eq_gt_iff _ _ |>.mpr (mul_zpow_lt_of_lt otherCanonical canonical above)

/-- Decoded numbers other than zero compare as their exact values do. -/
theorem compare_decoded (negative otherNegative : Bool) :
    (decoded negative mantissa exponent).compare (decoded otherNegative other otherExponent) =
      some (cmp (factor negative * (mantissa * 2 ^ exponent))
        (factor otherNegative * (other * 2 ^ otherExponent))) := by
  have size : (0 : ℚ) < mantissa * 2 ^ exponent :=
    mul_pos (by exact_mod_cast canonical.positive) (by positivity)
  have otherSize : (0 : ℚ) < other * 2 ^ otherExponent :=
    mul_pos (by exact_mod_cast otherCanonical.positive) (by positivity)
  have order := cmp_mul_zpow canonical otherCanonical
  rw [decoded_of_pos canonical.positive, decoded_of_pos otherCanonical.positive]
  generalize (mantissa * 2 ^ exponent : ℚ) = value at size order ⊢
  generalize (other * 2 ^ otherExponent : ℚ) = otherValue at otherSize order ⊢
  cases negative <;> cases otherNegative
  · refine congrArg some ?_
    rw [← order, factor_false, one_mul, one_mul]
  · refine congrArg some (cmp_eq_gt_iff _ _ |>.mpr ?_).symm
    rw [factor_false, factor_true]
    linarith
  · refine congrArg some (cmp_eq_lt_iff _ _ |>.mpr ?_).symm
    rw [factor_false, factor_true]
    linarith
  · refine congrArg some ?_
    have reversed : StrictAnti fun number : ℚ => -number := fun _ _ below => neg_lt_neg below
    rw [← order, cmp_swap, factor_true, neg_one_mul, neg_one_mul, reversed.cmp_map_eq]

end

/-- Zero compares with a decoded number as their exact values do. -/
theorem compare_decoded_zero {mantissa : ℕ} {exponent : ℤ}
    (canonical : IsCanonical mantissa exponent) (negative sign : Bool) :
    (UnpackedFloat.zero (signOf sign)).compare (decoded negative mantissa exponent) =
        some (cmp 0 (factor negative * (mantissa * 2 ^ exponent))) ∧
      (decoded negative mantissa exponent).compare (.zero (signOf sign)) =
        some (cmp (factor negative * (mantissa * 2 ^ exponent)) 0) := by
  have size : (0 : ℚ) < mantissa * 2 ^ exponent :=
    mul_pos (by exact_mod_cast canonical.positive) (by positivity)
  rw [decoded_of_pos canonical.positive]
  generalize (mantissa * 2 ^ exponent : ℚ) = value at size ⊢
  cases negative
  · rw [factor_false, one_mul, (cmp_eq_lt_iff _ _).mpr size, (cmp_eq_gt_iff _ _).mpr size]
    exact ⟨rfl, rfl⟩
  · have below : -1 * value < 0 := by linarith
    rw [factor_true, (cmp_eq_lt_iff _ _).mpr below, (cmp_eq_gt_iff _ _).mpr below]
    exact ⟨rfl, rfl⟩

/-! ## Finite numbers -/

section

variable {first second : Float} (firstFinite : first.isFinite = true)
  (secondFinite : second.isFinite = true)
include firstFinite secondFinite

/-- Finite numbers compare as their exact values do. -/
theorem compare_unpack : first.toModel.unpack.compare second.toModel.unpack =
    some (cmp (number first) (number second)) := by
  obtain ⟨negative, mantissa, exponent, firstParts⟩ := isFinite_iff.mp firstFinite
  obtain ⟨otherNegative, other, otherExponent, secondParts⟩ := isFinite_iff.mp secondFinite
  rw [unpack_eq_decoded firstParts, unpack_eq_decoded secondParts, number_of_parts firstParts,
    number_of_parts secondParts]
  rcases (spec_of_parts firstParts).1 with ⟨rfl, -⟩ | canonical <;>
    rcases (spec_of_parts secondParts).1 with ⟨rfl, -⟩ | otherCanonical
  · simp [decoded_zero, UnpackedFloat.compare]
  · rw [decoded_zero, Nat.cast_zero, zero_mul, mul_zero]
    exact (compare_decoded_zero otherCanonical _ _).1
  · rw [decoded_zero, Nat.cast_zero, zero_mul, mul_zero]
    exact (compare_decoded_zero canonical _ _).2
  · exact compare_decoded canonical otherCanonical _ _

/-- Finite numbers have the order of their exact values. -/
theorem lt_iff_number : first < second ↔ number first < number second := by
  rw [lt_iff_unpacked, UnpackedFloat.lt, compare_unpack firstFinite secondFinite, beq_iff_eq,
    Option.some.injEq, cmp_eq_lt_iff]

theorem le_iff_number : first ≤ second ↔ number first ≤ number second := by
  rw [le_iff_unpacked, UnpackedFloat.le, compare_unpack firstFinite secondFinite, Option.any_some,
    ← Ordering.ne_gt_iff_isLE, cmp_eq_gt_iff, not_lt]

/-- Finite numbers with one exact value are equal, unless they are zeros with different signs. -/
theorem eq_of_number_eq (same : number first = number second) (nonzero : number first ≠ 0) :
    first = second := by
  have order := compare_unpack firstFinite secondFinite
  rw [same, cmp_self_eq_eq] at order
  obtain ⟨negative, mantissa, exponent, firstParts⟩ := isFinite_iff.mp firstFinite
  obtain ⟨otherNegative, other, otherExponent, secondParts⟩ := isFinite_iff.mp secondFinite
  rw [unpack_eq_decoded firstParts, unpack_eq_decoded secondParts] at order
  have positive : 0 < mantissa := by
    refine Nat.pos_of_ne_zero ?_
    rintro rfl
    rw [number_of_parts firstParts] at nonzero
    exact nonzero (by simp)
  have otherPositive : 0 < other := by
    refine Nat.pos_of_ne_zero ?_
    rintro rfl
    rw [same, number_of_parts secondParts] at nonzero
    exact nonzero (by simp)
  rw [decoded_of_pos positive, decoded_of_pos otherPositive] at order
  have alike : negative = otherNegative ∧ exponent = otherExponent ∧ mantissa = other := by
    cases negative <;> cases otherNegative
    · simpa [signOf, UnpackedFloat.compare, Ordering.then_eq_eq] using order
    · simp [signOf, UnpackedFloat.compare] at order
    · simp [signOf, UnpackedFloat.compare] at order
    · simpa [signOf, UnpackedFloat.compare, Ordering.then_eq_eq] using order
  obtain ⟨rfl, rfl, rfl⟩ := alike
  exact eq_of_parts firstParts secondParts

end

/-! ## Rounded values -/

section

variable {value : ℚ} {whole : ℕ} {place : ℤ} (rounded : IsRounded value whole place)
  {mantissa : ℕ} {exponent : ℤ} (short : mantissa < 2 ^ 53) (lowest : lowestExponent ≤ exponent)

/-- A mantissa at a place is a whole number of units of a finer one. -/
theorem exists_units (mantissa : ℕ) {finer : ℤ} (le : finer ≤ exponent) :
    ∃ units : ℕ, (mantissa * 2 ^ exponent : ℚ) = units * 2 ^ finer :=
  ⟨mantissa <<< (exponent - finer).toNat, (shiftLeft_mul_zpow mantissa le).symm⟩

include short in
/-- A short mantissa at a finer place is below what has all its places there. -/
theorem mul_zpow_lt_of_finer (finer : exponent < place) :
    (mantissa * 2 ^ exponent : ℚ) < 2 ^ (place + 52) := by
  have few : (mantissa : ℚ) < 2 ^ (53 : ℤ) := by exact_mod_cast short
  calc (mantissa * 2 ^ exponent : ℚ)
      < 2 ^ (53 : ℤ) * 2 ^ exponent := mul_lt_mul_of_pos_right few (by positivity)
    _ = 2 ^ (53 + exponent) := (zpow_add₀ two_ne_zero ..).symm
    _ ≤ 2 ^ (place + 52) := zpow_le_zpow_right₀ one_le_two (by omega)

include rounded

/-- Above the lowest place a rounded value has all its places. -/
theorem IsRounded.two_pow_le_whole (higher : place ≠ lowestExponent) : 2 ^ 52 ≤ whole := by
  refine rounded.nearest.ge_of_ge ?_
  have above := rounded.above higher
  rw [add_comm, zpow_add₀ two_ne_zero, ← le_div_iff₀ (by positivity)] at above
  exact_mod_cast above

include short lowest

theorem IsRounded.mul_zpow_le (le : (mantissa * 2 ^ exponent : ℚ) ≤ value) :
    (mantissa * 2 ^ exponent : ℚ) ≤ whole * 2 ^ place := by
  rcases le_or_gt place exponent with finer | coarser
  · obtain ⟨units, same⟩ := exists_units mantissa finer
    rw [same, ← le_div_iff₀ (by positivity)] at le
    rw [same]
    exact mul_le_mul_of_nonneg_right (by exact_mod_cast rounded.nearest.ge_of_ge le) (by positivity)
  · have enough : (2 : ℚ) ^ (52 : ℤ) ≤ whole := by
      exact_mod_cast rounded.two_pow_le_whole (lowest.trans_lt coarser).ne'
    calc (mantissa * 2 ^ exponent : ℚ)
        ≤ 2 ^ (place + 52) := (mul_zpow_lt_of_finer short coarser).le
      _ = 2 ^ (52 : ℤ) * 2 ^ place := by rw [add_comm, zpow_add₀ two_ne_zero]
      _ ≤ whole * 2 ^ place := mul_le_mul_of_nonneg_right enough (by positivity)

theorem IsRounded.le_mul_zpow (le : value ≤ mantissa * 2 ^ exponent) :
    (whole * 2 ^ place : ℚ) ≤ mantissa * 2 ^ exponent := by
  rcases le_or_gt place exponent with finer | coarser
  · obtain ⟨units, same⟩ := exists_units mantissa finer
    rw [same, ← div_le_iff₀ (by positivity)] at le
    rw [same]
    exact mul_le_mul_of_nonneg_right (by exact_mod_cast rounded.nearest.le_of_le le) (by positivity)
  · have above := rounded.above (lowest.trans_lt coarser).ne'
    exact absurd (le.trans_lt (mul_zpow_lt_of_finer short coarser)) above.not_gt

/-- With signs, rounding keeps to the side of a number that a value is on. -/
theorem IsRounded.signed_le (positive : 0 < value) {negative otherNegative : Bool}
    (le : factor otherNegative * (mantissa * 2 ^ exponent) ≤ factor negative * value) :
    factor otherNegative * (mantissa * 2 ^ exponent) ≤ factor negative * (whole * 2 ^ place) := by
  have size : (0 : ℚ) ≤ mantissa * 2 ^ exponent := by positivity
  have wholeSize : (0 : ℚ) ≤ whole * 2 ^ place := by positivity
  cases negative <;> cases otherNegative <;>
    simp only [factor_false, factor_true, one_mul, neg_one_mul] at le ⊢
  · exact rounded.mul_zpow_le short lowest le
  · linarith
  · linarith
  · exact neg_le_neg (rounded.le_mul_zpow short lowest (neg_le_neg_iff.mp le))

theorem IsRounded.le_signed (positive : 0 < value) {negative otherNegative : Bool}
    (le : factor negative * value ≤ factor otherNegative * (mantissa * 2 ^ exponent)) :
    factor negative * (whole * 2 ^ place) ≤ factor otherNegative * (mantissa * 2 ^ exponent) := by
  have reversed : factor (!otherNegative) * (mantissa * 2 ^ exponent) ≤
      factor (!negative) * value := by
    rw [factor_not, factor_not, neg_mul, neg_mul]
    exact neg_le_neg le
  have result := rounded.signed_le short lowest positive reversed
  rw [factor_not, factor_not, neg_mul, neg_mul] at result
  exact neg_le_neg_iff.mp result

end

theorem short_of_parts {value : Float} {negative : Bool} {mantissa : ℕ} {exponent : ℤ}
    (finite : parts value = .finite negative mantissa exponent) :
    mantissa < 2 ^ 53 ∧ lowestExponent ≤ exponent := by
  rcases (spec_of_parts finite).1 with ⟨rfl, rfl⟩ | canonical
  · exact ⟨by decide, le_rfl⟩
  · exact ⟨canonical.short, canonical.lowest⟩

namespace RoundedFrom

variable {value bound : Float} {exact : ℚ} (rounded : RoundedFrom value exact)
  (small : |exact| < overflow) (boundFinite : bound.isFinite = true)
include rounded small

/-- The exact value of a rounded number: zero, or a whole number of units of its place. -/
theorem number_cases : exact = 0 ∧ number value = 0 ∨
    ∃ negative whole place, 0 < |exact| ∧ exact = factor negative * |exact| ∧
      IsRounded |exact| whole place ∧ number value = factor negative * (whole * 2 ^ place) := by
  cases rounded with
  | zero negative none packed =>
      have finite := @parts_pack negative 0 lowestExponent (.inl ⟨rfl, rfl⟩)
      rw [decoded_zero, ← packed] at finite
      exact .inl ⟨none, by rw [number_of_parts finite]; simp⟩
  | nonzero negative result some sign packed rounding =>
      obtain ⟨whole, place, rounded, -, same⟩ := rounding.exists_number small
      exact .inr ⟨negative, whole, place, abs_pos.mpr some, sign, rounded, packed ▸ same⟩

include boundFinite

/-- A number below an exact value is not above the rounded one. -/
theorem le_number (le : number bound ≤ exact) : number bound ≤ number value := by
  obtain ⟨negative, mantissa, exponent, boundParts⟩ := isFinite_iff.mp boundFinite
  rcases rounded.number_cases small with
    ⟨none, zero⟩ | ⟨sign, whole, place, positive, signed, isRounded, same⟩
  · rwa [zero, ← none]
  · rw [number_of_parts boundParts] at le ⊢
    rw [signed] at le
    rw [same]
    obtain ⟨short, lowest⟩ := short_of_parts boundParts
    exact isRounded.signed_le short lowest positive le

/-- A number above an exact value is not below the rounded one. -/
theorem number_le (le : exact ≤ number bound) : number value ≤ number bound := by
  obtain ⟨negative, mantissa, exponent, boundParts⟩ := isFinite_iff.mp boundFinite
  rcases rounded.number_cases small with
    ⟨none, zero⟩ | ⟨sign, whole, place, positive, signed, isRounded, same⟩
  · rwa [zero, ← none]
  · rw [number_of_parts boundParts] at le ⊢
    rw [signed] at le
    rw [same]
    obtain ⟨short, lowest⟩ := short_of_parts boundParts
    exact isRounded.le_signed short lowest positive le

end RoundedFrom

end Binary64
end CircuitSheet
