import CircuitSheet.Proofs.Binary64.Parts

/-!
# Rounding to double precision

A mantissa is shifted to the last place that double precision has room for, with two bits that
keep track of what is lost, and is rounded to the nearest whole number there. What these steps do
to the rational number in question is stated exactly.
-/

namespace CircuitSheet
namespace Binary64

open Float.Model Float.Model.UnpackedFloat

/-! ## The nearest whole number -/

/-- The whole number is a nearest one; of two it is the even one. -/
structure IsNearest (value : ℚ) (whole : ℕ) : Prop where
  below : whole - 1 / 2 ≤ value
  above : value ≤ whole + 1 / 2
  even : value = whole - 1 / 2 ∨ value = whole + 1 / 2 → Even whole

namespace IsNearest

variable {value : ℚ} {whole other : ℕ}

theorem of_lt (below : whole - 1 / 2 < value) (above : value < whole + 1 / 2) :
    IsNearest value whole where
  below := below.le
  above := above.le
  even := by rintro (low | high) <;> linarith

theorem le_of_le (nearest : IsNearest value whole) {bound : ℕ} (le : value ≤ bound) :
    whole ≤ bound := by
  have close : (whole : ℚ) < bound + 1 := by linarith [nearest.below]
  exact Nat.lt_succ_iff.mp (by exact_mod_cast close)

theorem ge_of_ge (nearest : IsNearest value whole) {bound : ℕ} (ge : bound ≤ value) :
    bound ≤ whole := by
  have close : (bound : ℚ) < whole + 1 := by linarith [nearest.above]
  exact Nat.lt_succ_iff.mp (by exact_mod_cast close)

/-- Neighbours are not both even. -/
theorem le (nearest : IsNearest value whole) (otherNearest : IsNearest value other) :
    whole ≤ other := by
  by_contra above
  have less : other + 1 ≤ whole := Nat.succ_le_of_lt (not_le.mp above)
  have apart : (other : ℚ) + 1 ≤ whole := by exact_mod_cast less
  have half : value = other + 1 / 2 := by linarith [nearest.below, otherNearest.above]
  have sameHalf : value = whole - 1 / 2 := by linarith [nearest.below, otherNearest.above]
  have neighbour : whole = other + 1 := by
    have : (whole : ℚ) = other + 1 := by linarith
    exact_mod_cast this
  have evenWhole := nearest.even (.inl sameHalf)
  rw [neighbour, Nat.even_add_one] at evenWhole
  exact evenWhole (otherNearest.even (.inr half))

theorem eq (nearest : IsNearest value whole) (otherNearest : IsNearest value other) :
    whole = other :=
  Nat.le_antisymm (nearest.le otherNearest) (otherNearest.le nearest)

end IsNearest

/-! ## Mantissas with a round and a sticky bit -/

/-- The numbers that a mantissa with its two bits stands for. -/
def StandsFor : ExtendedMantissa → ℚ → Prop
  | ⟨mantissa, false, false⟩, value => value = mantissa
  | ⟨mantissa, false, true⟩, value => mantissa < value ∧ value < mantissa + 1 / 2
  | ⟨mantissa, true, false⟩, value => value = mantissa + 1 / 2
  | ⟨mantissa, true, true⟩, value => mantissa + 1 / 2 < value ∧ value < mantissa + 1

namespace StandsFor

variable {extended : ExtendedMantissa} {value : ℚ}

theorem mantissa_le (stands : StandsFor extended value) : extended.mantissa ≤ value := by
  rcases extended with ⟨mantissa, _ | _, _ | _⟩ <;> simp only [StandsFor] at stands <;> linarith

theorem lt_mantissa_succ (stands : StandsFor extended value) :
    value < extended.mantissa + 1 := by
  rcases extended with ⟨mantissa, _ | _, _ | _⟩ <;> simp only [StandsFor] at stands <;> linarith

/-- The rounded mantissa is the nearest whole number. -/
theorem isNearest (stands : StandsFor extended value) :
    IsNearest value extended.roundedMantissa := by
  rcases extended with ⟨mantissa, _ | _, _ | _⟩ <;>
    simp only [StandsFor, ExtendedMantissa.roundedMantissa, ExtendedMantissa.accuracy,
      Accuracy.roundToNearestEven] at stands ⊢
  · exact .of_lt (by linarith) (by linarith)
  · exact .of_lt (by linarith) (by linarith)
  · have evenSum : Even (mantissa + mantissa % 2) := by
      rw [Nat.even_iff]
      omega
    refine ⟨?_, ?_, fun _ => evenSum⟩ <;>
      rcases Nat.mod_two_eq_zero_or_one mantissa with parity | parity <;>
      rw [parity] <;> push_cast <;> linarith
  · exact .of_lt (by push_cast; linarith) (by push_cast; linarith)

/-- A shift by one place halves the number. -/
theorem shiftRightOne (stands : StandsFor extended value) :
    StandsFor extended.shiftRightOne (value / 2) := by
  rcases extended with ⟨mantissa, round, sticky⟩
  have split : (mantissa : ℚ) = 2 * (mantissa / 2 : ℕ) + (mantissa % 2 : ℕ) := by
    exact_mod_cast (Nat.div_add_mod mantissa 2).symm
  have lost : (mantissa % 2 = 0 ∧ (mantissa % 2 != 0) = false) ∨
      (mantissa % 2 = 1 ∧ (mantissa % 2 != 0) = true) := by
    rcases Nat.mod_two_eq_zero_or_one mantissa with even | odd
    · exact .inl ⟨even, by rw [even]; rfl⟩
    · exact .inr ⟨odd, by rw [odd]; rfl⟩
  rcases lost with ⟨parity, bit⟩ | ⟨parity, bit⟩ <;> rw [parity] at split <;> push_cast at split <;>
    cases round <;> cases sticky <;>
    simp only [StandsFor, ExtendedMantissa.shiftRightOne, bit, Bool.or_self, Bool.or_false,
      Bool.or_true] at stands ⊢ <;>
    first | linarith | constructor <;> linarith

/-- A shift by some places divides the number by their power of two. -/
theorem shiftRight (stands : StandsFor extended value) (places : ℕ) :
    StandsFor (extended >>> places) (value / 2 ^ places) := by
  induction places with
  | zero =>
      rw [pow_zero, div_one]
      exact stands
  | succ places inductionHypothesis =>
      have halved := inductionHypothesis.shiftRightOne
      rwa [div_div, ← pow_succ] at halved

end StandsFor

@[simp] theorem mantissa_ofMantissaAndAccuracy (mantissa : ℕ) (accuracy : Accuracy) :
    (ExtendedMantissa.ofMantissaAndAccuracy mantissa accuracy).mantissa = mantissa := by
  rcases accuracy with _ | (_ | _ | _) <;> rfl

theorem standsFor_exact (mantissa : ℕ) :
    StandsFor (.ofMantissaAndAccuracy mantissa .exact) mantissa := rfl

/-! ## Rounding at the last place -/

/-- The last place that double precision has room for in a number from two to the power `top` up
to its double. -/
def lastPlace (top : ℤ) : ℤ := max (top - 52) lowestExponent

theorem targetExponent_eq_lastPlace (total : ℤ) :
    Format.binary64.targetExponent total = lastPlace (total - 1) := by
  simp only [Format.targetExponent, Format.mantissaBits, Format.minExponent, lastPlace,
    lowestExponent]
  norm_num
  omega

theorem targetExponent_eq (mantissa : ℕ) (exponent : ℤ) :
    Format.binary64.targetExponent (totalExponent mantissa exponent) =
      lastPlace (mantissa.log2 + exponent) := by
  rw [targetExponent_eq_lastPlace, totalExponent, add_right_comm, add_sub_cancel_right]

/-- A positive number is rounded to whole units of a place: the last one that double precision has
room for. -/
structure IsRounded (value : ℚ) (whole : ℕ) (place : ℤ) : Prop where
  nearest : IsNearest (value / 2 ^ place) whole
  lowest : lowestExponent ≤ place
  below : value < 2 ^ (place + 53)
  above : place ≠ lowestExponent → 2 ^ (place + 52) ≤ value

/-- The number of whole units of a place. When rounding has made the mantissa too long, it is
a power of two. -/
def carried (negative : Bool) (whole : ℕ) (place : ℤ) : UnpackedFloat :=
  if whole < 2 ^ 53 then decoded negative whole place
  else decoded negative (2 ^ 52) (place + 1)

theorem IsRounded.whole_le {value : ℚ} {whole : ℕ} {place : ℤ}
    (rounded : IsRounded value whole place) : whole ≤ 2 ^ 53 := by
  refine rounded.nearest.le_of_le ?_
  have below := rounded.below
  rw [add_comm, zpow_add₀ two_ne_zero] at below
  rw [div_le_iff₀ (by positivity)]
  exact_mod_cast below.le

/-- A mantissa that fits is left where it is. -/
theorem shift_short {whole : ℕ} {place : ℤ} (fits : whole < 2 ^ 53)
    (lowest : lowestExponent ≤ place) :
    shiftToTargetExponent Format.binary64 whole place .exact = (⟨whole, false, false⟩, place) := by
  have top : whole.log2 ≤ 52 := by
    rcases eq_or_ne whole 0 with rfl | positive
    · simp
    · exact Nat.lt_succ_iff.mp ((Nat.log2_lt positive).mpr fits)
  have still : (lastPlace (whole.log2 + place) - place).toNat = 0 := by
    rw [lastPlace]
    omega
  unfold shiftToTargetExponent
  dsimp only
  rw [targetExponent_eq, shiftToExponent, still, Nat.cast_zero, add_zero]
  rfl

/-- The mantissa that is a place too long is halved. -/
theorem shift_long {place : ℤ} (lowest : lowestExponent ≤ place) :
    shiftToTargetExponent Format.binary64 (2 ^ 53) place .exact =
      (⟨2 ^ 52, false, false⟩, place + 1) := by
  have one : (lastPlace ((2 ^ 53 : ℕ).log2 + place) - place).toNat = 1 := by
    rw [lastPlace, Nat.log2_two_pow]
    omega
  unfold shiftToTargetExponent
  dsimp only
  rw [targetExponent_eq, shiftToExponent, one, Nat.cast_one]
  rfl

section

variable {mantissa : ℕ} {exponent : ℤ} {accuracy : Accuracy} {value : ℚ}
  (stands : StandsFor (.ofMantissaAndAccuracy mantissa accuracy) (value / 2 ^ exponent))
include stands

/-- A number is at least the highest power of two in its mantissa. -/
theorem two_zpow_le_of_standsFor (nonzero : mantissa ≠ 0) :
    (2 : ℚ) ^ (mantissa.log2 + exponent) ≤ value := by
  have power : ((2 ^ mantissa.log2 : ℕ) : ℚ) ≤ mantissa :=
    Nat.cast_le.mpr (Nat.log2_self_le nonzero)
  have mantissaLe := stands.mantissa_le
  rw [mantissa_ofMantissaAndAccuracy] at mantissaLe
  rw [zpow_add₀ two_ne_zero, ← le_div_iff₀ (by positivity)]
  exact_mod_cast power.trans mantissaLe

/-- A number is below the next power of two. -/
theorem lt_two_zpow_of_standsFor : value < (2 : ℚ) ^ (mantissa.log2 + 1 + exponent) := by
  have power : ((mantissa + 1 : ℕ) : ℚ) ≤ (2 ^ (mantissa.log2 + 1) : ℕ) :=
    Nat.cast_le.mpr Nat.lt_log2_self
  have ltSucc := stands.lt_mantissa_succ
  rw [mantissa_ofMantissaAndAccuracy] at ltSucc
  rw [zpow_add₀ two_ne_zero, ← div_lt_iff₀ (by positivity)]
  exact_mod_cast ltSucc.trans_le (by exact_mod_cast power)

end

/-- Rounding a positive number gives its nearest multiple of the last place. -/
theorem exists_roundWithAccuracy_eq_carried {mantissa : ℕ} {exponent : ℤ} {accuracy : Accuracy}
    {value : ℚ} (tiny : mantissa = 0 → exponent ≤ lowestExponent)
    (stands : StandsFor (.ofMantissaAndAccuracy mantissa accuracy) (value / 2 ^ exponent))
    (room : exponent ≤ lastPlace (mantissa.log2 + exponent)) (negative : Bool) :
    ∃ whole place, IsRounded value whole place ∧
      roundWithAccuracy Format.binary64 (signOf negative) mantissa exponent accuracy =
        carried negative whole place := by
  set place := lastPlace (mantissa.log2 + exponent) with placeEq
  obtain ⟨places, steps⟩ : ∃ places : ℕ, place = exponent + places :=
    ⟨(place - exponent).toNat, by omega⟩
  have least : lowestExponent ≤ place := le_max_right ..
  have shifted : shiftToTargetExponent Format.binary64 mantissa exponent accuracy =
      (ExtendedMantissa.ofMantissaAndAccuracy mantissa accuracy >>> places, place) := by
    unfold shiftToTargetExponent
    dsimp only
    rw [targetExponent_eq, ← placeEq, shiftToExponent, steps, add_sub_cancel_left,
      Int.toNat_natCast]
  have standsThere : StandsFor (ExtendedMantissa.ofMantissaAndAccuracy mantissa accuracy >>> places)
      (value / 2 ^ place) := by
    rw [steps, zpow_add₀ two_ne_zero, ← div_div, zpow_natCast]
    exact stands.shiftRight places
  have rounded : IsRounded value
      (ExtendedMantissa.ofMantissaAndAccuracy mantissa accuracy >>> places).roundedMantissa place := by
    refine ⟨standsThere.isNearest, least,
      (lt_two_zpow_of_standsFor stands).trans_le ?_, fun higher => ?_⟩
    · exact zpow_le_zpow_right₀ one_le_two (by rw [placeEq, lastPlace]; omega)
    · have positive : mantissa ≠ 0 := by
        rintro rfl
        have low := tiny rfl
        rw [placeEq, lastPlace, Nat.log2_zero] at higher
        omega
      refine (two_zpow_le_of_standsFor stands positive).trans'
        (zpow_le_zpow_right₀ one_le_two ?_)
      rw [placeEq, lastPlace] at higher ⊢
      omega
  refine ⟨_, place, rounded, ?_⟩
  rw [roundWithAccuracy, shifted]
  dsimp only
  have fits := rounded.whole_le
  generalize (ExtendedMantissa.ofMantissaAndAccuracy mantissa accuracy >>> places).roundedMantissa =
    whole at fits ⊢
  rw [carried]
  rcases fits.lt_or_eq with short | rfl
  · rw [shift_short short least, if_pos short]
    rfl
  · rw [shift_long least]
    rfl

/-! ## Numbers that round to a given one -/

/-- A positive number rounds to a mantissa and an exponent. Below a power of two the next number is
only half as far away, unless the exponent is the lowest. -/
structure RoundsTo (value : ℚ) (mantissa : ℕ) (exponent : ℤ) : Prop where
  nearest : IsNearest (value / 2 ^ exponent) mantissa
  apart : mantissa = 2 ^ 52 → exponent ≠ lowestExponent →
    mantissa - 1 / 4 ≤ value / 2 ^ exponent

/-- A number keeps its size in units of a finer place. -/
theorem div_zpow_pred (value : ℚ) (place : ℤ) :
    value / 2 ^ (place - 1) = 2 * (value / 2 ^ place) := by
  rw [zpow_sub_one₀ two_ne_zero]
  field_simp

section

variable {value : ℚ} {whole mantissa : ℕ} {place exponent : ℤ}
  (rounded : IsRounded value whole place) (canonical : IsCanonical mantissa exponent)
  (roundsTo : RoundsTo value mantissa exponent)
include rounded canonical roundsTo

/-- The place can only be finer just below a power of two, and then the mantissa is carried. -/
theorem IsRounded.power_of_finer (finer : place < exponent) :
    mantissa = 2 ^ 52 ∧ whole = 2 ^ 53 ∧ place = exponent - 1 := by
  have higher : exponent ≠ lowestExponent := (rounded.lowest.trans_lt finer).ne'
  have unit : (0 : ℚ) < 2 ^ exponent := by positivity
  have nearestBelow := roundsTo.nearest.below
  have small : value / 2 ^ exponent < 2 ^ 52 := by
    have bound : value < 2 ^ (52 + exponent) :=
      rounded.below.trans_le (zpow_le_zpow_right₀ one_le_two (by omega))
    rw [zpow_add₀ two_ne_zero] at bound
    rw [div_lt_iff₀ unit]
    exact_mod_cast bound
  have power : mantissa = 2 ^ 52 := by
    have atMost : (mantissa : ℚ) < 2 ^ 52 + 1 := by linarith
    exact le_antisymm (Nat.lt_succ_iff.mp (by exact_mod_cast atMost)) (canonical.normal higher)
  have apart := roundsTo.apart power higher
  rw [power] at apart
  norm_num at apart small
  have next : place = exponent - 1 := by
    by_contra other
    have bound : value < 2 ^ (51 + exponent) :=
      rounded.below.trans_le (zpow_le_zpow_right₀ one_le_two (by omega))
    rw [zpow_add₀ two_ne_zero, ← div_lt_iff₀ unit] at bound
    norm_num at bound
    linarith
  refine ⟨power, rounded.nearest.eq ?_, next⟩
  rw [next, div_zpow_pred]
  refine ⟨?_, ?_, fun _ => by decide⟩ <;> norm_num <;> linarith

/-- The place is never coarser. -/
theorem IsRounded.place_le : place ≤ exponent := by
  by_contra coarser
  have atLeast := rounded.above (canonical.lowest.trans_lt (not_le.mp coarser)).ne'
  have bound : (2 : ℚ) ^ (53 + exponent) ≤ value :=
    atLeast.trans' (zpow_le_zpow_right₀ one_le_two (by omega))
  have short : (mantissa : ℚ) + 1 ≤ 2 ^ 53 := by exact_mod_cast canonical.short
  have above := roundsTo.nearest.above
  rw [zpow_add₀ two_ne_zero, ← le_div_iff₀ (by positivity)] at bound
  norm_num at bound short
  linarith

/-- Where a number is rounded, the number that it rounds to results. -/
theorem IsRounded.carried_eq (negative : Bool) :
    carried negative whole place = decoded negative mantissa exponent := by
  rcases (rounded.place_le canonical roundsTo).lt_or_eq with finer | rfl
  · obtain ⟨power, carry, next⟩ := rounded.power_of_finer canonical roundsTo finer
    rw [carried, if_neg carry.not_lt, power, next, sub_add_cancel]
  · rw [rounded.nearest.eq roundsTo.nearest, carried, if_pos canonical.short]

end

/-- A canonical number rounds to itself. -/
theorem roundsTo_self (mantissa : ℕ) (exponent : ℤ) :
    RoundsTo (mantissa * 2 ^ exponent) mantissa exponent := by
  have exact : (mantissa * 2 ^ exponent : ℚ) / 2 ^ exponent = mantissa := by
    field_simp
  refine ⟨?_, fun _ _ => ?_⟩ <;> rw [exact]
  · exact .of_lt (by linarith) (by linarith)
  · linarith

end Binary64
end CircuitSheet
