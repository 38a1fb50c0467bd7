import CircuitSheet.Proofs.Binary64.Arithmetic

/-!
# Results in the range of double precision

Rounding never carries a number beyond a power of two, and only numbers that are almost twice as
large as the largest power of two become infinite. So sums, products and quotients of numbers of
moderate size are finite.
-/

namespace CircuitSheet
namespace Binary64

open Float.Model
open Float.Model.UnpackedFloat (Sign)

/-! ## Exact values -/

/-- The factor that a sign stands for. -/
def factor (negative : Bool) : ℚ :=
  if negative then -1 else 1

@[simp] theorem factor_false : factor false = 1 := rfl

@[simp] theorem factor_true : factor true = -1 := rfl

@[simp] theorem abs_factor (negative : Bool) : |factor negative| = 1 := by
  cases negative <;> simp

theorem factor_not (negative : Bool) : factor (!negative) = -factor negative := by
  cases negative <;> simp

/-- The exact value of a finite number; zero for all others. -/
def Parts.number : Parts → ℚ
  | .finite negative mantissa exponent => factor negative * (mantissa * 2 ^ exponent)
  | _ => 0

/-- The exact value of a finite number; zero for all others. -/
def number (value : Float) : ℚ :=
  (parts value).number

theorem number_of_parts {value : Float} {negative : Bool} {mantissa : ℕ} {exponent : ℤ}
    (finite : parts value = .finite negative mantissa exponent) :
    number value = factor negative * (mantissa * 2 ^ exponent) := by
  rw [number, finite, Parts.number]

theorem abs_number_of_parts {value : Float} {negative : Bool} {mantissa : ℕ} {exponent : ℤ}
    (finite : parts value = .finite negative mantissa exponent) :
    |number value| = mantissa * 2 ^ exponent := by
  rw [number_of_parts finite, abs_mul, abs_factor, one_mul, abs_of_nonneg (by positivity)]

/-- The distance of the largest numbers from each other. -/
def topUnit : ℚ := 2 ^ (971 : ℤ)

theorem topUnit_pos : 0 < topUnit := by
  unfold topUnit
  positivity

theorem two_pow_lt_topUnit {places : ℕ} (few : places ≤ 970) : (2 : ℚ) ^ places < topUnit := by
  rw [topUnit, ← zpow_natCast]
  exact zpow_lt_zpow_right₀ one_lt_two (by omega)

/-- The least number that is rounded to infinity. -/
def overflow : ℚ := (2 ^ 53 - 1 / 2) * topUnit

theorem two_pow_lt_overflow {places : ℕ} (few : places ≤ 970) : (2 : ℚ) ^ places < overflow := by
  have power := two_pow_lt_topUnit few
  have positive := topUnit_pos
  rw [overflow]
  linarith

/-- The largest finite number keeps a distance from those that are rounded to infinity. -/
theorem abs_number_le (value : Float) : |number value| ≤ (2 ^ 53 - 1) * topUnit := by
  have nonneg : 0 ≤ (2 ^ 53 - 1) * topUnit := mul_nonneg (by norm_num) topUnit_pos.le
  cases found : parts value with
  | finite negative mantissa exponent =>
      rw [abs_number_of_parts found]
      rcases (spec_of_parts found).1 with ⟨rfl, -⟩ | canonical
      · rw [Nat.cast_zero, zero_mul]
        exact nonneg
      · have short : (mantissa : ℚ) ≤ 2 ^ 53 - 1 := by
          have less : (mantissa : ℚ) + 1 ≤ 2 ^ 53 := by exact_mod_cast canonical.short
          linarith
        exact mul_le_mul short (zpow_le_zpow_right₀ one_le_two canonical.highest)
          (by positivity) (by norm_num)
  | infinite negative =>
      simp only [number, found, Parts.number, abs_zero]
      exact nonneg
  | undefined =>
      simp only [number, found, Parts.number, abs_zero]
      exact nonneg

/-! ## Rounded results -/

/-- A number is finite and as far from zero as an exact value at most, up to the next power of
two. -/
structure Represents (value : Float) (exact : ℚ) : Prop where
  finite : value.isFinite = true
  bounded : ∀ places : ℕ, |exact| ≤ 2 ^ places → |number value| ≤ 2 ^ places

theorem IsRounded.canonical {value : ℚ} {whole : ℕ} {place : ℤ}
    (rounded : IsRounded value whole place) (small : value < overflow) (positive : 0 < whole) :
    whole < 2 ^ 53 ∧ IsCanonical whole place ∨
      whole = 2 ^ 53 ∧ IsCanonical (2 ^ 52) (place + 1) := by
  have unit : (0 : ℚ) < 2 ^ place := by positivity
  have least := rounded.lowest
  have inRange : place ≤ 971 := by
    by_contra beyond
    have above := rounded.above (by rw [lowestExponent]; omega)
    have top : 2 ^ 53 * topUnit ≤ value := by
      have power : (2 : ℚ) ^ 53 * topUnit = 2 ^ (53 + 971 : ℤ) := by
        rw [topUnit, zpow_add₀ two_ne_zero]
        rfl
      rw [power]
      exact (zpow_le_zpow_right₀ one_le_two (by omega)).trans above
    have positive := topUnit_pos
    rw [overflow] at small
    linarith
  rcases rounded.whole_le.lt_or_eq with short | long
  · refine .inl ⟨short, positive, short, least, fun higher => ?_, inRange⟩
    refine rounded.nearest.ge_of_ge ?_
    have above := rounded.above higher
    rw [add_comm, zpow_add₀ two_ne_zero] at above
    rw [le_div_iff₀ unit]
    exact_mod_cast above
  · refine .inr ⟨long, by decide, by decide, by omega, fun _ => le_refl _, ?_⟩
    by_contra beyond
    have last : place = 971 := by omega
    have below := rounded.nearest.below
    rw [long, last, ← topUnit, le_div_iff₀ topUnit_pos] at below
    rw [overflow] at small
    push_cast at below
    linarith

/-- Rounding does not carry a number beyond a power of two. -/
theorem IsRounded.le_two_pow {value : ℚ} {whole : ℕ} {place : ℤ}
    (rounded : IsRounded value whole place) {places : ℕ} (le : value ≤ 2 ^ places) :
    (whole : ℚ) * 2 ^ place ≤ 2 ^ places := by
  have fine : place ≤ places := by
    by_contra coarse
    have above := rounded.above (by rw [lowestExponent]; omega)
    have less : (2 : ℚ) ^ (places : ℤ) < 2 ^ (place + 52) :=
      zpow_lt_zpow_right₀ one_lt_two (by omega)
    rw [zpow_natCast] at less
    linarith
  obtain ⟨steps, same⟩ : ∃ steps : ℕ, (places : ℤ) = steps + place :=
    ⟨(places - place).toNat, by omega⟩
  have power : (2 : ℚ) ^ places = (2 ^ steps : ℕ) * 2 ^ place := by
    rw [← zpow_natCast, same, zpow_add₀ two_ne_zero, zpow_natCast]
    norm_cast
  rw [power] at le ⊢
  rw [← div_le_iff₀ (by positivity)] at le
  exact mul_le_mul_of_nonneg_right (Nat.cast_le.mpr (rounded.nearest.le_of_le le)) (by positivity)

/-- A rounded number that is not too large is finite, and a whole number of units of a place. -/
theorem IsRounding.exists_number {result : UnpackedFloat} {negative : Bool} {value : ℚ}
    (rounding : IsRounding result negative value) (small : value < overflow) :
    ∃ whole place, IsRounded value whole place ∧
      (Float.ofModel (.pack result)).isFinite = true ∧
      number (.ofModel (.pack result)) = factor negative * (whole * 2 ^ place) := by
  obtain ⟨whole, place, rounded, rfl⟩ := rounding
  obtain ⟨mantissa, exponent, finite, same⟩ : ∃ mantissa exponent,
      parts (.ofModel (.pack (carried negative whole place))) =
          .finite negative mantissa exponent ∧
        (mantissa * 2 ^ exponent : ℚ) = whole * 2 ^ place := by
    rcases Nat.eq_zero_or_pos whole with rfl | positive
    · refine ⟨0, lowestExponent, ?_, by simp⟩
      rw [carried, if_pos (by decide), decoded_zero, ← decoded_zero negative lowestExponent]
      exact Binary64.parts_pack (.inl ⟨rfl, rfl⟩)
    · rcases rounded.canonical small positive with ⟨short, canonical⟩ | ⟨long, canonical⟩
      · refine ⟨whole, place, ?_, rfl⟩
        rw [carried, if_pos short]
        exact Binary64.parts_pack (.inr canonical)
      · refine ⟨2 ^ 52, place + 1, ?_, ?_⟩
        · rw [carried, if_neg long.not_lt]
          exact Binary64.parts_pack (.inr canonical)
        · rw [long, zpow_add_one₀ two_ne_zero]
          push_cast
          ring
  refine ⟨whole, place, rounded, isFinite_iff.mpr ⟨_, _, _, finite⟩, ?_⟩
  rw [number_of_parts finite, same]

theorem IsRounding.represents {result : UnpackedFloat} {negative : Bool} {value exact : ℚ}
    (rounding : IsRounding result negative value) (size : |exact| = value)
    (small : value < overflow) : Represents (.ofModel (.pack result)) exact := by
  obtain ⟨whole, place, rounded, finite, same⟩ := rounding.exists_number small
  refine ⟨finite, fun places bound => ?_⟩
  rw [same, abs_mul, abs_factor, one_mul, abs_of_nonneg (by positivity)]
  exact rounded.le_two_pow (size ▸ bound)

/-- Zero represents zero. -/
theorem represents_zero (negative : Bool) :
    Represents (.ofModel (.pack (.zero (signOf negative)))) 0 := by
  have finite := @parts_pack negative 0 lowestExponent (.inl ⟨rfl, rfl⟩)
  rw [decoded_zero] at finite
  refine ⟨isFinite_iff.mpr ⟨_, _, _, finite⟩, fun places _ => ?_⟩
  rw [abs_number_of_parts finite, Nat.cast_zero, zero_mul]
  positivity

/-! ## Products and quotients -/

section

variable {first second : Float} (firstFinite : first.isFinite = true)
  (secondFinite : second.isFinite = true)
include firstFinite secondFinite

theorem represents_mul (small : |number first * number second| < overflow) :
    Represents (first * second) (number first * number second) := by
  obtain ⟨negative, mantissa, exponent, firstParts⟩ := isFinite_iff.mp firstFinite
  obtain ⟨otherNegative, other, otherExponent, secondParts⟩ := isFinite_iff.mp secondFinite
  change Represents (.ofModel (.pack (UnpackedFloat.mul Format.binary64 first.toModel.unpack
    second.toModel.unpack))) _
  rw [unpack_eq_decoded firstParts, unpack_eq_decoded secondParts]
  have product : |number first * number second| =
      mantissa * 2 ^ exponent * (other * 2 ^ otherExponent) := by
    rw [abs_mul, abs_number_of_parts firstParts, abs_number_of_parts secondParts]
  have zero (none : |number first * number second| = 0) (sign : Bool) :
      Represents (.ofModel (.pack (.zero (signOf sign)))) (number first * number second) := by
    rw [abs_eq_zero.mp none]
    exact represents_zero sign
  rcases (spec_of_parts firstParts).1 with ⟨rfl, -⟩ | canonical
  · have none : |number first * number second| = 0 := by simp [product]
    rcases Nat.eq_zero_or_pos other with rfl | positive
    · rw [decoded_zero, decoded_zero, UnpackedFloat.mul, signOf_mul]
      exact zero none _
    · rw [decoded_zero, decoded_of_pos positive, UnpackedFloat.mul, signOf_mul]
      exact zero none _
  · rcases (spec_of_parts secondParts).1 with ⟨rfl, -⟩ | otherCanonical
    · have none : |number first * number second| = 0 := by simp [product]
      rw [decoded_zero, decoded_of_pos canonical.positive, UnpackedFloat.mul, signOf_mul]
      exact zero none _
    · exact (isRounding_mul canonical.positive otherCanonical.positive exponent otherExponent
        negative otherNegative (room_mul canonical otherCanonical)).represents product
          (product ▸ small)

theorem represents_div (nonzero : number second ≠ 0)
    (small : |number first / number second| < overflow) :
    Represents (first / second) (number first / number second) := by
  obtain ⟨negative, mantissa, exponent, firstParts⟩ := isFinite_iff.mp firstFinite
  obtain ⟨otherNegative, other, otherExponent, secondParts⟩ := isFinite_iff.mp secondFinite
  have otherPositive : 0 < other := by
    rcases Nat.eq_zero_or_pos other with rfl | positive
    · rw [number_of_parts secondParts] at nonzero
      exact absurd (by simp) nonzero
    · exact positive
  change Represents (.ofModel (.pack (UnpackedFloat.div Format.binary64 first.toModel.unpack
    second.toModel.unpack))) _
  rw [unpack_eq_decoded firstParts, unpack_eq_decoded secondParts]
  have quotient : |number first / number second| =
      mantissa * 2 ^ exponent / (other * 2 ^ otherExponent) := by
    rw [abs_div, abs_number_of_parts firstParts, abs_number_of_parts secondParts]
  rcases Nat.eq_zero_or_pos mantissa with rfl | positive
  · have none : number first / number second = 0 := by
      rw [← abs_eq_zero, quotient]
      simp
    rw [decoded_zero, decoded_of_pos otherPositive, UnpackedFloat.div, signOf_div, none]
    exact represents_zero _
  · exact (isRounding_div positive otherPositive exponent otherExponent negative
      otherNegative).represents quotient (quotient ▸ small)

end

/-! ## Sums and differences -/

theorem cast_apply (negative : Bool) (whole : ℕ) :
    (((signOf negative).apply whole : ℤ) : ℚ) = factor negative * whole := by
  cases negative <;> simp [signOf, Sign.apply, factor]

/-- A number is an exact value, rounded: zero for zero, and for any other value a rounding with its
sign. -/
inductive RoundedFrom (value : Float) (exact : ℚ) : Prop
  | zero (negative : Bool) (none : exact = 0)
      (packed : value = .ofModel (.pack (.zero (signOf negative))))
  | nonzero (negative : Bool) (result : UnpackedFloat) (some : exact ≠ 0)
      (sign : exact = factor negative * |exact|) (packed : value = .ofModel (.pack result))
      (rounding : IsRounding result negative |exact|)

theorem RoundedFrom.represents {value : Float} {exact : ℚ} (rounded : RoundedFrom value exact)
    (small : |exact| < overflow) : Represents value exact := by
  cases rounded with
  | zero negative none packed =>
      rw [packed, none]
      exact represents_zero negative
  | nonzero negative result _ _ packed rounding =>
      rw [packed]
      exact rounding.represents rfl small

theorem roundedFrom_of_isRounding {result : UnpackedFloat} {negative : Bool} {size : ℚ}
    (positive : 0 < size) (rounding : IsRounding result negative size) :
    RoundedFrom (.ofModel (.pack result)) (factor negative * size) := by
  have absolute : |factor negative * size| = size := by
    rw [abs_mul, abs_factor, one_mul, abs_of_pos positive]
  refine .nonzero negative result ?_ (by rw [absolute]) rfl (by rwa [absolute])
  rw [← abs_ne_zero, absolute]
  exact positive.ne'

/-- A canonical number needs no rounding. -/
theorem isRounding_decoded {mantissa : ℕ} {exponent : ℤ} (canonical : IsCanonical mantissa exponent)
    (negative : Bool) :
    IsRounding (decoded negative mantissa exponent) negative (mantissa * 2 ^ exponent) := by
  refine ⟨mantissa, exponent, ⟨(roundsTo_self mantissa exponent).nearest, canonical.lowest, ?_, ?_⟩,
    by rw [carried, if_pos canonical.short]⟩
  · rw [add_comm, zpow_add₀ two_ne_zero]
    exact mul_lt_mul_of_pos_right (by exact_mod_cast canonical.short) (by positivity)
  · intro higher
    rw [add_comm, zpow_add₀ two_ne_zero]
    exact mul_le_mul_of_nonneg_right (by exact_mod_cast canonical.normal higher) (by positivity)

theorem roundedFrom_decoded {negative : Bool} {mantissa : ℕ} {exponent : ℤ}
    (canonical : mantissa = 0 ∧ exponent = lowestExponent ∨ IsCanonical mantissa exponent) :
    RoundedFrom (.ofModel (.pack (decoded negative mantissa exponent)))
      (factor negative * (mantissa * 2 ^ exponent)) := by
  rcases canonical with ⟨rfl, rfl⟩ | canonical
  · exact .zero negative (by simp) rfl
  · have positive : (0 : ℚ) < mantissa := by exact_mod_cast canonical.positive
    exact roundedFrom_of_isRounding (by positivity) (isRounding_decoded canonical negative)

theorem roundedFrom_normalize (mantissa exponent : ℤ) :
    RoundedFrom
      (.ofModel (.pack (UnpackedFloat.normalize Format.binary64 mantissa exponent .positive)))
      (mantissa * 2 ^ exponent) := by
  have rounding (positive : 0 < mantissa.natAbs) (negative : Bool) :=
    roundedFrom_of_isRounding (by positivity)
      (isRounding_round positive exponent negative)
  have whole : (mantissa.natAbs : ℚ) = |(mantissa : ℚ)| := by
    rw [Nat.cast_natAbs, Int.cast_abs]
  unfold UnpackedFloat.normalize
  rcases lt_trichotomy mantissa 0 with below | rfl | above
  · rw [Int.compare_eq_lt.mpr below]
    dsimp only
    have exact : (mantissa * 2 ^ exponent : ℚ) =
        factor true * (mantissa.natAbs * 2 ^ exponent) := by
      rw [whole, abs_of_neg (by exact_mod_cast below), factor_true]
      ring
    rw [show (-mantissa).toNat = mantissa.natAbs by omega, exact]
    exact rounding (by omega) true
  · exact .zero false (by simp) rfl
  · rw [Int.compare_eq_gt.mpr above]
    dsimp only
    have exact : (mantissa * 2 ^ exponent : ℚ) =
        factor false * (mantissa.natAbs * 2 ^ exponent) := by
      rw [whole, abs_of_pos (by exact_mod_cast above), factor_false, one_mul]
    rw [show mantissa.toNat = mantissa.natAbs by omega, exact]
    exact rounding (by omega) false

/-- A mantissa at a finer place has the same value. -/
theorem shiftLeft_mul_zpow (mantissa : ℕ) {exponent finer : ℤ} (le : finer ≤ exponent) :
    ((mantissa <<< (exponent - finer).toNat : ℕ) * 2 ^ finer : ℚ) = mantissa * 2 ^ exponent := by
  obtain ⟨steps, rfl⟩ : ∃ steps : ℕ, exponent = finer + steps :=
    ⟨(exponent - finer).toNat, by omega⟩
  rw [add_sub_cancel_left, Int.toNat_natCast, Nat.shiftLeft_eq, zpow_add₀ two_ne_zero, zpow_natCast]
  push_cast
  ring

section

variable {first second : Float} (firstFinite : first.isFinite = true)
  (secondFinite : second.isFinite = true)
include firstFinite secondFinite

/-- A sum is the exact sum, rounded. -/
theorem roundedFrom_add : RoundedFrom (first + second) (number first + number second) := by
  obtain ⟨negative, mantissa, exponent, firstParts⟩ := isFinite_iff.mp firstFinite
  obtain ⟨otherNegative, other, otherExponent, secondParts⟩ := isFinite_iff.mp secondFinite
  have firstSpec := (spec_of_parts firstParts).1
  have secondSpec := (spec_of_parts secondParts).1
  change RoundedFrom (.ofModel (.pack (UnpackedFloat.add Format.binary64 first.toModel.unpack
    second.toModel.unpack))) _
  rw [unpack_eq_decoded firstParts, unpack_eq_decoded secondParts]
  rw [number_of_parts firstParts, number_of_parts secondParts]
  rcases Nat.eq_zero_or_pos mantissa with rfl | positive
  · rw [Nat.cast_zero, zero_mul, mul_zero, zero_add]
    rcases Nat.eq_zero_or_pos other with rfl | otherPositive
    · rw [Nat.cast_zero, zero_mul, mul_zero, decoded_zero, decoded_zero]
      refine .zero (negative && otherNegative) rfl ?_
      cases negative <;> cases otherNegative <;> rfl
    · have unchanged : UnpackedFloat.add Format.binary64 (decoded negative 0 exponent)
          (decoded otherNegative other otherExponent) =
            decoded otherNegative other otherExponent := by
        rw [decoded_zero, decoded_of_pos otherPositive]
        rfl
      rw [unchanged]
      exact roundedFrom_decoded secondSpec
  · rcases Nat.eq_zero_or_pos other with rfl | otherPositive
    · have unchanged : UnpackedFloat.add Format.binary64 (decoded negative mantissa exponent)
          (decoded otherNegative 0 otherExponent) = decoded negative mantissa exponent := by
        rw [decoded_zero, decoded_of_pos positive]
        rfl
      rw [unchanged, Nat.cast_zero, zero_mul, mul_zero, add_zero]
      exact roundedFrom_decoded firstSpec
    · rw [decoded_of_pos positive, decoded_of_pos otherPositive, UnpackedFloat.add]
      unfold UnpackedFloat.decreaseExponent
      dsimp only
      have exact : (((signOf negative).apply
            (mantissa <<< (exponent - min exponent otherExponent).toNat : ℕ) +
          (signOf otherNegative).apply
            (other <<< (otherExponent - min exponent otherExponent).toNat : ℕ) : ℤ) : ℚ) *
            2 ^ min exponent otherExponent =
          factor negative * (mantissa * 2 ^ exponent) +
            factor otherNegative * (other * 2 ^ otherExponent) := by
        rw [Int.cast_add, cast_apply, cast_apply, add_mul, mul_assoc, mul_assoc,
          shiftLeft_mul_zpow _ (min_le_left ..), shiftLeft_mul_zpow _ (min_le_right ..)]
      rw [← exact]
      exact roundedFrom_normalize _ _

theorem represents_add (small : |number first + number second| < overflow) :
    Represents (first + second) (number first + number second) :=
  (roundedFrom_add firstFinite secondFinite).represents small

end

/-- A difference of decoded numbers is the sum with the opposite number. -/
theorem unpacked_sub (first second : UnpackedFloat) :
    UnpackedFloat.sub Format.binary64 first second =
      UnpackedFloat.add Format.binary64 first second.neg := by
  have apply_neg (sign : Sign) (whole : ℤ) : (-sign).apply whole = -sign.apply whole := by
    cases sign
    · exact (neg_neg whole).symm
    · rfl
  rcases first with sign | _ | sign | ⟨sign, mantissa, exponent, positive⟩ <;>
    rcases second with other | _ | other | ⟨other, mantissa', exponent', positive'⟩ <;>
    simp [UnpackedFloat.sub, UnpackedFloat.add, UnpackedFloat.neg, apply_neg, sub_eq_add_neg]

section

variable {first second : Float} (firstFinite : first.isFinite = true)
  (secondFinite : second.isFinite = true)
include secondFinite

theorem isFinite_neg : (-second).isFinite = true := by
  obtain ⟨negative, mantissa, exponent, secondParts⟩ := isFinite_iff.mp secondFinite
  exact isFinite_iff.mpr ⟨_, _, _, parts_neg secondParts⟩

theorem number_neg : number (-second) = -number second := by
  obtain ⟨negative, mantissa, exponent, secondParts⟩ := isFinite_iff.mp secondFinite
  rw [number_of_parts (parts_neg secondParts), number_of_parts secondParts, factor_not, neg_mul]

/-- A difference is the sum with the opposite number. -/
theorem sub_eq_add_neg_of_isFinite : first - second = first + -second := by
  obtain ⟨negative, mantissa, exponent, secondParts⟩ := isFinite_iff.mp secondFinite
  have negated : (-second).toModel.unpack = second.toModel.unpack.neg := by
    rw [unpack_eq_decoded (parts_neg secondParts), unpack_eq_decoded secondParts, decoded, decoded]
    split <;> cases negative <;> rfl
  change Float.ofModel (.pack (UnpackedFloat.sub Format.binary64 first.toModel.unpack
      second.toModel.unpack)) =
    Float.ofModel (.pack (UnpackedFloat.add Format.binary64 first.toModel.unpack
      (-second).toModel.unpack))
  rw [negated, unpacked_sub]

include firstFinite

theorem represents_sub (small : |number first - number second| < overflow) :
    Represents (first - second) (number first - number second) := by
  rw [sub_eq_add_neg, ← number_neg secondFinite] at small ⊢
  rw [sub_eq_add_neg_of_isFinite secondFinite]
  exact represents_add firstFinite (isFinite_neg secondFinite) small

/-- Adding or taking away a number of moderate size leaves a number finite. -/
theorem isFinite_add_and_sub (moderate : |number second| ≤ 2 ^ 100) :
    (first + second).isFinite = true ∧ (first - second).isFinite = true := by
  have large := abs_number_le first
  have little : (2 : ℚ) ^ 101 < topUnit := two_pow_lt_topUnit (by decide)
  have small : |number first| + |number second| < overflow := by
    rw [pow_succ] at little
    rw [overflow]
    linarith
  exact ⟨(represents_add firstFinite secondFinite ((abs_add_le _ _).trans_lt small)).finite,
    (represents_sub firstFinite secondFinite ((abs_sub _ _).trans_lt small)).finite⟩

end

/-! ## Numbers between minus one and one -/

theorem parts_one : parts 1.0 = .finite false (2 ^ 52) (-52) := by
  decide +kernel

theorem parts_neg_one : parts (-1.0) = .finite true (2 ^ 52) (-52) := by
  decide +kernel

/-- A canonical number that is not above one in the order of exponents and mantissas is at most
one. -/
theorem mul_zpow_le_one {mantissa : ℕ} {exponent : ℤ} (canonical : IsCanonical mantissa exponent)
    (below : exponent < -52 ∨ exponent = -52 ∧ mantissa ≤ 2 ^ 52) :
    (mantissa * 2 ^ exponent : ℚ) ≤ 1 := by
  rcases below with finer | ⟨rfl, small⟩
  · have short : (mantissa : ℚ) ≤ 2 ^ (53 : ℤ) := by exact_mod_cast canonical.short.le
    calc (mantissa * 2 ^ exponent : ℚ) ≤ 2 ^ (53 : ℤ) * 2 ^ (-53 : ℤ) :=
          mul_le_mul short (zpow_le_zpow_right₀ one_le_two (by omega)) (by positivity)
            (by positivity)
      _ = 1 := by norm_num
  · have short : (mantissa : ℚ) ≤ 2 ^ (52 : ℤ) := by exact_mod_cast small
    calc (mantissa * 2 ^ (-52 : ℤ) : ℚ) ≤ 2 ^ (52 : ℤ) * 2 ^ (-52 : ℤ) :=
          mul_le_mul_of_nonneg_right short (by positivity)
      _ = 1 := by norm_num

theorem le_iff_unpacked (first second : Float) :
    first ≤ second ↔ first.toModel.unpack.le second.toModel.unpack = true := by
  constructor
  · intro below
    have decided : decide (first.toModel ≤ second.toModel) = true := below
    exact of_decide_eq_true decided
  · intro below
    exact decide_eq_true below

/-- A number between finite ones is finite. -/
theorem isFinite_of_between {least value greatest : Float} (leastFinite : least.isFinite = true)
    (low : least ≤ value) (high : value ≤ greatest) (greatestFinite : greatest.isFinite = true) :
    value.isFinite = true := by
  rw [le_iff_unpacked] at low high
  change least.toModel.unpack.isFinite = true at leastFinite
  change greatest.toModel.unpack.isFinite = true at greatestFinite
  change value.toModel.unpack.isFinite = true
  generalize least.toModel.unpack = least at low leastFinite
  generalize greatest.toModel.unpack = greatest at high greatestFinite
  generalize value.toModel.unpack = unpacked at low high ⊢
  rcases unpacked with sign | _ | sign | ⟨sign, mantissa, exponent, positive⟩
  · cases sign
    · rcases least with _ | _ | _ | _
      · cases leastFinite
      · cases leastFinite
      · cases low
      · cases low
    · rcases greatest with _ | _ | _ | _
      · cases greatestFinite
      · cases greatestFinite
      · cases high
      · cases high
  · rcases least with _ | _ | _ | _ <;> cases low
  · rfl
  · rfl

/-- A number between minus one and one is finite, and its exact value is so. -/
theorem spec_of_between {value : Float} (low : -1.0 ≤ value) (high : value ≤ 1.0) :
    value.isFinite = true ∧ |number value| ≤ 1 := by
  have finite : value.isFinite = true :=
    isFinite_of_between (isFinite_iff.mpr ⟨_, _, _, parts_neg_one⟩) low high
      (isFinite_iff.mpr ⟨_, _, _, parts_one⟩)
  rw [le_iff_unpacked] at low high
  rw [unpack_eq_decoded parts_neg_one, decoded_of_pos (by decide)] at low
  rw [unpack_eq_decoded parts_one, decoded_of_pos (by decide)] at high
  refine ⟨finite, ?_⟩
  obtain ⟨negative, mantissa, exponent, valueParts⟩ := isFinite_iff.mp finite
  rw [abs_number_of_parts valueParts]
  rcases (spec_of_parts valueParts).1 with ⟨rfl, -⟩ | canonical
  · simp
  · rw [unpack_eq_decoded valueParts, decoded_of_pos canonical.positive] at low high
    refine mul_zpow_le_one canonical ?_
    have order : ((compare exponent (-52)).then (compare mantissa (2 ^ 52))).isLE = true ↔
        exponent < -52 ∨ exponent = -52 ∧ mantissa ≤ 2 ^ 52 := by
      rw [Ordering.isLE_then_iff_or, Int.compare_eq_lt, Int.compare_eq_eq, Nat.isLE_compare]
    cases negative
    · exact order.mp high
    · have swapped :
          ((compare (-52) exponent).then (compare (2 ^ 52) mantissa)).swap.isLE = true := low
      rw [Ordering.swap_then, Int.compare_swap, Nat.compare_swap] at swapped
      exact order.mp swapped

/-! ## Rounding to a grid -/

/-- Bits of a canonical number make a number with its parts. -/
theorem parts_ofBits {bits : UInt64} {negative : Bool} {mantissa : ℕ} {exponent : ℤ}
    (canonical : mantissa = 0 ∧ exponent = lowestExponent ∨ IsCanonical mantissa exponent)
    (same : bits.toNat = bitsOf negative mantissa exponent) :
    parts (.ofBits bits) = .finite negative mantissa exponent := by
  have packed := @parts_pack negative _ _ canonical
  have own : bits = (Float.ofModel (.pack (decoded negative mantissa exponent))).toBits :=
    UInt64.toNat_inj.mp (same.trans (spec_of_parts packed).2.symm)
  rw [own]
  change parts (.ofModel (.pack (Float.ofModel (.pack (decoded ..))).toModel.unpack)) = _
  rw [unpack_eq_decoded packed, packed]

/-- A number that is put together from a moderate mantissa and exponent is finite. -/
theorem isFinite_ofParts (negative : Bool) {mantissa : ℕ} {exponent : ℤ}
    (low : -1022 ≤ exponent + mantissa.log2) (high : exponent + mantissa.log2 ≤ 1023) :
    (ofParts negative mantissa exponent).isFinite = true := by
  unfold ofParts
  dsimp only
  split
  case isTrue zero =>
    have same : (UInt64.ofNat (if negative = true then signBit else 0)).toNat =
        bitsOf negative 0 lowestExponent := by
      cases negative <;> rfl
    exact isFinite_iff.mpr ⟨_, _, _, parts_ofBits (.inl ⟨rfl, rfl⟩) same⟩
  case isFalse =>
    have notAbove : ¬exponent + mantissa.log2 > 1023 := by omega
    rw [if_neg notAbove]
    generalize (if mantissa.log2 ≤ 52 then mantissa <<< (52 - mantissa.log2)
      else mantissa >>> (mantissa.log2 - 52)) = fraction
    have rest : fraction % fractionCount < fractionCount := Nat.mod_lt _ (by decide)
    have canonical : IsCanonical (fractionCount + fraction % fractionCount)
        (exponent + mantissa.log2 - 52) := by
      simp only [fractionCount, Nat.pow_eq] at rest ⊢
      refine ⟨by omega, by omega, ?_, fun _ => by omega, by omega⟩
      rw [lowestExponent]
      omega
    refine isFinite_iff.mpr ⟨negative, _, _, parts_ofBits (.inr canonical) ?_⟩
    have biased : (exponent + mantissa.log2 - 52 - lowestExponent + 1).toNat =
        (exponent + mantissa.log2 + 1023).toNat := by
      rw [lowestExponent]
      omega
    have sign : (if negative = true then signBit else 0) =
        (if negative = true then 1 else 0) * signBit := by
      cases negative <;> rfl
    rw [bitsOf, if_neg (Nat.not_lt.mpr (Nat.le_add_right ..)), biased, Nat.add_sub_cancel_left,
      sign, ← add_assoc]
    refine (UInt64.toNat_ofNat' ..).trans (Nat.mod_eq_of_lt ?_)
    have atMost : (if negative = true then 1 else 0) ≤ 1 := by
      cases negative <;> decide
    simp only [fractionCount, signBit, Nat.pow_eq] at rest ⊢
    omega

/-- The nearest whole number to a finite number is finite. -/
theorem isFinite_nearest {value : Float} (finite : value.isFinite = true) :
    (nearest value).isFinite = true := by
  obtain ⟨negative, mantissa, exponent, valueParts⟩ := isFinite_iff.mp finite
  unfold nearest
  rw [valueParts]
  dsimp only
  split
  case isTrue => exact finite
  case isFalse fractional =>
    generalize (-exponent).toNat = places
    have small : roundHalfUp mantissa places < 2 ^ 54 := by
      have short : mantissa < 2 ^ 53 := by
        rcases (spec_of_parts valueParts).1 with ⟨rfl, -⟩ | canonical
        · decide
        · exact canonical.short
      rw [roundHalfUp, Nat.pow_eq]
      calc (mantissa + 2 ^ places / 2) / 2 ^ places
          ≤ (mantissa + 2 ^ places) / 2 ^ places :=
            Nat.div_le_div_right (Nat.add_le_add_left (Nat.div_le_self ..) _)
        _ = mantissa / 2 ^ places + 1 := Nat.add_div_right _ (Nat.two_pow_pos _)
        _ ≤ mantissa + 1 := Nat.add_le_add_right (Nat.div_le_self ..) 1
        _ < 2 ^ 54 := by omega
    have top : (roundHalfUp mantissa places).log2 ≤ 54 := by
      rcases eq_or_ne (roundHalfUp mantissa places) 0 with zero | nonzero
      · rw [zero, Nat.log2_zero]
        decide
      · exact ((Nat.log2_lt nonzero).mpr small).le
    exact isFinite_ofParts negative (by omega) (by omega)

end Binary64
end CircuitSheet
