import CircuitSheet.Decimal.Shortest
import CircuitSheet.Proofs.Binary64.Literal
import CircuitSheet.Proofs.Decimal.Plain
import CircuitSheet.Proofs.SExpr.Number

/-!
# Shortest decimals are read back

The shortest decimal of a number lies among the reals that round to the number, and one of the
grids that are searched has a point among them. So the literal that the decimal is read as names
the number.
-/

namespace CircuitSheet
namespace Decimal

open Binary64

/-! ## Decimal and binary grids -/

theorem pow_toNat {base : ℚ} (nonzero : base ≠ 0) (exponent : ℤ) :
    base ^ exponent.toNat = base ^ (-exponent).toNat * base ^ exponent := by
  rw [← zpow_natCast, ← zpow_natCast, ← zpow_add₀ nonzero]
  congr 1
  omega

/-- On the common scale the points of both grids are measured by one unit. -/
theorem CommonScale.exists_unit (tens twos : ℤ) :
    ∃ unit : ℚ, 0 < unit ∧ ((CommonScale.of tens twos).decimal : ℚ) = unit * 10 ^ tens ∧
      ((CommonScale.of tens twos).binary : ℚ) = unit * 2 ^ twos := by
  refine ⟨10 ^ (-tens).toNat * 2 ^ (-twos).toNat, by positivity, ?_, ?_⟩ <;>
    simp only [CommonScale.of, Nat.pow_eq] <;> push_cast
  · rw [pow_toNat (by norm_num : (10 : ℚ) ≠ 0)]
    ring
  · rw [pow_toNat (by norm_num : (2 : ℚ) ≠ 0)]
    ring

/-- A number lies in an interval. -/
def Interval.Holds (interval : Interval) (value : ℚ) : Prop :=
  if interval.closed then
    interval.low * 2 ^ interval.exponent ≤ value ∧ value ≤ interval.high * 2 ^ interval.exponent
  else interval.low * 2 ^ interval.exponent < value ∧ value < interval.high * 2 ^ interval.exponent

/-- The points of a decimal grid in an interval are found in whole numbers. -/
theorem Interval.contains_iff (interval : Interval) (tens : ℤ) (multiple : ℕ) :
    interval.contains (.of tens interval.exponent) multiple = true ↔
      interval.Holds (multiple * 10 ^ tens) := by
  obtain ⟨unit, positive, decimal, binary⟩ := CommonScale.exists_unit tens interval.exponent
  have order (units : ℕ) :
      ((units * (CommonScale.of tens interval.exponent).binary ≤
          multiple * (CommonScale.of tens interval.exponent).decimal) ↔
        (units * 2 ^ interval.exponent : ℚ) ≤ multiple * 10 ^ tens) ∧
      ((multiple * (CommonScale.of tens interval.exponent).decimal ≤
          units * (CommonScale.of tens interval.exponent).binary) ↔
        (multiple * 10 ^ tens : ℚ) ≤ units * 2 ^ interval.exponent) := by
    simp only [← Nat.cast_le (α := ℚ), Nat.cast_mul, decimal, binary, mul_left_comm _ unit,
      mul_le_mul_iff_right₀ positive, and_self]
  unfold Interval.contains Interval.Holds
  dsimp only
  cases interval.closed
  · simp only [Bool.false_eq_true, if_false, decide_eq_true_eq, ← not_le, order]
  · simp only [if_true, decide_eq_true_eq, order]

/-- The numbers in the interval of a mantissa and an exponent round to them. -/
theorem Interval.Holds.roundsTo {mantissa : ℕ} {exponent : ℤ} {value : ℚ}
    (canonical : IsCanonical mantissa exponent)
    (holds : (Interval.ofParts mantissa exponent).Holds value) :
    RoundsTo value mantissa exponent := by
  have unit : (0 : ℚ) < 2 ^ exponent := by positivity
  have quarters (units : ℕ) : (units * 2 ^ (exponent - 2) : ℚ) = units / 4 * 2 ^ exponent := by
    rw [zpow_sub₀ two_ne_zero]
    norm_num
    ring
  obtain ⟨lost, lostEq, few, single⟩ : ∃ lost : ℕ,
      (if mantissa = fractionCount ∧ exponent ≠ lowestExponent then 1 else 2) = lost ∧ lost ≤ 2 ∧
        (mantissa = 2 ^ 52 → exponent ≠ lowestExponent → lost = 1) := by
    refine ⟨_, rfl, by split <;> decide, fun power higher => if_pos ⟨power, higher⟩⟩
  have low : ((4 * mantissa - lost : ℕ) : ℚ) / 4 = mantissa - lost / 4 := by
    have positive := canonical.positive
    rw [Nat.cast_sub (by omega)]
    push_cast
    ring
  have high : ((4 * mantissa + 2 : ℕ) : ℚ) / 4 = mantissa + 1 / 2 := by
    push_cast
    ring
  unfold Interval.Holds Interval.ofParts at holds
  simp only [quarters, decide_eq_true_eq, ← div_le_iff₀ unit, ← le_div_iff₀ unit,
    ← div_lt_iff₀ unit, ← lt_div_iff₀ unit, lostEq, low, high] at holds
  have fewCast : (lost : ℚ) ≤ 2 := by exact_mod_cast few
  constructor
  · split at holds
    case isTrue even =>
      exact ⟨by linarith, holds.2, fun _ => Nat.even_iff.mpr even⟩
    case isFalse =>
      exact .of_lt (by linarith) holds.2
  · intro power higher
    have one := single power higher
    rw [one] at holds
    split at holds <;> push_cast at holds <;> linarith [holds.1]

/-! ## The search -/

/-- Powers of ten and of two are compared through two of them that are close together on either
side. -/
theorem ten_zpow_le_two_zpow {tens twos : ℤ} (rising : 196 * tens ≤ 59 * twos)
    (falling : 93 * tens ≤ 28 * twos) : (10 : ℚ) ^ tens ≤ 2 ^ twos := by
  rcases le_or_gt 0 tens with positive | negative
  · have raised : ((10 : ℚ) ^ tens) ^ 59 ≤ ((2 : ℚ) ^ twos) ^ 59 := by
      calc ((10 : ℚ) ^ tens) ^ 59 = ((10 : ℚ) ^ 59) ^ tens := by
            rw [← zpow_natCast, ← zpow_natCast, zpow_comm]
        _ ≤ ((2 : ℚ) ^ 196) ^ tens := zpow_le_zpow_left₀ positive (by norm_num) (by norm_num)
        _ = 2 ^ (196 * tens) := by rw [zpow_mul]; norm_cast
        _ ≤ 2 ^ (59 * twos) := zpow_le_zpow_right₀ one_le_two rising
        _ = ((2 : ℚ) ^ twos) ^ 59 := by rw [mul_comm, zpow_mul]; norm_cast
    exact le_of_pow_le_pow_left₀ (by decide) (by positivity) raised
  · have raised : ((10 : ℚ) ^ tens) ^ 28 ≤ ((2 : ℚ) ^ twos) ^ 28 := by
      calc ((10 : ℚ) ^ tens) ^ 28 = (((10 : ℚ) ^ 28) ^ (-tens))⁻¹ := by
            rw [← zpow_natCast, ← zpow_natCast, zpow_comm, zpow_neg, inv_inv]
        _ ≤ (((2 : ℚ) ^ 93) ^ (-tens))⁻¹ :=
            inv_anti₀ (by positivity)
              (zpow_le_zpow_left₀ (by omega) (by norm_num) (by norm_num))
        _ = 2 ^ (93 * tens) := by
            rw [zpow_neg, inv_inv, zpow_mul]
            norm_cast
        _ ≤ 2 ^ (28 * twos) := zpow_le_zpow_right₀ one_le_two falling
        _ = ((2 : ℚ) ^ twos) ^ 28 := by rw [mul_comm, zpow_mul]; norm_cast
    exact le_of_pow_le_pow_left₀ (by decide) (by positivity) raised

/-- A multiple that is found lies in the interval. -/
theorem Interval.Holds.of_nearestOn? {interval : Interval} {tie : Tie} {tens : ℤ} {multiple : ℕ}
    (found : interval.nearestOn? tie tens = some multiple) :
    interval.Holds (multiple * 10 ^ tens) := by
  rw [← Interval.contains_iff]
  unfold Interval.nearestOn? at found
  dsimp only at found
  split at found
  case h_1 => cases found
  case h_2 below _ =>
    cases found
    exact below
  case h_3 _ above =>
    cases found
    exact above
  case h_4 below above =>
    split_ifs at found <;> cases found
    · exact below
    · exact above
    · exact below
    · exact above

/-- A grid that is at least as fine as the units of the interval has a point in it. -/
theorem isSome_nearestOn? {interval : Interval} (tie : Tie) {tens : ℤ}
    (below : interval.low < interval.centre) (above : interval.centre < interval.high)
    (fine : (10 : ℚ) ^ tens ≤ 2 ^ interval.exponent) :
    (interval.nearestOn? tie tens).isSome = true := by
  obtain ⟨unit, positive, decimal, binary⟩ := CommonScale.exists_unit tens interval.exponent
  have decimalPositive : 0 < (CommonScale.of tens interval.exponent).decimal := by
    rw [← Nat.cast_pos (α := ℚ), decimal]
    positivity
  have finer : (CommonScale.of tens interval.exponent).decimal ≤
      (CommonScale.of tens interval.exponent).binary := by
    rw [← Nat.cast_le (α := ℚ), decimal, binary]
    exact mul_le_mul_of_nonneg_left fine positive.le
  have inside : interval.contains (.of tens interval.exponent)
      (interval.centre * (CommonScale.of tens interval.exponent).binary /
        (CommonScale.of tens interval.exponent).decimal) = true := by
    generalize CommonScale.of tens interval.exponent = scale at decimalPositive finer
    have atMost := Nat.div_mul_le_self (interval.centre * scale.binary) scale.decimal
    have next := Nat.lt_mul_div_succ (interval.centre * scale.binary) decimalPositive
    rw [Nat.mul_succ, Nat.mul_comm scale.decimal] at next
    have lower : (interval.low + 1) * scale.binary ≤ interval.centre * scale.binary :=
      Nat.mul_le_mul_right _ below
    have higher : (interval.centre + 1) * scale.binary ≤ interval.high * scale.binary :=
      Nat.mul_le_mul_right _ above
    rw [Nat.succ_mul] at lower higher
    unfold Interval.contains
    dsimp only
    split <;> rw [decide_eq_true_eq] <;> omega
  unfold Interval.nearestOn?
  dsimp only
  rw [inside]
  split
  case h_1 noPoint _ => cases noPoint
  case h_2 => rfl
  case h_3 noPoint _ => cases noPoint
  case h_4 => split_ifs <;> rfl

/-- A search that reaches a grid with a point in the interval finds one on some grid. -/
theorem Interval.shortest_spec (interval : Interval) (tie : Tie) (finer : ℕ) (tens : ℤ)
    (reaches : (interval.nearestOn? tie (tens - finer)).isSome = true) :
    interval.nearestOn? tie (interval.shortest tie finer tens).scale =
        some (interval.shortest tie finer tens).coefficient ∧
      tens - finer ≤ (interval.shortest tie finer tens).scale := by
  induction finer generalizing tens with
  | zero =>
      rw [Nat.cast_zero, sub_zero] at reaches ⊢
      obtain ⟨multiple, found⟩ := Option.isSome_iff_exists.mp reaches
      simp [Interval.shortest, found]
  | succ finer inductionHypothesis =>
      unfold Interval.shortest
      split
      case h_1 multiple found =>
        exact ⟨found, by dsimp only; omega⟩
      case h_2 =>
        have step : tens - (finer + 1 : ℕ) = tens - 1 - finer := by omega
        rw [step] at reaches ⊢
        exact inductionHypothesis (tens - 1) reaches

/-- The shortest decimal of a number lies among the reals that round to it, and has no more
places than the smallest numbers need. -/
theorem shortestDigits_spec (tie : Tie) {mantissa : ℕ} {exponent : ℤ}
    (canonical : IsCanonical mantissa exponent) :
    (Interval.ofParts mantissa exponent).Holds
        ((shortestDigits tie mantissa exponent).coefficient *
          10 ^ (shortestDigits tie mantissa exponent).scale) ∧
      -400 ≤ (shortestDigits tie mantissa exponent).scale := by
  obtain ⟨positive, short, lowest, -, highest⟩ := canonical
  rw [shortestDigits, if_neg positive.ne']
  dsimp only
  have top : mantissa.log2 ≤ 52 := Nat.lt_succ_iff.mp ((Nat.log2_lt positive.ne').mpr short)
  rw [lowestExponent] at lowest
  set start := (exponent + mantissa.log2) * 30103 / 100000 + 1 with startEq
  have fine : (10 : ℚ) ^ (start - (20 : ℕ)) ≤ 2 ^ (exponent - 2) :=
    ten_zpow_le_two_zpow (by omega) (by omega)
  have reaches : ((Interval.ofParts mantissa exponent).nearestOn? tie
      (start - (20 : ℕ))).isSome = true := by
    refine isSome_nearestOn? tie ?_ ?_ fine
    · unfold Interval.ofParts
      dsimp only
      split <;> omega
    · unfold Interval.ofParts
      dsimp only
      omega
  have found := Interval.shortest_spec _ tie 20 start reaches
  exact ⟨.of_nearestOn? found.1, le_trans (by omega) found.2⟩

/-! ## The literal -/

/-- The number of digits tells the size of a whole number. -/
theorem ten_pow_le {number length : ℕ} (positive : 0 < number)
    (digits : (natDigits number).length = length + 1) : 10 ^ length ≤ number := by
  rcases Nat.eq_zero_or_pos length with rfl | some
  · exact positive
  · by_contra less
    have few := (Nat.length_toDigits_le_iff (by decide : 1 < 10) some).mpr (not_le.mp less)
    rw [natDigits] at digits
    omega

/-- What rounds to a number in the range is not far beyond it. -/
theorem lt_of_roundsTo {value : ℚ} {mantissa : ℕ} {exponent : ℤ}
    (canonical : IsCanonical mantissa exponent) (roundsTo : RoundsTo value mantissa exponent) :
    value < 10 ^ (400 : ℤ) := by
  have short : (mantissa : ℚ) + 1 ≤ 2 ^ 53 := by exact_mod_cast canonical.short
  have atMost : value / 2 ^ exponent ≤ 2 ^ 53 := by linarith [roundsTo.nearest.above]
  rw [div_le_iff₀ (by positivity)] at atMost
  calc value ≤ 2 ^ 53 * 2 ^ exponent := atMost
    _ ≤ 2 ^ 53 * 2 ^ (971 : ℤ) :=
        mul_le_mul_of_nonneg_left (zpow_le_zpow_right₀ one_le_two canonical.highest)
          (by positivity)
    _ = 2 ^ (1024 : ℤ) := by rw [← zpow_natCast, ← zpow_add₀ two_ne_zero]; rfl
    _ < 2 ^ (3 * 400 : ℤ) := zpow_lt_zpow_right₀ one_lt_two (by decide)
    _ = ((2 : ℚ) ^ (3 : ℤ)) ^ (400 : ℤ) := zpow_mul ..
    _ ≤ 10 ^ (400 : ℤ) := zpow_le_zpow_left₀ (by decide) (by norm_num) (by norm_num)

/-- A literal of moderately many places names the number that its exact value rounds to. -/
theorem parts_value (negative : Bool) {coefficient : ℕ} {scale : ℤ} (positive : 0 < coefficient)
    (few : -400 ≤ scale) {mantissa : ℕ} {exponent : ℤ} (canonical : IsCanonical mantissa exponent)
    (roundsTo : RoundsTo (coefficient * 10 ^ scale) mantissa exponent) :
    parts (Literal.value (.number negative coefficient scale)) =
      .finite negative mantissa exponent := by
  obtain ⟨length, digits⟩ : ∃ length, (natDigits coefficient).length = length + 1 :=
    Nat.exists_eq_succ_of_ne_zero (Nat.ne_of_gt Nat.length_toDigits_pos)
  have notHuge : length + scale < 400 := by
    have size : ((10 ^ length : ℕ) : ℚ) ≤ coefficient := Nat.cast_le.mpr (ten_pow_le positive digits)
    have less : (10 : ℚ) ^ (length + scale) < 10 ^ (400 : ℤ) := by
      calc (10 : ℚ) ^ (length + scale) = (10 ^ length : ℕ) * 10 ^ scale := by
            rw [zpow_add₀ (by norm_num), zpow_natCast]
            norm_cast
        _ ≤ coefficient * 10 ^ scale := mul_le_mul_of_nonneg_right size (by positivity)
        _ < 10 ^ (400 : ℤ) := lt_of_roundsTo canonical roundsTo
    exact (zpow_lt_zpow_iff_right₀ (by norm_num)).mp less
  have signed {size : Float} (sizeParts : parts size = .finite false mantissa exponent) :
      parts (if negative then -size else size) = .finite negative mantissa exponent := by
    cases negative with
    | false => exact sizeParts
    | true => exact parts_neg sizeParts
  unfold Literal.value
  dsimp only
  have notAbove : ¬((length + 1 : ℕ) : ℤ) + scale > 400 := by omega
  have notBelow : ¬((length + 1 : ℕ) : ℤ) + scale < -400 := by omega
  rw [if_neg positive.ne', digits, if_neg notAbove, if_neg notBelow]
  cases scale with
  | ofNat zeros =>
      rw [Int.ofNat_eq_natCast] at *
      rw [zpow_natCast] at roundsTo
      exact signed (parts_ofScientific_zeros positive (by omega) canonical roundsTo)
  | negSucc places =>
      rw [zpow_negSucc, ← div_eq_mul_inv] at roundsTo
      exact signed (parts_ofScientific_places positive (by omega) canonical places.succ_pos roundsTo)

/-! ## The text -/

/-- Digits alone are read as a whole number. -/
theorem literal?_digits (negative : Bool) {digits : List Char} (notNil : digits ≠ [])
    (allDigits : AllDigits digits) :
    literal? (signed negative digits) = some (.number negative (ofDigits digits) 0) := by
  cases digits with
  | nil => exact absurd rfl notNil
  | cons first others =>
      have digit : first.isDigit = true := allDigits first List.mem_cons_self
      have noFraction : AllDigits [] := allDigits_replicate_zero 0
      have whole := unsigned?_pointed negative notNil allDigits noFraction
      rw [pointed, List.append_nil] at whole
      rw [literal?_signed negative others digit, whole]
      rfl

theorem ofDigits_append_zeros (number zeros : ℕ) :
    ofDigits (natDigits number ++ List.replicate zeros '0') = number * 10 ^ zeros := by
  rw [ofDigits_eq_ofDigitChars, Nat.ofDigitChars_append, Nat.ofDigitChars_replicate_zero,
    ← ofDigits_eq_ofDigitChars, ofDigits_natDigits, Nat.mul_comm]

/-- A positional decimal is plain, and what it is read as has its value. -/
theorem Digits.plain_spec (negative : Bool) {number : Digits} (positive : 0 < number.coefficient) :
    SExpr.isPlainDecimal (signed negative number.plain) = true ∧
      ∃ coefficient scale, literal? (signed negative number.plain) =
          some (.number negative coefficient scale) ∧
        0 < coefficient ∧ min number.scale 0 ≤ scale ∧
        (coefficient * 10 ^ scale : ℚ) = number.coefficient * 10 ^ number.scale := by
  obtain ⟨coefficient, scale⟩ := number
  rw [Digits.plain, if_neg positive.ne']
  cases scale with
  | ofNat zeros =>
      dsimp only
      have digits : AllDigits (natDigits coefficient ++ List.replicate zeros '0') :=
        (allDigits_natDigits coefficient).append (allDigits_replicate_zero zeros)
      have notNil : natDigits coefficient ++ List.replicate zeros '0' ≠ [] :=
        List.append_ne_nil_of_left_ne_nil (List.ne_nil_of_length_pos Nat.length_toDigits_pos) _
      refine ⟨SExpr.isPlainDecimal_signed _ ?_, _, _, literal?_digits negative notNil digits, ?_,
        min_le_right .., ?_⟩
      · have unsigned := @SExpr.isUnsignedDecimal_pointed _ [] notNil (by rwa [List.append_nil])
        rwa [pointed, List.append_nil] at unsigned
      · rw [ofDigits_append_zeros]
        exact Nat.mul_pos positive (by positivity)
      · rw [ofDigits_append_zeros]
        simp
  | negSucc places =>
      refine ⟨SExpr.isPlainDecimal_signed _ (SExpr.isUnsignedDecimal_insertPoint ..), _, _,
        literal?_insertPoint negative (places + 1) coefficient, positive, min_le_left .., rfl⟩

/-- The shortest decimal of every finite number is plain and read back as that number. -/
theorem readsBack_of_isFinite {value : Float} (finite : value.isFinite = true) :
    SExpr.ReadsBack value := by
  obtain ⟨negative, mantissa, exponent, valueParts⟩ := isFinite_iff.mp finite
  have text : ScalarText.shortest value =
      signed negative (shortestDigits .up mantissa exponent).plain := by
    change plain value = _
    rw [plain, valueParts]
  have named {literal : Literal}
      (read : literal? (signed negative (shortestDigits .up mantissa exponent).plain) =
        some literal)
      (same : parts literal.value = .finite negative mantissa exponent) :
      ScalarText.read? (ScalarText.shortest value) = some value := by
    rw [text]
    change (literal? _).map Literal.value = _
    rw [read, Option.map_some, eq_of_parts same valueParts]
  rcases (spec_of_parts valueParts).1 with ⟨rfl, rfl⟩ | canonical
  · refine ⟨?_, ?_⟩
    · rw [text]
      cases negative <;> rfl
    · cases negative
      · exact named rfl (by decide +kernel)
      · exact named rfl (by decide +kernel)
  · obtain ⟨holds, few⟩ := shortestDigits_spec .up canonical
    have roundsTo := holds.roundsTo canonical
    have positive : 0 < (shortestDigits .up mantissa exponent).coefficient := by
      by_contra zero
      have atLeast : (1 : ℚ) ≤ mantissa := by exact_mod_cast canonical.positive
      have below := roundsTo.nearest.below
      rw [Nat.eq_zero_of_not_pos zero, Nat.cast_zero, zero_mul, zero_div] at below
      linarith
    obtain ⟨isPlain, coefficient, scale, read, coefficientPositive, scaleFew, same⟩ :=
      Digits.plain_spec negative positive
    refine ⟨text ▸ isPlain, named read ?_⟩
    rw [← same] at roundsTo
    exact parts_value negative coefficientPositive (by omega) canonical roundsTo

end Decimal
end CircuitSheet
