import CircuitSheet.Proofs.Decimal.Plain
import CircuitSheet.Proofs.Exact.Real
import CircuitSheet.Proofs.SExpr.RoundTrip

/-!
# Exact decimals

Sums and differences of numbers whose decimals end have decimals that end, and so has every
rounded number. The decimal text of such a number names it, so a tree of such numbers is read
exactly as it was written.
-/

namespace CircuitSheet
namespace Exact

/-! ## Numbers whose decimals end -/

theorem HasPlaces.mono {fewer more : ℕ} {value : ℝ} (hasPlaces : HasPlaces fewer value)
    (le : fewer ≤ more) : HasPlaces more value := by
  obtain ⟨units, rfl⟩ := hasPlaces
  refine ⟨units * 10 ^ (more - fewer), ?_⟩
  push_cast
  rw [div_eq_div_iff (by positivity) (by positivity), mul_assoc, ← pow_add,
    Nat.sub_add_cancel le]

theorem IsDecimal.add {first second : ℝ} (firstDecimal : IsDecimal first)
    (secondDecimal : IsDecimal second) : IsDecimal (first + second) := by
  obtain ⟨firstPlaces, firstHas⟩ := firstDecimal
  obtain ⟨secondPlaces, secondHas⟩ := secondDecimal
  obtain ⟨firstUnits, firstEq⟩ := firstHas.mono (Nat.le_max_left firstPlaces secondPlaces)
  obtain ⟨secondUnits, secondEq⟩ := secondHas.mono (Nat.le_max_right firstPlaces secondPlaces)
  refine ⟨max firstPlaces secondPlaces, firstUnits + secondUnits, ?_⟩
  rw [firstEq, secondEq]
  push_cast
  ring

theorem IsDecimal.neg {value : ℝ} (decimal : IsDecimal value) : IsDecimal (-value) := by
  obtain ⟨places, units, rfl⟩ := decimal
  refine ⟨places, -units, ?_⟩
  push_cast
  ring

theorem IsDecimal.sub {first second : ℝ} (firstDecimal : IsDecimal first)
    (secondDecimal : IsDecimal second) : IsDecimal (first - second) := by
  rw [sub_eq_add_neg]
  exact firstDecimal.add secondDecimal.neg

theorem IsDecimal.mul_intCast {value : ℝ} (decimal : IsDecimal value) (factor : ℤ) :
    IsDecimal (value * factor) := by
  obtain ⟨places, units, rfl⟩ := decimal
  refine ⟨places, units * factor, ?_⟩
  push_cast
  ring

/-- Every number that is written out has a decimal that ends. -/
theorem isDecimal_ofScientific (mantissa : ℕ) (exponentSign : Bool) (exponent : ℕ) :
    IsDecimal (OfScientific.ofScientific mantissa exponentSign exponent) := by
  rw [← Rat.cast_ofScientific, Rat.ofScientific_def_eq_if]
  cases exponentSign with
  | true => exact ⟨exponent, mantissa, by simp⟩
  | false => exact ⟨0, mantissa * 10 ^ exponent, by simp⟩

/-- A number rounded to one over a power of ten has a decimal that ends. -/
theorem isDecimal_nearest_div (value : ℝ) (places : ℕ) :
    IsDecimal (nearest value / 10 ^ places) :=
  ⟨places, nearest value, rfl⟩

theorem isDecimal_roundTo (value : ℝ) : IsDecimal (Scalar.roundTo 1e4 value) := by
  have rounded := isDecimal_nearest_div (value * 1e4) 4
  rwa [show (10 : ℝ) ^ 4 = 1e4 by norm_num] at rounded

theorem isDecimal_toFileUnits (value : ℝ) : IsDecimal (toFileUnits value) :=
  isDecimal_roundTo _

theorem IsDecimal.magnitude {value : ℝ} (decimal : IsDecimal value) :
    IsDecimal (Scalar.magnitude value) := by
  unfold Scalar.magnitude
  split
  · exact decimal.neg
  · exact decimal

theorem IsDecimal.greater {first second : ℝ} (firstDecimal : IsDecimal first)
    (secondDecimal : IsDecimal second) : IsDecimal (Scalar.greater first second) := by
  unfold Scalar.greater
  split_ifs <;> assumption

theorem IsDecimal.modulo {value divisor : ℝ} (decimal : IsDecimal value)
    (divisorDecimal : IsDecimal divisor) : IsDecimal (Scalar.modulo value divisor) := by
  have positive : IsDecimal |divisor| := by
    rcases abs_choice divisor with same | opposite
    · rwa [same]
    · rw [opposite]
      exact divisorDecimal.neg
  exact decimal.sub (positive.mul_intCast _)

/-! ## Decimal texts -/

theorem isPlainDecimal_decimalText (places : ℕ) (units : ℤ) :
    SExpr.isPlainDecimal (decimalText places units) = true :=
  SExpr.isPlainDecimal_signed _ (SExpr.isUnsignedDecimal_insertPoint places units.natAbs)

/-- A decimal text is read as the units that it was written from. -/
theorem read?_decimalText (places : ℕ) (units : ℤ) :
    ScalarText.read? (decimalText places units) = some (units / 10 ^ places : ℝ) := by
  change (Decimal.literal? (decimalText places units)).bind ofLiteral? = _
  rw [decimalText, Decimal.literal?_insertPoint, Option.bind_some, ofLiteral?]
  have signedUnits :
      (if decide (units < 0) = true then (-1 : ℝ) else 1) * units.natAbs = units := by
    rcases lt_or_ge units 0 with negative | positive
    · rw [if_pos (decide_eq_true negative), ← Int.cast_natCast,
        Int.ofNat_natAbs_of_nonpos negative.le]
      push_cast
      ring
    · rw [if_neg (by simpa using positive), ← Int.cast_natCast, Int.natAbs_of_nonneg positive]
      ring
  rw [signedUnits, zpow_neg, zpow_natCast, ← div_eq_mul_inv]

/-- The text of a number whose decimal ends is read as that number. -/
theorem readsBack_of_isDecimal {value : ℝ} (decimal : IsDecimal value) :
    SExpr.ReadsBack value := by
  obtain ⟨units, valueEq⟩ : HasPlaces (places value) value := Nat.sInf_mem decimal
  have exactUnits : value * 10 ^ places value = units := (eq_div_iff (by positivity)).mp valueEq
  have wholeUnits : ⌊value * 10 ^ places value⌋ = units := by
    rw [exactUnits, Int.floor_intCast]
  have text : ScalarText.shortest value = decimalText (places value) units := by
    change decimalText (places value) ⌊value * 10 ^ places value⌋ = _
    rw [wholeUnits]
  refine ⟨?_, ?_⟩
  · rw [text]
    exact isPlainDecimal_decimalText _ _
  · rw [text, read?_decimalText, ← valueEq]

/-! ## Trees of exact numbers -/

instance : SExpr.LawfulNumbers ℝ where
  read_zero := by
    have zero := read?_decimalText 0 0
    rw [Int.cast_zero, zero_div] at zero
    rw [show ['0'] = decimalText 0 0 from rfl, zero]
    norm_num
  finite_zero := rfl
  same_self value _ := same_iff.mpr rfl

@[simp] theorem numberAsRead_eq (value : ℝ) : SExpr.numberAsRead value = value := by
  unfold SExpr.numberAsRead
  split
  case isTrue isZero => exact (same_iff.mp isZero).symm
  case isFalse => rfl

mutual
/-- An exact tree is read as it is. -/
theorem asRead_eq (tree : SExpr ℝ) : tree.asRead = tree := by
  match tree with
  | .symbol _ | .string _ | .number _ => simp
  | .list items => rw [SExpr.asRead_list, itemsAsRead_eq items]
theorem itemsAsRead_eq (items : List (SExpr ℝ)) : SExpr.itemsAsRead items = items := by
  match items with
  | [] => simp [SExpr.itemsAsRead]
  | item :: rest => rw [SExpr.itemsAsRead, asRead_eq item, itemsAsRead_eq rest]
end

/-- A tree whose decimals end is written, and read from its text as it is. -/
theorem exists_write_and_parse {tree : SExpr ℝ} (writable : tree.Writable IsDecimal) :
    ∃ text, tree.write = .ok text ∧ SExpr.parse text = .ok tree := by
  have finite : tree.Writable SExpr.IsFinite := writable.imp fun _ _ _ => rfl
  have readable : tree.Writable SExpr.ReadsBack :=
    writable.imp fun _ _ decimal => readsBack_of_isDecimal decimal
  refine ⟨tree.layout 0 ['\n'], SExpr.write_eq_ok_iff.mpr ⟨finite, rfl⟩, ?_⟩
  rw [SExpr.parse_layout readable, asRead_eq]

end Exact
end CircuitSheet
