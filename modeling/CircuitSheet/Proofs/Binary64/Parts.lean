import CircuitSheet.Binary64.Ascent
import CircuitSheet.Binary64.Parts
import Mathlib

/-!
# Numbers and their parts

A finite floating-point number is known by its parts: a sign, and a mantissa with an exponent
that is zero or in the one form that double precision has for it. Packing such parts and
splitting the number again gives them back.
-/

namespace CircuitSheet
namespace Binary64

open Float.Model Float.Model.UnpackedFloat

/-! ## Bits -/

/-- The fields of a pattern of bits. -/
theorem toNat_unpack_fields (bits : BitVec 64) :
    (@unpackMantissa Format.binary64 bits).toNat = bits.toNat % fractionCount ∧
      (@unpackExponent Format.binary64 bits).toNat =
        bits.toNat / fractionCount % exponentCount ∧
      (@unpackSign Format.binary64 bits).toNat = bits.toNat / signBit := by
  have small : bits.toNat < 2 ^ 64 := bits.isLt
  simp only [unpackMantissa, unpackExponent, unpackSign, BitVec.toNat_cast, BitVec.extractLsb_toNat,
    Nat.shiftRight_eq_div_pow, fractionCount, exponentCount, signBit, Nat.pow_eq]
  norm_num
  omega

/-- The bits of fields. -/
theorem toNat_packComponents (sign : Sign) (exponent : BitVec 11) (mantissa : BitVec 52) :
    (packComponents Format.binary64 sign exponent mantissa).toNat =
      sign.toBitVec.toNat * signBit + exponent.toNat * fractionCount + mantissa.toNat := by
  rw [packComponents, BitVec.toNat_append, BitVec.toNat_append,
    ← Nat.shiftLeft_add_eq_or_of_lt exponent.isLt, ← Nat.shiftLeft_add_eq_or_of_lt mantissa.isLt,
    Nat.shiftLeft_eq, Nat.shiftLeft_eq]
  simp only [signBit, fractionCount, Nat.pow_eq]
  ring

theorem toNat_append_implicit (mantissa : BitVec 52) :
    (1#1 ++ mantissa).toNat = fractionCount + mantissa.toNat := by
  rw [BitVec.toNat_append, ← Nat.shiftLeft_add_eq_or_of_lt mantissa.isLt]
  rfl

/-- The sign of a number. -/
def signOf (negative : Bool) : Sign :=
  if negative then .negative else .positive

theorem toNat_toBitVec_signOf (negative : Bool) :
    (signOf negative).toBitVec.toNat = if negative then 1 else 0 := by
  cases negative <;> rfl

/-- What the bits of a number say, with fields of the parts. -/
theorem parts_eq_of_bits {value : Float} {negative : Bool} {biased fraction : ℕ}
    (biasedSmall : biased < exponentCount) (fractionSmall : fraction < fractionCount)
    (bits : value.toBits.toNat =
      (if negative then 1 else 0) * signBit + biased * fractionCount + fraction) :
    parts value =
      if biased = exponentCount - 1 then
        if fraction = 0 then .infinite negative else .undefined
      else if biased = 0 then .finite negative fraction lowestExponent
      else .finite negative (fractionCount + fraction) (lowestExponent + (biased - 1 : ℕ)) := by
  have fields : value.toBits.toNat / fractionCount % exponentCount = biased ∧
      value.toBits.toNat % fractionCount = fraction ∧
      decide (value.toBits.toNat ≥ signBit) = negative := by
    rw [bits]
    simp only [exponentCount, fractionCount, signBit, Nat.pow_eq] at *
    cases negative <;> simp <;> omega
  obtain ⟨biasedEq, fractionEq, signEq⟩ := fields
  simp only [parts, biasedEq, fractionEq, signEq]

/-- Every number has fields. -/
theorem exists_bits (value : Float) :
    ∃ (negative : Bool) (biased fraction : ℕ),
      biased < exponentCount ∧ fraction < fractionCount ∧
        value.toBits.toNat =
          (if negative then 1 else 0) * signBit + biased * fractionCount + fraction := by
  have small := value.toBits.toNat_lt
  refine ⟨decide (signBit ≤ value.toBits.toNat),
    value.toBits.toNat / fractionCount % exponentCount, value.toBits.toNat % fractionCount,
    Nat.mod_lt _ (by decide), Nat.mod_lt _ (by decide), ?_⟩
  simp only [exponentCount, fractionCount, signBit, Nat.pow_eq]
  by_cases negative : 2 ^ 63 ≤ value.toBits.toNat <;> simp only [negative, decide_true,
    decide_false, if_true, if_false, Bool.false_eq_true] <;> omega

/-- A mantissa and an exponent in the form that double precision has for a number other than
zero. -/
structure IsCanonical (mantissa : ℕ) (exponent : ℤ) : Prop where
  positive : 0 < mantissa
  short : mantissa < 2 ^ 53
  lowest : lowestExponent ≤ exponent
  normal : exponent ≠ lowestExponent → 2 ^ 52 ≤ mantissa
  highest : exponent ≤ 971

/-- The bits of a sign, a mantissa and an exponent. -/
def bitsOf (negative : Bool) (mantissa : ℕ) (exponent : ℤ) : ℕ :=
  (if negative then 1 else 0) * signBit +
    if mantissa < fractionCount then mantissa
    else (exponent - lowestExponent + 1).toNat * fractionCount + (mantissa - fractionCount)

/-- The parts of a finite number are those of zero or canonical, and its bits are theirs. -/
theorem spec_of_parts {value : Float} {negative : Bool} {mantissa : ℕ} {exponent : ℤ}
    (finite : parts value = .finite negative mantissa exponent) :
    (mantissa = 0 ∧ exponent = lowestExponent ∨ IsCanonical mantissa exponent) ∧
      value.toBits.toNat = bitsOf negative mantissa exponent := by
  obtain ⟨sign, biased, fraction, biasedSmall, fractionSmall, bits⟩ := exists_bits value
  rw [parts_eq_of_bits biasedSmall fractionSmall bits] at finite
  rw [bits, bitsOf]
  by_cases highest : biased = exponentCount - 1
  · rw [if_pos highest] at finite
    by_cases zero : fraction = 0 <;> simp [zero] at finite
  rw [if_neg highest] at finite
  by_cases subnormal : biased = 0
  · rw [if_pos subnormal] at finite
    obtain ⟨rfl, rfl, rfl⟩ := Parts.finite.inj finite
    refine ⟨?_, by rw [subnormal, if_pos fractionSmall]; omega⟩
    rcases Nat.eq_zero_or_pos fraction with zero | positive
    · exact .inl ⟨zero, rfl⟩
    · have short : fraction < 2 ^ 53 := fractionSmall.trans (by decide)
      exact .inr ⟨positive, short, le_refl _, fun other => absurd rfl other, by decide⟩
  · rw [if_neg subnormal] at finite
    obtain ⟨rfl, rfl, rfl⟩ := Parts.finite.inj finite
    have back : (lowestExponent + (biased - 1 : ℕ) - lowestExponent + 1).toNat = biased := by
      omega
    refine ⟨.inr ?_, ?_⟩
    · simp only [exponentCount, fractionCount, Nat.pow_eq] at *
      refine ⟨by omega, by omega, by omega, fun _ => by omega, ?_⟩
      rw [lowestExponent]
      omega
    · rw [if_neg (Nat.not_lt.mpr (Nat.le_add_right ..)), back, Nat.add_sub_cancel_left, add_assoc]

/-- A finite number is known by its parts. -/
theorem eq_of_parts {first second : Float} {negative : Bool} {mantissa : ℕ} {exponent : ℤ}
    (firstParts : parts first = .finite negative mantissa exponent)
    (secondParts : parts second = .finite negative mantissa exponent) : first = second :=
  eq_of_toBits ((spec_of_parts firstParts).2.trans (spec_of_parts secondParts).2.symm)

/-- An infinite number is known by its sign. -/
theorem eq_of_infinite {first second : Float} {negative : Bool}
    (firstParts : parts first = .infinite negative)
    (secondParts : parts second = .infinite negative) : first = second := by
  have bits {value : Float} (infinite : parts value = .infinite negative) :
      value.toBits.toNat =
        (if negative then 1 else 0) * signBit + (exponentCount - 1) * fractionCount := by
    obtain ⟨sign, biased, fraction, biasedSmall, fractionSmall, bits⟩ := exists_bits value
    rw [parts_eq_of_bits biasedSmall fractionSmall bits] at infinite
    by_cases highest : biased = exponentCount - 1
    · by_cases zero : fraction = 0
      · rw [if_pos highest, if_pos zero] at infinite
        rw [bits, Parts.infinite.inj infinite, highest, zero, Nat.add_zero]
      · simp [highest, zero] at infinite
    · rw [if_neg highest] at infinite
      split at infinite <;> cases infinite
  exact eq_of_toBits ((bits firstParts).trans (bits secondParts).symm)

/-- A number with the bits of some parts has these parts. -/
theorem parts_of_bitsOf {value : Float} {negative : Bool} {mantissa : ℕ} {exponent : ℤ}
    (canonical : mantissa = 0 ∧ exponent = lowestExponent ∨ IsCanonical mantissa exponent)
    (bits : value.toBits.toNat = bitsOf negative mantissa exponent) :
    parts value = .finite negative mantissa exponent := by
  by_cases subnormal : mantissa < fractionCount
  · have fields : value.toBits.toNat =
        (if negative then 1 else 0) * signBit + 0 * fractionCount + mantissa := by
      rw [bits, bitsOf, if_pos subnormal]
      omega
    have lowest : exponent = lowestExponent := by
      rcases canonical with ⟨-, lowest⟩ | canonical
      · exact lowest
      · by_contra other
        exact absurd (canonical.normal other) (not_le.mpr subnormal)
    rw [parts_eq_of_bits (by decide) subnormal fields, lowest]
    rfl
  · have canonical : IsCanonical mantissa exponent := by
      rcases canonical with ⟨rfl, -⟩ | canonical
      · exact absurd (by decide) subnormal
      · exact canonical
    obtain ⟨-, short, lowest, -, highest⟩ := canonical
    have ordinary : fractionCount ≤ mantissa := not_lt.mp subnormal
    have fractionSmall : mantissa - fractionCount < fractionCount := by
      simp only [fractionCount, Nat.pow_eq] at *
      omega
    obtain ⟨biased, place⟩ : ∃ biased : ℕ, exponent = lowestExponent + biased :=
      ⟨(exponent - lowestExponent).toNat, by omega⟩
    have biasedSmall : biased + 1 < exponentCount - 1 := by
      simp only [exponentCount, Nat.pow_eq, lowestExponent] at *
      omega
    have fields : value.toBits.toNat = (if negative then 1 else 0) * signBit +
        (biased + 1) * fractionCount + (mantissa - fractionCount) := by
      have back : (exponent - lowestExponent + 1).toNat = biased + 1 := by omega
      rw [bits, bitsOf, if_neg subnormal, back, add_assoc]
    rw [parts_eq_of_bits (by omega) fractionSmall fields, if_neg biasedSmall.ne,
      if_neg (Nat.succ_ne_zero biased), Nat.add_sub_cancel' ordinary, Nat.add_sub_cancel, place]

/-! ## Decoded numbers -/

/-- The number that a sign, a mantissa and an exponent decode to. -/
def decoded (negative : Bool) (mantissa : ℕ) (exponent : ℤ) : UnpackedFloat :=
  if isZero : mantissa = 0 then .zero (signOf negative)
  else .finite (signOf negative) mantissa exponent (Nat.pos_of_ne_zero isZero)

theorem signOf_eq (bits : BitVec 64) :
    Sign.ofBitVec (@unpackSign Format.binary64 bits) =
      signOf (decide (bits.toNat ≥ signBit)) := by
  have field := (toNat_unpack_fields bits).2.2
  have noSign : bits.toNat / signBit = 0 ↔ bits.toNat < signBit :=
    Nat.div_eq_zero_iff_lt (by decide)
  simp only [Sign.ofBitVec, signOf, ← BitVec.toNat_inj, field, BitVec.toNat_zero, noSign]
  by_cases negative : bits.toNat < signBit
  · simp [negative]
  · simp [negative, not_lt.mp negative]

theorem decoded_zero (negative : Bool) (exponent : ℤ) :
    decoded negative 0 exponent = .zero (signOf negative) := rfl

theorem decoded_of_pos {negative : Bool} {mantissa : ℕ} {exponent : ℤ} (positive : 0 < mantissa) :
    decoded negative mantissa exponent =
      .finite (signOf negative) mantissa exponent positive :=
  dif_neg positive.ne'

/-- What parts decode to. -/
def Parts.unpacked : Parts → UnpackedFloat
  | .finite negative mantissa exponent => decoded negative mantissa exponent
  | .infinite negative => .infinity (signOf negative)
  | .undefined => .notANumber

/-- A number decodes to its parts. -/
theorem unpack_eq_unpacked (value : Float) : value.toModel.unpack = (parts value).unpacked := by
  change UnpackedFloat.unpack Format.binary64 value.toBits.toBitVec = _
  have toNat : value.toBits.toNat = value.toBits.toBitVec.toNat := rfl
  unfold parts
  dsimp only
  rw [toNat]
  generalize value.toBits.toBitVec = bits
  obtain ⟨mantissaField, exponentField, -⟩ := toNat_unpack_fields bits
  have allOnes : (-1#11).toNat = exponentCount - 1 := by decide
  unfold UnpackedFloat.unpack
  dsimp only
  simp only [signOf_eq, ← BitVec.toNat_inj, mantissaField, exponentField, allOnes,
    toNat_append_implicit, BitVec.toNat_zero]
  generalize bits.toNat / fractionCount % exponentCount = biased
  by_cases highest : biased = exponentCount - 1
  · rw [if_pos highest, if_pos highest]
    by_cases zero : bits.toNat % fractionCount = 0
    · rw [if_pos zero, if_pos zero]
      rfl
    · rw [if_neg zero, if_neg zero]
      rfl
  rw [if_neg highest, if_neg highest]
  by_cases subnormal : biased = 0
  · rw [if_pos subnormal, if_pos subnormal, subnormal]
    rfl
  · have positive : 0 < fractionCount + bits.toNat % fractionCount :=
      Nat.add_pos_left (by decide) _
    have place : (biased : ℤ) - (Format.binary64.exponentBias + 52) =
        lowestExponent + (biased - 1 : ℕ) := by
      rw [show (Format.binary64.exponentBias : ℤ) = 1023 from rfl, lowestExponent]
      omega
    rw [if_neg subnormal, if_neg subnormal, Parts.unpacked, decoded_of_pos positive]
    simp only [UnpackedFloat.finite.injEq, true_and]
    exact place

/-- A finite number decodes to its parts. -/
theorem unpack_eq_decoded {value : Float} {negative : Bool} {mantissa : ℕ} {exponent : ℤ}
    (finite : parts value = .finite negative mantissa exponent) :
    value.toModel.unpack = decoded negative mantissa exponent := by
  rw [unpack_eq_unpacked, finite, Parts.unpacked]

/-- A canonical number is packed into bits with its parts. -/
theorem parts_pack {negative : Bool} {mantissa : ℕ} {exponent : ℤ}
    (canonical : mantissa = 0 ∧ exponent = lowestExponent ∨ IsCanonical mantissa exponent) :
    parts (.ofModel (.pack (decoded negative mantissa exponent))) =
      .finite negative mantissa exponent := by
  refine parts_of_bitsOf canonical ?_
  change (UnpackedFloat.pack Format.binary64 (decoded negative mantissa exponent)).toNat = _
  rcases canonical with ⟨rfl, rfl⟩ | canonical
  · cases negative <;> rfl
  obtain ⟨positive, short, lowest, normal, highest⟩ := canonical
  rw [decoded_of_pos positive, UnpackedFloat.pack]
  dsimp only
  have biased : (exponent + Format.binary64.exponentBias + (52 : ℕ)).toNat =
      (exponent - lowestExponent + 1).toNat := by
    rw [show (Format.binary64.exponentBias : ℤ) = 1023 from rfl, lowestExponent]
    omega
  have inRange : (exponent - lowestExponent + 1).toNat + 1 < 2 ^ 11 := by
    rw [lowestExponent]
    omega
  rw [biased, if_neg (not_le.mpr inRange), bitsOf]
  by_cases subnormal : mantissa < fractionCount
  · have bits : mantissa.log2 + 1 ≠ Format.binary64.mantissaBits := by
      have top := (Nat.log2_lt positive.ne').mpr subnormal
      exact (Nat.succ_lt_succ top).ne
    have whole : mantissa % 2 ^ 52 = mantissa := Nat.mod_eq_of_lt subnormal
    rw [if_neg bits, if_pos subnormal, toNat_packComponents, toNat_toBitVec_signOf,
      BitVec.toNat_ofNat, BitVec.toNat_ofNat, whole, Nat.zero_mod, Nat.zero_mul, Nat.add_zero]
  · have bits : mantissa.log2 + 1 = Format.binary64.mantissaBits := by
      have top := (Nat.log2_lt positive.ne').mpr short
      have atLeast := (Nat.le_log2 positive.ne').mpr (not_lt.mp subnormal)
      exact congrArg (· + 1) (le_antisymm (Nat.lt_succ_iff.mp top) atLeast)
    have fraction : mantissa % 2 ^ 52 = mantissa - fractionCount := by
      simp only [fractionCount, Nat.pow_eq] at *
      omega
    rw [if_pos bits, if_neg subnormal, toNat_packComponents, toNat_toBitVec_signOf,
      BitVec.toNat_ofNat, BitVec.toNat_ofNat, fraction, Nat.mod_eq_of_lt (by omega), add_assoc]

/-- The numbers with parts of their own are those that are neither infinite nor undefined. -/
theorem isFinite_iff {value : Float} :
    value.isFinite = true ↔
      ∃ negative mantissa exponent, parts value = .finite negative mantissa exponent := by
  constructor
  · intro isFinite
    change value.toModel.unpack.isFinite = true at isFinite
    rw [unpack_eq_unpacked] at isFinite
    cases found : parts value with
    | undefined =>
        rw [found] at isFinite
        cases isFinite
    | infinite =>
        rw [found] at isFinite
        cases isFinite
    | finite negative mantissa exponent => exact ⟨negative, mantissa, exponent, rfl⟩
  · rintro ⟨negative, mantissa, exponent, finite⟩
    change value.toModel.unpack.isFinite = true
    rw [unpack_eq_decoded finite, decoded]
    split <;> rfl

/-- Negating a number changes its sign. -/
theorem parts_neg {value : Float} {negative : Bool} {mantissa : ℕ} {exponent : ℤ}
    (finite : parts value = .finite negative mantissa exponent) :
    parts (-value) = .finite (!negative) mantissa exponent := by
  have negated : -value = .ofModel (.pack (decoded (!negative) mantissa exponent)) := by
    change Float.ofModel (.pack value.toModel.unpack.neg) = _
    rw [unpack_eq_decoded finite, decoded, decoded]
    split <;> cases negative <;> rfl
  rw [negated]
  exact parts_pack (spec_of_parts finite).1

end Binary64
end CircuitSheet
