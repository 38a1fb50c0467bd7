import CircuitSheet.Binary64
import CircuitSheet.Proofs.Binary64.Range
import CircuitSheet.Proofs.Decimal.Shortest
import CircuitSheet.Proofs.SExpr.RoundTrip

/-!
# Double precision with given sines and cosines

Nothing is known of the sine and the cosine of floating-point numbers but what is assumed of
them. So here they are parameters of double precision, and all other operations are those of the
machine.
-/

namespace CircuitSheet

/-- Double-precision numbers whose sines and cosines are given. -/
def Turning (_sine _cosine : Float → Float) : Type := Float

namespace Turning

variable {sine cosine : Float → Float}

instance : ScalarText (Turning sine cosine) :=
  { (inferInstance : ScalarText Float) with
    sin := sine
    cos := cosine }

/-- With the sine and the cosine of the machine, the numbers are those of the machine. -/
theorem instScalarText_machine :
    (inferInstance : ScalarText (Turning Float.sin Float.cos)) =
      (inferInstance : ScalarText Float) := rfl

instance : SExpr.LawfulNumbers (Turning sine cosine) where
  read_zero := SExpr.LawfulNumbers.read_zero (N := Float)
  finite_zero := SExpr.LawfulNumbers.finite_zero (N := Float)
  same_self := SExpr.LawfulNumbers.same_self (N := Float)

/-- Finite numbers are read back from their texts. -/
theorem readsBack {value : Turning sine cosine} (finite : Scalar.isFinite value = true) :
    SExpr.ReadsBack value :=
  have asFloat : SExpr.ReadsBack (N := Float) value := Decimal.readsBack_of_isFinite finite
  ⟨asFloat.plain, asFloat.read⟩

/-- A tree that is written is read back from its text up to the signs of its zeros. -/
theorem parse_of_write {tree : SExpr (Turning sine cosine)} {text : List Char}
    (written : tree.write = .ok text) :
    SExpr.parse text = .ok tree.asRead ∧ tree.alike Scalar.same tree.asRead = true := by
  obtain ⟨finite, rfl⟩ := SExpr.write_eq_ok_iff.mp written
  exact ⟨SExpr.parse_layout (finite.imp fun _ _ isFinite => readsBack isFinite),
    SExpr.alike_asRead finite⟩

end Turning

/-- The values for finite angles lie between minus one and one. -/
def StaysWithinOne (wave : Float → Float) : Prop :=
  ∀ angle, angle.isFinite = true → -1.0 ≤ wave angle ∧ wave angle ≤ 1.0

/-- A function with some values, and zero everywhere else. -/
def tabled (entries : List (Float × Float)) (angle : Float) : Float :=
  ((entries.find? (·.1 == angle)).map (·.2)).getD 0.0

theorem staysWithinOne_tabled {entries : List (Float × Float)}
    (within : ∀ entry ∈ entries, -1.0 ≤ entry.2 ∧ entry.2 ≤ 1.0) :
    StaysWithinOne (tabled entries) := by
  intro angle _
  unfold tabled
  cases found : entries.find? (·.1 == angle) with
  | none =>
      have zero : -1.0 ≤ (0.0 : Float) ∧ (0.0 : Float) ≤ 1.0 := by
        decide +kernel
      exact zero
  | some entry => exact within entry (List.mem_of_find?_eq_some found)

/-- The sines of the quarters of a turn. -/
def quarterSine : Float → Float :=
  tabled [(0.0, 0.0), (1.5707963267948966, 1.0), (3.141592653589793, 1.2246467991473532e-16),
    (4.71238898038469, -1.0)]

/-- The cosines of the quarters of a turn. -/
def quarterCosine : Float → Float :=
  tabled [(0.0, 1.0), (1.5707963267948966, 6.123233995736766e-17), (3.141592653589793, -1.0),
    (4.71238898038469, -1.8369701987210297e-16)]

theorem staysWithinOne_quarterSine : StaysWithinOne quarterSine :=
  staysWithinOne_tabled (by decide +kernel)

theorem staysWithinOne_quarterCosine : StaysWithinOne quarterCosine :=
  staysWithinOne_tabled (by decide +kernel)

namespace Binary64

/-! ## Numbers of moderate size -/

/-- The number is finite and at most two to the fourteenth. -/
def isModerate (value : Float) : Bool :=
  match parts value with
  | .finite _ mantissa exponent =>
      decide (mantissa * 2 ^ exponent.toNat ≤ 2 ^ 14 * 2 ^ (-exponent).toNat)
  | _ => false

theorem spec_of_isModerate {value : Float} (moderate : isModerate value = true) :
    value.isFinite = true ∧ |number value| ≤ 2 ^ 14 := by
  unfold isModerate at moderate
  split at moderate
  case h_1 negative mantissa exponent valueParts =>
    refine ⟨isFinite_iff.mpr ⟨_, _, _, valueParts⟩, ?_⟩
    have wholes : (mantissa * 2 ^ exponent.toNat : ℚ) ≤ 2 ^ 14 * 2 ^ (-exponent).toNat := by
      exact_mod_cast of_decide_eq_true moderate
    rw [Decimal.pow_toNat two_ne_zero, ← mul_assoc, mul_right_comm] at wholes
    rw [abs_number_of_parts valueParts]
    exact le_of_mul_le_mul_right wholes (by positivity)
  case h_2 => cases moderate

/-! ## Rounding to four places -/

theorem number_tenThousand : number 1e4 = 10000 := by
  have exact : parts 1e4 = .finite false (10000 * 2 ^ 39) (-39) := by
    decide +kernel
  rw [number_of_parts exact]
  norm_num [factor]

/-- A number that is not very large is rounded to a finite one. -/
theorem isFinite_roundTo {value : Float} (finite : value.isFinite = true)
    (small : |number value| ≤ 2 ^ 100) : (Scalar.roundTo 1e4 value).isFinite = true := by
  have scale : (1e4 : Float).isFinite = true := by
    decide +kernel
  have scaled : (value * 1e4).isFinite = true := by
    refine (represents_mul finite scale ?_).finite
    rw [abs_mul, number_tenThousand]
    calc |number value| * |10000| ≤ 2 ^ 100 * 2 ^ 14 :=
          mul_le_mul small (by norm_num) (by positivity) (by positivity)
      _ = 2 ^ 114 := by rw [← pow_add]
      _ < overflow := two_pow_lt_overflow (by decide)
  have rounded := isFinite_nearest scaled
  refine (represents_div rounded scale ?_ ?_).finite
  · rw [number_tenThousand]
    norm_num
  · have largest := abs_number_le (nearest (value * 1e4))
    have positive := topUnit_pos
    rw [number_tenThousand, abs_div, abs_of_pos (by norm_num : (0 : ℚ) < 10000), overflow,
      div_lt_iff₀ (by norm_num)]
    linarith

/-- The end of a stub of moderate length is rounded to a finite place. -/
theorem isFinite_roundTo_add_mul {offset length wave : Float} (offsetModerate : isModerate offset)
    (lengthModerate : isModerate length) (low : -1.0 ≤ wave) (high : wave ≤ 1.0) :
    (Scalar.roundTo 1e4 (offset + length * wave)).isFinite = true := by
  obtain ⟨offsetFinite, offsetSmall⟩ := spec_of_isModerate offsetModerate
  obtain ⟨lengthFinite, lengthSmall⟩ := spec_of_isModerate lengthModerate
  obtain ⟨waveFinite, waveSmall⟩ := spec_of_between low high
  have shorter : |number length * number wave| ≤ 2 ^ 14 := by
    rw [abs_mul]
    exact (mul_le_of_le_one_right (abs_nonneg _) waveSmall).trans lengthSmall
  have product := represents_mul lengthFinite waveFinite
    (shorter.trans_lt (two_pow_lt_overflow (by decide)))
  have total : |number offset + number (length * wave)| ≤ 2 ^ 15 := by
    calc |number offset + number (length * wave)|
        ≤ |number offset| + |number (length * wave)| := abs_add_le _ _
      _ ≤ 2 ^ 14 + 2 ^ 14 := add_le_add offsetSmall (product.bounded 14 shorter)
      _ = 2 ^ 15 := by norm_num
  have sum := represents_add offsetFinite product.finite
    (total.trans_lt (two_pow_lt_overflow (by decide)))
  exact isFinite_roundTo sum.finite ((sum.bounded 15 total).trans (by norm_num))

end Binary64
end CircuitSheet
