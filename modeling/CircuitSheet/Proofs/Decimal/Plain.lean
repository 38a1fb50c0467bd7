import CircuitSheet.Decimal.Reading

/-!
# Plain decimals

Digits with a point put in are read as the literal with those digits. The number of places
behind the point becomes the scale of the literal.
-/

namespace CircuitSheet
namespace Decimal

/-! ## Digits -/

/-- All characters of a text are decimal digits. -/
def AllDigits (text : List Char) : Prop :=
  ∀ character ∈ text, character.isDigit = true

theorem allDigits_natDigits (number : Nat) : AllDigits (natDigits number) :=
  fun _ member => Nat.isDigit_of_mem_toDigits (by decide) (by decide) member

theorem allDigits_replicate_zero (count : Nat) : AllDigits (List.replicate count '0') := by
  intro character member
  rw [List.eq_of_mem_replicate member]
  rfl

theorem AllDigits.append {first second : List Char} (firstDigits : AllDigits first)
    (secondDigits : AllDigits second) : AllDigits (first ++ second) := by
  intro character member
  rcases List.mem_append.mp member with inFirst | inSecond
  · exact firstDigits character inFirst
  · exact secondDigits character inSecond

theorem AllDigits.padZeros {digits : List Char} (allDigits : AllDigits digits) (width : Nat) :
    AllDigits (padZeros width digits) :=
  (allDigits_replicate_zero _).append allDigits

theorem ofDigits_eq_ofDigitChars (digits : List Char) :
    ofDigits digits = Nat.ofDigitChars 10 digits 0 :=
  Nat.ofDigitChars_eq_foldl.symm

/-- The digits of a number name it. -/
@[simp] theorem ofDigits_natDigits (number : Nat) : ofDigits (natDigits number) = number := by
  rw [ofDigits_eq_ofDigitChars]
  exact Nat.ofDigitChars_toDigits (by decide) (by decide)

/-- Leading zeros do not count. -/
@[simp] theorem ofDigits_padZeros (width : Nat) (digits : List Char) :
    ofDigits (padZeros width digits) = ofDigits digits := by
  rw [ofDigits_eq_ofDigitChars, ofDigits_eq_ofDigitChars, padZeros, Nat.ofDigitChars_append,
    Nat.ofDigitChars_replicate_zero, Nat.mul_zero]

/-! ## The point -/

/-- What stands behind the whole part: nothing, or a point and the places. -/
def pointed : List Char → List Char
  | [] => []
  | fraction => '.' :: fraction

/-- A text with a point put in falls into a whole part that is not empty and the wanted number
of places; together they are the digits with zeros in front. -/
theorem exists_insertPoint (places : Nat) (digits : List Char) :
    ∃ whole fraction, insertPoint places digits = whole ++ pointed fraction ∧
      whole ≠ [] ∧ fraction.length = places ∧ whole ++ fraction = padZeros (places + 1) digits := by
  have wide : places + 1 ≤ (padZeros (places + 1) digits).length := by
    rw [length_padZeros]
    exact Nat.le_max_left ..
  unfold insertPoint
  by_cases noPlaces : places = 0
  · refine ⟨padZeros (places + 1) digits, [], ?_, ?_, noPlaces.symm, List.append_nil _⟩
    · simp [noPlaces, pointed]
    · exact List.ne_nil_of_length_pos (by omega)
  · generalize padZeros (places + 1) digits = padded at wide
    refine ⟨padded.take (padded.length - places), padded.drop (padded.length - places),
      ?_, ?_, ?_, List.take_append_drop ..⟩
    · have someFraction : padded.drop (padded.length - places) ≠ [] :=
        List.ne_nil_of_length_pos (by rw [List.length_drop]; omega)
      cases rest : padded.drop (padded.length - places) with
      | nil => exact absurd rest someFraction
      | cons _ _ => simp [noPlaces, rest, pointed]
    · exact List.ne_nil_of_length_pos (by rw [List.length_take]; omega)
    · rw [List.length_drop]
      omega

/-! ## Reading -/

theorem spanDigits_append {digits rest : List Char} (allDigits : AllDigits digits)
    (stops : ∀ character ∈ rest.head?, character.isDigit = false) :
    spanDigits (digits ++ rest) = (digits, rest) := by
  have restStops : rest.takeWhile Char.isDigit = [] ∧ rest.dropWhile Char.isDigit = rest := by
    cases rest with
    | nil => exact ⟨rfl, rfl⟩
    | cons character others => simp [stops character rfl]
  rw [spanDigits, List.takeWhile_append_of_pos allDigits, List.dropWhile_append_of_pos allDigits,
    restStops.1, restStops.2, List.append_nil]

theorem spanDigits_of_allDigits {digits : List Char} (allDigits : AllDigits digits) :
    spanDigits digits = (digits, []) := by
  have stops : ∀ character ∈ ([] : List Char).head?, character.isDigit = false := by simp
  simpa using spanDigits_append allDigits stops

theorem splitFraction_pointed {fraction : List Char} (allDigits : AllDigits fraction) :
    splitFraction (pointed fraction) = (fraction, []) := by
  cases fraction with
  | nil => rfl
  | cons first others => exact spanDigits_of_allDigits allDigits

/-- Digits, a point and more digits are a literal. -/
theorem unsigned?_pointed (negative : Bool) {whole fraction : List Char} (notNil : whole ≠ [])
    (wholeDigits : AllDigits whole) (fractionDigits : AllDigits fraction) :
    unsigned? negative (whole ++ pointed fraction) =
      some (.number negative (ofDigits (whole ++ fraction)) (-fraction.length)) := by
  have stops : ∀ character ∈ (pointed fraction).head?, character.isDigit = false := by
    cases fraction <;> simp [pointed]
  have notEmpty : whole.isEmpty = false := by simpa using notNil
  simp [unsigned?, spanDigits_append wholeDigits stops, splitFraction_pointed fractionDigits,
    notEmpty, exponent?]

theorem toLower_of_isDigit {character : Char} (digit : character.isDigit = true) :
    character.toLower = character := by
  have notCapital : ¬(65 ≤ character.val ∧ character.val ≤ 90) := by
    intro capital
    simp only [Char.isDigit, Bool.and_eq_true, decide_eq_true_eq] at digit
    have atMost := UInt32.le_iff_toNat_le.mp digit.2
    have atLeast := UInt32.le_iff_toNat_le.mp capital.1
    simp at atMost atLeast
    omega
  exact dif_neg notCapital

/-- A text that starts with a digit, with or without a minus sign, is no word. -/
theorem literal?_signed (negative : Bool) {first : Char} (rest : List Char)
    (digit : first.isDigit = true) :
    literal? (signed negative (first :: rest)) = unsigned? negative (first :: rest) := by
  have split : splitSign (signed negative (first :: rest)) = (negative, first :: rest) := by
    cases negative with
    | true => rfl
    | false =>
        have notMinus : first ≠ '-' := by rintro rfl; cases digit
        have notPlus : first ≠ '+' := by rintro rfl; cases digit
        simp [signed, splitSign, notMinus, notPlus]
  have notI : first ≠ 'i' := by rintro rfl; cases digit
  have notN : first ≠ 'n' := by rintro rfl; cases digit
  simp [literal?, split, toLower_of_isDigit digit, notI, notN]

/-- A number of units with a point in front of some places is read as it is. -/
theorem literal?_insertPoint (negative : Bool) (places number : Nat) :
    literal? (signed negative (insertPoint places (natDigits number))) =
      some (.number negative number (-places)) := by
  obtain ⟨whole, fraction, parts, notNil, length, together⟩ :=
    exists_insertPoint places (natDigits number)
  have digits : AllDigits (whole ++ fraction) := by
    rw [together]
    exact (allDigits_natDigits number).padZeros _
  have wholeDigits : AllDigits whole := fun _ member => digits _ (List.mem_append_left _ member)
  have fractionDigits : AllDigits fraction :=
    fun _ member => digits _ (List.mem_append_right _ member)
  have value : ofDigits (whole ++ fraction) = number := by
    rw [together, ofDigits_padZeros, ofDigits_natDigits]
  rw [parts]
  cases whole with
  | nil => exact absurd rfl notNil
  | cons first others =>
      have digit : first.isDigit = true := wholeDigits first List.mem_cons_self
      rw [List.cons_append, literal?_signed negative _ digit, ← List.cons_append,
        unsigned?_pointed negative notNil wholeDigits fractionDigits, value, length]

end Decimal
end CircuitSheet
