import CircuitSheet.Binary64
import CircuitSheet.Proofs.Decimal.Plain
import CircuitSheet.Proofs.SExpr.Reading
import CircuitSheet.Proofs.SExpr.Writable

/-!
# Numbers that are read back

The text of a number is a bare token. It is read as the same number when the decimal text of
that number names it, except that a zero loses its sign.
-/

namespace CircuitSheet
namespace SExpr

/-! ## Decimal texts -/

/-- A digit followed by digits and points. -/
def isUnsignedDecimal : List Char → Bool
  | [] => false
  | first :: rest =>
      first.isDigit && rest.all fun character => character.isDigit || character == '.'

/-- An optional minus sign and an unsigned decimal. -/
def isPlainDecimal : List Char → Bool
  | '-' :: rest => isUnsignedDecimal rest
  | text => isUnsignedDecimal text

/-- The characters of decimals end no token. -/
theorem isDelimiter_eq_false_of_isDigit {character : Char} (digit : character.isDigit = true) :
    isDelimiter character = false := by
  have notBlank := Text.isBlank_eq_false_of_isDigit digit
  have notOpen : character ≠ '(' := by rintro rfl; simp at digit
  have notClose : character ≠ ')' := by rintro rfl; simp at digit
  have notQuote : character ≠ '"' := by rintro rfl; simp at digit
  simp [isDelimiter, notBlank, notOpen, notClose, notQuote]

theorem isDelimiter_of_mem_unsignedDecimal {text : List Char}
    (decimal : isUnsignedDecimal text = true) {character : Char} (member : character ∈ text) :
    isDelimiter character = false := by
  cases text with
  | nil => cases member
  | cons first rest =>
      simp only [isUnsignedDecimal, Bool.and_eq_true, List.all_eq_true, Bool.or_eq_true,
        beq_iff_eq] at decimal
      rcases List.mem_cons.mp member with rfl | inRest
      · exact isDelimiter_eq_false_of_isDigit decimal.1
      · rcases decimal.2 character inRest with digit | rfl
        · exact isDelimiter_eq_false_of_isDigit digit
        · rfl

/-- A plain decimal is an unsigned one with or without a minus sign. -/
theorem isPlainDecimal_iff {text : List Char} :
    isPlainDecimal text = true ↔
      isUnsignedDecimal text = true ∨
        ∃ rest, text = '-' :: rest ∧ isUnsignedDecimal rest = true := by
  unfold isPlainDecimal
  split
  case h_1 rest =>
    simp [isUnsignedDecimal]
  case h_2 noSign =>
    constructor
    · exact Or.inl
    · rintro (decimal | ⟨rest, rfl, _⟩)
      · exact decimal
      · exact absurd rfl (noSign rest)

theorem isDelimiter_of_mem_plainDecimal {text : List Char}
    (decimal : isPlainDecimal text = true) {character : Char} (member : character ∈ text) :
    isDelimiter character = false := by
  rcases isPlainDecimal_iff.mp decimal with unsigned | ⟨rest, rfl, unsigned⟩
  · exact isDelimiter_of_mem_unsignedDecimal unsigned member
  · rcases List.mem_cons.mp member with rfl | inRest
    · rfl
    · exact isDelimiter_of_mem_unsignedDecimal unsigned inRest

theorem startsNumeric_of_isPlainDecimal {text : List Char}
    (decimal : isPlainDecimal text = true) : startsNumeric text = true := by
  rcases isPlainDecimal_iff.mp decimal with unsigned | ⟨rest, rfl, unsigned⟩
  · cases text with
    | nil => cases unsigned
    | cons first rest =>
        rw [isUnsignedDecimal, Bool.and_eq_true] at unsigned
        simp [startsNumeric, unsigned.1]
  · cases rest with
    | nil => cases unsigned
    | cons first rest =>
        rw [isUnsignedDecimal, Bool.and_eq_true] at unsigned
        simp [startsNumeric, unsigned.1]

/-- Digits, a point and more digits are an unsigned decimal. -/
theorem isUnsignedDecimal_pointed {whole fraction : List Char} (notNil : whole ≠ [])
    (digits : Decimal.AllDigits (whole ++ fraction)) :
    isUnsignedDecimal (whole ++ Decimal.pointed fraction) = true := by
  have placed : ∀ character ∈ whole ++ Decimal.pointed fraction,
      (character.isDigit || character == '.') = true := by
    intro character member
    rcases List.mem_append.mp member with inWhole | inFraction
    · simp [digits character (List.mem_append_left _ inWhole)]
    · cases fraction with
      | nil => cases inFraction
      | cons first others =>
          rcases List.mem_cons.mp inFraction with rfl | inDigits
          · rfl
          · simp [digits character (List.mem_append_right _ inDigits)]
  cases whole with
  | nil => exact absurd rfl notNil
  | cons first others =>
      have digit : first.isDigit = true := digits first List.mem_cons_self
      rw [List.cons_append, isUnsignedDecimal, digit, Bool.true_and, List.all_eq_true]
      exact fun character member => placed character (List.mem_cons_of_mem _ member)

/-- Digits with a point put in are an unsigned decimal. -/
theorem isUnsignedDecimal_insertPoint (places number : Nat) :
    isUnsignedDecimal (Decimal.insertPoint places (Decimal.natDigits number)) = true := by
  obtain ⟨whole, fraction, parts, notNil, -, together⟩ :=
    Decimal.exists_insertPoint places (Decimal.natDigits number)
  rw [parts]
  refine isUnsignedDecimal_pointed notNil ?_
  rw [together]
  exact (Decimal.allDigits_natDigits number).padZeros _

/-- A sign in front of an unsigned decimal makes a plain one. -/
theorem isPlainDecimal_signed (negative : Bool) {text : List Char}
    (unsigned : isUnsignedDecimal text = true) :
    isPlainDecimal (Decimal.signed negative text) = true := by
  rw [isPlainDecimal_iff]
  cases negative with
  | true => exact .inr ⟨text, rfl, unsigned⟩
  | false => exact .inl unsigned

/-! ## Numbers and their texts -/

variable {N : Type} [ScalarText N]

/-- The decimal text of a number is plain and names that number. -/
structure ReadsBack (value : N) : Prop where
  plain : isPlainDecimal (ScalarText.shortest value) = true
  read : ScalarText.read? (ScalarText.shortest value) = some value

/-- Zero is read from its text, and numbers that are finite equal themselves. -/
class LawfulNumbers (N : Type) [ScalarText N] : Prop where
  read_zero : ScalarText.read? ['0'] = some (0.0 : N)
  finite_zero : Scalar.isFinite (0.0 : N) = true
  same_self : ∀ value : N, Scalar.isFinite value = true → Scalar.same value value = true

/-- The number that is read for a number. -/
def numberAsRead (value : N) : N :=
  if Scalar.same value 0.0 then 0.0 else value

theorem numberText_ne_nil {value : N} (readsBack : ReadsBack value) : numberText value ≠ [] := by
  unfold numberText
  split
  · simp
  · intro empty
    have plain := readsBack.plain
    rw [empty] at plain
    cases plain

theorem isDelimiter_of_mem_numberText {value : N} (readsBack : ReadsBack value)
    {character : Char} (member : character ∈ numberText value) :
    isDelimiter character = false := by
  unfold numberText at member
  split at member
  · rw [List.mem_singleton.mp member]
    rfl
  · exact isDelimiter_of_mem_plainDecimal readsBack.plain member

variable [LawfulNumbers N]

theorem same_zero_zero : Scalar.same (0.0 : N) 0.0 = true :=
  LawfulNumbers.same_self 0.0 LawfulNumbers.finite_zero

/-- The number that is read for a number equals it. -/
theorem same_numberAsRead {value : N} (finite : Scalar.isFinite value = true) :
    Scalar.same value (numberAsRead value) = true := by
  unfold numberAsRead
  split
  · assumption
  · exact LawfulNumbers.same_self value finite

/-- The number that is read for a number is written like it. -/
@[simp] theorem numberText_numberAsRead (value : N) :
    numberText (numberAsRead value) = numberText value := by
  unfold numberAsRead
  split
  case isTrue isZero => simp [numberText, isZero, same_zero_zero]
  case isFalse => rfl

theorem isFinite_numberAsRead {value : N} (finite : Scalar.isFinite value = true) :
    Scalar.isFinite (numberAsRead value) = true := by
  unfold numberAsRead
  split
  · exact LawfulNumbers.finite_zero
  · exact finite

theorem tokenNumber?_numberText {value : N} (readsBack : ReadsBack value) :
    tokenNumber? N (numberText value) = some (numberAsRead value) := by
  unfold tokenNumber? numberText numberAsRead
  split
  · simp [startsNumeric, LawfulNumbers.read_zero]
  · simp [startsNumeric_of_isPlainDecimal readsBack.plain, readsBack.read]

/-- The text of a number is the token of the number that is read for it. -/
theorem ofToken_numberText {value : N} (readsBack : ReadsBack value) :
    (ofToken (numberText value) : SExpr N) = .number (numberAsRead value) := by
  rw [ofToken, tokenNumber?_numberText readsBack]

/-! ## Floating-point numbers -/

/-- A decoded number that is finite is at most itself. -/
theorem unpacked_le_self {value : Float.Model.UnpackedFloat} (finite : value.isFinite = true) :
    value.le value = true := by
  cases value with
  | infinity sign => cases finite
  | notANumber => cases finite
  | zero sign => rfl
  | finite sign mantissa exponent positive =>
      cases sign <;>
        dsimp only [Float.Model.UnpackedFloat.le, Float.Model.UnpackedFloat.compare] <;> simp

/-- A finite floating-point number is at most itself. -/
theorem float_le_self {value : Float} (finite : value.isFinite = true) : value ≤ value :=
  decide_eq_true (unpacked_le_self finite)

instance : LawfulNumbers Float where
  read_zero := by decide +kernel
  finite_zero := by decide +kernel
  same_self value finite := by
    have reflexive : value ≤ value := float_le_self finite
    simp [Scalar.same, reflexive]

end SExpr
end CircuitSheet
