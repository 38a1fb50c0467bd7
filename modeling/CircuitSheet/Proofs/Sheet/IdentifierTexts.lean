import CircuitSheet.Proofs.Binary64.Turning
import CircuitSheet.Proofs.Decimal.Plain
import CircuitSheet.Sheet.Identifier

/-!
# Texts of identifiers

The text of an identifier has thirty-two hexadecimal digits in five groups with hyphens between
them. The digits name the number of the identifier, so identifiers with different numbers differ.
A decimal literal has a sign in front and one in its exponent at most, so no text with four hyphens
is a number, however its digits fall: identifiers stand bare and are read as text.
-/

namespace CircuitSheet

/-! ## Hyphens in decimal literals -/

namespace Decimal

theorem count_hyphen_of_allDigits {text : List Char} (digits : AllDigits text) :
    text.count '-' = 0 := by
  rw [List.count_eq_zero]
  intro member
  cases digits '-' member

theorem count_hyphen_spanDigits (text : List Char) :
    (spanDigits text).2.count '-' = text.count '-' := by
  have digits : AllDigits (spanDigits text).1 := fun _ member => List.mem_takeWhile_imp member
  have whole : (spanDigits text).1 ++ (spanDigits text).2 = text := List.takeWhile_append_dropWhile
  rw [← whole, List.count_append, count_hyphen_of_allDigits digits, Nat.zero_add, whole]

theorem count_hyphen_splitFraction (text : List Char) :
    (splitFraction text).2.count '-' = text.count '-' := by
  unfold splitFraction
  split
  · rw [count_hyphen_spanDigits, List.count_cons_of_ne (by decide)]
  · rfl

theorem count_hyphen_splitSign (text : List Char) :
    text.count '-' ≤ (splitSign text).2.count '-' + 1 := by
  unfold splitSign
  split
  · rw [List.count_cons_self]
  · rw [List.count_cons_of_ne (by decide)]
    exact Nat.le_succ _
  · exact Nat.le_succ _

theorem count_hyphen_of_exponent? {text : List Char} {exponent : ℤ}
    (read : exponent? text = some exponent) : text.count '-' ≤ 1 := by
  unfold exponent? at read
  split at read
  case h_1 => simp
  case h_2 letter rest =>
    split at read
    case isTrue marked =>
      have notHyphen : letter ≠ '-' := by
        rintro rfl
        simp at marked
      have sign := count_hyphen_splitSign rest
      dsimp only at read
      split at read
      case isTrue => cases read
      case isFalse digits =>
        simp only [Bool.or_eq_true, Bool.not_eq_true', not_or, Bool.not_eq_false,
          List.all_eq_true] at digits
        rw [count_hyphen_of_allDigits digits.2] at sign
        rw [List.count_cons_of_ne notHyphen]
        exact sign
    case isFalse => cases read

theorem count_hyphen_of_unsigned? {negative : Bool} {text : List Char} {literal : Literal}
    (read : unsigned? negative text = some literal) : text.count '-' ≤ 1 := by
  unfold unsigned? at read
  dsimp only at read
  split at read
  case isTrue => cases read
  case isFalse =>
    split at read
    case h_1 => cases read
    case h_2 exponent isExponent =>
      have few := count_hyphen_of_exponent? isExponent
      rwa [count_hyphen_splitFraction, count_hyphen_spanDigits] at few

/-- A literal has at most two hyphens, as its sign and as that of its exponent. -/
theorem count_hyphen_of_literal? {text : List Char} {literal : Literal}
    (read : literal? text = some literal) : text.count '-' ≤ 2 := by
  have sign := count_hyphen_splitSign text
  have ofWord {word : List Char} (isWord : (splitSign text).2.map Char.toLower = word)
      (noHyphen : '-' ∉ word) : (splitSign text).2.count '-' = 0 := by
    rw [List.count_eq_zero]
    intro member
    exact noHyphen (isWord ▸ List.mem_map.mpr ⟨'-', member, rfl⟩)
  unfold literal? at read
  dsimp only at read
  split at read
  case isTrue infinity =>
    have none : (splitSign text).2.count '-' = 0 := by
      rcases infinity with short | long
      · exact ofWord short (by decide)
      · exact ofWord long (by decide)
    omega
  case isFalse =>
    split at read
    case isTrue undefined =>
      have none := ofWord undefined (by decide)
      omega
    case isFalse =>
      have few := count_hyphen_of_unsigned? read
      omega

end Decimal

/-! ## Hexadecimal digits -/

namespace Identifier

/-- The digits of identifiers in the order of their values. -/
def hexDigits : List Char :=
  "0123456789abcdef".toList

/-- The number that hexadecimal digits name. -/
def ofDigits (digits : List Char) : ℕ :=
  digits.foldl (fun number digit => 16 * number + hexDigits.idxOf digit) 0

/-- The text is the identifier of a number: hexadecimal digits that name the number, in groups of
eight, four, four, four and twelve with hyphens between the groups. -/
def IsTextOf (text : String) (number : ℕ) : Prop :=
  ∃ groups : List (List Char), text.toList = ['-'].intercalate groups ∧
    groups.map List.length = [8, 4, 4, 4, 12] ∧
    (∀ digit ∈ groups.flatten, digit ∈ hexDigits) ∧ ofDigits groups.flatten = number

theorem hexDigit_of_lt {value : ℕ} (small : value < 16) :
    value.digitChar ∈ hexDigits ∧ hexDigits.idxOf value.digitChar = value := by
  have all : ∀ value < 16, value.digitChar ∈ hexDigits ∧
      hexDigits.idxOf value.digitChar = value := by
    decide
  exact all value small

theorem ofDigits_concat (digits : List Char) (digit : Char) :
    ofDigits (digits ++ [digit]) = 16 * ofDigits digits + hexDigits.idxOf digit := by
  rw [ofDigits, List.foldl_append]
  rfl

/-- The digits of a number are hexadecimal and name it. -/
theorem toDigits_spec (number : ℕ) :
    (∀ digit ∈ Nat.toDigits 16 number, digit ∈ hexDigits) ∧
      ofDigits (Nat.toDigits 16 number) = number := by
  induction number using Nat.strongRecOn with
  | ind number inductionHypothesis =>
      rw [Nat.toDigits_eq_if (by decide)]
      split
      case isTrue small =>
        obtain ⟨isDigit, value⟩ := hexDigit_of_lt small
        exact ⟨List.forall_mem_singleton.mpr isDigit, by simpa [ofDigits] using value⟩
      case isFalse large =>
        obtain ⟨digits, value⟩ := inductionHypothesis (number / 16) (by omega)
        obtain ⟨isLastDigit, lastValue⟩ := hexDigit_of_lt (Nat.mod_lt number (by decide : 16 > 0))
        refine ⟨List.forall_mem_append.mpr ⟨digits, List.forall_mem_singleton.mpr isLastDigit⟩, ?_⟩
        rw [ofDigits_concat, value, lastValue, Nat.div_add_mod]

/-- Leading zeros do not count. -/
theorem ofDigits_padZeros (width : ℕ) (digits : List Char) :
    ofDigits (Decimal.padZeros width digits) = ofDigits digits := by
  unfold Decimal.padZeros
  induction width - digits.length with
  | zero => rfl
  | succ count inductionHypothesis =>
      rw [List.replicate_succ, List.cons_append]
      exact inductionHypothesis

theorem length_digits (number : ℕ) : (digits number).length = 32 := by
  have few : (Nat.toDigits 16 (number % count)).length ≤ 32 := by
    rw [Nat.length_toDigits_le_iff (by decide) (by decide)]
    exact Nat.mod_lt number (by decide)
  rw [digits, Decimal.length_padZeros]
  omega

theorem mem_hexDigits_of_mem_digits {number : ℕ} {digit : Char} (member : digit ∈ digits number) :
    digit ∈ hexDigits := by
  rcases List.mem_append.mp member with zeros | proper
  · rw [List.eq_of_mem_replicate zeros]
    decide
  · exact (toDigits_spec _).1 digit proper

/-! ## Groups -/

/-- Without the hyphens between them the groups are joined. -/
theorem filter_intercalate {groups : List (List Char)}
    (noHyphen : ∀ digit ∈ groups.flatten, digit ≠ '-') :
    (['-'].intercalate groups).filter (· ≠ '-') = groups.flatten := by
  induction groups with
  | nil => rfl
  | cons group others inductionHypothesis =>
      rw [List.flatten_cons, List.forall_mem_append] at noHyphen
      have kept : group.filter (· ≠ '-') = group := by
        simpa using noHyphen.1
      cases others with
      | nil => simpa using noHyphen.1
      | cons next rest =>
          rw [List.intercalate_cons_cons, List.filter_append, List.filter_append, kept,
            inductionHypothesis noHyphen.2, List.flatten_cons]
          simp

/-- Between any two groups there is a hyphen. -/
theorem length_le_count_intercalate (groups : List (List Char)) :
    groups.length ≤ (['-'].intercalate groups).count '-' + 1 := by
  induction groups with
  | nil => exact Nat.zero_le _
  | cons group others inductionHypothesis =>
      cases others with
      | nil => simp
      | cons next rest =>
          rw [List.intercalate_cons_cons, List.count_append, List.count_append,
            List.count_singleton_self, List.length_cons]
          omega

theorem mem_intercalate {groups : List (List Char)} {character : Char}
    (member : character ∈ ['-'].intercalate groups) :
    character = '-' ∨ character ∈ groups.flatten := by
  induction groups with
  | nil => cases member
  | cons group others inductionHypothesis =>
      cases others with
      | nil => exact .inr (by simpa using member)
      | cons next rest =>
          rw [List.intercalate_cons_cons, List.mem_append, List.mem_append,
            List.mem_singleton] at member
          rw [List.flatten_cons, List.mem_append]
          rcases member with (inGroup | hyphen) | inOthers
          · exact .inr (.inl inGroup)
          · exact .inl hyphen
          · exact (inductionHypothesis inOthers).imp_right .inr

/-! ## Texts -/

/-- A text is the identifier of one number only. -/
theorem IsTextOf.number_eq {text : String} {number other : ℕ} (isText : IsTextOf text number)
    (isOtherText : IsTextOf text other) : number = other := by
  have named {named : ℕ} (isText : IsTextOf text named) :
      ofDigits (text.toList.filter (· ≠ '-')) = named := by
    obtain ⟨groups, parts, -, digits, value⟩ := isText
    have noHyphen : ∀ digit ∈ groups.flatten, digit ≠ '-' := by
      rintro digit member rfl
      exact absurd (digits _ member) (by decide)
    rw [parts, filter_intercalate noHyphen, value]
  exact (named isText).symm.trans (named isOtherText)

theorem IsTextOf.mem_of_mem {text : String} {number : ℕ} (isText : IsTextOf text number)
    {character : Char} (member : character ∈ text.toList) : character ∈ '-' :: hexDigits := by
  obtain ⟨groups, parts, -, digits, -⟩ := isText
  rw [parts] at member
  exact List.mem_cons.mpr ((mem_intercalate member).imp_right (digits character))

theorem IsTextOf.four_le_count {text : String} {number : ℕ} (isText : IsTextOf text number) :
    4 ≤ text.toList.count '-' := by
  obtain ⟨groups, parts, lengths, -, -⟩ := isText
  have five : groups.length = 5 := by
    rw [← List.length_map List.length, lengths]
    rfl
  have between := length_le_count_intercalate groups
  rw [← parts, five] at between
  omega

/-- The text of an identifier is no literal. -/
theorem IsTextOf.literal?_eq_none {text : String} {number : ℕ} (isText : IsTextOf text number) :
    Decimal.literal? text.toList = none := by
  have hyphens := isText.four_le_count
  rw [Option.eq_none_iff_forall_not_mem]
  intro literal read
  have few := Decimal.count_hyphen_of_literal? read
  omega

theorem isBare_of_mem {character : Char} (member : character ∈ '-' :: hexDigits) :
    SExpr.isDelimiter character = false ∧ character ≠ '\\' := by
  have none : ('-' :: hexDigits).any
      (fun character => SExpr.isDelimiter character || character == '\\') = false := by
    decide
  simpa using List.any_eq_false.mp none character member

/-- The text of an identifier stands bare: it is a token without quotes and no number. -/
theorem IsTextOf.text_eq_symbol {sine cosine : Float → Float} {text : String} {number : ℕ}
    (isText : IsTextOf text number) :
    (SExpr.text text : SExpr (Turning sine cosine)) = .symbol text := by
  have notEmpty : text.toList ≠ [] := by
    intro empty
    have hyphens := isText.four_le_count
    rw [empty] at hyphens
    cases hyphens
  have notRead : ScalarText.read? (K := Turning sine cosine) text.toList = none := by
    change (Decimal.literal? text.toList).map Decimal.Literal.value = none
    rw [isText.literal?_eq_none, Option.map_none]
  have notNumeral : SExpr.isNumeral (Turning sine cosine) text.toList = false := by
    simp [SExpr.isNumeral, SExpr.tokenNumber?, notRead]
  have unquoted : SExpr.needsQuotes (Turning sine cosine) text.toList = false := by
    refine SExpr.needsQuotes_eq_false_iff.mpr ⟨⟨notEmpty, fun character member => ?_⟩,
      notNumeral, fun backslash => ?_⟩
    · exact (isBare_of_mem (isText.mem_of_mem member)).1
    · exact (isBare_of_mem (isText.mem_of_mem backslash)).2 rfl
  rw [SExpr.text, unquoted]
  rfl

/-! ## Numbered identifiers -/

/-- The digits of an identifier in their groups. -/
def groups (number : ℕ) : List (List Char) :=
  [(digits number).take 8, ((digits number).drop 8).take 4, ((digits number).drop 12).take 4,
    ((digits number).drop 16).take 4, (digits number).drop 20]

theorem flatten_groups (number : ℕ) : (groups number).flatten = digits number := by
  have rejoin (start width : ℕ) : ((digits number).drop start).take width ++
      (digits number).drop (start + width) = (digits number).drop start := by
    rw [← List.drop_drop, List.take_append_drop]
  simp only [groups, List.flatten_cons, List.flatten_nil, List.append_nil]
  rw [rejoin 16 4, rejoin 12 4, rejoin 8 4, List.take_append_drop]

theorem toList_text (number : ℕ) : (text number).toList = ['-'].intercalate (groups number) := by
  simp [text, hyphenate, groups, List.intercalate, List.intersperse]

/-- The text of an identifier is that of its number. -/
theorem isTextOf_text {number : ℕ} (inRange : number < 2 ^ 128) :
    IsTextOf (text number) number := by
  refine ⟨groups number, toList_text number, ?_, ?_, ?_⟩
  · simp [groups, length_digits]
  · rw [flatten_groups]
    exact fun _ => mem_hexDigits_of_mem_digits
  · rw [flatten_groups, digits, ofDigits_padZeros, (toDigits_spec _).2]
    exact Nat.mod_eq_of_lt inRange

end Identifier
end CircuitSheet
