import CircuitSheet.Proofs.Binary64.Range
import CircuitSheet.Proofs.Decimal.Shortest
import CircuitSheet.Proofs.SExpr.RoundTrip

/-!
# Trees that are refused

A tree is refused for one of its symbols, for one of its numbers or for a flag without its value.
Flags apart, a refused tree would not be read back from its line: what is read there has only bare
tokens for symbols and only finite numbers, whatever the line of the tree looks like. The converse
holds but for backslashes. A bare token may hold them, and a symbol with a backslash is refused all
the same.
-/

namespace CircuitSheet
namespace SExpr

/-! ## Trees within a tree -/

section

variable {N : Type}

/-- The tree stands in another one, at any depth. -/
inductive Within (part : SExpr N) : SExpr N → Prop
  | whole : Within part part
  | item {item : SExpr N} {items : List (SExpr N)} (member : item ∈ items)
      (within : Within part item) : Within part (.list items)

/-- Every list with the key of a flag holds a bare yes or no after the key. -/
def HoldsFlags (tree : SExpr N) : Prop :=
  ∀ items, Within (.list items) tree → ∀ key ∈ (list items).head?, key ∈ flagKeys →
    items[1]?.any isFlag = true

variable {same : N → N → Bool}

/-- Lists that are alike have alike items. -/
theorem exists_mem_alike {items others : List (SExpr N)}
    (alike : itemsAlike same items others = true) {item : SExpr N} (member : item ∈ items) :
    ∃ other ∈ others, item.alike same other = true := by
  induction items generalizing others with
  | nil => cases member
  | cons first rest inductionHypothesis =>
      cases others with
      | nil => simp [itemsAlike] at alike
      | cons second others =>
          rw [itemsAlike, Bool.and_eq_true] at alike
          rcases List.mem_cons.mp member with rfl | inRest
          · exact ⟨second, List.mem_cons_self, alike.1⟩
          · obtain ⟨other, otherMember, otherAlike⟩ := inductionHypothesis alike.2 inRest
            exact ⟨other, List.mem_cons_of_mem _ otherMember, otherAlike⟩

/-- Trees that are alike have alike trees within them. -/
theorem exists_within_alike {part tree other : SExpr N} (alike : tree.alike same other = true)
    (within : Within part tree) :
    ∃ counterpart, Within counterpart other ∧ part.alike same counterpart = true := by
  induction within generalizing other with
  | whole => exact ⟨other, .whole, alike⟩
  | item member _ inductionHypothesis =>
      cases other with
      | symbol | string | number => simp [SExpr.alike] at alike
      | list others =>
          rw [SExpr.alike] at alike
          obtain ⟨second, secondMember, secondAlike⟩ := exists_mem_alike alike member
          obtain ⟨counterpart, inSecond, isAlike⟩ := inductionHypothesis secondAlike
          exact ⟨counterpart, .item secondMember inSecond, isAlike⟩

end

section

variable {N : Type} [ScalarText N]

/-- What stands in a writable tree is writable. -/
theorem Writable.of_within {sort : N → Prop} {part tree : SExpr N} (writable : tree.Writable sort)
    (within : Within part tree) : part.Writable sort := by
  induction within with
  | whole => exact writable
  | item member _ inductionHypothesis =>
      rw [writable_list] at writable
      exact inductionHypothesis (writable.2 _ member)

/-- A tree is writable when no symbol, no number and no list in it stands against it. -/
theorem writable_of_forall_within {sort : N → Prop} {tree : SExpr N}
    (bare : ∀ name, Within (.symbol name) tree → needsQuotes N name.toList = false)
    (sorted : ∀ value, Within (.number value) tree → sort value) (flags : tree.HoldsFlags) :
    tree.Writable sort := by
  induction tree using induction_on_items with
  | symbol name => exact writable_symbol.mpr (bare name .whole)
  | string content => exact writable_string
  | number value => exact writable_number.mpr (sorted value .whole)
  | list items inductionHypothesis =>
      rw [writable_list, flagRefusal?_eq_none_iff]
      refine ⟨flags items .whole, fun item member => inductionHypothesis item member ?_ ?_ ?_⟩
      · exact fun name within => bare name (.item member within)
      · exact fun value within => sorted value (.item member within)
      · exact fun inner within => flags inner (.item member within)

/-- The symbol is a bare token and no number. -/
def IsRead (N : Type) [ScalarText N] (name : String) : Prop :=
  IsBare name.toList ∧ isNumeral N name.toList = false

mutual
/-- The symbols of what an expression denotes are bare tokens and no numbers. -/
theorem IsExpression.isRead {text : List Char} {tree : SExpr N}
    (expression : IsExpression text tree) :
    ∀ name, Within (.symbol name) tree → IsRead N name := by
  intro name within
  match expression with
  | .number _ _ _ => cases within
  | .symbol bare notNumeral =>
      cases within
      rw [IsRead, String.toList_ofList]
      exact ⟨bare, notNumeral⟩
  | .string _ => cases within
  | .list sequence =>
      cases within with
      | item member within => exact sequence.isRead _ member name within
theorem IsSequence.isRead {text : List Char} {items : List (SExpr N)}
    (sequence : IsSequence text items) :
    ∀ item ∈ items, ∀ name, Within (.symbol name) item → IsRead N name := by
  match sequence with
  | .blank _ => exact List.forall_mem_nil _
  | .item _ first _ others => exact List.forall_mem_cons.mpr ⟨first.isRead, others.isRead⟩
end

end

/-! ## Numbers that are not finite -/

/-- The texts of numbers that are not finite. -/
def notFiniteTexts : List (List Char) :=
  ["NaN".toList, "inf".toList, "-inf".toList]

/-- A number that equals a finite one is finite. -/
theorem isFinite_of_same {value other : Float} (same : Scalar.same value other = true)
    (finite : other.isFinite = true) : value.isFinite = true := by
  rw [Scalar.same, Bool.and_eq_true, decide_eq_true_eq, decide_eq_true_eq] at same
  exact Binary64.isFinite_of_between finite same.2 same.1 finite

theorem numberText_mem_notFiniteTexts {value : Float} (notFinite : ¬value.isFinite = true) :
    numberText value ∈ notFiniteTexts := by
  have notZero : ¬Scalar.same value 0.0 = true := fun same =>
    notFinite (isFinite_of_same same (by decide +kernel))
  rw [numberText, if_neg notZero]
  change Decimal.plain value ∈ notFiniteTexts
  unfold Decimal.plain
  split
  case h_1 => decide
  case h_2 negative _ => cases negative <;> decide
  case h_3 finite => exact absurd (Binary64.isFinite_iff.mpr ⟨_, _, _, finite⟩) notFinite

/-- Such texts are bare tokens and name no number. -/
theorem spec_of_mem_notFiniteTexts {text : List Char} (member : text ∈ notFiniteTexts) :
    IsBare text ∧ isNumeral Float text = false := by
  have all : ∀ text ∈ notFiniteTexts, text ≠ [] ∧ text.all (!isDelimiter ·) = true ∧
      isNumeral Float text = false := by
    decide
  obtain ⟨nonempty, undelimited, notNumeral⟩ := all text member
  exact ⟨⟨nonempty, by simpa using undelimited⟩, notNumeral⟩

theorem hasToken (value : Float) : HasToken value := by
  by_cases finite : value.isFinite = true
  · exact (Decimal.readsBack_of_isFinite finite).hasToken
  · exact (spec_of_mem_notFiniteTexts (numberText_mem_notFiniteTexts finite)).1

/-- The line of a tree denotes no number that is not finite. -/
theorem isFinite_of_within_spelled {tree : SExpr Float} {value : Float}
    (within : Within (.number value) tree.spelled) : value.isFinite = true := by
  induction tree using induction_on_items with
  | symbol | string => cases within
  | number written =>
      rw [spelled] at within
      by_cases finite : written.isFinite = true
      · rw [ofToken_numberText (Decimal.readsBack_of_isFinite finite)] at within
        cases within
        exact isFinite_numberAsRead (N := Float) finite
      · have text := numberText_mem_notFiniteTexts finite
        rw [ofToken_of_symbol (spec_of_mem_notFiniteTexts text).2] at within
        cases within
  | list items inductionHypothesis =>
      rw [spelled, itemsSpelled_eq_map] at within
      cases within with
      | item member within =>
          obtain ⟨item, inItems, rfl⟩ := List.mem_map.mp member
          exact inductionHypothesis item inItems within

/-! ## Refusals -/

/-- The line of the tree is read as the tree. -/
def IsReadBack (tree : SExpr Float) : Prop :=
  ∃ read, parse tree.inline = .ok read ∧ tree.alike Scalar.same read = true

/-- No symbol in the tree holds a backslash. -/
def HasNoBackslash (tree : SExpr Float) : Prop :=
  ∀ name, Within (.symbol name) tree → '\\' ∉ name.toList

/-- A tree that is read back has no symbol that would be read as something else, and no number that
is not finite. -/
theorem IsReadBack.writable {tree : SExpr Float} (readBack : tree.IsReadBack)
    (noBackslash : tree.HasNoBackslash) (flags : tree.HoldsFlags) : tree.Writable IsFinite := by
  obtain ⟨read, parsed, alike⟩ := readBack
  have bare : ∀ name, Within (.symbol name) tree → needsQuotes Float name.toList = false := by
    intro name within
    obtain ⟨_, _, _, -, -, expression, -⟩ := isDocument_of_parse parsed
    obtain ⟨counterpart, inRead, isSame⟩ := exists_within_alike alike within
    cases counterpart with
    | symbol other =>
        rw [SExpr.alike, beq_iff_eq] at isSame
        obtain rfl := isSame
        obtain ⟨isBare, notNumeral⟩ := expression.isRead _ inRead
        exact needsQuotes_eq_false_iff.mpr ⟨isBare, notNumeral, noBackslash _ within⟩
    | string | number | list => simp [SExpr.alike] at isSame
  -- So the line is an expression, and what was read is what it denotes.
  have tokens := writable_of_forall_within bare (fun value _ => hasToken value) flags
  have document : IsDocument tree.inline tree.spelled :=
    ⟨[], tree.inline, [], by simp, isBlankText_nil, isExpression_inline tokens, isBlankText_nil⟩
  obtain rfl := Except.ok.inj (parsed.symm.trans document.parse_eq)
  refine writable_of_forall_within bare (fun value within => ?_) flags
  obtain ⟨counterpart, inRead, isSame⟩ := exists_within_alike alike within
  cases counterpart with
  | number other =>
      rw [SExpr.alike] at isSame
      exact isFinite_of_same isSame (isFinite_of_within_spelled inRead)
  | string | symbol | list => simp [SExpr.alike] at isSame

/-- A tree whose flags have their values is written exactly when its line is read as the tree and no
symbol in it holds a backslash. -/
theorem exists_write_iff_isReadBack {tree : SExpr Float} (flags : tree.HoldsFlags) :
    (∃ text, tree.write = .ok text) ↔ tree.IsReadBack ∧ tree.HasNoBackslash := by
  simp only [write_eq_ok_iff, exists_and_left, exists_eq, and_true]
  constructor
  · intro writable
    have readable : tree.Writable ReadsBack :=
      writable.imp fun value _ finite => Decimal.readsBack_of_isFinite finite
    refine ⟨⟨tree.asRead, parse_inline readable, alike_asRead writable⟩, fun name within => ?_⟩
    have unquoted := writable_symbol.mp (writable.of_within within)
    exact (needsQuotes_eq_false_iff.mp unquoted).2.2
  · rintro ⟨readBack, noBackslash⟩
    exact readBack.writable noBackslash flags

/-- A flag with its value, behind which a string has a backslash and a zero has a sign. -/
def flaggedTree : SExpr Float :=
  .list [.symbol "in_bom", .symbol "yes", .string "a\\b", .number (-0.0)]

theorem exists_write_iff_isReadBack_flagged :
    flaggedTree.HoldsFlags ∧ (∃ text, flaggedTree.write = .ok text) ∧
      flaggedTree.IsReadBack ∧ flaggedTree.HasNoBackslash := by
  have flags : flaggedTree.HoldsFlags := by
    intro items within
    cases within with
    | whole => exact fun _ _ _ => rfl
    | item member within =>
        simp only [List.mem_cons, List.not_mem_nil, or_false] at member
        rcases member with rfl | rfl | rfl | rfl <;> cases within
  have written : ∃ text, flaggedTree.write = .ok text := ⟨_, rfl⟩
  exact ⟨flags, written, (exists_write_iff_isReadBack flags).mp written⟩

/-- A symbol with a backslash is refused although its line is read as the symbol. -/
theorem not_forall_exists_write_iff_isReadBack :
    ¬∀ tree : SExpr Float, tree.HoldsFlags →
      ((∃ text, tree.write = .ok text) ↔ tree.IsReadBack) := by
  intro all
  have flags : (symbol "a\\b" : SExpr Float).HoldsFlags := fun _ within => by cases within
  have readBack : (symbol "a\\b" : SExpr Float).IsReadBack := ⟨symbol "a\\b", by rfl, by rfl⟩
  obtain ⟨text, written⟩ := (all _ flags).mpr readBack
  have refused : (symbol "a\\b" : SExpr Float).write = .error (.notBare "a\\b") := by rfl
  cases refused.symm.trans written

end SExpr
end CircuitSheet
