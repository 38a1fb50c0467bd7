import CircuitSheet.Proofs.SExpr.Grammar
import CircuitSheet.Proofs.SExpr.Number

/-!
# A tree on one line is an expression

The line of a tree is an expression of the grammar when its symbols can stand bare and the texts of
its numbers are bare tokens. Spaces keep the items of a list apart, and the expression denotes the
tree item by item. Only its numbers may be other atoms: each is the atom that its text is read as.
-/

namespace CircuitSheet
namespace SExpr

variable {N : Type} [ScalarText N]

/-! ## Atoms -/

/-- A text needs no quotes when it is a bare token, no number, and without backslashes. -/
theorem needsQuotes_eq_false_iff {text : List Char} :
    needsQuotes N text = false ↔ IsBare text ∧ isNumeral N text = false ∧ '\\' ∉ text := by
  simp only [needsQuotes, Bool.or_eq_false_iff, List.isEmpty_eq_false_iff, List.any_eq_false,
    Bool.not_eq_true, beq_eq_false_iff_ne]
  constructor
  · rintro ⟨⟨nonempty, characters⟩, notNumeral⟩
    exact ⟨⟨nonempty, fun character member => (characters character member).1⟩, notNumeral,
      fun backslash => (characters _ backslash).2 rfl⟩
  · rintro ⟨⟨nonempty, undelimited⟩, notNumeral, noBackslash⟩
    refine ⟨⟨nonempty, fun character member => ⟨undelimited character member, ?_⟩⟩, notNumeral⟩
    rintro rfl
    exact noBackslash member

omit [ScalarText N] in
/-- What stands between the quotes of a string spells its text. -/
theorem spells_flatMap_escapeChar (content : List Char) :
    Spells (content.flatMap escapeChar) content := by
  induction content with
  | nil => exact .nil
  | cons character content inductionHypothesis =>
      rw [List.flatMap_cons]
      unfold escapeChar
      split
      · exact .escape (.itself (by decide)) inductionHypothesis
      · exact .escape (.itself (by decide)) inductionHypothesis
      · exact .escape .lineFeed inductionHypothesis
      · exact .escape .tab inductionHypothesis
      · exact .escape .carriageReturn inductionHypothesis
      · next notQuote notBackslash _ _ _ =>
          exact .plain notQuote notBackslash inductionHypothesis

/-- The text of a number is a bare token. -/
def HasToken (value : N) : Prop :=
  IsBare (numberText value)

theorem ReadsBack.hasToken {value : N} (readsBack : ReadsBack value) : HasToken value :=
  ⟨numberText_ne_nil readsBack, fun _ => isDelimiter_of_mem_numberText readsBack⟩

/-! ## Trees -/

mutual
/-- The tree that the line of a tree denotes. -/
def spelled : SExpr N → SExpr N
  | .symbol text => .symbol text
  | .string text => .string text
  | .number value => ofToken (numberText value)
  | .list items => .list (itemsSpelled items)
/-- The trees that the lines of some trees denote. -/
def itemsSpelled : List (SExpr N) → List (SExpr N)
  | [] => []
  | item :: rest => item.spelled :: itemsSpelled rest
end

theorem itemsSpelled_eq_map (items : List (SExpr N)) : itemsSpelled items = items.map spelled := by
  induction items with
  | nil => rfl
  | cons item rest inductionHypothesis =>
      rw [itemsSpelled, inductionHypothesis, List.map_cons]

theorem endsToken_inlineRest (items : List (SExpr N)) {after : List Char}
    (ends : EndsToken after) : EndsToken (inlineRest items ++ after) := by
  cases items <;> simp [inlineRest, ends]

mutual
/-- The line of a tree is an expression. -/
theorem isExpression_inline {tree : SExpr N} (writable : tree.Writable HasToken) :
    IsExpression tree.inline tree.spelled := by
  match tree with
  | .symbol text =>
      obtain ⟨bare, notNumeral, -⟩ := needsQuotes_eq_false_iff.mp (writable_symbol.mp writable)
      have expression := IsExpression.symbol bare notNumeral
      rwa [String.ofList_toList] at expression
  | .string text =>
      have expression : IsExpression _ (string (String.ofList text.toList) : SExpr N) :=
        .string (spells_flatMap_escapeChar text.toList)
      rwa [String.ofList_toList] at expression
  | .number value =>
      have token : HasToken value := writable_number.mp writable
      exact token.isExpression
  | .list [] => exact .list (.blank isBlankText_nil)
  | .list (first :: others) =>
      rw [Writable, ItemsWritable] at writable
      obtain ⟨-, firstWritable, othersWritable⟩ := writable
      have rest := isSequence_inlineRest othersWritable
      have maximal : IsBare first.inline → EndsToken (inlineRest others) := fun _ => by
        simpa using endsToken_inlineRest others endsToken_nil
      exact .list (.item isBlankText_nil (isExpression_inline firstWritable) maximal rest)
/-- Items with a space in front of each are a sequence. -/
theorem isSequence_inlineRest {items : List (SExpr N)} (writable : ItemsWritable HasToken items) :
    IsSequence (inlineRest items) (itemsSpelled items) := by
  match items with
  | [] => exact .blank isBlankText_nil
  | item :: rest =>
      rw [ItemsWritable] at writable
      have blank : IsBlankText [' '] := List.forall_mem_singleton.mpr rfl
      have maximal : IsBare item.inline → EndsToken (inlineRest rest) := fun _ => by
        simpa using endsToken_inlineRest rest endsToken_nil
      exact .item blank (isExpression_inline writable.1) maximal (isSequence_inlineRest writable.2)
end

end SExpr
end CircuitSheet
