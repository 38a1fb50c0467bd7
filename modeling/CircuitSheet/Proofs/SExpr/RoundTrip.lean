import CircuitSheet.Proofs.SExpr.AsRead
import CircuitSheet.Proofs.SExpr.Spelled
import Mathlib.Data.List.Forall2

/-!
# Written trees are read back

A tree that is written is read back, whether it was written on one line or spread over
several. Every item is followed by a blank or a parenthesis, which is what keeps bare tokens
apart, and the reader goes on after an item as if it had just been put into its list. Reading
a written tree again therefore follows the tree itself.

The tree that is read differs from the one that was written at most in the sign of zeros, and
it is written like it.
-/

namespace CircuitSheet
namespace SExpr

variable {N : Type} [ScalarText N]

/-! ## Trees on one line -/

/-- What the line of a tree denotes is the tree that is read for it. -/
theorem spelled_eq_asRead [LawfulNumbers N] {tree : SExpr N}
    (writable : tree.Writable ReadsBack) : tree.spelled = tree.asRead := by
  induction tree using induction_on_items with
  | symbol | string => rw [spelled]; rfl
  | number value => rw [spelled, asRead_number, ofToken_numberText (writable_number.mp writable)]
  | list items inductionHypothesis =>
      rw [writable_list] at writable
      rw [spelled, asRead_list, itemsSpelled_eq_map, itemsAsRead_eq_map]
      refine congrArg list (List.map_congr_left fun item member => ?_)
      exact inductionHypothesis item member (writable.2 item member)

/-- A tree on one line is read back. -/
theorem readWithin_inline [LawfulNumbers N] {tree : SExpr N}
    (writable : tree.Writable ReadsBack) (lists : List (List (SExpr N))) {rest : List Char}
    (ends : EndsToken rest) :
    readWithin lists (tree.inline ++ rest) = resume lists tree.asRead rest := by
  rw [← spelled_eq_asRead writable]
  have expression := isExpression_inline (writable.imp fun _ _ => ReadsBack.hasToken)
  exact expression.readWithin_eq lists fun _ => ends

/-! ## Trees spread over lines -/

theorem endsToken_layoutAtoms (level : Nat) (items : List (SExpr N)) {after : List Char}
    (ends : EndsToken after) : EndsToken (layoutAtoms level items after) := by
  cases items with
  | nil => simpa [layoutAtoms] using ends
  | cons item rest =>
      by_cases atom : item.items? = none
      · simp [layoutAtoms_of_atom atom]
      · simp [layoutAtoms_of_list atom]

theorem endsToken_layoutRows (level : Nat) (items : List (SExpr N)) {after : List Char}
    (ends : EndsToken after) : EndsToken (layoutRows level items after) := by
  cases items with
  | nil => simpa [layoutRows] using ends
  | cons _ _ => simp [layoutRows]

mutual
/-- A tree is read back from its lines. -/
theorem readWithin_layout [LawfulNumbers N] {tree : SExpr N}
    (writable : tree.Writable ReadsBack) (level : Nat) (lists : List (List (SExpr N)))
    {after : List Char} (ends : EndsToken after) :
    readWithin lists (tree.layout level after) = resume lists tree.asRead after := by
  match tree with
  | .symbol _ | .string _ | .number _ =>
      rw [layout_of_atom rfl]
      exact readWithin_inline writable lists ends
  | .list items =>
      rw [layout]
      split
      case isTrue => exact readWithin_inline writable lists ends
      case isFalse =>
        rw [Writable] at writable
        rw [readWithin_open, readWithin_layoutFirst writable.2 level lists (by simp),
          readWithin_newLine, readWithin_close, List.reverse_reverse, asRead_list]
/-- The items of a new list are read into it. -/
theorem readWithin_layoutFirst [LawfulNumbers N] {items : List (SExpr N)}
    (writable : ItemsWritable ReadsBack items) (level : Nat)
    (outer : List (List (SExpr N))) {after : List Char} (ends : EndsToken after) :
    readWithin ([] :: outer) (layoutFirst level items after) =
      readWithin ((itemsAsRead items).reverse :: outer) after := by
  match items with
  | [] => simp [layoutFirst, itemsAsRead]
  | item :: rest =>
      rw [ItemsWritable] at writable
      rw [itemsAsRead, List.reverse_cons]
      by_cases atom : item.items? = none
      · rw [layoutFirst_of_atom atom,
          readWithin_inline writable.1 _ (endsToken_layoutAtoms level rest ends), resume,
          readWithin_layoutAtoms writable.2 level _ outer ends]
      · rw [layoutFirst_of_list atom, readWithin_newLine,
          readWithin_layout writable.1 (level + 1) _ (endsToken_layoutRows level rest ends), resume,
          readWithin_layoutRows writable.2 level _ outer ends]
/-- Items after an atom are read into the innermost list. -/
theorem readWithin_layoutAtoms [LawfulNumbers N] {items : List (SExpr N)}
    (writable : ItemsWritable ReadsBack items) (level : Nat) (innermost : List (SExpr N))
    (outer : List (List (SExpr N))) {after : List Char} (ends : EndsToken after) :
    readWithin (innermost :: outer) (layoutAtoms level items after) =
      readWithin (((itemsAsRead items).reverse ++ innermost) :: outer) after := by
  match items with
  | [] => simp [layoutAtoms, itemsAsRead]
  | item :: rest =>
      rw [ItemsWritable] at writable
      rw [itemsAsRead, List.reverse_cons, List.append_assoc, List.singleton_append]
      by_cases atom : item.items? = none
      · rw [layoutAtoms_of_atom atom, readWithin_space,
          readWithin_inline writable.1 _ (endsToken_layoutAtoms level rest ends), resume,
          readWithin_layoutAtoms writable.2 level _ outer ends]
      · rw [layoutAtoms_of_list atom, readWithin_newLine,
          readWithin_layout writable.1 (level + 1) _ (endsToken_layoutRows level rest ends), resume,
          readWithin_layoutRows writable.2 level _ outer ends]
/-- Items with a line each are read into the innermost list. -/
theorem readWithin_layoutRows [LawfulNumbers N] {items : List (SExpr N)}
    (writable : ItemsWritable ReadsBack items) (level : Nat) (innermost : List (SExpr N))
    (outer : List (List (SExpr N))) {after : List Char} (ends : EndsToken after) :
    readWithin (innermost :: outer) (layoutRows level items after) =
      readWithin (((itemsAsRead items).reverse ++ innermost) :: outer) after := by
  match items with
  | [] => simp [layoutRows, itemsAsRead]
  | item :: rest =>
      rw [ItemsWritable] at writable
      rw [itemsAsRead, List.reverse_cons, List.append_assoc, List.singleton_append, layoutRows,
        readWithin_newLine,
        readWithin_layout writable.1 (level + 1) _ (endsToken_layoutRows level rest ends), resume,
        readWithin_layoutRows writable.2 level _ outer ends]
end

/-! ## Whole texts -/

/-- A tree on one line is a text of one tree. -/
theorem parse_inline [LawfulNumbers N] {tree : SExpr N} (writable : tree.Writable ReadsBack) :
    parse tree.inline = .ok tree.asRead := by
  have read := readWithin_inline writable [] endsToken_nil
  rw [List.append_nil] at read
  rw [parse, readFirst_eq_readWithin, read]
  rfl

/-- The lines of a tree are a text of one tree. -/
theorem parse_layout [LawfulNumbers N] {tree : SExpr N} (writable : tree.Writable ReadsBack) :
    parse (tree.layout 0 ['\n']) = .ok tree.asRead := by
  rw [parse, readFirst_eq_readWithin,
    readWithin_layout writable 0 [] (endsToken_lineBreak [])]
  rfl

/-- Trees with their lines one after the other are read one after the other, and then the text
has ended. Every tree takes one reading, and the end of the text one more. -/
theorem readMany_layout [LawfulNumbers N] (whole : List Char) {trees : List (SExpr N)}
    (writable : ∀ tree ∈ trees, tree.Writable ReadsBack) {readings : Nat}
    (enough : trees.length < readings) {blanks : List Char}
    (blank : ∀ character ∈ blanks, Text.isBlank character = true) :
    readMany whole readings (blanks ++ trees.flatMap fun tree => tree.layout 0 ['\n']) =
      (trees.map asRead, some .endOfText) := by
  induction trees generalizing readings blanks with
  | nil =>
      obtain ⟨more, rfl⟩ := Nat.exists_eq_add_one.mpr enough
      rw [readMany, readFirst_eq_readWithin, readWithin_blanks [] blank]
      rfl
  | cons tree trees inductionHypothesis =>
      obtain ⟨first, others⟩ := List.forall_mem_cons.mp writable
      obtain ⟨more, rfl⟩ := Nat.exists_eq_add_one.mpr (Nat.zero_lt_of_lt enough)
      have tailEnough : trees.length < more := by simpa using enough
      have tailRead :
          readMany whole more (['\n'] ++ trees.flatMap fun tree => tree.layout 0 ['\n']) =
            (trees.map asRead, some .endOfText) :=
        inductionHypothesis others tailEnough (List.forall_mem_singleton.mpr rfl)
      rw [readMany, readFirst_eq_readWithin, readWithin_blanks [] blank, List.flatMap_cons,
        layout_append, List.singleton_append,
        readWithin_layout first 0 [] (endsToken_lineBreak _)]
      rw [List.singleton_append] at tailRead
      simp only [resume]
      rw [tailRead]
      rfl

/-! ## What is written is read back -/

/-- The lines of a tree end with its line break. -/
theorem layout_ne_nil (tree : SExpr N) : tree.layout 0 ['\n'] ≠ [] := by
  have ended := layout_append 0 tree [] ['\n']
  rw [List.nil_append] at ended
  rw [← ended]
  simp

theorem length_le_length_layouts (trees : List (SExpr N)) :
    trees.length ≤ (trees.flatMap fun tree => tree.layout 0 ['\n']).length := by
  induction trees with
  | nil => simp
  | cons tree trees inductionHypothesis =>
      have positive := List.length_pos_iff.mpr (layout_ne_nil tree)
      rw [List.flatMap_cons, List.length_append, List.length_cons]
      omega

/-- The lines of trees one after the other are read as these trees. -/
theorem readAll_layouts [LawfulNumbers N] {trees : List (SExpr N)}
    (writable : ∀ tree ∈ trees, tree.Writable ReadsBack) :
    readAll (trees.flatMap fun tree => tree.layout 0 ['\n']) =
      (trees.map asRead, some .endOfText) := by
  have enough := Nat.lt_succ_of_le (length_le_length_layouts trees)
  have noBlanks : ∀ character ∈ ([] : List Char), Text.isBlank character = true := by simp
  exact readMany_layout _ writable enough noBlanks

/-- Trees are written as texts when they are writable and the texts are their lines. -/
theorem written_iff {trees : List (SExpr N)} {texts : List (List Char)} :
    List.Forall₂ (fun tree text => tree.write = .ok text) trees texts ↔
      (∀ tree ∈ trees, tree.Writable IsFinite) ∧
        texts = trees.map fun tree => tree.layout 0 ['\n'] := by
  induction trees generalizing texts with
  | nil => simp
  | cons tree trees inductionHypothesis =>
      rw [List.forall₂_cons_left_iff, List.forall_mem_cons, List.map_cons]
      constructor
      · rintro ⟨text, others, first, rest, rfl⟩
        obtain ⟨finite, rfl⟩ := write_eq_ok_iff.mp first
        obtain ⟨othersFinite, rfl⟩ := inductionHypothesis.mp rest
        exact ⟨⟨finite, othersFinite⟩, rfl⟩
      · rintro ⟨⟨finite, othersFinite⟩, rfl⟩
        exact ⟨_, _, write_eq_ok_iff.mpr ⟨finite, rfl⟩,
          inductionHypothesis.mpr ⟨othersFinite, rfl⟩, rfl⟩

/-- Trees that are written and whose numbers have decimal texts are read back, each from its
line and from its lines, and all of them from their texts one after the other. The trees that
are read equal those that were written, and they are written as the same texts. -/
theorem readAll_of_written {trees : List (SExpr Float)} {texts : List (List Char)}
    (written : List.Forall₂ (fun tree text => tree.write = .ok text) trees texts)
    (decimal : ∀ tree ∈ trees, ∀ value ∈ tree.numbers, ReadsBack value) :
    ∃ again : List (SExpr Float),
      readAll texts.flatten = (again, some .endOfText) ∧
        List.Forall₂
          (fun tree read => tree.alike Scalar.same read = true ∧
            parse tree.inline = .ok read ∧ read.inline = tree.inline) trees again ∧
        List.Forall₂
          (fun read text => parse text = .ok read ∧ read.write = .ok text) again texts := by
  obtain ⟨finite, rfl⟩ := written_iff.mp written
  have readable : ∀ tree ∈ trees, tree.Writable ReadsBack := by
    intro tree member
    exact (finite tree member).imp fun value inTree _ => decimal tree member value inTree
  refine ⟨trees.map asRead, ?_, ?_, ?_⟩
  · rw [← List.flatMap_def]
    exact readAll_layouts readable
  · rw [List.forall₂_map_right_iff, List.forall₂_same]
    intro tree member
    exact ⟨alike_asRead (finite tree member), parse_inline (readable tree member),
      inline_asRead tree⟩
  · rw [List.forall₂_map_left_iff, List.forall₂_map_right_iff, List.forall₂_same]
    intro tree member
    have rewritten := write_asRead (write_eq_ok_iff.mpr ⟨finite tree member, rfl⟩)
    exact ⟨parse_layout (readable tree member), rewritten⟩

/-- A list that starts with a list and holds a negative zero, a text with quotes and an empty
list, followed by a number on its own. -/
def sampleTrees : List (SExpr Float) :=
  [.list [.list [.symbol "at", .number 12.5, .number (-0.0)], .string "a \"b\"\n", .list []],
    .number (-3.25)]

/-- The texts of the sample trees. -/
def sampleTexts : List (List Char) :=
  ["((at 12.5 0) \"a \\\"b\\\"\\n\" ())\n".toList, "-3.25\n".toList]

theorem readAll_of_written_sample :
    List.Forall₂ (fun tree text => tree.write = .ok text) sampleTrees sampleTexts ∧
      (∀ tree ∈ sampleTrees, ∀ value ∈ tree.numbers, ReadsBack value) ∧
      ∃ again : List (SExpr Float),
        readAll sampleTexts.flatten = (again, some .endOfText) ∧
          List.Forall₂
            (fun tree read => tree.alike Scalar.same read = true ∧
              parse tree.inline = .ok read ∧ read.inline = tree.inline) sampleTrees again ∧
          List.Forall₂
            (fun read text => parse text = .ok read ∧ read.write = .ok text) again
            sampleTexts := by
  have written :
      List.Forall₂ (fun tree text => tree.write = .ok text) sampleTrees sampleTexts :=
    .cons rfl (.cons rfl .nil)
  have listed : ∀ tree ∈ sampleTrees, ∀ value ∈ tree.numbers,
      value = 12.5 ∨ value = -0.0 ∨ value = -3.25 := by
    decide +kernel
  have decimal : ∀ tree ∈ sampleTrees, ∀ value ∈ tree.numbers, ReadsBack value := by
    intro tree member value inTree
    rcases listed tree member value inTree with rfl | rfl | rfl <;>
      exact ⟨by decide +kernel, by decide +kernel⟩
  exact ⟨written, decimal, readAll_of_written written decimal⟩

end SExpr
end CircuitSheet
