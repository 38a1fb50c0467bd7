import CircuitSheet.SExpr.Writer

/-!
# Trees that can be written

A tree is written when its symbols can stand bare, its flags hold a bare yes or no and its
numbers are finite. The condition is stated for any sort of numbers in place of the finite
ones, so that facts about the numbers of a tree can be carried along with it.
-/

namespace CircuitSheet
namespace SExpr

variable {N : Type}

/-- What holds of all atoms, and of a list if it holds of its items, holds of all trees. -/
@[elab_as_elim]
theorem induction_on_items {motive : SExpr N → Prop} (symbol : ∀ name, motive (.symbol name))
    (string : ∀ content, motive (.string content)) (number : ∀ value, motive (.number value))
    (list : ∀ items, (∀ item ∈ items, motive item) → motive (.list items)) (tree : SExpr N) :
    motive tree := by
  cases tree with
  | symbol name => exact symbol name
  | string content => exact string content
  | number value => exact number value
  | list items =>
      refine list items fun item member => ?_
      have smaller := List.sizeOf_lt_of_mem member
      exact induction_on_items symbol string number list item
termination_by sizeOf tree
decreasing_by
  simp only [SExpr.list.sizeOf_spec]
  omega

mutual
/-- The numbers of a tree in order. -/
def numbers : SExpr N → List N
  | .number value => [value]
  | .list items => itemsNumbers items
  | _ => []
/-- The numbers of some trees in order. -/
def itemsNumbers : List (SExpr N) → List N
  | [] => []
  | item :: rest => item.numbers ++ itemsNumbers rest
end

variable [ScalarText N]

mutual
/-- Symbols can stand bare, flags hold a bare yes or no, and all numbers are of one sort. -/
def Writable (sort : N → Prop) : SExpr N → Prop
  | .symbol text => needsQuotes N text.toList = false
  | .string _ => True
  | .number value => sort value
  | .list items => flagRefusal? items = none ∧ ItemsWritable sort items
/-- All of some trees are writable. -/
def ItemsWritable (sort : N → Prop) : List (SExpr N) → Prop
  | [] => True
  | item :: rest => item.Writable sort ∧ ItemsWritable sort rest
end

@[simp] theorem writable_symbol {sort : N → Prop} {text : String} :
    (symbol text).Writable sort ↔ needsQuotes N text.toList = false := by
  simp [Writable]

@[simp] theorem writable_string {sort : N → Prop} {text : String} :
    (string text).Writable sort := by
  simp [Writable]

@[simp] theorem writable_number {sort : N → Prop} {value : N} :
    (number value).Writable sort ↔ sort value := by
  simp [Writable]

theorem itemsWritable_iff {sort : N → Prop} {items : List (SExpr N)} :
    ItemsWritable sort items ↔ ∀ item ∈ items, item.Writable sort := by
  induction items with
  | nil => simp [ItemsWritable]
  | cons item rest inductionHypothesis =>
      rw [ItemsWritable, inductionHypothesis, List.forall_mem_cons]

theorem writable_list {sort : N → Prop} {items : List (SExpr N)} :
    (list items).Writable sort ↔
      flagRefusal? items = none ∧ ∀ item ∈ items, item.Writable sort := by
  rw [Writable, itemsWritable_iff]

omit [ScalarText N] in
/-- A list is fine by itself unless its key is that of a flag and no flag follows. -/
theorem flagRefusal?_eq_none_iff {items : List (SExpr N)} :
    flagRefusal? items = none ↔
      ∀ key ∈ (list items).head?, key ∈ flagKeys → items[1]?.any isFlag = true := by
  unfold flagRefusal?
  cases (list items).head? <;> simp

mutual
/-- The sort of the numbers matters only for the numbers of the tree. -/
theorem Writable.imp {first second : N → Prop} {tree : SExpr N}
    (writable : tree.Writable first)
    (implies : ∀ value ∈ tree.numbers, first value → second value) :
    tree.Writable second := by
  match tree with
  | .symbol _ => simpa using writable
  | .string _ => simp
  | .number value =>
      rw [writable_number] at writable ⊢
      exact implies value (List.mem_singleton.mpr rfl) writable
  | .list items =>
      rw [Writable] at writable ⊢
      exact ⟨writable.1, ItemsWritable.imp writable.2 implies⟩
theorem ItemsWritable.imp {first second : N → Prop} {items : List (SExpr N)}
    (writable : ItemsWritable first items)
    (implies : ∀ value ∈ itemsNumbers items, first value → second value) :
    ItemsWritable second items := by
  match items with
  | [] => simp [ItemsWritable]
  | item :: rest =>
      rw [ItemsWritable] at writable ⊢
      refine ⟨writable.1.imp fun value member => ?_,
        ItemsWritable.imp writable.2 fun value member => ?_⟩
      · exact implies value (List.mem_append_left _ member)
      · exact implies value (List.mem_append_right _ member)
end

/-! ## Built trees -/

/-- The text stands bare whatever the numbers are: it has no delimiters and does not start like
a number. -/
def isWord (text : List Char) : Bool :=
  !(text.isEmpty || text.any (fun character => isDelimiter character || character == '\\') ||
    startsNumeric text)

/-- The key is a word and not that of a flag. -/
def isPlainKey (key : String) : Bool :=
  isWord key.toList && !flagKeys.contains key

theorem needsQuotes_of_isWord {text : List Char} (word : isWord text = true) :
    needsQuotes N text = false := by
  simp only [isWord, Bool.not_eq_true', Bool.or_eq_false_iff] at word
  simp only [needsQuotes, Bool.or_eq_false_iff, isNumeral, tokenNumber?, word.2]
  exact ⟨word.1, rfl⟩

theorem writable_symbol_of_isWord {sort : N → Prop} {text : String}
    (word : isWord text.toList = true) : (symbol text).Writable sort :=
  writable_symbol.mpr (needsQuotes_of_isWord word)

/-- Any text can be written as an atom. -/
@[simp] theorem writable_text {sort : N → Prop} (content : String) :
    (text content : SExpr N).Writable sort := by
  unfold text
  split
  case isTrue => exact writable_string
  case isFalse bare => exact writable_symbol.mpr (Bool.eq_false_iff.mpr bare)

@[simp] theorem writable_yesNo {sort : N → Prop} (flag : Bool) :
    (yesNo flag : SExpr N).Writable sort := by
  cases flag <;> exact writable_symbol_of_isWord (by decide)

/-- A list with a plain key is writable when what follows the key is. -/
theorem writable_keyed {sort : N → Prop} {key : String} (plain : isPlainKey key = true)
    {children : List (SExpr N)} :
    (keyed key children).Writable sort ↔ ∀ child ∈ children, child.Writable sort := by
  rw [isPlainKey, Bool.and_eq_true, Bool.not_eq_true'] at plain
  have notFlag : key ∉ flagKeys := by simpa using plain.2
  have fine : flagRefusal? (symbol key :: children) = none := by
    rw [flagRefusal?_eq_none_iff]
    rintro head headEq isFlagKey
    cases headEq
    exact absurd isFlagKey notFlag
  rw [keyed, writable_list, List.forall_mem_cons]
  exact ⟨fun writable => writable.2.2,
    fun writable => ⟨fine, writable_symbol_of_isWord plain.1, writable⟩⟩

/-- A flag with its value is writable. -/
theorem writable_keyed_yesNo {sort : N → Prop} {key : String} (word : isWord key.toList = true)
    (flag : Bool) : (keyed key [yesNo flag] : SExpr N).Writable sort := by
  rw [keyed, writable_list, flagRefusal?_eq_none_iff]
  refine ⟨fun _ _ _ => ?_, ?_⟩
  · cases flag <;> rfl
  · simp [writable_symbol_of_isWord word]

/-- The sort of numbers that are written. -/
abbrev IsFinite (value : N) : Prop :=
  Scalar.isFinite value = true

mutual
/-- There is no reason to refuse a tree exactly when it is writable with finite numbers. -/
theorem refusal?_eq_none_iff (tree : SExpr N) :
    tree.refusal? = none ↔ tree.Writable IsFinite := by
  match tree with
  | .symbol text => simp [refusal?]
  | .string _ => simp [refusal?]
  | .number value => simp [refusal?]
  | .list items =>
      rw [refusal?, Writable, Option.or_eq_none_iff, itemsRefusal?_eq_none_iff items]
theorem itemsRefusal?_eq_none_iff (items : List (SExpr N)) :
    itemsRefusal? items = none ↔ ItemsWritable IsFinite items := by
  match items with
  | [] => simp [itemsRefusal?, ItemsWritable]
  | item :: rest =>
      rw [itemsRefusal?, ItemsWritable, Option.or_eq_none_iff, refusal?_eq_none_iff item,
        itemsRefusal?_eq_none_iff rest]
end

/-- What is written is the layout of a writable tree. -/
theorem write_eq_ok_iff {tree : SExpr N} {text : List Char} :
    tree.write = .ok text ↔ tree.Writable IsFinite ∧ text = tree.layout 0 ['\n'] := by
  rw [← refusal?_eq_none_iff, write]
  cases tree.refusal? <;> simp [eq_comm]

end SExpr
end CircuitSheet
