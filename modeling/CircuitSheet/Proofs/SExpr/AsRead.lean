import CircuitSheet.Proofs.SExpr.Layout
import CircuitSheet.Proofs.SExpr.Number

/-!
# Trees up to the sign of zeros

A zero is written without its sign, so a tree that is read for a written tree has lost the
signs of its zeros. It equals the written tree in the sense in which numbers are equal, and it
is written like it.
-/

namespace CircuitSheet
namespace SExpr

variable {N : Type} [ScalarText N]

mutual
/-- The tree that is read for a written tree: every zero loses its sign. -/
def asRead : SExpr N → SExpr N
  | .number value => .number (numberAsRead value)
  | .list items => .list (itemsAsRead items)
  | atom => atom
/-- The trees that are read for some written trees. -/
def itemsAsRead : List (SExpr N) → List (SExpr N)
  | [] => []
  | item :: rest => item.asRead :: itemsAsRead rest
end

@[simp] theorem asRead_symbol (text : String) :
    (symbol text : SExpr N).asRead = symbol text := by
  simp [asRead]

@[simp] theorem asRead_string (text : String) :
    (string text : SExpr N).asRead = string text := by
  simp [asRead]

@[simp] theorem asRead_number (value : N) :
    (number value).asRead = number (numberAsRead value) := by
  simp [asRead]

@[simp] theorem asRead_list (items : List (SExpr N)) :
    (list items).asRead = list (itemsAsRead items) := by
  simp [asRead]

theorem itemsAsRead_eq_map (items : List (SExpr N)) :
    itemsAsRead items = items.map asRead := by
  induction items with
  | nil => simp [itemsAsRead]
  | cons item rest inductionHypothesis => simp [itemsAsRead, inductionHypothesis]

@[simp] theorem head?_asRead (tree : SExpr N) : tree.asRead.head? = tree.head? := by
  match tree with
  | .symbol _ | .string _ | .number _ | .list [] => simp [head?, itemsAsRead]
  | .list (first :: rest) => cases first <;> simp [head?, itemsAsRead, symbol?]

theorem items_asRead (tree : SExpr N) : tree.asRead.items = tree.items.map asRead := by
  cases tree with
  | list children => simp [items, items?, itemsAsRead_eq_map]
  | symbol | string | number => simp [items, items?]

/-- The lists with a key are those that are read for the lists with that key. -/
theorem findAll_asRead (tree : SExpr N) (key : String) :
    tree.asRead.findAll key = (tree.findAll key).map asRead := by
  rw [findAll, items_asRead, List.filter_map, findAll]
  congr 1
  exact List.filter_congr fun item _ => by rw [Function.comp_apply, head?_asRead]

/-! ## Writing the tree that was read -/

@[simp] theorem items?_asRead_eq_none_iff {tree : SExpr N} :
    tree.asRead.items? = none ↔ tree.items? = none := by
  cases tree <;> simp [items?]

@[simp] theorem isFlag_asRead (tree : SExpr N) : isFlag tree.asRead = isFlag tree := by
  cases tree <;> simp [isFlag]

theorem flagRefusal?_itemsAsRead {items : List (SExpr N)} (fine : flagRefusal? items = none) :
    flagRefusal? (itemsAsRead items) = none := by
  have sameHead : (list (itemsAsRead items)).head? = (list items).head? := by
    rw [← asRead_list, head?_asRead]
  have sameFlag : (itemsAsRead items)[1]?.any isFlag = items[1]?.any isFlag := by
    rw [itemsAsRead_eq_map, List.getElem?_map]
    cases items[1]? <;> simp
  rw [flagRefusal?_eq_none_iff] at fine ⊢
  rw [sameHead, sameFlag]
  exact fine

/-- The tree that is read is writable, if the numbers that are read are of the right sort. -/
theorem Writable.asRead {sort : N → Prop} {tree : SExpr N} (writable : tree.Writable sort)
    (kept : ∀ value, sort value → sort (numberAsRead value)) : tree.asRead.Writable sort := by
  induction tree using induction_on_items with
  | symbol _ => simpa using writable
  | string _ => simp
  | number value => simpa using kept value (writable_number.mp writable)
  | list items inductionHypothesis =>
      rw [writable_list] at writable
      rw [asRead_list, writable_list]
      refine ⟨flagRefusal?_itemsAsRead writable.1, ?_⟩
      rw [itemsAsRead_eq_map, List.forall_mem_map]
      exact fun item member => inductionHypothesis item member (writable.2 item member)

mutual
theorem depth_asRead (tree : SExpr N) : tree.asRead.depth = tree.depth := by
  match tree with
  | .symbol _ | .string _ | .number _ => simp [depth]
  | .list items => rw [asRead_list, depth, depth, itemsDepth_itemsAsRead items]
theorem itemsDepth_itemsAsRead (items : List (SExpr N)) :
    itemsDepth (itemsAsRead items) = itemsDepth items := by
  match items with
  | [] => simp [itemsAsRead]
  | item :: rest =>
      rw [itemsAsRead, itemsDepth, itemsDepth, depth_asRead item, itemsDepth_itemsAsRead rest]
end

mutual
/-- The tree that is read is written on one line like the tree that was written. -/
theorem inline_asRead [LawfulNumbers N] (tree : SExpr N) : tree.asRead.inline = tree.inline := by
  match tree with
  | .symbol _ | .string _ => simp
  | .number _ => simp [inline]
  | .list [] => simp [itemsAsRead]
  | .list (first :: rest) =>
      rw [asRead_list, itemsAsRead, inline, inline, inlineFirst, inlineFirst,
        inline_asRead first, inlineRest_itemsAsRead rest]
theorem inlineRest_itemsAsRead [LawfulNumbers N] (items : List (SExpr N)) :
    inlineRest (itemsAsRead items) = inlineRest items := by
  match items with
  | [] => simp [itemsAsRead]
  | item :: rest =>
      rw [itemsAsRead, inlineRest, inlineRest, inline_asRead item, inlineRest_itemsAsRead rest]
end

theorem fitsLine_asRead [LawfulNumbers N] (level : Nat) (tree : SExpr N) :
    fitsLine level tree.asRead = fitsLine level tree := by
  rw [fitsLine, fitsLine, depth_asRead, inline_asRead]

mutual
/-- The tree that is read has the lines of the tree that was written. -/
theorem layout_asRead [LawfulNumbers N] (level : Nat) (tree : SExpr N) (after : List Char) :
    tree.asRead.layout level after = tree.layout level after := by
  match tree with
  | .symbol _ | .string _ => simp
  | .number _ => simp [layout]
  | .list items =>
      have sameFit := fitsLine_asRead level (list items)
      have sameLine := inline_asRead (list items)
      rw [asRead_list] at sameFit sameLine ⊢
      rw [layout, layout, sameFit, sameLine, layoutFirst_itemsAsRead level items]
theorem layoutFirst_itemsAsRead [LawfulNumbers N] (level : Nat) (items : List (SExpr N))
    (after : List Char) :
    layoutFirst level (itemsAsRead items) after = layoutFirst level items after := by
  match items with
  | [] => simp [itemsAsRead]
  | item :: rest =>
      rw [itemsAsRead]
      by_cases atom : item.items? = none
      · rw [layoutFirst_of_atom atom, layoutFirst_of_atom (items?_asRead_eq_none_iff.mpr atom),
          inline_asRead item, layoutAtoms_itemsAsRead level rest]
      · rw [layoutFirst_of_list atom,
          layoutFirst_of_list fun isAtom => atom (items?_asRead_eq_none_iff.mp isAtom),
          layout_asRead (level + 1) item, layoutRows_itemsAsRead level rest]
theorem layoutAtoms_itemsAsRead [LawfulNumbers N] (level : Nat) (items : List (SExpr N))
    (after : List Char) :
    layoutAtoms level (itemsAsRead items) after = layoutAtoms level items after := by
  match items with
  | [] => simp [itemsAsRead]
  | item :: rest =>
      rw [itemsAsRead]
      by_cases atom : item.items? = none
      · rw [layoutAtoms_of_atom atom, layoutAtoms_of_atom (items?_asRead_eq_none_iff.mpr atom),
          inline_asRead item, layoutAtoms_itemsAsRead level rest]
      · rw [layoutAtoms_of_list atom,
          layoutAtoms_of_list fun isAtom => atom (items?_asRead_eq_none_iff.mp isAtom),
          layout_asRead (level + 1) item, layoutRows_itemsAsRead level rest]
theorem layoutRows_itemsAsRead [LawfulNumbers N] (level : Nat) (items : List (SExpr N))
    (after : List Char) :
    layoutRows level (itemsAsRead items) after = layoutRows level items after := by
  match items with
  | [] => simp [itemsAsRead]
  | item :: rest =>
      rw [itemsAsRead, layoutRows, layoutRows, layout_asRead (level + 1) item,
        layoutRows_itemsAsRead level rest]
end

/-- The tree that is read is written like the tree that was written. -/
theorem write_asRead [LawfulNumbers N] {tree : SExpr N} {text : List Char}
    (written : tree.write = .ok text) :
    tree.asRead.write = .ok text := by
  obtain ⟨writable, rfl⟩ := write_eq_ok_iff.mp written
  have readWritable := writable.asRead fun _ finite => isFinite_numberAsRead finite
  refine write_eq_ok_iff.mpr ⟨readWritable, ?_⟩
  rw [layout_asRead]

mutual
/-- The tree that is read equals the tree that was written. -/
theorem alike_asRead [LawfulNumbers N] {tree : SExpr N}
    (writable : tree.Writable IsFinite) :
    tree.alike Scalar.same tree.asRead = true := by
  match tree with
  | .symbol _ | .string _ => simp [alike]
  | .number value =>
      have finite : IsFinite value := writable_number.mp writable
      simpa [alike] using same_numberAsRead finite
  | .list items =>
      rw [Writable] at writable
      rw [asRead_list, alike]
      exact itemsAlike_itemsAsRead writable.2
theorem itemsAlike_itemsAsRead [LawfulNumbers N] {items : List (SExpr N)}
    (writable : ItemsWritable IsFinite items) :
    itemsAlike Scalar.same items (itemsAsRead items) = true := by
  match items with
  | [] => simp [itemsAsRead, itemsAlike]
  | item :: rest =>
      rw [ItemsWritable] at writable
      rw [itemsAsRead, itemsAlike, alike_asRead writable.1, itemsAlike_itemsAsRead writable.2,
        Bool.and_self]
end

end SExpr
end CircuitSheet
