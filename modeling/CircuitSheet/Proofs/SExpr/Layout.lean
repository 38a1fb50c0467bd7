import CircuitSheet.SExpr.Writer

/-!
# Lines of a tree

The items of a list that is spread over lines are atoms, which stay on the line of the
opening parenthesis, and lists, from the first of which on every item has a line of its own.
The writer is given what follows a tree, and puts it behind the lines of the tree.
-/

namespace CircuitSheet
namespace SExpr

variable {N : Type} [ScalarText N]

theorem layoutAtoms_of_atom {item : SExpr N} (atom : item.items? = none) (level : Nat)
    (rest : List (SExpr N)) (after : List Char) :
    layoutAtoms level (item :: rest) after =
      ' ' :: (item.inline ++ layoutAtoms level rest after) := by
  cases item with
  | symbol _ | string _ => simp [layoutAtoms]
  | number _ => simp [layoutAtoms, inline]
  | list _ => cases atom

theorem layoutAtoms_of_list {item : SExpr N} (nested : item.items? ≠ none) (level : Nat)
    (rest : List (SExpr N)) (after : List Char) :
    layoutAtoms level (item :: rest) after =
      newLine (level + 1) (item.layout (level + 1) (layoutRows level rest after)) := by
  cases item with
  | symbol _ | string _ | number _ => exact absurd rfl nested
  | list _ => simp [layoutAtoms]

theorem layoutFirst_of_atom {item : SExpr N} (atom : item.items? = none) (level : Nat)
    (rest : List (SExpr N)) (after : List Char) :
    layoutFirst level (item :: rest) after = item.inline ++ layoutAtoms level rest after := by
  cases item with
  | symbol _ | string _ => simp [layoutFirst]
  | number _ => simp [layoutFirst, inline]
  | list _ => cases atom

theorem layoutFirst_of_list {item : SExpr N} (nested : item.items? ≠ none) (level : Nat)
    (rest : List (SExpr N)) (after : List Char) :
    layoutFirst level (item :: rest) after =
      newLine (level + 1) (item.layout (level + 1) (layoutRows level rest after)) := by
  cases item with
  | symbol _ | string _ | number _ => exact absurd rfl nested
  | list _ => simp [layoutFirst]

theorem layout_of_atom {tree : SExpr N} (atom : tree.items? = none) (level : Nat)
    (after : List Char) : tree.layout level after = tree.inline ++ after := by
  cases tree with
  | symbol _ | string _ => simp [layout]
  | number _ => simp [layout, inline]
  | list _ => cases atom

mutual
/-- What follows a tree follows its lines. -/
theorem layout_append (level : Nat) (tree : SExpr N) (after more : List Char) :
    tree.layout level after ++ more = tree.layout level (after ++ more) := by
  match tree with
  | .symbol _ | .string _ | .number _ => simp [layout]
  | .list items =>
      simp only [layout]
      split
      · rw [List.append_assoc]
      · rw [List.cons_append, layoutFirst_append level items]
        simp [newLine]
theorem layoutFirst_append (level : Nat) (items : List (SExpr N)) (after more : List Char) :
    layoutFirst level items after ++ more = layoutFirst level items (after ++ more) := by
  match items with
  | [] => simp [layoutFirst]
  | item :: rest =>
      by_cases atom : item.items? = none
      · simp only [layoutFirst_of_atom atom, List.append_assoc, layoutAtoms_append level rest]
      · simp only [layoutFirst_of_list atom, newLine, List.cons_append, List.append_assoc,
          layout_append (level + 1) item, layoutRows_append level rest]
theorem layoutAtoms_append (level : Nat) (items : List (SExpr N)) (after more : List Char) :
    layoutAtoms level items after ++ more = layoutAtoms level items (after ++ more) := by
  match items with
  | [] => simp [layoutAtoms]
  | item :: rest =>
      by_cases atom : item.items? = none
      · simp only [layoutAtoms_of_atom atom, List.cons_append, List.append_assoc,
          layoutAtoms_append level rest]
      · simp only [layoutAtoms_of_list atom, newLine, List.cons_append, List.append_assoc,
          layout_append (level + 1) item, layoutRows_append level rest]
theorem layoutRows_append (level : Nat) (items : List (SExpr N)) (after more : List Char) :
    layoutRows level items after ++ more = layoutRows level items (after ++ more) := by
  match items with
  | [] => simp [layoutRows]
  | item :: rest =>
      simp only [layoutRows, newLine, List.cons_append, List.append_assoc,
        layout_append (level + 1) item, layoutRows_append level rest]
end

end SExpr
end CircuitSheet
