/-!
# Grouping lists

Lists are split into groups of items with one label, and reduced to the first item of each
key. Groups and items keep the order in which they first appear.
-/

namespace CircuitSheet

variable {α β : Type} [DecidableEq β]

/-- The groups of items with equal labels, in the order in which the labels first appear. -/
def groupBy (label : α → β) : List α → List (List α)
  | [] => []
  | first :: rest =>
      (first :: rest.filter fun item => label item = label first) ::
        groupBy label (rest.filter fun item => label item ≠ label first)
termination_by items => items.length
decreasing_by
  rw [List.length_unattach, List.length_cons]
  exact Nat.lt_succ_of_le (Nat.le_trans (List.length_filter_le ..) (by simp))

/-- The items whose key does not appear earlier. -/
def distinctBy (key : α → β) : List α → List α
  | [] => []
  | first :: rest => first :: (distinctBy key rest).filter fun item => key item ≠ key first

@[simp] theorem groupBy_nil (label : α → β) : groupBy label [] = [] := by
  unfold groupBy
  rfl

@[simp] theorem distinctBy_nil (key : α → β) : distinctBy key [] = [] := rfl

/-- Every key of a list is among its distinct items. -/
theorem mem_map_distinctBy {key : α → β} {items : List α} {value : β} :
    value ∈ (distinctBy key items).map key ↔ value ∈ items.map key := by
  induction items with
  | nil => rfl
  | cons head tail inductionHypothesis =>
      simp only [List.mem_map] at inductionHypothesis
      simp only [distinctBy, List.map_cons, List.mem_cons, List.mem_map, List.mem_filter,
        decide_eq_true_eq]
      by_cases same : value = key head
      · simp [same]
      · simp only [same, false_or]
        rw [← inductionHypothesis]
        constructor
        · rintro ⟨item, ⟨member, _⟩, rfl⟩
          exact ⟨item, member, rfl⟩
        · rintro ⟨item, member, rfl⟩
          exact ⟨item, ⟨member, same⟩, rfl⟩

end CircuitSheet
