/-!
# Disjoint sets

The numbers below a size fall into disjoint sets. At first each stands alone, a union makes one
set of those of two numbers, and each number finds the representative of its set. How the sets
are kept is left open; lists of labels are one way.
-/

namespace CircuitSheet

/-- The operations on disjoint sets of the numbers below a size. -/
structure DisjointSets (State : Type) where
  size : State → Nat
  discrete : Nat → State
  union : State → Nat → Nat → State
  find : State → Nat → Nat

namespace DisjointSets

variable {State : Type}

/-- Unite the sets of the two numbers of every pair. -/
def unionAll (sets : DisjointSets State) (state : State) (pairs : List (Nat × Nat)) : State :=
  pairs.foldl (fun united (first, second) => sets.union united first second) state

/-- What unions and representatives are relied on for: at first no two numbers share a set, and
a union lets two numbers share one if they did so before or stand on both sides of it. -/
structure Lawful (sets : DisjointSets State) : Prop where
  size_discrete : ∀ size, sets.size (sets.discrete size) = size
  size_union : ∀ state first second, sets.size (sets.union state first second) = sets.size state
  find_discrete : ∀ {size one other}, one < size → other < size →
    sets.find (sets.discrete size) one = sets.find (sets.discrete size) other → one = other
  find_union : ∀ {state first second one other}, first < sets.size state →
    second < sets.size state → one < sets.size state → other < sets.size state →
    (sets.find (sets.union state first second) one =
        sets.find (sets.union state first second) other ↔
      sets.find state one = sets.find state other ∨
        sets.find state one = sets.find state first ∧
          sets.find state other = sets.find state second ∨
        sets.find state one = sets.find state second ∧
          sets.find state other = sets.find state first)

/-- The label of a number; a number that is not listed is its own label. -/
def labelOf (labels : List Nat) (number : Nat) : Nat :=
  labels.getD number number

/-- Every number carries the label of its set, and a union gives all numbers labelled like the
second one the label of the first. -/
def labels : DisjointSets (List Nat) where
  size := List.length
  discrete := List.range
  union := fun labels first second =>
    labels.map fun label =>
      if label = labelOf labels second then labelOf labels first else label
  find := labelOf

/-- A listed number gets the label that the union gives it. -/
theorem labelOf_map {labels : List Nat} {number : Nat} (listed : number < labels.length)
    (relabel : Nat → Nat) :
    labelOf (labels.map relabel) number = relabel (labelOf labels number) := by
  simp [labelOf, listed]

/-- Labels are disjoint sets. -/
theorem labels_lawful : labels.Lawful where
  size_discrete := fun _ => List.length_range
  size_union := fun _ _ _ => List.length_map ..
  find_discrete := by
    intro size one other oneBelow otherBelow same
    simpa [labels, labelOf, oneBelow, otherBelow] using same
  find_union := by
    intro state first second one other _ _ oneListed otherListed
    have oneLabel := labelOf_map oneListed fun label =>
      if label = labelOf state second then labelOf state first else label
    have otherLabel := labelOf_map otherListed fun label =>
      if label = labelOf state second then labelOf state first else label
    simp only [labels, oneLabel, otherLabel]
    grind

end DisjointSets
end CircuitSheet
