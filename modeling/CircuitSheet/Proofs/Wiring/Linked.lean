import CircuitSheet.Wiring.DisjointSets
import Mathlib.Data.List.Induction
import Mathlib.Logic.Relation

/-!
# Links

Chains of pairs link items to one another. After the pairs have been united, two numbers have one
representative exactly when a chain of the pairs links them.
-/

namespace CircuitSheet

/-- A pair joins two items, in one order or the other. -/
def Adjacent {α : Type} (pairs : List (α × α)) (one other : α) : Prop :=
  (one, other) ∈ pairs ∨ (other, one) ∈ pairs

/-- A chain of pairs leads from one item to the other. -/
def Linked {α : Type} (pairs : List (α × α)) : α → α → Prop :=
  Relation.ReflTransGen (Adjacent pairs)

variable {α β : Type} {pairs : List (α × α)} {one other : α}

instance : Std.Symm (Adjacent pairs) where
  symm _ _ adjacent := Or.symm adjacent

namespace Linked

theorem of_mem (member : (one, other) ∈ pairs) : Linked pairs one other :=
  Relation.ReflTransGen.single (.inl member)

theorem symm (linked : Linked pairs one other) : Linked pairs other one :=
  Relation.ReflTransGen.stdSymm.symm _ _ linked

theorem trans {third : α} (first : Linked pairs one other) (second : Linked pairs other third) :
    Linked pairs one third :=
  Relation.ReflTransGen.trans first second

/-- More pairs keep what is linked. -/
theorem mono {more : List (α × α)} (subset : pairs ⊆ more) (linked : Linked pairs one other) :
    Linked more one other := by
  refine Relation.ReflTransGen.mono ?_ _ _ linked
  intro near far adjacent
  exact adjacent.imp (@subset _) (@subset _)

/-- Renaming items keeps what is linked. -/
theorem map (rename : α → β) (linked : Linked pairs one other) :
    Linked (pairs.map (Prod.map rename rename)) (rename one) (rename other) := by
  refine Relation.ReflTransGen.lift rename ?_ _ _ linked
  intro near far adjacent
  exact adjacent.imp (fun member => List.mem_map.mpr ⟨_, member, rfl⟩)
    (fun member => List.mem_map.mpr ⟨_, member, rfl⟩)

/-- What is the same for both items of each pair is the same for linked items. -/
theorem eq_of_pairs (linked : Linked pairs one other) (label : α → β)
    (same : ∀ pair ∈ pairs, label pair.1 = label pair.2) : label one = label other := by
  induction linked with
  | refl => rfl
  | tail _ adjacent inductionHypothesis =>
      refine inductionHypothesis.trans ?_
      rcases adjacent with forward | backward
      · exact same _ forward
      · exact (same _ backward).symm

end Linked

namespace DisjointSets.Lawful

variable {State : Type} {sets : DisjointSets State}

theorem size_unionAll (lawful : sets.Lawful) (state : State) (pairs : List (Nat × Nat)) :
    sets.size (sets.unionAll state pairs) = sets.size state := by
  unfold unionAll
  induction pairs generalizing state with
  | nil => rfl
  | cons head tail inductionHypothesis =>
      rw [List.foldl_cons, inductionHypothesis, lawful.size_union]

/-- One more pair is united last. -/
theorem unionAll_append_singleton (state : State) (pairs : List (Nat × Nat)) (pair : Nat × Nat) :
    sets.unionAll state (pairs ++ [pair]) =
      sets.union (sets.unionAll state pairs) pair.1 pair.2 := by
  simp [unionAll]

/-- A union is told by the sets before it, also when pairs have been united already. -/
theorem find_unionAll_append (lawful : sets.Lawful) {size : Nat} {pairs : List (Nat × Nat)}
    {pair : Nat × Nat} {one other : Nat} (firstBelow : pair.1 < size) (secondBelow : pair.2 < size)
    (oneBelow : one < size) (otherBelow : other < size) :
    let united := sets.unionAll (sets.discrete size) pairs
    let further := sets.unionAll (sets.discrete size) (pairs ++ [pair])
    sets.find further one = sets.find further other ↔
      sets.find united one = sets.find united other ∨
        sets.find united one = sets.find united pair.1 ∧
          sets.find united other = sets.find united pair.2 ∨
        sets.find united one = sets.find united pair.2 ∧
          sets.find united other = sets.find united pair.1 := by
  intro united further
  have sized : sets.size united = size := by
    rw [lawful.size_unionAll, lawful.size_discrete]
  have last : further = sets.union united pair.1 pair.2 := unionAll_append_singleton ..
  rw [last]
  rw [← sized] at firstBelow secondBelow oneBelow otherBelow
  exact lawful.find_union firstBelow secondBelow oneBelow otherBelow

/-- Numbers that share a set are linked by the pairs that were united. -/
theorem linked_of_find_eq (lawful : sets.Lawful) {size : Nat} {pairs : List (Nat × Nat)}
    (below : ∀ pair ∈ pairs, pair.1 < size ∧ pair.2 < size) {one other : Nat}
    (oneBelow : one < size) (otherBelow : other < size)
    (same : sets.find (sets.unionAll (sets.discrete size) pairs) one =
      sets.find (sets.unionAll (sets.discrete size) pairs) other) :
    Linked pairs one other := by
  induction pairs using List.reverseRecOn generalizing one other with
  | nil =>
      obtain rfl : one = other := lawful.find_discrete oneBelow otherBelow same
      exact Relation.ReflTransGen.refl
  | append_singleton pairs pair inductionHypothesis =>
      obtain ⟨firstBelow, secondBelow⟩ := below pair (by simp)
      have earlierBelow : ∀ earlier ∈ pairs, earlier.1 < size ∧ earlier.2 < size :=
        fun earlier member => below earlier (List.mem_append_left _ member)
      have earlierLinked : ∀ {near far : Nat}, near < size → far < size →
          sets.find (sets.unionAll (sets.discrete size) pairs) near =
            sets.find (sets.unionAll (sets.discrete size) pairs) far →
          Linked (pairs ++ [pair]) near far := by
        intro near far nearBelow farBelow together
        have linked := inductionHypothesis earlierBelow nearBelow farBelow together
        exact linked.mono (List.subset_append_left ..)
      have joined : Linked (pairs ++ [pair]) pair.1 pair.2 := Linked.of_mem (by simp)
      rcases (lawful.find_unionAll_append firstBelow secondBelow oneBelow otherBelow).mp same with
        already | ⟨toFirst, toSecond⟩ | ⟨toSecond, toFirst⟩
      · exact earlierLinked oneBelow otherBelow already
      · have near := earlierLinked oneBelow firstBelow toFirst
        have far := earlierLinked otherBelow secondBelow toSecond
        exact (near.trans joined).trans far.symm
      · have near := earlierLinked oneBelow secondBelow toSecond
        have far := earlierLinked otherBelow firstBelow toFirst
        exact (near.trans joined.symm).trans far.symm

/-- The two numbers of a united pair share a set, whatever was united later. -/
theorem find_eq_of_mem (lawful : sets.Lawful) {size : Nat} {pairs : List (Nat × Nat)}
    (below : ∀ pair ∈ pairs, pair.1 < size ∧ pair.2 < size) {pair : Nat × Nat}
    (member : pair ∈ pairs) :
    sets.find (sets.unionAll (sets.discrete size) pairs) pair.1 =
      sets.find (sets.unionAll (sets.discrete size) pairs) pair.2 := by
  obtain ⟨firstBelow, secondBelow⟩ := below pair member
  induction pairs using List.reverseRecOn with
  | nil => simp at member
  | append_singleton pairs last inductionHypothesis =>
      obtain ⟨lastFirstBelow, lastSecondBelow⟩ := below last (by simp)
      have earlierBelow : ∀ earlier ∈ pairs, earlier.1 < size ∧ earlier.2 < size :=
        fun earlier earlierMember => below earlier (List.mem_append_left _ earlierMember)
      refine (lawful.find_unionAll_append lastFirstBelow lastSecondBelow firstBelow
        secondBelow).mpr ?_
      rcases List.mem_append.mp member with earlier | isLast
      · exact .inl (inductionHypothesis earlierBelow earlier)
      · obtain rfl := List.mem_singleton.mp isLast
        exact .inr (.inl ⟨rfl, rfl⟩)

/-- Numbers share a set exactly when the pairs that were united link them. -/
theorem find_unionAll_iff (lawful : sets.Lawful) {size : Nat} {pairs : List (Nat × Nat)}
    (below : ∀ pair ∈ pairs, pair.1 < size ∧ pair.2 < size) {one other : Nat}
    (oneBelow : one < size) (otherBelow : other < size) :
    sets.find (sets.unionAll (sets.discrete size) pairs) one =
        sets.find (sets.unionAll (sets.discrete size) pairs) other ↔
      Linked pairs one other := by
  constructor
  · exact lawful.linked_of_find_eq below oneBelow otherBelow
  · intro linked
    clear otherBelow
    induction linked with
    | refl => rfl
    | tail _ adjacent inductionHypothesis =>
        refine inductionHypothesis.trans ?_
        rcases adjacent with forward | backward
        · exact lawful.find_eq_of_mem below forward
        · exact (lawful.find_eq_of_mem below backward).symm

end DisjointSets.Lawful
end CircuitSheet
