/-!
# Tables

A table assigns values to finitely many names and lists them in the order of the names. Its
entries are strictly ascending, so two tables with the same assignments are equal.
-/

namespace CircuitSheet

/-- Finitely many names with a value each, in ascending order of the names. -/
structure Table (α : Type) where
  entries : List (String × α)
  ascending : entries.Pairwise (·.1 < ·.1)

namespace Table

variable {α : Type}

/-- The table without entries. -/
def empty : Table α := ⟨[], List.Pairwise.nil⟩

instance : Inhabited (Table α) := ⟨empty⟩

/-- Change the value of one name in an ascending list; the change is told the value so far. -/
def alterEntries (name : String) (change : Option α → α) :
    List (String × α) → List (String × α)
  | [] => [(name, change none)]
  | (other, value) :: rest =>
      if name < other then (name, change none) :: (other, value) :: rest
      else if name = other then (name, change (some value)) :: rest
      else (other, value) :: alterEntries name change rest

/-- The names after a change are those before it and the changed one. -/
theorem mem_alterEntries_names {name key : String} {change : Option α → α}
    {entries : List (String × α)}
    (member : key ∈ (alterEntries name change entries).map (·.1)) :
    key = name ∨ key ∈ entries.map (·.1) := by
  induction entries with
  | nil => simpa [alterEntries] using member
  | cons head tail inductionHypothesis =>
      unfold alterEntries at member
      split at member
      · simpa using member
      · split at member
        · next equal =>
            rcases List.mem_cons.mp member with same | inTail
            · exact .inl same
            · exact .inr (List.mem_cons_of_mem _ inTail)
        · rcases List.mem_cons.mp member with same | inTail
          · exact .inr (by simp [same])
          · rcases inductionHypothesis inTail with same | old
            · exact .inl same
            · exact .inr (List.mem_cons_of_mem _ old)

/-- A change keeps an ascending list ascending. -/
theorem alterEntries_ascending (name : String) (change : Option α → α)
    {entries : List (String × α)} (ascending : entries.Pairwise (·.1 < ·.1)) :
    (alterEntries name change entries).Pairwise (·.1 < ·.1) := by
  induction entries with
  | nil => simp [alterEntries]
  | cons head tail inductionHypothesis =>
      obtain ⟨headBelow, tailAscending⟩ := List.pairwise_cons.mp ascending
      unfold alterEntries
      split
      · next before =>
          refine List.pairwise_cons.mpr ⟨?_, ascending⟩
          intro entry member
          rcases List.mem_cons.mp member with rfl | inTail
          · exact before
          · exact String.lt_trans before (headBelow entry inTail)
      · split
        · next equal => exact List.pairwise_cons.mpr ⟨equal ▸ headBelow, tailAscending⟩
        · next notBefore different =>
            refine List.pairwise_cons.mpr ⟨?_, inductionHypothesis tailAscending⟩
            intro entry member
            have named := mem_alterEntries_names (List.mem_map_of_mem (f := (·.1)) member)
            rcases named with same | old
            · simp only [same]
              exact Std.lt_of_le_of_ne (String.not_lt.mp notBefore) (Ne.symm different)
            · obtain ⟨oldEntry, inTail, sameName⟩ := List.mem_map.mp old
              exact sameName ▸ headBelow oldEntry inTail

/-- Change the value of one name; the change is told the value so far. -/
def alter (table : Table α) (name : String) (change : Option α → α) : Table α :=
  ⟨alterEntries name change table.entries, alterEntries_ascending name change table.ascending⟩

/-- Assign a value to a name in place of any earlier one. -/
def insert (table : Table α) (name : String) (value : α) : Table α :=
  table.alter name fun _ => value

/-- Assign a value to a name unless it has one. -/
def insertNew (table : Table α) (name : String) (value : α) : Table α :=
  table.alter name fun earlier => earlier.getD value

/-- The value of a name in a list of entries. -/
def findIn (name : String) : List (String × α) → Option α
  | [] => none
  | (other, value) :: rest => if other = name then some value else findIn name rest

/-- The value of a name. -/
def find? (table : Table α) (name : String) : Option α :=
  findIn name table.entries

/-- Whether a name has a value. -/
def contains (table : Table α) (name : String) : Bool :=
  (table.find? name).isSome

/-- The names in ascending order. -/
def names (table : Table α) : List String :=
  table.entries.map (·.1)

/-- The values in the order of their names. -/
def values (table : Table α) : List α :=
  table.entries.map (·.2)

/-- The number of names. -/
def size (table : Table α) : Nat :=
  table.entries.length

@[simp] theorem find?_empty (name : String) : (empty : Table α).find? name = none := rfl

/-- A name below all entries has no value among them. -/
theorem findIn_eq_none_of_below {name : String} {entries : List (String × α)}
    (below : ∀ entry ∈ entries, name < entry.1) : findIn name entries = none := by
  induction entries with
  | nil => rfl
  | cons head tail inductionHypothesis =>
      have different : head.1 ≠ name := by
        intro same
        exact String.lt_irrefl name (same ▸ below head (List.mem_cons_self ..))
      simp only [findIn, different, if_false]
      exact inductionHypothesis fun entry member => below entry (List.mem_cons_of_mem _ member)

theorem findIn_alterEntries {name key : String} {change : Option α → α}
    {entries : List (String × α)} (ascending : entries.Pairwise (·.1 < ·.1)) :
    findIn key (alterEntries name change entries) =
      if key = name then some (change (findIn name entries)) else findIn key entries := by
  induction entries with
  | nil =>
      by_cases same : key = name
      · simp [alterEntries, findIn, same]
      · simp [alterEntries, findIn, same, Ne.symm same]
  | cons head tail inductionHypothesis =>
      obtain ⟨headBelow, tailAscending⟩ := List.pairwise_cons.mp ascending
      unfold alterEntries
      split
      · next before =>
          have absent : findIn name (head :: tail) = none := by
            apply findIn_eq_none_of_below
            intro entry member
            rcases List.mem_cons.mp member with rfl | inTail
            · exact before
            · exact String.lt_trans before (headBelow entry inTail)
          have shape : findIn name ((head.1, head.2) :: tail) = none := absent
          by_cases same : key = name
          · subst same
            simp only [findIn, if_true, Option.some.injEq]
            simpa [findIn] using congrArg change shape.symm
          · simp [findIn, same, Ne.symm same]
      · split
        · next equal =>
            by_cases same : key = name
            · subst same
              simp [findIn, equal]
            · have other : ¬ head.1 = key := fun h => same (h ▸ equal.symm ▸ rfl)
              simp [findIn, same, Ne.symm same, other]
        · next different =>
            by_cases same : key = name
            · subst same
              simp [findIn, Ne.symm different, inductionHypothesis tailAscending]
            · simp [findIn, same, inductionHypothesis tailAscending]

/-- A change is seen under its own name and nowhere else. -/
theorem find?_alter (table : Table α) (name key : String) (change : Option α → α) :
    (table.alter name change).find? key =
      if key = name then some (change (table.find? name)) else table.find? key :=
  findIn_alterEntries table.ascending

@[simp] theorem find?_insert (table : Table α) (name key : String) (value : α) :
    (table.insert name value).find? key = if key = name then some value else table.find? key :=
  find?_alter ..

@[simp] theorem find?_insertNew (table : Table α) (name key : String) (value : α) :
    (table.insertNew name value).find? key =
      if key = name then some ((table.find? name).getD value) else table.find? key :=
  find?_alter ..

end Table
end CircuitSheet
