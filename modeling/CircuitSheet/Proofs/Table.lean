import CircuitSheet.Table
import Mathlib.Data.List.Induction
import Mathlib.Data.List.Nodup
import Mathlib.Data.List.Sort

/-!
# Entries of tables

Since the names of a table ascend, none of them occurs twice, and an entry is what is found
under its name. So it is with any items whose keys differ.
-/

namespace CircuitSheet

/-- Where keys differ, only one item has a given key. -/
theorem filter_key_eq {α β : Type} [BEq β] [LawfulBEq β] {key : α → β} {items : List α}
    (distinct : (items.map key).Nodup) {item : α} (member : item ∈ items) :
    items.filter (key · == key item) = [item] := by
  induction items with
  | nil => cases member
  | cons head rest inductionHypothesis =>
      obtain ⟨absent, restDistinct⟩ := List.nodup_cons.mp distinct
      rcases List.mem_cons.mp member with rfl | inRest
      · have none : rest.filter (key · == key item) = [] := by
          rw [List.filter_eq_nil_iff]
          intro other otherMember same
          exact absent (List.mem_map.mpr ⟨other, otherMember, eq_of_beq same⟩)
        rw [List.filter_cons, if_pos (beq_self_eq_true _), none]
      · have different : ¬(key head == key item) = true := fun same =>
          absent (List.mem_map.mpr ⟨item, inRest, (eq_of_beq same).symm⟩)
        rw [List.filter_cons, if_neg different, inductionHypothesis restDistinct inRest]

/-- Where keys differ, an item is what is found under its key. -/
theorem find?_key_eq {α β : Type} [BEq β] [LawfulBEq β] {key : α → β} {items : List α}
    (distinct : (items.map key).Nodup) {item : α} (member : item ∈ items) :
    items.find? (key · == key item) = some item := by
  rw [← List.head?_filter, filter_key_eq distinct member]
  rfl

namespace Table

variable {α : Type}

/-- The names ascend. -/
theorem ascending_names (table : Table α) : table.names.Pairwise (· < ·) :=
  List.pairwise_map.mpr table.ascending

/-- No name occurs twice. -/
theorem nodup_names (table : Table α) : table.names.Nodup := by
  refine table.ascending_names.imp ?_
  intro earlier later below same
  exact String.lt_irrefl later (same ▸ below)

theorem mem_iff_findIn_eq_some {name : String} {value : α} {entries : List (String × α)}
    (distinct : (entries.map (·.1)).Nodup) :
    (name, value) ∈ entries ↔ findIn name entries = some value := by
  induction entries with
  | nil => simp [findIn]
  | cons head tail inductionHypothesis =>
      obtain ⟨headAbsent, tailDistinct⟩ := List.nodup_cons.mp distinct
      by_cases same : head.1 = name
      · have absent : (name, value) ∉ tail := by
          intro member
          apply headAbsent
          exact List.mem_map.mpr ⟨(name, value), member, same.symm⟩
        simp only [findIn, same, if_true, Option.some.injEq, List.mem_cons, absent, or_false]
        constructor
        · rintro rfl
          rfl
        · rintro rfl
          exact Prod.ext same.symm rfl
      · have different : (name, value) ≠ head := by
          rintro rfl
          exact same rfl
        simp only [findIn, same, if_false, List.mem_cons, different, false_or]
        exact inductionHypothesis tailDistinct

/-- The entries are what is found under the names. -/
theorem mem_entries_iff {table : Table α} {name : String} {value : α} :
    (name, value) ∈ table.entries ↔ table.find? name = some value :=
  mem_iff_findIn_eq_some table.nodup_names

/-- Lists with the same items are equal when both ascend by the same names. -/
theorem eq_of_ascending {β : Type} (name : β → String) {one other : List β}
    (oneAscending : one.Pairwise (name · < name ·))
    (otherAscending : other.Pairwise (name · < name ·))
    (same : ∀ item, item ∈ one ↔ item ∈ other) : one = other := by
  have irreflexive : Std.Irrefl (name · < name ·) := ⟨fun item => String.lt_irrefl (name item)⟩
  have antisymmetric : Std.Antisymm (name · < name ·) :=
    ⟨fun _ _ before after => absurd (String.lt_trans before after) (String.lt_irrefl _)⟩
  exact oneAscending.eq_of_mem_iff otherAscending same

/-- Two tables with the same assignments are equal. -/
theorem ext_of_find? {one other : Table α} (same : ∀ name, one.find? name = other.find? name) :
    one = other := by
  have members : ∀ entry, entry ∈ one.entries ↔ entry ∈ other.entries := by
    rintro ⟨name, value⟩
    rw [mem_entries_iff, mem_entries_iff, same]
  have entries : one.entries = other.entries :=
    eq_of_ascending Prod.fst one.ascending other.ascending members
  cases one
  cases other
  congr

/-- Ascending names that are those of a table stand as they do in it. -/
theorem eq_names_of_ascending (table : Table α) {names : List String}
    (ascending : names.Pairwise (· < ·)) (same : ∀ name, name ∈ names ↔ name ∈ table.names) :
    names = table.names :=
  eq_of_ascending id ascending table.ascending_names same

/-- The names are those under which something is found. -/
theorem mem_names_iff {table : Table α} {name : String} :
    name ∈ table.names ↔ (table.find? name).isSome := by
  rw [Option.isSome_iff_exists, names, List.mem_map]
  constructor
  · rintro ⟨entry, member, rfl⟩
    exact ⟨entry.2, mem_entries_iff.mp member⟩
  · rintro ⟨value, found⟩
    exact ⟨(name, value), mem_entries_iff.mpr found, rfl⟩

/-- Where items are entered unless their names have a value, the first item with a name gives its
value. -/
theorem find?_foldl_insertNew {β : Type} (key : β → String) (value : β → α) (table : Table α)
    (items : List β) (name : String) :
    (items.foldl (fun table item => table.insertNew (key item) (value item)) table).find? name =
      (table.find? name).or ((items.find? (key · == name)).map value) := by
  induction items generalizing table with
  | nil => simp
  | cons item rest inductionHypothesis =>
      rw [List.foldl_cons, inductionHypothesis, find?_insertNew, List.find?_cons]
      by_cases same : name = key item
      · subst same
        cases table.find? (key item) <;> simp
      · have different : (key item == name) = false := beq_false_of_ne (Ne.symm same)
        simp [same, different]

/-- Where entries with different names are inserted one after the other, they are what is found. -/
theorem find?_foldl_insert_iff {entries : List (String × α)}
    (distinct : (entries.map (·.1)).Nodup) {name : String} {value : α} :
    (entries.foldl (fun table entry => table.insert entry.1 entry.2) empty).find? name =
        some value ↔ (name, value) ∈ entries := by
  induction entries using List.reverseRecOn with
  | nil => simp
  | append_singleton entries last inductionHypothesis =>
      rw [List.map_append, List.nodup_append] at distinct
      obtain ⟨earlierDistinct, -, differ⟩ := distinct
      rw [List.foldl_append, List.foldl_cons, List.foldl_nil, find?_insert, List.mem_append,
        List.mem_singleton]
      split
      case isTrue same =>
        have absent : (name, value) ∉ entries := fun member =>
          differ name (List.mem_map.mpr ⟨_, member, rfl⟩) last.1 (by simp) same
        rw [or_iff_right absent, Prod.ext_iff, and_iff_right same, Option.some.injEq, eq_comm]
      case isFalse different =>
        rw [inductionHypothesis earlierDistinct]
        simp [Prod.ext_iff, different]

@[simp] theorem length_names (table : Table α) : table.names.length = table.size :=
  List.length_map ..

end Table
end CircuitSheet
