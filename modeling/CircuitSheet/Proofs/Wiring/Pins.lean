import CircuitSheet.Proofs.Table
import CircuitSheet.Wiring.Net
import Mathlib.Data.List.Flatten

/-!
# Registered pins

Every entity of a wiring has pins of its own, numbered by single characters that differ from
one another. So the keys of all pins differ, even when references contain dots.
-/

namespace CircuitSheet

variable {K : Type}

/-! ## Numbers of pins -/

/-- The numbers of the pins of a kind are the first ones of a fixed list. -/
theorem Kind.map_number_pins [Scalar K] (kind : Kind) :
    (kind.pins (K := K)).map (·.number) =
      ["1", "2", "3", "4", "5", "6", "7", "8"].take (kind.pins (K := K)).length := by
  cases kind <;> rfl

theorem Kind.nodup_map_number_pins [Scalar K] (kind : Kind) :
    ((kind.pins (K := K)).map (·.number)).Nodup := by
  rw [kind.map_number_pins]
  exact List.Nodup.sublist (List.take_sublist ..) (by decide)

theorem Kind.length_number_of_mem_pins [Scalar K] {kind : Kind} {pin : Pin K}
    (member : pin ∈ kind.pins) : pin.number.length = 1 := by
  have single : ∀ number ∈ ["1", "2", "3", "4", "5", "6", "7", "8"], number.length = 1 := by
    decide
  have listed : pin.number ∈ kind.pins.map (·.number) := List.mem_map.mpr ⟨pin, member, rfl⟩
  rw [kind.map_number_pins] at listed
  exact single pin.number (List.mem_of_mem_take listed)

/-- A key tells the entity and the number of a pin whose number is a single character. -/
theorem PlacedPin.key_eq_iff {one other : PlacedPin K} (oneSingle : one.pin.number.length = 1)
    (otherSingle : other.pin.number.length = 1) :
    one.key = other.key ↔ one.entity = other.entity ∧ one.pin.number = other.pin.number := by
  constructor
  · intro same
    have sameText := congrArg String.toList same
    simp only [PlacedPin.key, String.toList_append, List.append_assoc] at sameText
    rw [← String.length_toList] at oneSingle otherSingle
    obtain ⟨entities, dotted⟩ := List.append_inj' sameText (by simp [oneSingle, otherSingle])
    exact ⟨String.toList_injective entities,
      String.toList_injective (List.append_cancel_left dotted)⟩
  · rintro ⟨sameEntity, sameNumber⟩
    rw [PlacedPin.key, PlacedPin.key, sameEntity, sameNumber]

/-! ## Registered entities -/

/-- The pins are those of one entity, and their numbers are single characters that differ. -/
structure WiringEntity.BelongsTo (entity : WiringEntity K) (reference : String) : Prop where
  entity_eq : ∀ placed ∈ entity.pins, placed.entity = reference
  single : ∀ placed ∈ entity.pins, placed.pin.number.length = 1
  nodup_numbers : (entity.pins.map (·.pin.number)).Nodup

namespace Wiring

/-- Every entity has pins of its own. -/
def Registered (wiring : Wiring K) : Prop :=
  ∀ reference entity, wiring.entities.find? reference = some entity → entity.BelongsTo reference

theorem registered_empty : (empty : Wiring K).Registered := by
  intro reference entity found
  simp [empty] at found

/-- An entity with pins of its own may take the place of another. -/
theorem Registered.insert {wiring : Wiring K} (registered : wiring.Registered) {reference : String}
    {entity : WiringEntity K} (belongs : entity.BelongsTo reference) :
    Registered { wiring with entities := wiring.entities.insert reference entity } := by
  intro other found
  simp only [Table.find?_insert]
  split
  · next same =>
      rintro ⟨⟩
      exact same ▸ belongs
  · exact registered other found

section Registering

variable [Scalar K] {wiring : Wiring K}

theorem Registered.addComponent (registered : wiring.Registered) (reference : String) (kind : Kind)
    (position : Point K) (rotation : K) :
    (wiring.addComponent reference kind position rotation).Registered := by
  refine registered.insert ⟨?_, ?_, ?_⟩
  · simp
  · simp only [List.forall_mem_map]
    intro pin member
    exact Kind.length_number_of_mem_pins member
  · rw [List.map_map]
    exact kind.nodup_map_number_pins

theorem Registered.addPower (registered : wiring.Registered) (reference rail : String)
    (position : Point K) : (wiring.addPower reference rail position).Registered := by
  refine registered.insert ⟨?_, ?_, ?_⟩
  · simp
  · intro placed member
    obtain rfl := List.mem_singleton.mp member
    exact (by decide : "1".length = 1)
  · simp

/-- The entities of a circuit have pins of their own. -/
theorem registered_ofCircuit (circuit : Circuit K) : (ofCircuit circuit).Registered := by
  unfold ofCircuit
  refine List.foldlRecOn _ _ ?_ fun wiring registered power _ => registered.addPower _ _ _
  exact List.foldlRecOn _ _ registered_empty fun wiring registered component _ =>
    registered.addComponent _ _ _ _

end Registering

/-! ## All pins -/

theorem mem_allPins_iff {wiring : Wiring K} {placed : PlacedPin K} :
    placed ∈ wiring.allPins ↔
      ∃ reference entity, wiring.entities.find? reference = some entity ∧
        placed ∈ entity.pins := by
  simp only [allPins, Table.values, List.mem_flatMap, List.mem_map]
  constructor
  · rintro ⟨entity, ⟨entry, member, rfl⟩, inEntity⟩
    exact ⟨entry.1, entry.2, Table.mem_entries_iff.mp member, inEntity⟩
  · rintro ⟨reference, entity, found, inEntity⟩
    exact ⟨entity, ⟨(reference, entity), Table.mem_entries_iff.mpr found, rfl⟩, inEntity⟩

/-- The keys of all pins differ from one another. -/
theorem Registered.nodup_keys_allPins {wiring : Wiring K} (registered : wiring.Registered) :
    (wiring.allPins.map PlacedPin.key).Nodup := by
  have belongs : ∀ entry ∈ wiring.entities.entries, entry.2.BelongsTo entry.1 :=
    fun entry member => registered entry.1 entry.2 (Table.mem_entries_iff.mp member)
  have distinct : wiring.entities.entries.Pairwise (·.1 ≠ ·.1) :=
    List.pairwise_map.mp wiring.entities.nodup_names
  rw [allPins, Table.values, List.flatMap_map, List.map_flatMap, List.nodup_flatMap]
  refine ⟨?_, distinct.imp_of_mem ?_⟩
  · intro entry member
    have numbers := (belongs entry member).nodup_numbers
    refine List.pairwise_map.mpr ((List.pairwise_map.mp numbers).imp_of_mem ?_)
    intro one other oneMember otherMember numbersDiffer sameKey
    have oneSingle := (belongs entry member).single one oneMember
    have otherSingle := (belongs entry member).single other otherMember
    apply numbersDiffer
    exact ((PlacedPin.key_eq_iff oneSingle otherSingle).mp sameKey).2
  · intro early late earlyMember lateMember referencesDiffer key inEarly inLate
    obtain ⟨one, oneMember, rfl⟩ := List.mem_map.mp inEarly
    obtain ⟨other, otherMember, sameKey⟩ := List.mem_map.mp inLate
    have oneSingle := (belongs early earlyMember).single one oneMember
    have otherSingle := (belongs late lateMember).single other otherMember
    have sameEntity := ((PlacedPin.key_eq_iff otherSingle oneSingle).mp sameKey).1
    rw [(belongs early earlyMember).entity_eq one oneMember,
      (belongs late lateMember).entity_eq other otherMember] at sameEntity
    apply referencesDiffer
    exact sameEntity.symm

/-- Pins with the same key are the same. -/
theorem Registered.eq_of_key_eq {wiring : Wiring K} (registered : wiring.Registered)
    {one other : PlacedPin K} (oneMember : one ∈ wiring.allPins)
    (otherMember : other ∈ wiring.allPins) (sameKey : one.key = other.key) : one = other :=
  List.inj_on_of_nodup_map registered.nodup_keys_allPins oneMember otherMember sameKey

end Wiring
end CircuitSheet
