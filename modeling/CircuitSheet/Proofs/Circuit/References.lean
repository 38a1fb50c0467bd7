import CircuitSheet.Circuit.Basic

/-!
# References

An entity joins a circuit when its reference is free. Entities with different references that
are all free join one after the other, in their order.
-/

namespace CircuitSheet

variable {K : Type}

namespace Entity

/-- The component that an entity is. -/
def component? : Entity K → Option (Component K)
  | component part => some part
  | power _ => none

/-- The power symbol that an entity is. -/
def power? : Entity K → Option (PowerSymbol K)
  | component _ => none
  | power symbol => some symbol

@[simp] theorem component?_component (part : Component K) :
    (component part).component? = some part := rfl

@[simp] theorem component?_power (symbol : PowerSymbol K) :
    (power symbol).component? = none := rfl

@[simp] theorem power?_component (part : Component K) :
    (component part).power? = none := rfl

@[simp] theorem power?_power (symbol : PowerSymbol K) :
    (power symbol).power? = some symbol := rfl

@[simp] theorem reference_component (part : Component K) :
    (component part).reference = part.reference := rfl

@[simp] theorem reference_power (symbol : PowerSymbol K) :
    (power symbol).reference = symbol.reference := rfl

end Entity

namespace Circuit

/-- No two components share a reference, and none shares one with a power symbol. Power symbols
may share only the empty one. -/
def DistinctReferences (circuit : Circuit K) : Prop :=
  (circuit.components.map (·.reference) ++
    (circuit.powers.map (·.reference)).filter (· ≠ "")).Nodup

/-- No reference occurs twice, unless it is the empty one. -/
def DistinctNames (references : List String) : Prop :=
  (references.filter (· ≠ "")).Nodup

theorem distinctNames_cons {reference : String} {others : List String} :
    DistinctNames (reference :: others) ↔
      (reference ≠ "" → reference ∉ others) ∧ DistinctNames others := by
  by_cases unnamed : reference = ""
  · simp [DistinctNames, unnamed]
  · simp [DistinctNames, unnamed]

theorem DistinctNames.perm {one other : List String} (distinct : DistinctNames one)
    (perm : one.Perm other) : DistinctNames other :=
  (perm.filter _).nodup_iff.mp distinct

/-- Add an entity; one whose reference is taken is left out. -/
def addEntity (circuit : Circuit K) : Entity K → Circuit K
  | .component component => circuit.addComponent component
  | .power power => circuit.addPower power

theorem forall_mem_entities {circuit : Circuit K} {holds : Entity K → Prop} :
    (∀ entity ∈ circuit.entities, holds entity) ↔
      (∀ component ∈ circuit.components, holds (.component component)) ∧
        ∀ power ∈ circuit.powers, holds (.power power) := by
  simp only [entities, List.forall_mem_append, List.forall_mem_map]

theorem references_eq (circuit : Circuit K) :
    circuit.references =
      circuit.components.map (·.reference) ++ circuit.powers.map (·.reference) := by
  simp [references, entities, Function.comp_def]

theorem mem_references_iff {circuit : Circuit K} {reference : String} :
    reference ∈ circuit.references ↔
      (∃ component ∈ circuit.components, component.reference = reference) ∨
        ∃ power ∈ circuit.powers, power.reference = reference := by
  simp [references_eq]

theorem DistinctReferences.distinctNames {circuit : Circuit K}
    (distinct : circuit.DistinctReferences) : DistinctNames circuit.references := by
  rw [DistinctNames, references_eq, List.filter_append]
  exact distinct.sublist ((List.filter_sublist ..).append_right _)

theorem isTaken_eq_true_iff {circuit : Circuit K} {reference : String} :
    circuit.isTaken reference = true ↔ reference ≠ "" ∧ reference ∈ circuit.references := by
  rw [isTaken, entity?_isSome, Bool.and_eq_true, bne_iff_ne, List.contains_iff_mem]

theorem isTaken_eq_false_iff {circuit : Circuit K} {reference : String} :
    circuit.isTaken reference = false ↔ (reference ≠ "" → reference ∉ circuit.references) := by
  rw [← Bool.not_eq_true, isTaken_eq_true_iff, not_and]

@[simp] theorem isTaken_named (name reference : String) :
    (named name : Circuit K).isTaken reference = false := by
  simp [isTaken_eq_false_iff, references]

@[simp] theorem filterMap_component?_entities (circuit : Circuit K) :
    circuit.entities.filterMap (·.component?) = circuit.components := by
  simp [entities, List.filterMap_map, Function.comp_def]

@[simp] theorem filterMap_power?_entities (circuit : Circuit K) :
    circuit.entities.filterMap (·.power?) = circuit.powers := by
  simp [entities, List.filterMap_map, Function.comp_def]

/-! ## Joining a circuit -/

/-- An entity whose reference is not taken joins its like at the end. -/
theorem addEntity_of_free {circuit : Circuit K} {entity : Entity K}
    (free : circuit.isTaken entity.reference = false) :
    circuit.addEntity entity =
      { circuit with
        components := circuit.components ++ entity.component?.toList
        powers := circuit.powers ++ entity.power?.toList } := by
  cases entity with
  | component part =>
      rw [Entity.reference_component] at free
      simp [addEntity, addComponent, addComponent?, free]
  | power symbol =>
      rw [Entity.reference_power] at free
      simp [addEntity, addPower, addPower?, free]

theorem addEntity_of_taken {circuit : Circuit K} {entity : Entity K}
    (taken : circuit.isTaken entity.reference = true) : circuit.addEntity entity = circuit := by
  cases entity with
  | component part =>
      rw [Entity.reference_component] at taken
      simp [addEntity, addComponent, addComponent?, taken]
  | power symbol =>
      rw [Entity.reference_power] at taken
      simp [addEntity, addPower, addPower?, taken]

@[simp] theorem connections_addEntity (circuit : Circuit K) (entity : Entity K) :
    (circuit.addEntity entity).connections = circuit.connections := by
  cases taken : circuit.isTaken entity.reference with
  | true => rw [addEntity_of_taken taken]
  | false => rw [addEntity_of_free taken]

theorem entities_addEntity_perm {circuit : Circuit K} {entity : Entity K}
    (free : circuit.isTaken entity.reference = false) :
    (circuit.addEntity entity).entities.Perm (entity :: circuit.entities) := by
  rw [addEntity_of_free free]
  cases entity with
  | component part => simp [entities]
  | power symbol =>
      simp only [entities, Entity.component?_power, Entity.power?_power, Option.toList_none,
        Option.toList_some, List.append_nil, List.map_append, List.map_singleton,
        ← List.append_assoc]
      exact List.perm_append_singleton ..

theorem references_addEntity_perm {circuit : Circuit K} {entity : Entity K}
    (free : circuit.isTaken entity.reference = false) :
    (circuit.addEntity entity).references.Perm (entity.reference :: circuit.references) :=
  (entities_addEntity_perm free).map Entity.reference

/-- Whatever joins, names stay distinct. -/
theorem DistinctNames.addEntity {circuit : Circuit K}
    (distinct : DistinctNames circuit.references) (entity : Entity K) :
    DistinctNames (circuit.addEntity entity).references := by
  cases taken : circuit.isTaken entity.reference with
  | true => rwa [addEntity_of_taken taken]
  | false =>
      refine DistinctNames.perm ?_ (references_addEntity_perm taken).symm
      exact distinctNames_cons.mpr ⟨isTaken_eq_false_iff.mp taken, distinct⟩

/-- Entities with new references join in their order. -/
theorem foldl_addEntity {circuit : Circuit K} {entities : List (Entity K)}
    (distinct : DistinctNames (entities.map (·.reference)))
    (free : ∀ entity ∈ entities, circuit.isTaken entity.reference = false) :
    entities.foldl addEntity circuit =
      { circuit with
        components := circuit.components ++ entities.filterMap (·.component?)
        powers := circuit.powers ++ entities.filterMap (·.power?) } := by
  induction entities generalizing circuit with
  | nil => simp
  | cons entity rest inductionHypothesis =>
      obtain ⟨entityFree, restFree⟩ := List.forall_mem_cons.mp free
      rw [List.map_cons, distinctNames_cons] at distinct
      obtain ⟨different, restDistinct⟩ := distinct
      have restFreeAfter : ∀ other ∈ rest,
          (circuit.addEntity entity).isTaken other.reference = false := by
        intro other member
        rw [isTaken_eq_false_iff, (references_addEntity_perm entityFree).mem_iff, List.mem_cons,
          not_or]
        intro named
        refine ⟨fun same => ?_, isTaken_eq_false_iff.mp (restFree other member) named⟩
        exact different (same ▸ named) (same ▸ List.mem_map_of_mem member)
      rw [List.foldl_cons, inductionHypothesis restDistinct restFreeAfter,
        addEntity_of_free entityFree]
      cases entity <;> simp [List.filterMap_cons]

/-- Of entities that join one after the other, those without a reference come to be in the circuit,
and the first with each reference that is not taken. -/
theorem mem_entities_foldl_addEntity {circuit : Circuit K} {entities : List (Entity K)}
    {entity : Entity K} :
    entity ∈ (entities.foldl addEntity circuit).entities ↔
      entity ∈ circuit.entities ∨ circuit.isTaken entity.reference = false ∧ entity ∈ entities ∧
        (entity.reference ≠ "" →
          entities.find? (·.reference == entity.reference) = some entity) := by
  induction entities generalizing circuit with
  | nil => simp
  | cons head rest inductionHypothesis =>
      rw [List.foldl_cons, inductionHypothesis, List.mem_cons, List.find?_cons]
      cases taken : circuit.isTaken head.reference with
      | true =>
          rw [addEntity_of_taken taken]
          grind
      | false =>
          have free := isTaken_eq_false_iff.mp taken
          rw [(entities_addEntity_perm taken).mem_iff, isTaken_eq_false_iff, isTaken_eq_false_iff,
            (references_addEntity_perm taken).mem_iff, List.mem_cons, List.mem_cons]
          grind

end Circuit
end CircuitSheet
