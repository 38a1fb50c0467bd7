import CircuitSheet.Circuit.PowerKeys
import CircuitSheet.Proofs.Circuit.References
import CircuitSheet.Proofs.Decimal.Plain
import Mathlib.Data.List.Nodup
import Mathlib.Data.List.Perm.Subperm

/-!
# Distinct keys

Numbered names differ from one another, so among more numbers than there are entities one is
free. The keys of power symbols differ from one another and from the references of components
when the references of the circuit do.
-/

namespace CircuitSheet

theorem powerName_injective : Function.Injective powerName := by
  intro first second same
  have sameText := congrArg String.toList same
  simp only [powerName, String.toList_append, String.toList_ofList] at sameText
  have sameNumber := congrArg Decimal.ofDigits (List.append_cancel_left sameText)
  simpa using sameNumber

theorem powerName_ne_empty (number : Nat) : powerName number ≠ "" := by
  intro empty
  have sameText := congrArg String.toList empty
  simp [powerName] at sameText

namespace Circuit

variable {K : Type}

/-- Among one more number than there are entities one is free. -/
theorem exists_free (circuit : Circuit K) (counter : Nat) :
    ∃ number ∈ List.range' (counter + 1) (circuit.entities.length + 1),
      circuit.isTaken (powerName number) = false := by
  by_contra allTaken
  have names :
      ((List.range' (counter + 1) (circuit.entities.length + 1)).map powerName).Nodup :=
    List.Nodup.map powerName_injective List.nodup_range'
  have inUse : (List.range' (counter + 1) (circuit.entities.length + 1)).map powerName ⊆
      circuit.references := by
    intro name member
    obtain ⟨number, candidate, rfl⟩ := List.mem_map.mp member
    have taken : circuit.isTaken (powerName number) = true :=
      eq_true_of_ne_false fun isFree => allTaken ⟨number, candidate, isFree⟩
    exact (isTaken_eq_true_iff.mp taken).2
  have few := (names.subperm inUse).length_le
  simp only [List.length_map, List.length_range', references] at few
  omega

/-- The next number is the least free one after the counter. -/
theorem nextPowerNumber_spec (circuit : Circuit K) (counter : Nat) :
    counter < circuit.nextPowerNumber counter ∧
      circuit.isTaken (powerName (circuit.nextPowerNumber counter)) = false ∧
      ∀ number, counter < number → number < circuit.nextPowerNumber counter →
        circuit.isTaken (powerName number) = true := by
  obtain ⟨free, candidate, isFree⟩ := circuit.exists_free counter
  have found : ((List.range' (counter + 1) (circuit.entities.length + 1)).find? fun number =>
      !circuit.isTaken (powerName number)).isSome := by
    rw [List.find?_isSome]
    exact ⟨free, candidate, by simp [isFree]⟩
  obtain ⟨number, numberEq⟩ := Option.isSome_iff_exists.mp found
  have nextEq : circuit.nextPowerNumber counter = number := by
    rw [nextPowerNumber, numberEq, Option.getD_some]
  obtain ⟨numberFree, inRange, least⟩ := List.find?_range'_eq_some.mp numberEq
  rw [nextEq]
  refine ⟨?_, by simpa using numberFree, ?_⟩
  · rw [List.mem_range'_1] at inRange
    omega
  · intro earlier after before
    simpa using least earlier after before

/-- A name that is free is no reference of the circuit. -/
theorem powerName_not_mem_references {circuit : Circuit K} {number : Nat}
    (isFree : circuit.isTaken (powerName number) = false) :
    powerName number ∉ circuit.references := by
  intro member
  have taken := isTaken_eq_true_iff.mpr ⟨powerName_ne_empty number, member⟩
  rw [isFree] at taken
  cases taken

/-- A key is the reference of its power symbol or a free name with a number after the
counter. -/
theorem mem_keysFrom {circuit : Circuit K} {counter : Nat} {powers : List (PowerSymbol K)}
    {key : String} (member : key ∈ circuit.keysFrom counter powers) :
    (key ≠ "" ∧ ∃ power ∈ powers, power.reference = key) ∨
      ∃ number, counter < number ∧ key = powerName number ∧
        powerName number ∉ circuit.references := by
  induction powers generalizing counter with
  | nil => cases member
  | cons power rest inductionHypothesis =>
      rw [keysFrom] at member
      split at member
      case isTrue unnamed =>
        obtain ⟨after, isFree, -⟩ := circuit.nextPowerNumber_spec counter
        rcases List.mem_cons.mp member with rfl | inRest
        · exact .inr ⟨_, after, rfl, powerName_not_mem_references isFree⟩
        · rcases inductionHypothesis inRest with
            ⟨named, other, inOthers, same⟩ | ⟨number, later, numbered⟩
          · exact .inl ⟨named, other, List.mem_cons_of_mem _ inOthers, same⟩
          · exact .inr ⟨number, by omega, numbered⟩
      case isFalse named =>
        rcases List.mem_cons.mp member with rfl | inRest
        · exact .inl ⟨named, power, List.mem_cons_self, rfl⟩
        · rcases inductionHypothesis inRest with ⟨named, other, inOthers, same⟩ | numbered
          · exact .inl ⟨named, other, List.mem_cons_of_mem _ inOthers, same⟩
          · exact .inr numbered

/-- The keys of power symbols differ when the references that are not empty do. -/
theorem nodup_keysFrom {circuit : Circuit K} {counter : Nat} {powers : List (PowerSymbol K)}
    (belong : ∀ power ∈ powers, power ∈ circuit.powers)
    (distinct : DistinctNames (powers.map (·.reference))) :
    (circuit.keysFrom counter powers).Nodup := by
  induction powers generalizing counter with
  | nil => exact List.nodup_nil
  | cons power rest inductionHypothesis =>
      obtain ⟨belongs, restBelong⟩ := List.forall_mem_cons.mp belong
      rw [List.map_cons, distinctNames_cons] at distinct
      obtain ⟨different, restDistinct⟩ := distinct
      rw [keysFrom]
      split
      case isTrue unnamed =>
        obtain ⟨-, isFree, -⟩ := circuit.nextPowerNumber_spec counter
        refine List.nodup_cons.mpr ⟨?_, inductionHypothesis restBelong restDistinct⟩
        intro inRest
        rcases mem_keysFrom inRest with ⟨named, other, inOthers, same⟩ | ⟨number, after, same, -⟩
        · apply powerName_not_mem_references isFree
          exact mem_references_iff.mpr (.inr ⟨other, restBelong other inOthers, same⟩)
        · have equal := powerName_injective same
          omega
      case isFalse named =>
        refine List.nodup_cons.mpr ⟨?_, inductionHypothesis restBelong restDistinct⟩
        intro inRest
        rcases mem_keysFrom inRest with ⟨-, other, inOthers, same⟩ | ⟨number, -, same, absent⟩
        · exact different named (List.mem_map.mpr ⟨other, inOthers, same⟩)
        · apply absent
          exact mem_references_iff.mpr (.inr ⟨power, belongs, same⟩)

/-- The references of components and the keys of power symbols differ from one another, the empty
reference apart. -/
theorem distinctNames_append_powerKeys {circuit : Circuit K}
    (distinct : DistinctNames circuit.references) :
    DistinctNames (circuit.components.map (·.reference) ++ circuit.powerKeys) := by
  rw [DistinctNames, references_eq, List.filter_append, List.nodup_append] at distinct
  obtain ⟨components, powers, disjoint⟩ := distinct
  rw [DistinctNames, List.filter_append, List.nodup_append]
  refine ⟨components, (nodup_keysFrom (fun _ member => member) powers).filter _, ?_⟩
  rintro reference inComponents key inKeys rfl
  rcases mem_keysFrom (List.mem_filter.mp inKeys).1 with
    ⟨named, power, member, same⟩ | ⟨number, -, same, absent⟩
  · refine disjoint reference inComponents reference (List.mem_filter.mpr ⟨?_, ?_⟩) rfl
    · exact List.mem_map.mpr ⟨power, member, same⟩
    · simpa using named
  · obtain ⟨component, member, sameReference⟩ := List.mem_map.mp (List.mem_filter.mp inComponents).1
    apply absent
    exact mem_references_iff.mpr (.inl ⟨component, member, sameReference.trans same⟩)

/-- Where references differ, so do the references of components and the keys of power symbols. -/
theorem DistinctReferences.nodup_keys {circuit : Circuit K}
    (distinct : circuit.DistinctReferences) :
    (circuit.components.map (·.reference) ++ circuit.powerKeys).Nodup := by
  obtain ⟨components, powers, disjoint⟩ := List.nodup_append.mp distinct
  rw [List.nodup_append]
  refine ⟨components, nodup_keysFrom (fun _ member => member) powers, ?_⟩
  rintro reference inComponents key inKeys rfl
  rcases mem_keysFrom inKeys with ⟨named, power, member, same⟩ | ⟨number, -, same, absent⟩
  · refine disjoint reference inComponents reference (List.mem_filter.mpr ⟨?_, ?_⟩) rfl
    · exact List.mem_map.mpr ⟨power, member, same⟩
    · simpa using named
  · obtain ⟨component, member, sameReference⟩ := List.mem_map.mp inComponents
    apply absent
    exact mem_references_iff.mpr (.inl ⟨component, member, sameReference.trans same⟩)

/-- Keys are never empty. -/
theorem ne_empty_of_mem_powerKeys {circuit : Circuit K} {key : String}
    (member : key ∈ circuit.powerKeys) : key ≠ "" := by
  rcases mem_keysFrom member with ⟨named, -⟩ | ⟨number, -, rfl, -⟩
  · exact named
  · exact powerName_ne_empty number

theorem keysFrom_of_named {circuit : Circuit K} {counter : Nat} {powers : List (PowerSymbol K)}
    (named : ∀ power ∈ powers, power.reference ≠ "") :
    circuit.keysFrom counter powers = powers.map (·.reference) := by
  induction powers with
  | nil => rfl
  | cons power rest inductionHypothesis =>
      obtain ⟨powerNamed, restNamed⟩ := List.forall_mem_cons.mp named
      rw [keysFrom, if_neg powerNamed, inductionHypothesis restNamed, List.map_cons]

/-- The keys are the references exactly if no reference is empty. -/
theorem powerKeys_eq_references_iff {circuit : Circuit K} :
    circuit.powerKeys = circuit.powers.map (·.reference) ↔
      ∀ power ∈ circuit.powers, power.reference ≠ "" := by
  refine ⟨fun same power member => ?_, keysFrom_of_named⟩
  exact ne_empty_of_mem_powerKeys (same ▸ List.mem_map_of_mem member)

/-! ## Keys and references -/

theorem isTaken_congr {one other : Circuit K} (same : one.references = other.references)
    (reference : String) : one.isTaken reference = other.isTaken reference := by
  rw [isTaken, isTaken, entity?_isSome, entity?_isSome, same]

theorem nextPowerNumber_congr {one other : Circuit K} (same : one.references = other.references)
    (counter : Nat) : one.nextPowerNumber counter = other.nextPowerNumber counter := by
  have sameCount : one.entities.length = other.entities.length := by
    simpa [references] using congrArg List.length same
  simp only [nextPowerNumber, isTaken_congr same, sameCount]

theorem keysFrom_congr {one other : Circuit K} (same : one.references = other.references)
    {powers others : List (PowerSymbol K)}
    (sameNames : powers.map (·.reference) = others.map (·.reference)) (counter : Nat) :
    one.keysFrom counter powers = other.keysFrom counter others := by
  induction powers generalizing counter others with
  | nil =>
      obtain rfl := List.map_eq_nil_iff.mp sameNames.symm
      rfl
  | cons power rest inductionHypothesis =>
      obtain ⟨otherPower, otherRest, rfl, sameName, sameRest⟩ :=
        List.map_eq_cons_iff.mp sameNames.symm
      simp only [keysFrom, sameName, nextPowerNumber_congr same,
        inductionHypothesis sameRest.symm]

/-- Keys depend on references alone. -/
theorem powerKeys_congr {one other : Circuit K}
    (sameComponents : one.components.map (·.reference) = other.components.map (·.reference))
    (samePowers : one.powers.map (·.reference) = other.powers.map (·.reference)) :
    one.powerKeys = other.powerKeys := by
  have same : one.references = other.references := by
    rw [references_eq, references_eq, sameComponents, samePowers]
  exact keysFrom_congr same samePowers 0

theorem map_snd_keyedPowers (circuit : Circuit K) :
    circuit.keyedPowers.map Prod.snd = circuit.powerKeys :=
  List.map_snd_zip (by simp)

theorem map_fst_keyedPowers (circuit : Circuit K) :
    circuit.keyedPowers.map Prod.fst = circuit.powers :=
  List.map_fst_zip (by simp)

/-- A power symbol with a reference has it for its key. -/
theorem mem_keyedPowers_of_named {circuit : Circuit K} {power : PowerSymbol K}
    (member : power ∈ circuit.powers) (named : power.reference ≠ "") :
    (power, power.reference) ∈ circuit.keyedPowers := by
  unfold keyedPowers powerKeys
  generalize 0 = counter
  generalize circuit.powers = powers at member ⊢
  induction powers generalizing counter with
  | nil => cases member
  | cons first rest inductionHypothesis =>
      rw [keysFrom]
      rcases List.mem_cons.mp member with rfl | inRest
      · rw [if_neg named]
        exact List.mem_cons_self
      · split
        · exact List.mem_cons_of_mem _ (inductionHypothesis _ inRest)
        · exact List.mem_cons_of_mem _ (inductionHypothesis _ inRest)

end Circuit
end CircuitSheet
