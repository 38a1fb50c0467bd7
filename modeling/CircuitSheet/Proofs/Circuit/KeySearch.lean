import CircuitSheet.Proofs.Boundary.Correction
import CircuitSheet.Proofs.Circuit.PowerKeys
import Mathlib.Logic.Function.Iterate
import Mathlib.Order.Bounds.Basic

/-!
# The search for keys

A power symbol without a reference tries one number after the other until a name is free, and the
next one goes on from there. Here each try is a pass of its own, and nothing bounds their number.
What ends them is that every number which is tried in vain belongs to an entity. They end with one
key for each power symbol, in order: its reference, or the name with the least free number above
those that were tried before.
-/

namespace CircuitSheet

/-- Where the search for keys stands: the number that was tried last, the power symbols that still
lack a key, and the keys of those before them. -/
structure KeySearch (K : Type) where
  tried : ℕ
  waiting : List (PowerSymbol K)
  keys : List String

namespace Circuit

variable {K : Type} {circuit : Circuit K} {tried : ℕ} {search : KeySearch K}

/-! ## Passes -/

/-- One pass of the search. The first symbol that waits keeps its reference; for one that has none
the next number is tried, and while its name is taken the symbol goes on waiting. -/
def keyPass (circuit : Circuit K) : KeySearch K → KeySearch K
  | ⟨tried, [], keys⟩ => ⟨tried, [], keys⟩
  | ⟨tried, power :: rest, keys⟩ =>
      if power.reference ≠ "" then ⟨tried, rest, keys ++ [power.reference]⟩
      else if circuit.isTaken (powerName (tried + 1)) then ⟨tried + 1, power :: rest, keys⟩
      else ⟨tried + 1, rest, keys ++ [powerName (tried + 1)]⟩

/-- The numbers above the one that was tried last whose names no entity of the circuit bears. -/
def freeNumbers (circuit : Circuit K) (tried : ℕ) : Set ℕ :=
  {number | tried < number ∧ powerName number ∉ circuit.references}

/-- Keys for power symbols in order when a number was tried last. A symbol keeps its reference; one
without is given the name with the least free number. -/
inductive KeyedAfter (circuit : Circuit K) : ℕ → List (PowerSymbol K) → List String → Prop
  | nil {tried : ℕ} : KeyedAfter circuit tried [] []
  | named {tried : ℕ} {power : PowerSymbol K} {rest : List (PowerSymbol K)} {keys : List String}
      (named : power.reference ≠ "") (others : KeyedAfter circuit tried rest keys) :
      KeyedAfter circuit tried (power :: rest) (power.reference :: keys)
  | numbered {tried number : ℕ} {power : PowerSymbol K} {rest : List (PowerSymbol K)}
      {keys : List String} (unnamed : power.reference = "")
      (least : IsLeast (circuit.freeNumbers tried) number)
      (others : KeyedAfter circuit number rest keys) :
      KeyedAfter circuit tried (power :: rest) (powerName number :: keys)

/-! ## Least free numbers -/

theorem isTaken_powerName_iff {number : ℕ} :
    circuit.isTaken (powerName number) = true ↔ powerName number ∈ circuit.references := by
  rw [isTaken_eq_true_iff, and_iff_right (powerName_ne_empty number)]

/-- The next number is the least free one above the number that was tried last. -/
theorem isLeast_nextPowerNumber (circuit : Circuit K) (tried : ℕ) :
    IsLeast (circuit.freeNumbers tried) (circuit.nextPowerNumber tried) := by
  obtain ⟨after, isFree, below⟩ := circuit.nextPowerNumber_spec tried
  refine ⟨⟨after, powerName_not_mem_references isFree⟩, ?_⟩
  rintro number ⟨later, free⟩
  by_contra earlier
  exact free (isTaken_powerName_iff.mp (below number later (not_le.mp earlier)))

/-- A number that is taken is passed over. -/
theorem nextPowerNumber_of_taken (taken : circuit.isTaken (powerName (tried + 1)) = true) :
    circuit.nextPowerNumber tried = circuit.nextPowerNumber (tried + 1) := by
  have same : circuit.freeNumbers tried = circuit.freeNumbers (tried + 1) := by
    ext number
    refine and_congr_left fun free => ?_
    have notNext : number ≠ tried + 1 := by
      rintro rfl
      exact free (isTaken_powerName_iff.mp taken)
    omega
  have least := circuit.isLeast_nextPowerNumber tried
  rw [same] at least
  exact least.unique (circuit.isLeast_nextPowerNumber (tried + 1))

theorem nextPowerNumber_of_free (free : circuit.isTaken (powerName (tried + 1)) = false) :
    circuit.nextPowerNumber tried = tried + 1 := by
  have isFree : tried + 1 ∈ circuit.freeNumbers tried :=
    ⟨Nat.lt_succ_self tried, powerName_not_mem_references free⟩
  obtain ⟨⟨after, -⟩, least⟩ := circuit.isLeast_nextPowerNumber tried
  exact Nat.le_antisymm (least isFree) after

/-- The keys are those that the rule gives. -/
theorem keyedAfter_keysFrom (circuit : Circuit K) (tried : ℕ) (powers : List (PowerSymbol K)) :
    circuit.KeyedAfter tried powers (circuit.keysFrom tried powers) := by
  induction powers generalizing tried with
  | nil => exact .nil
  | cons power rest inductionHypothesis =>
      rw [keysFrom]
      split
      case isTrue unnamed =>
        exact .numbered unnamed (circuit.isLeast_nextPowerNumber tried) (inductionHypothesis _)
      case isFalse named => exact .named named (inductionHypothesis tried)

/-! ## What passes keep -/

/-- The keys that a search will come to. -/
def answer (circuit : Circuit K) (search : KeySearch K) : List String :=
  search.keys ++ circuit.keysFrom search.tried search.waiting

/-- How many of the numbers from one up to `tried` have names that are taken. -/
def takenUpTo (circuit : Circuit K) (tried : ℕ) : ℕ :=
  (List.range' 1 tried).countP fun number => circuit.isTaken (powerName number)

/-- How many power symbols have no reference. -/
def unnamedCount (powers : List (PowerSymbol K)) : ℕ :=
  powers.countP fun power => power.reference = ""

/-- How many entities have a reference. -/
def namedCount (circuit : Circuit K) : ℕ :=
  circuit.references.countP fun reference => reference ≠ ""

/-- Each number that was tried is taken or was given to a symbol that waits no more. -/
def IsAccounted (circuit : Circuit K) (search : KeySearch K) : Prop :=
  search.tried + unnamedCount search.waiting =
    unnamedCount circuit.powers + circuit.takenUpTo search.tried

/-- How many passes are left at most: one for each symbol that waits, and one for each reference
that may still turn out to be in use. -/
def passesLeft (circuit : Circuit K) (search : KeySearch K) : ℕ :=
  search.waiting.length + (circuit.namedCount - circuit.takenUpTo search.tried)

theorem takenUpTo_succ (circuit : Circuit K) (tried : ℕ) :
    circuit.takenUpTo (tried + 1) =
      circuit.takenUpTo tried + if circuit.isTaken (powerName (tried + 1)) then 1 else 0 := by
  rw [takenUpTo, List.range'_concat, List.countP_append, List.countP_singleton, takenUpTo,
    Nat.one_mul, Nat.add_comm 1 tried]

/-- Names that are taken are different references. -/
theorem takenUpTo_le (circuit : Circuit K) (tried : ℕ) :
    circuit.takenUpTo tried ≤ circuit.namedCount := by
  let taken := (List.range' 1 tried).filter fun number => circuit.isTaken (powerName number)
  have names : (taken.map powerName).Nodup :=
    (List.Nodup.filter _ List.nodup_range').map powerName_injective
  have inUse : taken.map powerName ⊆ circuit.references.filter fun reference => reference ≠ "" := by
    intro name member
    obtain ⟨number, isTaken, rfl⟩ := List.mem_map.mp member
    have reference := isTaken_eq_true_iff.mp (List.mem_filter.mp isTaken).2
    exact List.mem_filter.mpr ⟨reference.2, decide_eq_true reference.1⟩
  have few := (names.subperm inUse).length_le
  rwa [List.length_map, ← List.countP_eq_length_filter, ← List.countP_eq_length_filter] at few

/-- An entity cannot both have a reference and be without one. -/
theorem unnamedCount_add_namedCount_le (circuit : Circuit K) :
    unnamedCount circuit.powers + circuit.namedCount ≤ circuit.entities.length := by
  have all := List.length_eq_countP_add_countP (fun reference : String => reference = "")
    (l := circuit.references)
  have unnamed : unnamedCount circuit.powers ≤
      circuit.references.countP fun reference => reference = "" := by
    rw [references_eq, List.countP_append, List.countP_map, List.countP_map]
    exact Nat.le_add_left ..
  rw [references, List.length_map, ← references] at all
  simp only [decide_eq_true_eq] at all
  rw [all, namedCount]
  exact Nat.add_le_add_right unnamed _

/-- What one pass does to a symbol that waits. -/
theorem keyPass_cases (circuit : Circuit K) (tried : ℕ) (power : PowerSymbol K)
    (rest : List (PowerSymbol K)) (keys : List String) :
    (power.reference ≠ "" ∧
        circuit.keyPass ⟨tried, power :: rest, keys⟩ = ⟨tried, rest, keys ++ [power.reference]⟩) ∨
      (power.reference = "" ∧ circuit.isTaken (powerName (tried + 1)) = true ∧
        circuit.keyPass ⟨tried, power :: rest, keys⟩ = ⟨tried + 1, power :: rest, keys⟩) ∨
      power.reference = "" ∧ circuit.isTaken (powerName (tried + 1)) = false ∧
        circuit.keyPass ⟨tried, power :: rest, keys⟩ =
          ⟨tried + 1, rest, keys ++ [powerName (tried + 1)]⟩ := by
  by_cases named : power.reference = ""
  · cases taken : circuit.isTaken (powerName (tried + 1)) <;> simp [keyPass, named, taken]
  · simp [keyPass, named]

/-- No pass changes the keys that the search will come to. -/
theorem answer_keyPass (circuit : Circuit K) (search : KeySearch K) :
    circuit.answer (circuit.keyPass search) = circuit.answer search := by
  obtain ⟨tried, _ | ⟨power, rest⟩, keys⟩ := search
  · rfl
  · rcases circuit.keyPass_cases tried power rest keys with
      ⟨named, pass⟩ | ⟨unnamed, taken, pass⟩ | ⟨unnamed, free, pass⟩
    · simp [pass, answer, keysFrom, named]
    · simp [pass, answer, keysFrom, unnamed, nextPowerNumber_of_taken taken]
    · simp [pass, answer, keysFrom, unnamed, nextPowerNumber_of_free free]

theorem IsAccounted.keyPass (accounted : circuit.IsAccounted search) :
    circuit.IsAccounted (circuit.keyPass search) := by
  obtain ⟨tried, _ | ⟨power, rest⟩, keys⟩ := search
  · exact accounted
  · have counted : unnamedCount (power :: rest) =
        unnamedCount rest + if power.reference = "" then 1 else 0 := by
      simp [unnamedCount, List.countP_cons]
    have further := circuit.takenUpTo_succ tried
    unfold IsAccounted at accounted ⊢
    rcases circuit.keyPass_cases tried power rest keys with
      ⟨named, pass⟩ | ⟨unnamed, taken, pass⟩ | ⟨unnamed, free, pass⟩
    · rw [if_neg named] at counted
      simp only [pass] at accounted ⊢
      omega
    · rw [if_pos taken] at further
      simp only [pass] at accounted ⊢
      omega
    · rw [if_pos unnamed] at counted
      rw [if_neg (Bool.eq_false_iff.mp free)] at further
      simp only [pass] at accounted ⊢
      omega

/-- Every pass uses up one of those that are left while a symbol waits. -/
theorem passesLeft_keyPass_lt (waits : search.waiting ≠ []) :
    circuit.passesLeft (circuit.keyPass search) < circuit.passesLeft search := by
  obtain ⟨tried, _ | ⟨power, rest⟩, keys⟩ := search
  · exact absurd rfl waits
  · have further := circuit.takenUpTo_succ tried
    have bounded := circuit.takenUpTo_le (tried + 1)
    rcases circuit.keyPass_cases tried power rest keys with
      ⟨named, pass⟩ | ⟨unnamed, taken, pass⟩ | ⟨unnamed, free, pass⟩
    · simp only [pass, passesLeft, List.length_cons]
      omega
    · rw [if_pos taken] at further
      simp only [pass, passesLeft, List.length_cons]
      omega
    · simp only [pass, passesLeft, List.length_cons]
      omega

/-! ## Runs -/

/-- Passes come to an end, with a key for every symbol that waited. -/
theorem exists_iterate_keyPass (circuit : Circuit K) (search : KeySearch K) :
    ∃ passes ≤ circuit.passesLeft search,
      (circuit.keyPass^[passes] search).waiting = [] := by
  by_cases waits : search.waiting = []
  · exact ⟨0, Nat.zero_le _, waits⟩
  · -- The number that is tried has no bound of its own; what falls is the count of passes left.
    have fewer := circuit.passesLeft_keyPass_lt waits
    obtain ⟨passes, enough, done⟩ := circuit.exists_iterate_keyPass (circuit.keyPass search)
    exact ⟨passes + 1, by omega, done⟩
termination_by circuit.passesLeft search

/-- What every pass keeps holds after any number of passes. -/
theorem iterate_keyPass_keeps (accounted : circuit.IsAccounted search) (passes : ℕ) :
    circuit.answer (circuit.keyPass^[passes] search) = circuit.answer search ∧
      circuit.IsAccounted (circuit.keyPass^[passes] search) := by
  induction passes with
  | zero => exact ⟨rfl, accounted⟩
  | succ passes inductionHypothesis =>
      rw [Function.iterate_succ_apply', answer_keyPass]
      exact ⟨inductionHypothesis.1, inductionHypothesis.2.keyPass⟩

/-- A search that has not tried a number yet ends with the keys of the circuit. -/
theorem exists_iterate_keyPass_eq_powerKeys (circuit : Circuit K) :
    ∃ passes ≤ circuit.powers.length + circuit.entities.length,
      ∃ tried ≤ circuit.entities.length,
        circuit.keyPass^[passes] ⟨0, circuit.powers, []⟩ = ⟨tried, [], circuit.powerKeys⟩ := by
  have entities := circuit.unnamedCount_add_namedCount_le
  have outset : circuit.IsAccounted ⟨0, circuit.powers, []⟩ := by
    simp [IsAccounted, takenUpTo]
  obtain ⟨passes, enough, done⟩ := circuit.exists_iterate_keyPass ⟨0, circuit.powers, []⟩
  -- Nothing waits at the end, so the answer is the keys, and every number tried is accounted for.
  obtain ⟨sameAnswer, accounted⟩ := iterate_keyPass_keeps outset passes
  have left : circuit.passesLeft ⟨0, circuit.powers, []⟩ ≤
      circuit.powers.length + circuit.namedCount :=
    Nat.add_le_add_left (Nat.sub_le ..) _
  refine ⟨passes, by omega, ?_⟩
  generalize circuit.keyPass^[passes] ⟨0, circuit.powers, []⟩ = ended at done sameAnswer accounted ⊢
  obtain ⟨tried, waiting, keys⟩ := ended
  obtain rfl : waiting = [] := done
  have few := circuit.takenUpTo_le tried
  simp only [IsAccounted, unnamedCount, List.countP_nil] at accounted entities
  simp only [answer, keysFrom, List.append_nil, List.nil_append] at sameAnswer
  exact ⟨tried, by omega, by rw [sameAnswer]; rfl⟩

/-! ## Keys -/

/-- Where references differ, no key is the reference of a component, and no two keys are the
same. -/
theorem DistinctReferences.distinctKeys (distinct : circuit.DistinctReferences) :
    circuit.powerKeys.Nodup ∧
      ∀ component ∈ circuit.components, component.reference ∉ circuit.powerKeys := by
  obtain ⟨-, keys, disjoint⟩ := List.nodup_append.mp distinct.nodup_keys
  refine ⟨keys, fun component member inKeys => ?_⟩
  exact disjoint _ (List.mem_map_of_mem member) _ inKeys rfl

/-- Circuits that differ at most in positions have the same keys. -/
theorem SameBesidesPositions.powerKeys_eq {one other : Circuit K}
    (same : one.SameBesidesPositions other) : one.powerKeys = other.powerKeys := by
  apply powerKeys_congr
  · rw [← List.forall₂_eq_eq_eq, List.forall₂_map_left_iff, List.forall₂_map_right_iff]
    exact same.components.imp fun _ _ moved => (congrArg Component.reference moved).symm
  · rw [← List.forall₂_eq_eq_eq, List.forall₂_map_left_iff, List.forall₂_map_right_iff]
    exact same.powers.imp fun _ _ moved => (congrArg PowerSymbol.reference moved).symm

/-- The search for keys ends after at most one pass for each power symbol and one for each entity,
without a number beyond the count of entities having been tried. What it ends with are the keys:
one for each power symbol in order, its reference or the name with the least free number above all
that were tried before. Where references differ, so do the keys from one another and from the
references of components. No key is a matter of positions. -/
theorem powerKeys_searched (circuit : Circuit K) :
    (∃ passes ≤ circuit.powers.length + circuit.entities.length,
      ∃ tried ≤ circuit.entities.length,
        circuit.keyPass^[passes] ⟨0, circuit.powers, []⟩ = ⟨tried, [], circuit.powerKeys⟩) ∧
    circuit.KeyedAfter 0 circuit.powers circuit.powerKeys ∧
    (circuit.DistinctReferences →
      circuit.powerKeys.Nodup ∧
        ∀ component ∈ circuit.components, component.reference ∉ circuit.powerKeys) ∧
    ∀ moved, circuit.SameBesidesPositions moved → moved.powerKeys = circuit.powerKeys :=
  ⟨circuit.exists_iterate_keyPass_eq_powerKeys, circuit.keyedAfter_keysFrom 0 circuit.powers,
    fun distinct => distinct.distinctKeys, fun _ same => same.powerKeys_eq.symm⟩

/-- Numbered names are in use by a component and by a power symbol. -/
def numberedCircuit (place : Point ℕ) : Circuit ℕ where
  name := "x"
  components :=
    [Component.ofKind "R1" .resistor "1k" place, Component.ofKind "#PWR0002" .led "red" place]
  powers :=
    [⟨"", "GND", place⟩, ⟨"#PWR0001", "+5V", place⟩, ⟨"", "GND", place⟩, ⟨"V1", "+9V", place⟩,
      ⟨"", "GND", place⟩]
  connections := []

theorem powerKeys_searched_numbered :
    (numberedCircuit ⟨20, 30⟩).DistinctReferences ∧
      (numberedCircuit ⟨20, 30⟩).SameBesidesPositions (numberedCircuit ⟨50, 80⟩) ∧
      (∃ passes ≤ 12, ∃ tried ≤ 7,
        (numberedCircuit ⟨20, 30⟩).keyPass^[passes] ⟨0, (numberedCircuit ⟨20, 30⟩).powers, []⟩ =
          ⟨tried, [], ["#PWR0003", "#PWR0001", "#PWR0004", "V1", "#PWR0005"]⟩) ∧
      (numberedCircuit ⟨20, 30⟩).powerKeys.Nodup ∧
      (∀ component ∈ (numberedCircuit ⟨20, 30⟩).components,
        component.reference ∉ (numberedCircuit ⟨20, 30⟩).powerKeys) ∧
      (numberedCircuit ⟨50, 80⟩).powerKeys =
        ["#PWR0003", "#PWR0001", "#PWR0004", "V1", "#PWR0005"] := by
  have keys : (numberedCircuit ⟨20, 30⟩).powerKeys =
      ["#PWR0003", "#PWR0001", "#PWR0004", "V1", "#PWR0005"] := by
    decide +kernel
  have same : (numberedCircuit ⟨20, 30⟩).SameBesidesPositions (numberedCircuit ⟨50, 80⟩) := by
    constructor <;> simp [numberedCircuit, Component.ofKind]
  have distinct : (numberedCircuit ⟨20, 30⟩).DistinctReferences := by
    unfold DistinctReferences
    decide
  obtain ⟨search, -, distinctKeys, unmoved⟩ := powerKeys_searched (numberedCircuit ⟨20, 30⟩)
  obtain ⟨nodup, apart⟩ := distinctKeys distinct
  rw [keys] at search
  exact ⟨distinct, same, search, nodup, apart, (unmoved _ same).trans keys⟩

end Circuit
end CircuitSheet
