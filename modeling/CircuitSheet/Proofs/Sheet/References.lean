import CircuitSheet.Binary64
import CircuitSheet.Proofs.Circuit.References
import CircuitSheet.Sheet.Content

/-!
# Who shares a reference

A circuit is filled entity by entity, by calls or from the symbols of a sheet. No name is borne
twice. Entities without a reference are never turned away, so they all come to be in the circuit:
references are unique unless a component is among them and is not alone.
-/

namespace CircuitSheet

variable {K : Type}

/-- Whether an entity is a power symbol. -/
def Entity.isPower (entity : Entity K) : Bool :=
  entity.power?.isSome

namespace Circuit

/-- The circuit with an entity at the end of its like. -/
def append (circuit : Circuit K) (entity : Entity K) : Circuit K :=
  { circuit with
    components := circuit.components ++ entity.component?.toList
    powers := circuit.powers ++ entity.power?.toList }

/-- The circuit with one more entity, unless its reference is taken. -/
def addEntity? (circuit : Circuit K) : Entity K → Option (Circuit K)
  | .component component => circuit.addComponent? component
  | .power power => circuit.addPower? power

/-- Of two entities with one reference both are power symbols, and the reference is empty. -/
def UniqueReferences (circuit : Circuit K) : Prop :=
  circuit.entities.Pairwise fun one other =>
    one.reference = other.reference → one.reference = "" ∧ one.isPower ∧ other.isPower

/-- Of two entities without a reference both are power symbols. -/
def NamelessPowers (entities : List (Entity K)) : Prop :=
  (entities.filter (·.reference = "")).Pairwise fun one other => one.isPower ∧ other.isPower

instance (circuit : Circuit K) : Decidable circuit.UniqueReferences :=
  inferInstanceAs (Decidable (List.Pairwise _ _))

instance (entities : List (Entity K)) : Decidable (NamelessPowers entities) :=
  inferInstanceAs (Decidable (List.Pairwise _ _))

/-! ## One call -/

theorem addEntity?_eq (circuit : Circuit K) (entity : Entity K) :
    circuit.addEntity? entity =
      if circuit.isTaken entity.reference then none else some (circuit.append entity) := by
  cases entity <;> simp [addEntity?, addComponent?, addPower?, append]

theorem addEntity_eq_getD (circuit : Circuit K) (entity : Entity K) :
    circuit.addEntity entity = (circuit.addEntity? entity).getD circuit := by
  cases entity <;> rfl

/-- An entity makes a difference at the end of its like. -/
theorem append_ne_self (circuit : Circuit K) (entity : Entity K) :
    circuit.append entity ≠ circuit := by
  intro same
  cases entity with
  | component part => simpa [append] using congrArg Circuit.components same
  | power symbol => simpa [append] using congrArg Circuit.powers same

theorem addEntity_eq_append_iff {circuit : Circuit K} {entity : Entity K} :
    circuit.addEntity entity = circuit.append entity ↔
      (circuit.addEntity? entity).isSome = true := by
  rw [addEntity_eq_getD, addEntity?_eq]
  split
  case isTrue => simpa using (append_ne_self circuit entity).symm
  case isFalse => simp

theorem addEntity_eq_ite (circuit : Circuit K) (entity : Entity K) :
    circuit.addEntity entity =
      if (circuit.addEntity? entity).isSome then circuit.append entity else circuit := by
  rw [addEntity_eq_getD, addEntity?_eq]
  split <;> simp

/-- An entity is turned away when another one bears its name. -/
theorem isSome_addEntity?_eq_false_iff {circuit : Circuit K} {entity : Entity K} :
    (circuit.addEntity? entity).isSome = false ↔
      entity.reference ≠ "" ∧ entity.reference ∈ circuit.references := by
  rw [← isTaken_eq_true_iff, addEntity?_eq]
  split <;> simp_all

/-! ## Many calls -/

theorem distinctNames_iff_pairwise {circuit : Circuit K} :
    DistinctNames circuit.references ↔
      circuit.entities.Pairwise fun one other =>
        one.reference ≠ "" → other.reference ≠ "" → one.reference ≠ other.reference := by
  simp [DistinctNames, references, List.Nodup, List.pairwise_filter, List.pairwise_map]

/-- References are unique when names are distinct and of two entities without one both are power
symbols. -/
theorem uniqueReferences_iff {circuit : Circuit K} :
    circuit.UniqueReferences ↔
      DistinctNames circuit.references ∧ NamelessPowers circuit.entities := by
  rw [distinctNames_iff_pairwise, NamelessPowers, List.pairwise_filter, ← List.pairwise_and_iff,
    UniqueReferences]
  refine List.Pairwise.iff fun one other => ?_
  simp only [decide_eq_true_eq]
  constructor
  · intro unique
    exact ⟨fun named _ same => named (unique same).1,
      fun nameless otherNameless => (unique (nameless.trans otherNameless.symm)).2⟩
  · rintro ⟨different, powers⟩ same
    have nameless : one.reference = "" :=
      Decidable.byContradiction fun named => different named (same ▸ named) same
    exact ⟨nameless, powers nameless (same ▸ nameless)⟩

theorem NamelessPowers.perm_iff {one other : List (Entity K)}
    (perm : (one.filter (·.reference = "")).Perm (other.filter (·.reference = ""))) :
    NamelessPowers one ↔ NamelessPowers other :=
  perm.pairwise_iff fun both => both.symm

/-- An entity without a reference is not turned away. -/
theorem nameless_addEntity_perm (circuit : Circuit K) (entity : Entity K) :
    ((circuit.addEntity entity).entities.filter (·.reference = "")).Perm
      ((entity :: circuit.entities).filter (·.reference = "")) := by
  cases taken : circuit.isTaken entity.reference with
  | true =>
      have named : entity.reference ≠ "" := (isTaken_eq_true_iff.mp taken).1
      rw [addEntity_of_taken taken, List.filter_cons_of_neg (by simpa using named)]
  | false => exact (entities_addEntity_perm taken).filter _

theorem nameless_foldl_addEntity_perm (circuit : Circuit K) (calls : List (Entity K)) :
    ((calls.foldl addEntity circuit).entities.filter (·.reference = "")).Perm
      ((calls ++ circuit.entities).filter (·.reference = "")) := by
  induction calls generalizing circuit with
  | nil => exact .refl _
  | cons entity rest inductionHypothesis =>
      have first := nameless_addEntity_perm circuit entity
      have others := inductionHypothesis (circuit.addEntity entity)
      rw [List.filter_append] at others
      refine (others.trans (first.append_left _)).trans ?_
      rw [← List.filter_append]
      exact List.perm_middle.filter _

theorem distinctNames_foldl_addEntity {circuit : Circuit K}
    (distinct : DistinctNames circuit.references) (calls : List (Entity K)) :
    DistinctNames (calls.foldl addEntity circuit).references := by
  induction calls generalizing circuit with
  | nil => exact distinct
  | cons entity rest inductionHypothesis =>
      exact inductionHypothesis (DistinctNames.addEntity distinct entity)

/-- Whatever entities are added, no name is borne twice, and references are unique when of two
added entities without one both are power symbols. -/
theorem uniqueReferences_foldl_addEntity_iff (name : String) (calls : List (Entity K)) :
    DistinctNames (calls.foldl addEntity (named name)).references ∧
      ((calls.foldl addEntity (named name)).UniqueReferences ↔ NamelessPowers calls) := by
  have start : DistinctNames (named name : Circuit K).references := List.nodup_nil
  have distinct := distinctNames_foldl_addEntity start calls
  have nameless := nameless_foldl_addEntity_perm (named name) calls
  rw [entities_named, List.append_nil] at nameless
  rw [uniqueReferences_iff, NamelessPowers.perm_iff nameless]
  exact ⟨distinct, and_iff_right distinct⟩

end Circuit

namespace Sheet

variable [ScalarText K]

/-! ## The symbols of a sheet -/

/-- The entity that a symbol on a sheet shows. -/
def shownEntity (shown : SExpr K) : Except ReadError (Entity K) := do
  let some symbolName := (shown.valueOf? "lib_id").bind SExpr.text? | .error (.missing "lib_id")
  let some position := (shown.find? "at").bind point? | .error (.missing "at")
  let some reference := property? shown "Reference" | .error (.missing "Reference")
  let value := (property? shown "Value").getD ""
  let (library, symbol) :=
    (Text.cutAt? ':' symbolName.toList).getD ([], symbolName.toList)
  if library = "power".toList then
    .ok (.power ⟨reference, if value = "" then String.ofList symbol else value, position⟩)
  else
    let kind := Kind.ofSymbol (String.ofList library) (String.ofList symbol)
    .ok (.component (Component.ofKind reference kind value position))

theorem addInstance_eq_map (circuit : Circuit K) (shown : SExpr K) :
    addInstance circuit shown = (shownEntity shown).map circuit.addEntity := by
  unfold addInstance shownEntity
  cases (shown.valueOf? "lib_id").bind SExpr.text? with
  | none => rfl
  | some symbolName =>
      cases (shown.find? "at").bind point? with
      | none => rfl
      | some position =>
          cases property? shown "Reference" with
          | none => rfl
          | some reference =>
              dsimp only
              split <;> rfl

/-- Symbols join a circuit one after the other, unless one of them shows no entity. -/
theorem foldlM_addInstance (circuit : Circuit K) (shown : List (SExpr K)) :
    shown.foldlM addInstance circuit =
      (shown.mapM shownEntity).map fun entities => entities.foldl Circuit.addEntity circuit := by
  induction shown generalizing circuit with
  | nil => rfl
  | cons first rest inductionHypothesis =>
      rw [List.foldlM_cons, List.mapM_cons, addInstance_eq_map]
      cases shownEntity first with
      | error cause => rfl
      | ok entity =>
          change rest.foldlM addInstance (circuit.addEntity entity) = _
          rw [inductionHypothesis]
          cases rest.mapM shownEntity <;> rfl

/-- The circuit of a sheet is filled with the entities that its symbols show. -/
theorem exists_entities_of_read {text : List Char} {content : Content K}
    (isRead : read text = .ok content) :
    ∃ root entities, SExpr.parse text = .ok root ∧
      (root.findAll "symbol").mapM shownEntity = .ok entities ∧
      content.circuit = entities.foldl Circuit.addEntity
        (Circuit.named ((title? root).getD Description.untitled)) := by
  rw [read] at isRead
  cases parsed : (SExpr.parse text : Except _ (SExpr K)) with
  | error cause => simp [parsed] at isRead
  | ok root =>
      rw [parsed] at isRead
      dsimp only at isRead
      rw [ofTree] at isRead
      split at isRead
      case isFalse => cases isRead
      case isTrue =>
        dsimp only at isRead
        rw [foldlM_addInstance] at isRead
        cases shown : (root.findAll "symbol").mapM shownEntity with
        | error cause => simp [shown, Except.map, bind, Except.bind] at isRead
        | ok entities =>
            rw [shown] at isRead
            cases isRead
            exact ⟨root, entities, rfl, shown, rfl⟩

/-- A call adds its entity at the end of its like and says so, or changes nothing and says so. So
no name is borne twice in a circuit that calls fill, or that is read from a sheet. References are
unique there exactly when of two entities without one both are power symbols: a component without
a reference is never turned away. -/
theorem uniqueReferences_iff_namelessPowers :
    (∀ (circuit : Circuit K) (entity : Entity K),
      circuit.addEntity entity =
          (if (circuit.addEntity? entity).isSome then circuit.append entity else circuit) ∧
        (circuit.addEntity entity = circuit.append entity ↔
          (circuit.addEntity? entity).isSome = true) ∧
        ((circuit.addEntity? entity).isSome = false ↔
          entity.reference ≠ "" ∧ entity.reference ∈ circuit.references)) ∧
      (∀ (name : String) (calls : List (Entity K)),
        Circuit.DistinctNames (calls.foldl Circuit.addEntity (Circuit.named name)).references ∧
          ((calls.foldl Circuit.addEntity (Circuit.named name)).UniqueReferences ↔
            Circuit.NamelessPowers calls)) ∧
      ∀ (text : List Char) (content : Content K), read text = .ok content →
        ∃ root entities, SExpr.parse text = .ok root ∧
          (root.findAll "symbol").mapM shownEntity = .ok entities ∧
          content.circuit = entities.foldl Circuit.addEntity
            (Circuit.named ((title? root).getD Description.untitled)) ∧
          Circuit.DistinctNames content.circuit.references ∧
          (content.circuit.UniqueReferences ↔ Circuit.NamelessPowers entities) := by
  refine ⟨?_, Circuit.uniqueReferences_foldl_addEntity_iff, ?_⟩
  · intro circuit entity
    exact ⟨circuit.addEntity_eq_ite entity, Circuit.addEntity_eq_append_iff,
      Circuit.isSome_addEntity?_eq_false_iff⟩
  · intro text content isRead
    obtain ⟨root, entities, parsed, shown, filled⟩ := exists_entities_of_read isRead
    refine ⟨root, entities, parsed, shown, filled, ?_⟩
    rw [filled]
    exact Circuit.uniqueReferences_foldl_addEntity_iff _ entities

/-- Two power symbols and two resistors, all without a reference. -/
def namelessSheet : String :=
  "(kicad_sch (symbol (lib_id power:GND) (at 20 30) (property Reference \"\"))" ++
    "(symbol (lib_id power:GND) (at 50 30) (property Reference \"\") (property Value +5V))" ++
    "(symbol (lib_id Device:R) (at 80 30) (property Reference \"\"))" ++
    "(symbol (lib_id Device:R) (at 80 60) (property Reference \"\")))"

theorem exists_read_namelessSheet :
    ∃ content : Content Float, read namelessSheet.toList = .ok content ∧
      content.circuit.powers.length = 2 ∧ ¬content.circuit.UniqueReferences := by
  have accepted :
      ((read namelessSheet.toList : Except _ (Content Float)).toOption.any fun content =>
        content.circuit.powers.length = 2 && !content.circuit.UniqueReferences) = true := by
    decide +kernel
  cases isRead : (read namelessSheet.toList : Except _ (Content Float)) with
  | error cause => simp [isRead, Except.toOption] at accepted
  | ok content => exact ⟨content, rfl, by simpa [isRead, Except.toOption] using accepted⟩

theorem uniqueReferences_iff_namelessPowers_sample :
    ∃ content : Content Float, read namelessSheet.toList = .ok content ∧
      ∃ root entities, SExpr.parse namelessSheet.toList = .ok root ∧
        (root.findAll "symbol").mapM shownEntity = .ok entities ∧
        content.circuit = entities.foldl Circuit.addEntity
          (Circuit.named ((title? root).getD Description.untitled)) ∧
        Circuit.DistinctNames content.circuit.references ∧
        (content.circuit.UniqueReferences ↔ Circuit.NamelessPowers entities) := by
  obtain ⟨content, isRead, -⟩ := exists_read_namelessSheet
  exact ⟨content, isRead,
    uniqueReferences_iff_namelessPowers.2.2 namelessSheet.toList content isRead⟩

/-- A second resistor without a reference is turned away neither by a call nor on a sheet. -/
theorem not_uniqueReferences_nameless :
    (∃ resistor : Entity Float,
      (Circuit.addEntity? ((Circuit.named "x").addEntity resistor) resistor).isSome = true ∧
        ¬([resistor, resistor].foldl Circuit.addEntity (Circuit.named "x")).UniqueReferences) ∧
      ∃ content : Content Float, read namelessSheet.toList = .ok content ∧
        ¬content.circuit.UniqueReferences := by
  refine ⟨⟨.component (Component.ofKind "" .resistor "1k" ⟨20, 30⟩), by decide +kernel,
    by decide +kernel⟩, ?_⟩
  obtain ⟨content, isRead, -, shared⟩ := exists_read_namelessSheet
  exact ⟨content, isRead, shared⟩

end Sheet
end CircuitSheet
