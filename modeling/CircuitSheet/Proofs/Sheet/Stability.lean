import CircuitSheet.Proofs.Sheet.RoundTrip

/-!
# Sheets that are written again

In exact arithmetic what is read from a sheet can be written and read again. Places, wires, names
and values do not change any more, but a component of a kind without a symbol of its own comes back
as a resistor, and a power symbol without a reference comes back with one. So the second reading is
the first one exactly if the circuit that was written shows neither.
-/

namespace CircuitSheet

/-! ## Rounding once -/

open Exact in
theorem toFileUnits_fromFileUnits_toFileUnits (length : ℝ) :
    toFileUnits (fromFileUnits (toFileUnits length)) = toFileUnits length := by
  have inUnits : fromFileUnits (toFileUnits length) * fileUnitsPerMillimetre =
      toFileUnits length := by
    have ten : (fileUnitsPerMillimetre : ℝ) ≠ 0 := by norm_num [fileUnitsPerMillimetre]
    exact div_mul_cancel₀ _ ten
  have scaled : toFileUnits length * 1e4 =
      (nearest (length * fileUnitsPerMillimetre * 1e4) : ℝ) := by
    change (nearest (length * fileUnitsPerMillimetre * 1e4) : ℝ) / 1e4 * 1e4 = _
    exact div_mul_cancel₀ _ (by norm_num)
  change (nearest (fromFileUnits (toFileUnits length) * fileUnitsPerMillimetre * 1e4) : ℝ) / 1e4 = _
  rw [inUnits, scaled, nearest_intCast]
  rfl

@[simp] theorem Point.onSheet_onSheet (point : Point ℝ) :
    point.onSheet.onSheet = point.onSheet := by
  simp [Point.onSheet, toFileUnits_fromFileUnits_toFileUnits]

@[simp] theorem WireSegment.onSheet_onSheet (segment : WireSegment ℝ) :
    segment.onSheet.onSheet = segment.onSheet := by
  simp [WireSegment.onSheet, WireSegment.between]

/-! ## Circuits that were read -/

section

variable {K : Type} [ScalarText K]

theorem Kind.onSheet_eq_self_iff {kind : Kind} : kind.onSheet = kind ↔ kind ∈ known := by
  rw [onSheet_eq]
  split
  case isTrue isKnown => simp [isKnown]
  case isFalse unknown =>
    refine iff_of_false ?_ unknown
    rintro rfl
    exact unknown (by decide)

/-- What is read where the entity is written stays the same: the component is of a kind with a
symbol of its own, or the power symbol has a reference. -/
def Entity.IsStable : Entity K → Prop
  | .component part => part.kind ∈ Kind.known
  | .power symbol => symbol.reference ≠ ""

theorem Component.onSheet_eq_self_iff {component : Component K} (own : component.HasOwnSymbol)
    (placed : component.position.onSheet = component.position) :
    component.onSheet = component ↔ component.kind ∈ Kind.known := by
  rw [← Kind.onSheet_eq_self_iff]
  constructor
  · intro same
    exact congrArg Component.kind same
  · intro same
    obtain ⟨library, symbol⟩ := own
    rw [Component.onSheet, same, placed, Component.ofKind, ← library, ← symbol]

/-- A circuit as it is read from a sheet: components are drawn with the symbols of their kinds,
places are those of the file, nothing is connected, and names are distinct. -/
structure Circuit.IsFromSheet (circuit : Circuit K) : Prop where
  own : ∀ component ∈ circuit.components, component.HasOwnSymbol
  placed : ∀ entity ∈ circuit.entities, entity.position.onSheet = entity.position
  unconnected : circuit.connections = []
  distinct : DistinctNames circuit.references

namespace Circuit

/-- Power symbols keep their references under their keys exactly if all have one. -/
theorem map_onSheet_keyedPowers_iff {circuit : Circuit K}
    (placed : ∀ power ∈ circuit.powers, power.position.onSheet = power.position) :
    (circuit.keyedPowers.map fun (power, key) => power.onSheet key) = circuit.powers ↔
      ∀ power ∈ circuit.powers, power.reference ≠ "" := by
  rw [← powerKeys_eq_references_iff]
  constructor
  · intro same
    have references := congrArg (List.map PowerSymbol.reference) same
    rw [List.map_map] at references
    exact circuit.map_snd_keyedPowers.symm.trans references
  · intro same
    have kept : ∀ power ∈ circuit.powers, power.onSheet power.reference = power := by
      intro power member
      rw [PowerSymbol.onSheet, placed power member]
    rw [keyedPowers, same, ← List.map_prod_left_eq_zip, List.map_map]
    exact map_eq_self_iff.mpr kept

/-- A circuit that was read stays the same on a sheet exactly if all its entities are stable. -/
theorem IsFromSheet.onSheet_eq_self_iff {circuit : Circuit K} (fromSheet : circuit.IsFromSheet) :
    circuit.onSheet = circuit ↔ ∀ entity ∈ circuit.entities, entity.IsStable := by
  obtain ⟨componentsPlaced, powersPlaced⟩ := forall_mem_entities.mp fromSheet.placed
  have components : circuit.components.map Component.onSheet = circuit.components ↔
      ∀ component ∈ circuit.components, component.kind ∈ Kind.known := by
    rw [map_eq_self_iff]
    exact forall₂_congr fun component member => Component.onSheet_eq_self_iff
      (fromSheet.own component member) (componentsPlaced component member)
  have powers := map_onSheet_keyedPowers_iff powersPlaced
  rw [forall_mem_entities]
  simp only [Entity.IsStable]
  rw [← components, ← powers]
  constructor
  · intro same
    exact ⟨congrArg Circuit.components same, congrArg Circuit.powers same⟩
  · rintro ⟨sameComponents, samePowers⟩
    rw [onSheet, sameComponents, samePowers, ← fromSheet.unconnected]

end Circuit

namespace Kind

/-- Exactly the symbols of known kinds stand for known kinds. -/
theorem ofSymbol_mem_known_iff {library name : String} :
    ofSymbol library name ∈ known ↔ ∃ kind ∈ known, kind.symbol = (library, name) := by
  constructor
  · intro isKnown
    refine ⟨_, isKnown, ?_⟩
    unfold ofSymbol at isKnown ⊢
    cases found : known.find? (·.symbol == (library, name)) with
    | none =>
        rw [found, Option.getD_none] at isKnown
        simp [known] at isKnown
    | some kind => simpa using List.find?_some found
  · rintro ⟨kind, isKnown, symbol⟩
    have same := ofSymbol_symbol isKnown
    rw [symbol] at same
    rwa [same]

end Kind

/-- The component has a known kind's symbol, or a symbol of the power library and a reference. -/
def Component.StaysOnSheet (component : Component K) : Prop :=
  (∃ kind ∈ Kind.known, component.symbolName = kind.symbol.1 ++ ":" ++ kind.symbol.2) ∨
    "power:".toList <+: component.symbolName.toList ∧ component.reference ≠ ""

/-- The component is read from a sheet of the circuit: no other one before it has its reference. -/
def Circuit.Reads (circuit : Circuit K) (component : Component K) : Prop :=
  component.reference ≠ "" →
    circuit.components.find? (·.reference == component.reference) = some component

namespace Sheet

@[simp] theorem reference_entity_ofComponent (component : Component K) :
    (Instance.ofComponent component).entity.reference = component.reference := by
  unfold Instance.entity
  split <;> rfl

theorem Instance.position_entity (shown : Instance K) :
    shown.entity.position = shown.position.onSheet := by
  unfold Instance.entity
  split <;> rfl

/-- A component's name is cut at the first colon. -/
theorem nameParts_ofComponent_eq_iff {component : Component K} {library symbol : List Char} :
    (Instance.ofComponent component).nameParts = (library, symbol) ↔
      ':' ∉ library ∧ component.symbolName.toList = library ++ ':' :: symbol := by
  have hasColon : Text.cutAt? ':' component.symbolName.toList ≠ none := by
    rw [Ne, Text.cutAt?_eq_none_iff]
    simp [Component.symbolName]
  obtain ⟨parts, cut⟩ := Option.ne_none_iff_exists'.mp hasColon
  change (Text.cutAt? ':' component.symbolName.toList).getD _ = _ ↔ _
  rw [cut, Option.getD_some]
  constructor
  · rintro rfl
    exact ⟨Text.not_mem_of_cutAt? cut, Text.eq_append_of_cutAt? cut⟩
  · rintro ⟨absent, name⟩
    rw [name, Text.cutAt?_append absent] at cut
    exact (Option.some.inj cut).symm

/-- The symbol of a component is read as a stable entity exactly if the component stays as it is on
sheets. -/
theorem isStable_entity_ofComponent_iff {component : Component K} :
    (Instance.ofComponent component).entity.IsStable ↔ component.StaysOnSheet := by
  have ofKind (kind : Kind) :
      component.symbolName = kind.symbol.1 ++ ":" ++ kind.symbol.2 ↔
        (Instance.ofComponent component).nameParts =
          (kind.symbol.1.toList, kind.symbol.2.toList) := by
    rw [nameParts_ofComponent_eq_iff, and_iff_right (colon_not_mem_library kind).1,
      ← String.toList_inj]
    simp
  have power : "power:".toList <+: component.symbolName.toList ↔
      (Instance.ofComponent component).nameParts.1 = "power".toList :=
    (nameParts_fst_eq_power_iff (Instance.ofComponent component)).symm
  rw [Component.StaysOnSheet, power, Instance.entity]
  simp only [ofKind]
  obtain ⟨library, symbol⟩ := (Instance.ofComponent component).nameParts
  split
  case isTrue isPower =>
    have noKind : ¬∃ kind ∈ Kind.known, (library, symbol) =
        (kind.symbol.1.toList, kind.symbol.2.toList) := by
      rintro ⟨kind, -, same⟩
      exact (colon_not_mem_library kind).2 ((congrArg Prod.fst same).symm.trans isPower)
    rw [or_iff_right noKind, and_iff_right isPower]
    rfl
  case isFalse notPower =>
    have notNamed : ¬(library = "power".toList ∧ component.reference ≠ "") := fun named =>
      notPower named.1
    rw [or_iff_left notNamed]
    change Kind.ofSymbol (String.ofList library) (String.ofList symbol) ∈ Kind.known ↔ _
    rw [Kind.ofSymbol_mem_known_iff]
    refine exists_congr fun kind => and_congr_right fun _ => ?_
    rw [Prod.ext_iff, Prod.ext_iff, ← String.toList_inj, ← String.toList_inj, String.toList_ofList,
      String.toList_ofList]
    exact and_congr eq_comm eq_comm

theorem mem_entities_readBack {circuit : Circuit K} {entity : Entity K} :
    entity ∈ (readBack circuit).entities ↔
      entity ∈ (instances circuit).map Instance.entity ∧
        (entity.reference ≠ "" → ((instances circuit).map Instance.entity).find?
          (·.reference == entity.reference) = some entity) := by
  simp [readBack, Circuit.mem_entities_foldl_addEntity]

theorem forall_isStable_readBack_iff {circuit : Circuit K} :
    (∀ entity ∈ (readBack circuit).entities, entity.IsStable) ↔
      ∀ component ∈ circuit.components, circuit.Reads component → component.StaysOnSheet := by
  have first (reference : String) :
      (circuit.components.map fun component => (Instance.ofComponent component).entity).find?
          (·.reference == reference) =
        (circuit.components.find? (·.reference == reference)).map fun component =>
          (Instance.ofComponent component).entity := by
    rw [List.find?_map]
    simp only [Function.comp_def, reference_entity_ofComponent]
  simp only [mem_entities_readBack, map_entity_instances, ← isStable_entity_ofComponent_iff,
    List.find?_append, first, List.mem_append, List.mem_map]
  constructor
  · intro stable component member isRead
    refine stable _ ⟨.inl ⟨component, member, rfl⟩, fun named => ?_⟩
    rw [reference_entity_ofComponent] at named ⊢
    rw [isRead named, Option.map_some, Option.some_or]
  · rintro stable entity ⟨⟨component, member, rfl⟩ | ⟨⟨power, key⟩, member, rfl⟩, isFirst⟩
    · rw [reference_entity_ofComponent] at isFirst
      by_cases unnamed : component.reference = ""
      · exact stable component member fun named => absurd unnamed named
      -- The first component with the reference is read as the same entity.
      · have found : (circuit.components.find? (·.reference == component.reference)).isSome :=
          List.find?_isSome.mpr ⟨component, member, by simp⟩
        obtain ⟨other, otherEq⟩ := Option.isSome_iff_exists.mp found
        have otherReference : other.reference = component.reference := by
          simpa using List.find?_some otherEq
        have same := isFirst unnamed
        rw [otherEq, Option.map_some, Option.some_or, Option.some.injEq] at same
        rw [← same]
        refine stable other (List.mem_of_find?_eq_some otherEq) fun _ => ?_
        rw [otherReference, otherEq]
    · exact Circuit.ne_empty_of_mem_powerKeys (List.of_mem_zip member).2

end Sheet

end

namespace Sheet

/-- Whatever is written, what is read is a circuit from a sheet. -/
theorem isFromSheet_readBack (circuit : Circuit ℝ) : (readBack circuit).IsFromSheet := by
  have shown : ∀ entity ∈ (readBack circuit).entities,
      ∃ shown : Instance ℝ, shown.entity = entity := by
    intro entity member
    obtain ⟨shown, -, same⟩ := List.mem_map.mp (mem_entities_readBack.mp member).1
    exact ⟨shown, same⟩
  constructor
  case own =>
    intro component member
    obtain ⟨shown, same⟩ := (Circuit.forall_mem_entities.mp shown).1 component member
    unfold Instance.entity at same
    split at same
    · cases same
    · exact Entity.component.inj same ▸ Component.hasOwnSymbol_ofKind ..
  case placed =>
    intro entity member
    obtain ⟨shown, rfl⟩ := shown entity member
    rw [Instance.position_entity, Point.onSheet_onSheet]
  case unconnected =>
    refine List.foldlRecOn
      (motive := fun circuit : Circuit ℝ => circuit.connections = []) _ _ rfl ?_
    intro circuit unconnected entity _
    rw [Circuit.connections_addEntity, unconnected]
  case distinct =>
    refine List.foldlRecOn
      (motive := fun circuit : Circuit ℝ => Circuit.DistinctNames circuit.references) _ _ ?_ ?_
    · exact List.nodup_nil
    · exact fun _ distinct entity _ => distinct.addEntity entity

/-- Every circuit is written and read back. -/
theorem exists_readBack (circuit : Circuit ℝ) (routes : List (WireRoute ℝ)) (numbering : ℕ → ℕ) :
    ∃ text, writeNumbered numbering circuit routes = .ok text ∧
      read text =
        .ok
          { circuit := readBack circuit
            wires := (segmentsOf routes).map WireSegment.onSheet } := by
  obtain ⟨text, written, parsed⟩ :=
    Exact.exists_write_and_parse (writable_document_exact numbering circuit routes)
  refine ⟨text, written, ?_⟩
  rw [read, parsed]
  exact ofTree_document numbering circuit routes

/-- The wires of a sheet as one route. -/
def Content.route {K : Type} (content : Content K) : WireRoute K where
  netName := ""
  segments := content.wires
  connectedPins := []
  priority := 1

/-- What is read from a sheet is written and read again as it is on the sheet. -/
theorem exists_readAgain (circuit : Circuit ℝ) (routes : List (WireRoute ℝ))
    (numbering numberingAgain : ℕ → ℕ) :
    ∃ (text : List Char) (first : Content ℝ) (textAgain : List Char),
      writeNumbered numbering circuit routes = .ok text ∧ read text = .ok first ∧
      first.circuit = readBack circuit ∧
      writeNumbered numberingAgain first.circuit [first.route] = .ok textAgain ∧
      read textAgain = .ok { circuit := first.circuit.onSheet, wires := first.wires } := by
  obtain ⟨text, written, wasRead⟩ := exists_readBack circuit routes numbering
  have fromSheet := isFromSheet_readBack circuit
  let first : Content ℝ := ⟨readBack circuit, (segmentsOf routes).map WireSegment.onSheet⟩
  have wires : (segmentsOf [first.route]).map WireSegment.onSheet = first.wires := by
    simp [segmentsOf, Content.route, first]
  obtain ⟨textAgain, writtenAgain, wasReadAgain⟩ :=
    exists_readBack first.circuit [first.route] numberingAgain
  refine ⟨text, first, textAgain, written, wasRead, rfl, writtenAgain, ?_⟩
  rw [wasReadAgain, wires, readBack_eq_onSheet fromSheet.own fromSheet.distinct]

/-- Every circuit is written with any routes and read, and what was read is written, with its wires
as one route, and read again. The second reading is the first one exactly if every component that
is read stays as it is on sheets. In any case it shows the same wires, and the circuit of the first
one with kinds without a symbol of their own replaced and power symbols under their keys. -/
theorem read_write_again (circuit : Circuit ℝ) (routes : List (WireRoute ℝ))
    (numbering numberingAgain : ℕ → ℕ) :
    ∃ (text : List Char) (first : Content ℝ) (textAgain : List Char) (second : Content ℝ),
      writeNumbered numbering circuit routes = .ok text ∧ read text = .ok first ∧
      writeNumbered numberingAgain first.circuit [first.route] = .ok textAgain ∧
      read textAgain = .ok second ∧
      (second = first ↔
        ∀ component ∈ circuit.components, circuit.Reads component → component.StaysOnSheet) ∧
      second = { circuit := first.circuit.onSheet, wires := first.wires } := by
  obtain ⟨text, first, textAgain, written, wasRead, firstCircuit, writtenAgain, wasReadAgain⟩ :=
    exists_readAgain circuit routes numbering numberingAgain
  refine ⟨text, first, textAgain, _, written, wasRead, writtenAgain, wasReadAgain, ?_, rfl⟩
  have fromSheet := isFromSheet_readBack circuit
  rw [← forall_isStable_readBack_iff, ← fromSheet.onSheet_eq_self_iff, ← firstCircuit]
  constructor
  · exact fun same => congrArg Content.circuit same
  · exact fun same => congrArg (Content.mk · first.wires) same

/-- A circuit with a component whose symbol stands for no known kind. -/
noncomputable def foreignCircuit : Circuit ℝ where
  name := "x"
  components := [⟨"X1", .resistor, "v", ⟨20.0, 30.0⟩, "Foo", "Bar"⟩]
  powers := []
  connections := []

/-- A component with a foreign symbol is first read as one of an unknown kind and then as a
resistor, so the second reading is not the first one. -/
theorem read_write_foreign :
    ∃ (text : List Char) (first : Content ℝ) (textAgain : List Char) (second : Content ℝ),
      writeNumbered (Identifier.consecutive 1) foreignCircuit [] = .ok text ∧
      read text = .ok first ∧
      writeNumbered (Identifier.consecutive 1) first.circuit [first.route] = .ok textAgain ∧
      read textAgain = .ok second ∧
      first.circuit.components.map (·.kind) = [.other "bar"] ∧
      second.circuit.components.map (·.kind) = [.resistor] ∧ second ≠ first := by
  obtain ⟨text, first, textAgain, written, wasRead, firstCircuit, writtenAgain, wasReadAgain⟩ :=
    exists_readAgain foreignCircuit [] (Identifier.consecutive 1) (Identifier.consecutive 1)
  have kinds : first.circuit.components.map (·.kind) = [.other "bar"] := by
    rw [firstCircuit]
    rfl
  have kindsAgain : first.circuit.onSheet.components.map (·.kind) = [.resistor] := by
    have changed : first.circuit.onSheet.components.map (·.kind) =
        (first.circuit.components.map (·.kind)).map Kind.onSheet := by
      simp [Circuit.onSheet, Component.onSheet, Component.ofKind]
    rw [changed, kinds]
    rfl
  refine ⟨text, first, textAgain, _, written, wasRead, writtenAgain, wasReadAgain, kinds,
    kindsAgain, ?_⟩
  intro same
  have unchanged : first.circuit.onSheet = first.circuit := congrArg Content.circuit same
  rw [unchanged, kinds] at kindsAgain
  simp at kindsAgain

end Sheet
end CircuitSheet
