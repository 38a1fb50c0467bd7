import CircuitSheet.Proofs.Circuit.PowerKeys
import CircuitSheet.Proofs.Exact.Decimal
import CircuitSheet.Proofs.Sheet.Shown

/-!
# Sheets are read back

In exact arithmetic every circuit is written, and what is read from its sheet is the circuit
with its places rounded to the units of the file, each kind replaced by the one that its symbol
stands for, and each power symbol under its key.
-/

namespace CircuitSheet

/-! ## Drawn entities -/

section

variable {K : Type} [ScalarText K]

/-- The component is drawn with the symbol of its kind. -/
def Component.HasOwnSymbol (component : Component K) : Prop :=
  component.library = component.kind.symbol.1 ∧ component.symbol = component.kind.symbol.2

omit [ScalarText K] in
theorem Component.hasOwnSymbol_ofKind (reference : String) (kind : Kind) (value : String)
    (position : Point K) : (Component.ofKind reference kind value position).HasOwnSymbol :=
  ⟨rfl, rfl⟩

/-- The kind that is read where a kind was drawn with its own symbol. -/
def Kind.onSheet (kind : Kind) : Kind :=
  Kind.ofSymbol kind.symbol.1 kind.symbol.2

/-- The component that is read where a component was drawn with its own symbol. -/
def Component.onSheet (component : Component K) : Component K :=
  Component.ofKind component.reference component.kind.onSheet component.value
    component.position.onSheet

/-- The power symbol that is read where one was drawn under a key. -/
def PowerSymbol.onSheet (power : PowerSymbol K) (key : String) : PowerSymbol K where
  reference := key
  rail := power.rail
  position := power.position.onSheet

/-- The circuit that is read where a circuit was drawn. -/
def Circuit.onSheet (circuit : Circuit K) : Circuit K where
  name := circuit.name
  components := circuit.components.map Component.onSheet
  powers := circuit.keyedPowers.map fun (power, key) => power.onSheet key
  connections := []

/-- Kinds without a symbol of their own are read as resistors, all others as they are. -/
theorem Kind.onSheet_eq (kind : Kind) :
    kind.onSheet = if kind ∈ known then kind else resistor := by
  split
  case isTrue isKnown => exact ofSymbol_symbol isKnown
  case isFalse unknown => cases kind <;> first | rfl | simp [known] at unknown

namespace Sheet

omit [ScalarText K] in
/-- A name is cut behind the library when that holds no colon. -/
theorem nameParts_of_symbolName {shown : Instance K} {library symbol : String}
    (name : shown.symbolName = library ++ ":" ++ symbol) (absent : ':' ∉ library.toList) :
    shown.nameParts = (library.toList, symbol.toList) := by
  have characters : shown.symbolName.toList = library.toList ++ ':' :: symbol.toList := by
    simp [name]
  rw [Instance.nameParts, characters, Text.cutAt?_append absent, Option.getD_some]

omit [ScalarText K] in
/-- The symbols of the power library are those whose names start with "power:". -/
theorem nameParts_fst_eq_power_iff (shown : Instance K) :
    shown.nameParts.1 = "power".toList ↔ "power:".toList <+: shown.symbolName.toList := by
  constructor
  · intro power
    cases cut : Text.cutAt? ':' shown.symbolName.toList with
    | none =>
        rw [Instance.nameParts, cut, Option.getD_none] at power
        cases power
    | some parts =>
        rw [Instance.nameParts, cut, Option.getD_some] at power
        rw [Text.eq_append_of_cutAt? cut, power]
        exact ⟨parts.2, rfl⟩
  · rintro ⟨rest, same⟩
    have name : shown.symbolName.toList = "power".toList ++ ':' :: rest := same.symm
    have absent : ':' ∉ "power".toList := by decide
    rw [Instance.nameParts, name, Text.cutAt?_append absent, Option.getD_some]

/-- No kind has its symbol in the power library, and library names hold no colon. -/
theorem colon_not_mem_library (kind : Kind) :
    ':' ∉ kind.symbol.1.toList ∧ kind.symbol.1.toList ≠ "power".toList := by
  cases kind <;> simp only [Kind.symbol] <;> decide

theorem nameParts_ofComponent {component : Component K} (own : component.HasOwnSymbol) :
    (Instance.ofComponent component).nameParts =
      (component.kind.symbol.1.toList, component.kind.symbol.2.toList) := by
  obtain ⟨library, symbol⟩ := own
  refine nameParts_of_symbolName ?_ (colon_not_mem_library component.kind).1
  rw [← library, ← symbol]
  rfl

theorem entity_ofComponent {component : Component K} (own : component.HasOwnSymbol) :
    (Instance.ofComponent component).entity = .component component.onSheet := by
  have notPower := (colon_not_mem_library component.kind).2
  rw [Instance.entity, nameParts_ofComponent own, if_neg notPower, String.ofList_toList,
    String.ofList_toList]
  rfl

theorem entity_ofPower (power : PowerSymbol K) (key : String) :
    (Instance.ofPower power key).entity = .power (power.onSheet key) := by
  have parts : (Instance.ofPower power key).nameParts = ("power".toList, power.rail.toList) :=
    nameParts_of_symbolName rfl (by decide)
  have rail : (if (Instance.ofPower power key).value = "" then String.ofList power.rail.toList
      else (Instance.ofPower power key).value) = power.rail := by
    rw [String.ofList_toList]
    exact ite_self _
  rw [Instance.entity, parts, if_pos rfl, rail]
  rfl

theorem map_entity_instances (circuit : Circuit K) :
    (instances circuit).map Instance.entity =
      (circuit.components.map fun component => (Instance.ofComponent component).entity) ++
        circuit.keyedPowers.map fun (power, key) => .power (power.onSheet key) := by
  rw [instances, List.map_append, List.map_map, List.map_map]
  congr 1
  exact List.map_congr_left fun keyed _ => entity_ofPower keyed.1 keyed.2

/-- The entities that are read from the symbols of a circuit are those of the circuit on the
sheet. -/
theorem map_entity_instances_of_own {circuit : Circuit K}
    (own : ∀ component ∈ circuit.components, component.HasOwnSymbol) :
    (instances circuit).map Instance.entity = circuit.onSheet.entities := by
  rw [map_entity_instances, Circuit.entities, Circuit.onSheet, List.map_map, List.map_map]
  congr 1
  exact List.map_congr_left fun component member => entity_ofComponent (own component member)

/-- The references on a sheet are those of components and the keys of power symbols. -/
theorem references_onSheet (circuit : Circuit K) :
    circuit.onSheet.references = circuit.components.map (·.reference) ++ circuit.powerKeys := by
  rw [← circuit.map_snd_keyedPowers]
  simp [Circuit.references, Circuit.entities, Circuit.onSheet, Function.comp_def,
    Component.onSheet, Component.ofKind, PowerSymbol.onSheet]

/-- A circuit with distinct names is read as it is on the sheet. -/
theorem readBack_eq_onSheet {circuit : Circuit K}
    (own : ∀ component ∈ circuit.components, component.HasOwnSymbol)
    (distinct : Circuit.DistinctNames circuit.references) :
    readBack circuit = circuit.onSheet := by
  have different : Circuit.DistinctNames (circuit.onSheet.entities.map (·.reference)) := by
    change Circuit.DistinctNames circuit.onSheet.references
    rw [references_onSheet]
    exact Circuit.distinctNames_append_powerKeys distinct
  rw [readBack, map_entity_instances_of_own own,
    Circuit.foldl_addEntity different fun _ _ => Circuit.isTaken_named ..,
    Circuit.filterMap_component?_entities, Circuit.filterMap_power?_entities]
  rfl

/-- What is read from the tree of a document is the circuit as it is on the sheet. -/
theorem ofTree_document_of_distinct {circuit : Circuit K}
    (own : ∀ component ∈ circuit.components, component.HasOwnSymbol)
    (distinct : circuit.DistinctReferences) (numbering : Nat → Nat)
    (routes : List (WireRoute K)) :
    ofTree (document numbering circuit routes) =
      .ok
        { circuit := circuit.onSheet
          wires := (segmentsOf routes).map WireSegment.onSheet } := by
  rw [ofTree_document, readBack_eq_onSheet own distinct.distinctNames]

end Sheet
end

/-! ## Exact sheets -/

namespace Sheet

open Exact in
theorem isDecimal_of_mem_constants {length : ℝ} (member : length ∈ (Symbol.constants : List ℝ)) :
    IsDecimal length := by
  have literal := isDecimal_ofScientific
  simp only [Symbol.constants, List.mem_cons, List.not_mem_nil, or_false] at member
  rcases member with rfl | rfl | rfl | rfl | rfl | rfl | rfl | rfl | rfl | rfl <;>
    first | exact literal .. | exact (literal ..).neg

open Exact in
theorem isDecimal_reach {offsets : List ℝ} (decimal : ∀ offset ∈ offsets, IsDecimal offset) :
    IsDecimal (Symbol.reach offsets) :=
  List.foldlRecOn offsets _ (isDecimal_ofScientific ..) fun _ furthest offset member =>
    furthest.greater (decimal offset member).magnitude

open Exact in
theorem pinSort_isDecimal {pin : Pin ℝ} (length : IsDecimal pin.length)
    (angle : IsDecimal pin.angle) : Symbol.PinSort IsDecimal pin :=
  ⟨isDecimal_roundTo _, isDecimal_roundTo _,
    (angle.add (isDecimal_ofScientific ..)).modulo (isDecimal_ofScientific ..), length⟩

open Exact in
theorem writable_define (name : String) (origin : SymbolOrigin) :
    (define name origin : SExpr ℝ).Writable IsDecimal := by
  cases origin with
  | kind kind =>
      have numbers := Kind.numbers_of_pins isDecimal_ofScientific (fun _ => IsDecimal.neg) kind
      refine Symbol.writable_ofKind (fun _ => isDecimal_of_mem_constants)
        (fun pin member => ?_) ?_
      · exact pinSort_isDecimal (numbers pin member).2.2.1 (numbers pin member).2.2.2
      · have width : IsDecimal (Symbol.reach ((kind.pins : List (Pin ℝ)).map (·.offset.x))) :=
          isDecimal_reach (List.forall_mem_map.mpr fun pin member => (numbers pin member).1)
        have height : IsDecimal (Symbol.reach ((kind.pins : List (Pin ℝ)).map (·.offset.y))) :=
          isDecimal_reach (List.forall_mem_map.mpr fun pin member => (numbers pin member).2.1)
        exact Symbol.writable_bodyRectangle.mpr
          ⟨width.neg, height.neg, width, height, isDecimal_ofScientific ..⟩
  | rail =>
      exact Symbol.writable_ofRail (fun _ => isDecimal_of_mem_constants)
        (pinSort_isDecimal (isDecimal_ofScientific ..) (isDecimal_ofScientific ..))

open Exact in
/-- All numbers on an exact sheet have decimals that end. -/
theorem writable_document_exact (numbering : ℕ → ℕ) (circuit : Circuit ℝ)
    (routes : List (WireRoute ℝ)) :
    (document numbering circuit routes).Writable IsDecimal := by
  have literal := isDecimal_ofScientific
  have inFile := isDecimal_toFileUnits
  rw [writable_document (literal ..) (literal ..) (literal ..)]
  refine ⟨⟨literal .., fun entry _ => writable_define entry.1 entry.2⟩, ?_, ?_⟩
  · intro shown _
    exact ⟨⟨inFile _, inFile _⟩, (inFile _).add (inFile _), (inFile _).sub (inFile _),
      (inFile _).add (inFile _)⟩
  · intro segment _
    exact ⟨⟨inFile _, inFile _⟩, inFile _, inFile _⟩

/-- Every circuit with distinct references whose components are drawn with the symbols of
their kinds is written, with any routes and under any numbering of the identifiers, and read
back as it is on the sheet: with the places rounded to file units, the power symbols under
their keys, no connections, and a wire for every segment. Kinds without a symbol of their own
are read as resistors. -/
theorem read_writeNumbered {circuit : Circuit ℝ}
    (own : ∀ component ∈ circuit.components, component.HasOwnSymbol)
    (distinct : circuit.DistinctReferences) (numbering : ℕ → ℕ) (routes : List (WireRoute ℝ)) :
    (∃ text, writeNumbered numbering circuit routes = .ok text ∧
      read text =
        .ok
          { circuit := circuit.onSheet
            wires := (segmentsOf routes).map WireSegment.onSheet }) ∧
    ∀ kind : Kind, kind.onSheet = if kind ∈ Kind.known then kind else .resistor := by
  refine ⟨?_, Kind.onSheet_eq⟩
  obtain ⟨text, written, parsed⟩ :=
    Exact.exists_write_and_parse (writable_document_exact numbering circuit routes)
  refine ⟨text, written, ?_⟩
  rw [read, parsed]
  exact ofTree_document_of_distinct own distinct numbering routes

/-- A circuit with a quoted name, a part of an unknown kind with an unbalanced value, a rail
without a reference or a name, and a rail that bears a numbered name. -/
noncomputable def sampleCircuit : Circuit ℝ where
  name := "Say \"hi\" (v2)"
  components :=
    [Component.ofKind "R1" .resistor "100" ⟨50.03, -12.345678⟩,
      Component.ofKind "K 1" (.other "relay") "(5V\n" ⟨1 / 3, 0⟩]
  powers := [⟨"", "", ⟨50, 20⟩⟩, ⟨"#PWR0001", "GND", ⟨50, 80⟩⟩, ⟨"", "+5V", ⟨90, 20⟩⟩]
  connections := [⟨⟨"R1", none⟩, ⟨"GND", none⟩⟩]

/-- A route with one segment. -/
noncomputable def sampleRoute : WireRoute ℝ where
  netName := "NET1"
  segments := [WireSegment.between ⟨50, 20⟩ ⟨50, 80⟩]
  connectedPins := []
  priority := 1

theorem read_writeNumbered_sample :
    (∀ component ∈ sampleCircuit.components, component.HasOwnSymbol) ∧
      sampleCircuit.DistinctReferences ∧
      (∃ text, writeNumbered (Identifier.consecutive 1) sampleCircuit [sampleRoute] = .ok text ∧
        read text =
          .ok
            { circuit := sampleCircuit.onSheet
              wires := (segmentsOf [sampleRoute]).map WireSegment.onSheet }) ∧
      ∀ kind : Kind, kind.onSheet = if kind ∈ Kind.known then kind else .resistor := by
  have own : ∀ component ∈ sampleCircuit.components, component.HasOwnSymbol := by
    simp [sampleCircuit, Component.HasOwnSymbol, Component.ofKind]
  have distinct : sampleCircuit.DistinctReferences := by
    simp [Circuit.DistinctReferences, sampleCircuit, Component.ofKind]
  exact ⟨own, distinct, read_writeNumbered own distinct (Identifier.consecutive 1) [sampleRoute]⟩

end Sheet
end CircuitSheet
