import CircuitSheet.Proofs.Description.Entries
import CircuitSheet.Proofs.Wiring.Registration

/-!
# Pins on a sheet

A sheet tells the pins of a component twice: the definition of its symbol declares them, and the
symbol on the sheet lists their numbers. The wiring has them a third time. One definition may serve
components of different kinds, and it is drawn from the kind of the first of them; but kinds with
one symbol have the same pins, so all three agree.
-/

namespace CircuitSheet

variable {K : Type}

/-- What the definition of a symbol says about a pin: its number, its name and its electrical
type. -/
structure PinDeclaration where
  number : String
  name : String
  direction : String
  deriving DecidableEq, Repr

/-- What is declared of a pin. -/
def Pin.declaration (pin : Pin K) : PinDeclaration :=
  ⟨pin.number, pin.name, pin.direction.keyword⟩

/-! ## Pins of kinds -/

section

variable [Scalar K]

/-- The kind that stands for a symbol has the pins of every kind that is drawn with it. -/
theorem Kind.pins_onSheet (kind : Kind) : (kind.onSheet.pins : List (Pin K)) = kind.pins := by
  cases kind <;> rfl

/-- Kinds that are drawn with one symbol have the same pins. -/
theorem Kind.pins_eq_of_symbol_eq {one other : Kind} (same : one.symbol = other.symbol) :
    (one.pins : List (Pin K)) = other.pins := by
  rw [← one.pins_onSheet, ← other.pins_onSheet, onSheet, onSheet, same]

end

variable [ScalarText K]

/-- Components with the same name of a symbol are drawn with the same symbol. -/
theorem Component.symbol_kind_eq {one other : Component K} (oneOwn : one.HasOwnSymbol)
    (otherOwn : other.HasOwnSymbol) (same : one.symbolName = other.symbolName) :
    one.kind.symbol = other.kind.symbol := by
  have parts : (Sheet.Instance.ofComponent one).nameParts =
      (Sheet.Instance.ofComponent other).nameParts := by
    have names : (Sheet.Instance.ofComponent one).symbolName =
        (Sheet.Instance.ofComponent other).symbolName := same
    rw [Sheet.Instance.nameParts, names, Sheet.Instance.nameParts]
  rw [Sheet.nameParts_ofComponent oneOwn, Sheet.nameParts_ofComponent otherOwn] at parts
  obtain ⟨library, symbol⟩ := Prod.mk.inj parts
  exact Prod.ext (String.toList_injective library) (String.toList_injective symbol)

namespace Sheet

/-! ## Definitions -/

/-- The definitions of symbols with a name. -/
def definitionsOf (root : SExpr K) (name : String) : List (SExpr K) :=
  ((root.find? "lib_symbols").elim [] (·.items.tail)).filter (definitionName? · == some name)

/-- The units of a definition that bear the number one. -/
def firstUnits (definition : SExpr K) (name : String) : List (SExpr K) :=
  (definition.findAll "symbol").filter
    (definitionName? · == some (Symbol.shortName name ++ "_1_1"))

/-- What a tree declares of a pin. -/
def declaration? (tree : SExpr K) : Option PinDeclaration := do
  let number ← (tree.valueOf? "number").bind SExpr.text?
  let name ← (tree.valueOf? "name").bind SExpr.text?
  let direction ← (tree.arg? 1).bind SExpr.text?
  some ⟨number, name, direction⟩

theorem declaration?_pin (pin : Pin K) : declaration? (Symbol.pin pin) = some pin.declaration := by
  have number : ((Symbol.pin pin).valueOf? "number").bind SExpr.text? = some pin.number :=
    SExpr.text?_text pin.number
  have name : ((Symbol.pin pin).valueOf? "name").bind SExpr.text? = some pin.name :=
    SExpr.text?_text pin.name
  rw [declaration?, number, name]
  rfl

/-- The unit of a definition that holds its pins. -/
def unitOf (name : String) (kind : Kind) : SExpr K :=
  .keyed "symbol" (SExpr.text (Symbol.shortName name ++ "_1_1") :: kind.pins.map Symbol.pin)

theorem head?_text (content : String) : (SExpr.text content : SExpr K).head? = none := by
  unfold SExpr.text
  split <;> rfl

theorem findAll_pin_unitOf (name : String) (kind : Kind) :
    (unitOf name kind : SExpr K).findAll "pin" = kind.pins.map Symbol.pin := by
  have allPins : ((kind.pins : List (Pin K)).map Symbol.pin).filter (·.head? == some "pin") =
      kind.pins.map Symbol.pin := by
    rw [List.filter_eq_self, List.forall_mem_map]
    exact fun pin _ => rfl
  rw [unitOf, SExpr.findAll, SExpr.items_keyed, List.filter_cons_of_neg (by simp [SExpr.head?]),
    List.filter_cons_of_neg (by simp [head?_text]), allPins]

/-- The units of a definition: one with the body, and one with the pins. -/
theorem findAll_symbol_ofKind (name : String) (kind : Kind) :
    (Symbol.ofKind name kind : SExpr K).findAll "symbol" =
      [.keyed "symbol" [SExpr.text (Symbol.shortName name ++ "_0_1"),
        Symbol.bodyRectangle (kind.pins : List (Pin K))], unitOf name kind] := by
  rw [Symbol.ofKind, SExpr.findAll, SExpr.items_keyed]
  simp only [List.cons_append, List.nil_append, Symbol.flags, Symbol.property]
  rw [List.filter_cons_of_neg (by simp [SExpr.head?]),
    List.filter_cons_of_neg (by simp [head?_text])]
  rfl

theorem firstUnits_ofKind (name : String) (kind : Kind) :
    firstUnits (Symbol.ofKind name kind : SExpr K) name = [unitOf name kind] := by
  have unitName (ending : String) (rest : List (SExpr K)) :
      definitionName? (.keyed "symbol" (SExpr.text (Symbol.shortName name ++ ending) :: rest)) =
        some (Symbol.shortName name ++ ending) := SExpr.text?_text _
  rw [firstUnits, findAll_symbol_ofKind, List.filter_cons_of_neg, List.filter_cons_of_pos]
  · rfl
  · rw [unitOf, unitName, beq_self_eq_true]
  · rw [unitName, beq_iff_eq, Option.some.injEq, ← String.toList_inj, String.toList_append,
      String.toList_append, List.append_cancel_left_eq]
    decide

/-- All pins of a definition are declared in its first unit. -/
theorem flatMap_findAll_pin_ofKind (name : String) (kind : Kind) :
    ((Symbol.ofKind name kind : SExpr K).findAll "symbol").flatMap (·.findAll "pin") =
      kind.pins.map Symbol.pin := by
  have body : (SExpr.keyed "symbol" [SExpr.text (Symbol.shortName name ++ "_0_1"),
      Symbol.bodyRectangle (kind.pins : List (Pin K))]).findAll "pin" = [] := by
    rw [SExpr.findAll, SExpr.items_keyed, List.filter_cons_of_neg (by simp [SExpr.head?]),
      List.filter_cons_of_neg (by simp [head?_text])]
    rfl
  rw [findAll_symbol_ofKind, List.flatMap_cons, List.flatMap_singleton, body, findAll_pin_unitOf,
    List.nil_append]

/-- A name that does not start with "power:" is that of a definition only if it is that of the
symbol in use. -/
theorem powerOnce_eq_iff {name other : String} (notPower : ¬"power:".toList <+: other.toList) :
    powerOnce name = other ↔ name = other := by
  rw [powerOnce]
  split
  case isFalse => exact .rfl
  case isTrue power =>
    constructor
    · rintro rfl
      rw [String.toList_append] at notPower
      exact absurd (List.prefix_append ..) notPower
    · rintro rfl
      exact absurd power notPower

/-- Where components are drawn with the symbols of their kinds, there is one definition under the
name of a component's symbol, and it is drawn from a kind with the same symbol. -/
theorem definitionsOf_document {circuit : Circuit K}
    (own : ∀ component ∈ circuit.components, component.HasOwnSymbol) {component : Component K}
    (member : component ∈ circuit.components) (numbering : Nat → Nat)
    (routes : List (WireRoute K)) :
    ∃ kind : Kind, kind.symbol = component.kind.symbol ∧
      definitionsOf (document numbering circuit routes) component.symbolName =
        [Symbol.ofKind component.symbolName kind] := by
  -- The definition is drawn from the first component that uses the name.
  obtain ⟨first, found⟩ : ∃ first,
      circuit.components.find? (·.symbolName == component.symbolName) = some first :=
    Option.isSome_iff_exists.mp
      (List.find?_isSome.mpr ⟨component, member, beq_self_eq_true component.symbolName⟩)
  have sameName : first.symbolName = component.symbolName := by simpa using List.find?_some found
  have inUse : (component.symbolName, SymbolOrigin.kind first.kind) ∈
      (usedSymbols circuit).entries := by
    rw [Table.mem_entries_iff, find?_usedSymbols, found, Option.map_some, Option.some_or]
  refine ⟨first.kind, Component.symbol_kind_eq (own first (List.mem_of_find?_eq_some found))
    (own component member) sameName, ?_⟩
  have notPower := not_power_prefix_symbolName (own component member)
  have sameEntries : (usedSymbols circuit).entries.filter (fun entry =>
      definitionName? (define entry.1 entry.2 : SExpr K) == some component.symbolName) =
        (usedSymbols circuit).entries.filter (·.1 == component.symbolName) := by
    refine List.filter_congr fun entry entryMember => ?_
    rw [definitionName?_define own entryMember, Bool.eq_iff_iff, beq_iff_eq, beq_iff_eq,
      Option.some.injEq, powerOnce_eq_iff notPower]
  have definitions : (document numbering circuit routes).find? "lib_symbols" =
      some (symbolDefinitions circuit) := rfl
  rw [definitionsOf, definitions, Option.elim_some, symbolDefinitions, SExpr.items_keyed,
    List.tail_cons, List.filter_map]
  have entry := filter_key_eq (usedSymbols circuit).nodup_names inUse
  simp only [Function.comp_def]
  rw [sameEntries, entry]
  rfl

/-! ## Symbols on the sheet -/

/-- The symbols on a sheet that bear a reference. -/
def shownUnder (root : SExpr K) (reference : String) : List (SExpr K) :=
  (root.findAll "symbol").filter (property? · "Reference" == some reference)

/-- The number of a pin of a symbol on a sheet. -/
def shownNumber? (tree : SExpr K) : Option String :=
  (tree.arg? 1).bind SExpr.text?

theorem exists_mem_drawFrom {α β : Type} (identifiers : α → Nat) (draw : Nat → α → β) (next : Nat)
    {items : List α} {item : α} (member : item ∈ items) :
    ∃ place, draw place item ∈ drawFrom identifiers draw next items := by
  induction items generalizing next with
  | nil => cases member
  | cons first rest inductionHypothesis =>
      rcases List.mem_cons.mp member with rfl | inRest
      · exact ⟨next, List.mem_cons_self⟩
      · obtain ⟨place, drawn⟩ := inductionHypothesis (next + identifiers first) inRest
        exact ⟨place, List.mem_cons_of_mem _ drawn⟩

/-- The references on a sheet are those of components and the keys of power symbols. -/
theorem map_reference_instances (circuit : Circuit K) :
    (instances circuit).map (·.reference) =
      circuit.components.map (·.reference) ++ circuit.powerKeys := by
  rw [← circuit.map_snd_keyedPowers]
  simp [instances, Function.comp_def, Instance.ofComponent, Instance.ofPower]

/-- Where references differ, one symbol on the sheet bears the reference of a component. -/
theorem shownUnder_document {circuit : Circuit K} (distinct : circuit.DistinctReferences)
    {component : Component K} (member : component ∈ circuit.components) (numbering : Nat → Nat)
    (routes : List (WireRoute K)) :
    ∃ place, shownUnder (document numbering circuit routes) component.reference =
      [(Instance.ofComponent component).draw numbering place] := by
  have shown : Instance.ofComponent component ∈ instances circuit :=
    List.mem_append_left _ (List.mem_map_of_mem member)
  obtain ⟨place, drawn⟩ :=
    exists_mem_drawFrom Instance.identifiers (Instance.draw numbering) 1 shown
  refine ⟨place, ?_⟩
  have references : (drawFrom Instance.identifiers (Instance.draw numbering) 1
      (instances circuit)).map (property? · "Reference") =
        ((instances circuit).map (·.reference)).map some := by
    rw [List.map_map]
    exact map_drawFrom (Instance.property?_draw_reference numbering) _ _
  have different : ((drawFrom Instance.identifiers (Instance.draw numbering) 1
      (instances circuit)).map (property? · "Reference")).Nodup := by
    rw [references, map_reference_instances]
    exact distinct.nodup_keys.map (Option.some_injective String)
  rw [shownUnder, findAll_symbol_document]
  have alone := filter_key_eq different drawn
  rwa [Instance.property?_draw_reference] at alone

/-- A symbol on the sheet lists the numbers of its pins in their order. -/
theorem map_shownNumber?_draw (numbering : Nat → Nat) (next : Nat) (shown : Instance K) :
    ((shown.draw numbering next).findAll "pin").map shownNumber? = shown.pinNumbers.map some := by
  have pins : (shown.draw numbering next).findAll "pin" =
      drawFrom (fun _ => 1) (Instance.drawPin numbering) (next + 1) shown.pinNumbers := by
    rw [Instance.draw, SExpr.findAll, SExpr.items_keyed,
      List.filter_cons_of_neg (by simp [SExpr.head?]), List.filter_append,
      filter_drawFrom_eq_self fun _ _ => rfl]
    rfl
  rw [pins]
  refine map_drawFrom (fun next number => ?_) _ _
  exact SExpr.text?_text number

/-! ## Agreement -/

/-- Take a described circuit and one of its components. There is one definition under the name of
the component's symbol, with one first unit, and one symbol on the sheet that bears the component's
reference. The pins that the unit declares are all that the definition declares. They are those
that the symbol on the sheet lists, in the same order, and those of the component in the wiring,
with the same names and electrical types. -/
theorem declaredPins_of_parse {dialect : Description.Dialect} {text : List Char}
    {circuit : Circuit K} (described : Description.parse dialect text = .ok circuit)
    {component : Component K} (member : component ∈ circuit.components) (numbering : Nat → Nat)
    (routes : List (WireRoute K)) :
    ∃ definition unit shown, ∃ declared : List PinDeclaration,
      definitionsOf (document numbering circuit routes) component.symbolName = [definition] ∧
      firstUnits definition component.symbolName = [unit] ∧
      shownUnder (document numbering circuit routes) component.reference = [shown] ∧
      (shown.valueOf? "lib_id").bind SExpr.text? = some component.symbolName ∧
      (definition.findAll "symbol").flatMap (·.findAll "pin") = unit.findAll "pin" ∧
      (unit.findAll "pin").map declaration? = declared.map some ∧
      (declared.map (·.number)).Nodup ∧
      (shown.findAll "pin").map shownNumber? = declared.map (some ·.number) ∧
      ((Wiring.ofCircuit circuit).pins? component.reference).map
          (·.map (·.pin.declaration)) = some declared ∧
      ∀ pin ∈ declared, ∃ placed, placed.entity = component.reference ∧
        (Wiring.ofCircuit circuit).pin component.reference pin.number = .ok placed ∧
        placed.pin.declaration = pin := by
  have own := kept_hasOwnSymbol.parse described
  have distinct : circuit.DistinctReferences :=
    (Description.kept_isDescribed.parse described).distinctReferences
  obtain ⟨kind, sameSymbol, definition⟩ := definitionsOf_document own member numbering routes
  obtain ⟨place, shown⟩ := shownUnder_document distinct member numbering routes
  have samePins : (kind.pins : List (Pin K)) = component.kind.pins :=
    Kind.pins_eq_of_symbol_eq sameSymbol
  have registered := Wiring.find?_entities_component distinct member
  refine ⟨_, _, _, (component.kind.pins : List (Pin K)).map Pin.declaration, definition,
    firstUnits_ofKind _ kind, shown, ?_, ?_, ?_, ?_, ?_, ?_, ?_⟩
  · rw [Instance.valueOf?_draw, Option.bind_some, SExpr.text?_text]
    rfl
  · rw [flatMap_findAll_pin_ofKind, findAll_pin_unitOf]
  · rw [findAll_pin_unitOf, samePins, List.map_map, List.map_map]
    exact List.map_congr_left fun pin _ => declaration?_pin pin
  · rw [List.map_map]
    exact component.kind.nodup_map_number_pins
  · rw [map_shownNumber?_draw, Instance.ofComponent, List.map_map, List.map_map]
    rfl
  · rw [Wiring.pins?, registered, Option.map_some, Option.map_some, Component.registered,
      List.map_map]
    rfl
  · rw [List.forall_mem_map]
    intro pin pinMember
    refine ⟨component.placed pin, rfl, ?_, rfl⟩
    have found : component.registered.pins.find? (·.pin.number == pin.number) =
        some (component.placed pin) := by
      rw [Component.registered, List.find?_map]
      exact congrArg (Option.map component.placed)
        (find?_key_eq component.kind.nodup_map_number_pins pinMember)
    simp only [Wiring.pin, Wiring.entity, registered]
    rw [Pin.declaration, found, Option.some_or]

/-- A relay and a resistor, which are both drawn with the symbol of a resistor. -/
def sharedCircuit : Circuit Float where
  name := "x"
  components :=
    [Component.ofKind "K1" (.other "relay") "5V" ⟨20, 20⟩,
      Component.ofKind "R1" .resistor "1k" ⟨50, 20⟩]
  powers := []
  connections := []

theorem declaredPins_of_parse_shared :
    Description.parse .auto ("circuit: x\ncomponents:\n- K1: relay 5V at (20, 20)\n" ++
      "- R1: resistor 1k at (50, 20)\n").toList = .ok sharedCircuit ∧
    ∃ definition unit shown, ∃ declared : List PinDeclaration,
      definitionsOf (document (Identifier.consecutive 1) sharedCircuit []) "Device:R" =
        [definition] ∧
      firstUnits definition "Device:R" = [unit] ∧
      shownUnder (document (Identifier.consecutive 1) sharedCircuit []) "R1" = [shown] ∧
      (unit.findAll "pin").map declaration? = declared.map some ∧
      (shown.findAll "pin").map shownNumber? = declared.map (some ·.number) ∧
      ((Wiring.ofCircuit sharedCircuit).pins? "R1").map (·.map (·.pin.declaration)) =
        some declared := by
  have described : Description.parse .auto
      ("circuit: x\ncomponents:\n- K1: relay 5V at (20, 20)\n" ++
        "- R1: resistor 1k at (50, 20)\n").toList = .ok sharedCircuit := by
    decide +kernel
  have member : Component.ofKind "R1" .resistor "1k" ⟨50, 20⟩ ∈ sharedCircuit.components := by
    simp [sharedCircuit]
  obtain ⟨definition, unit, shown, declared, defined, units, shownOnce, -, -, declares, -, lists,
    inWiring, -⟩ := declaredPins_of_parse described member (Identifier.consecutive 1) []
  exact ⟨described, definition, unit, shown, declared, defined, units, shownOnce, declares, lists,
    inWiring⟩

end Sheet
end CircuitSheet
