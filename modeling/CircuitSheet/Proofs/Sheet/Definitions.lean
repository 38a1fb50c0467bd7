import CircuitSheet.Binary64
import CircuitSheet.Proofs.Description.Invariant
import CircuitSheet.Proofs.Sheet.RoundTrip
import CircuitSheet.Proofs.Table

/-!
# Symbols and their definitions

A document defines the symbols that stand on it, in the ascending order of their names, each under
the name that it bears there. Power symbols alone may be defined under another name: the definition
holds "power:" once where the name of the symbol starts with it more than once.
-/

namespace CircuitSheet

variable {K : Type}

namespace Text

theorem dropRepeated_of_not_prefix {leading text : List Char} (other : ¬leading <+: text) :
    dropRepeated leading text = text := by
  unfold dropRepeated
  split
  · rfl
  · split
    case h_1 shorter split =>
      exact absurd ⟨shorter, (dropLeading?_eq_some_iff.mp split).symm⟩ other
    case h_2 => rfl

theorem dropRepeated_append {leading : List Char} (notEmpty : leading ≠ []) (text : List Char) :
    dropRepeated leading (leading ++ text) = dropRepeated leading text := by
  have split : dropLeading? leading (leading ++ text) = some text :=
    dropLeading?_eq_some_iff.mpr rfl
  rw [dropRepeated, if_neg notEmpty]
  split
  case h_1 shorter same => rw [Option.some.inj (same.symm.trans split)]
  case h_2 same => cases same.symm.trans split

theorem length_dropRepeated_le (leading text : List Char) :
    (dropRepeated leading text).length ≤ text.length := by
  fun_induction dropRepeated leading text with
  | case1 => exact le_rfl
  | case2 text notEmpty shorter split inductionHypothesis =>
      rw [dropLeading?_eq_some_iff.mp split, List.length_append]
      omega
  | case3 => exact le_rfl

/-- Only a text that does not start with the leading part stays as it is. -/
theorem dropRepeated_eq_self_iff {leading text : List Char} (notEmpty : leading ≠ []) :
    dropRepeated leading text = text ↔ ¬leading <+: text := by
  refine ⟨?_, dropRepeated_of_not_prefix⟩
  rintro same ⟨shorter, rfl⟩
  have least := length_dropRepeated_le leading shorter
  have positive := List.length_pos_iff.mpr notEmpty
  rw [dropRepeated_append notEmpty] at same
  rw [same, List.length_append] at least
  omega

end Text

namespace Sheet

/-! ## Names of definitions -/

/-- The name under which a tree defines a symbol. -/
def definitionName? (tree : SExpr K) : Option String :=
  if tree.head? = some "symbol" then (tree.arg? 1).bind SExpr.text? else none

/-- The names under which a document defines symbols, in its order. -/
def definedNames (root : SExpr K) : List (Option String) :=
  ((root.find? "lib_symbols").elim [] (·.items.tail)).map definitionName?

/-- The names of the symbols that stand on a document, in its order. -/
def shownNames (root : SExpr K) : List (Option String) :=
  (root.findAll "symbol").map fun shown => (shown.valueOf? "lib_id").bind SExpr.text?

/-- Every symbol that stands on a document is defined once under its name, nothing else is, and the
names of the definitions ascend. -/
def DefinesShown (root : SExpr K) : Prop :=
  ∃ names : List String, definedNames root = names.map some ∧ names.Pairwise (· < ·) ∧
    ∀ name, name ∈ shownNames root ↔ name ∈ names.map some

/-- The name with "power:" once at its start if it starts with it at all. -/
def powerOnce (name : String) : String :=
  if "power:".toList <+: name.toList then
    "power:" ++ String.ofList (Text.dropRepeated "power:".toList name.toList)
  else name

theorem powerOnce_append (rail : String) :
    powerOnce ("power:" ++ rail) =
      "power:" ++ String.ofList (Text.dropRepeated "power:".toList rail.toList) := by
  rw [powerOnce, String.toList_append, if_pos (List.prefix_append ..),
    Text.dropRepeated_append (by decide)]

/-- The name of a power symbol stays as it is unless its rail starts with "power:" in turn. -/
theorem powerOnce_append_eq_iff (rail : String) :
    powerOnce ("power:" ++ rail) = "power:" ++ rail ↔ ¬"power:".toList <+: rail.toList := by
  rw [powerOnce_append, ← Text.dropRepeated_eq_self_iff (by decide), ← String.toList_inj,
    String.toList_append, String.toList_append, List.append_cancel_left_eq, String.toList_ofList]

/-- The names of symbols that are drawn with those of their kinds do not start with "power:". -/
theorem not_power_prefix_symbolName [ScalarText K] {component : Component K}
    (own : component.HasOwnSymbol) : ¬"power:".toList <+: component.symbolName.toList := by
  change ¬"power:".toList <+: (Instance.ofComponent component).symbolName.toList
  rw [← nameParts_fst_eq_power_iff, nameParts_ofComponent own]
  exact (colon_not_mem_library component.kind).2

/-! ## Symbols in use -/

theorem find?_usedSymbols (circuit : Circuit K) (name : String) :
    (usedSymbols circuit).find? name =
      ((circuit.components.find? (·.symbolName == name)).map fun component =>
          SymbolOrigin.kind component.kind).or
        ((circuit.powers.find? (·.symbolName == name)).map fun _ => SymbolOrigin.rail) := by
  rw [usedSymbols, Table.find?_foldl_insertNew, Table.find?_foldl_insertNew, Table.find?_empty,
    Option.none_or]

variable [ScalarText K]

theorem map_symbolName_instances (circuit : Circuit K) :
    (instances circuit).map (·.symbolName) =
      circuit.components.map (·.symbolName) ++ circuit.powers.map (·.symbolName) := by
  conv_rhs => rw [← circuit.map_fst_keyedPowers]
  simp [instances, Function.comp_def, Instance.ofComponent, Instance.ofPower]

/-- The symbols in use are those that stand on the sheet. -/
theorem mem_names_usedSymbols {circuit : Circuit K} {name : String} :
    name ∈ (usedSymbols circuit).names ↔ name ∈ (instances circuit).map (·.symbolName) := by
  rw [Table.mem_names_iff, find?_usedSymbols, map_symbolName_instances, Option.isSome_or]
  simp

/-- Where components are drawn with the symbols of their kinds, a symbol in use is defined under
its name with "power:" once. -/
theorem definitionName?_define {circuit : Circuit K}
    (own : ∀ component ∈ circuit.components, component.HasOwnSymbol)
    {name : String} {origin : SymbolOrigin}
    (inUse : (name, origin) ∈ (usedSymbols circuit).entries) :
    definitionName? (define name origin : SExpr K) = some (powerOnce name) := by
  rw [Table.mem_entries_iff, find?_usedSymbols, Option.or_eq_some_iff] at inUse
  rcases inUse with ofComponent | ⟨-, ofPower⟩
  · obtain ⟨component, found, rfl⟩ := Option.map_eq_some_iff.mp ofComponent
    obtain rfl : component.symbolName = name := by simpa using List.find?_some found
    have notPower := not_power_prefix_symbolName (own component (List.mem_of_find?_eq_some found))
    rw [powerOnce, if_neg notPower]
    exact SExpr.text?_text component.symbolName
  · obtain ⟨power, found, rfl⟩ := Option.map_eq_some_iff.mp ofPower
    obtain rfl : power.symbolName = name := by simpa using List.find?_some found
    rw [PowerSymbol.symbolName, powerOnce, String.toList_append, if_pos (List.prefix_append ..),
      ← String.toList_append]
    exact SExpr.text?_text _

/-! ## Documents -/

section Documents

variable {circuit : Circuit K} (numbering : Nat → Nat) (routes : List (WireRoute K))

theorem shownNames_document (circuit : Circuit K) :
    shownNames (document numbering circuit routes) =
      ((instances circuit).map (·.symbolName)).map some := by
  rw [shownNames, findAll_symbol_document, List.map_map]
  refine map_drawFrom (fun next shown => ?_) _ _
  rw [Instance.valueOf?_draw, Option.bind_some, SExpr.text?_text, Function.comp_apply]

theorem mem_shownNames_document {circuit : Circuit K} {name : Option String} :
    name ∈ shownNames (document numbering circuit routes) ↔
      name ∈ (usedSymbols circuit).names.map some := by
  rw [shownNames_document, List.mem_map, List.mem_map]
  simp only [mem_names_usedSymbols]

theorem definedNames_document
    (own : ∀ component ∈ circuit.components, component.HasOwnSymbol) :
    definedNames (document numbering circuit routes) =
      ((usedSymbols circuit).names.map powerOnce).map some := by
  change ((usedSymbols circuit).entries.map fun entry => (define entry.1 entry.2 : SExpr K)).map
    definitionName? = _
  rw [List.map_map, Table.names, List.map_map, List.map_map]
  exact List.map_congr_left fun entry inUse => definitionName?_define own inUse

/-- A document defines the symbols that stand on it exactly if no name of theirs changes when
"power:" is held once. -/
theorem definesShown_document_iff
    (own : ∀ component ∈ circuit.components, component.HasOwnSymbol) :
    DefinesShown (document numbering circuit routes) ↔
      ∀ name ∈ (usedSymbols circuit).names, powerOnce name = name := by
  rw [DefinesShown, definedNames_document numbering routes own]
  have someInjective : Function.Injective (List.map (some : String → Option String)) :=
    List.map_injective_iff.mpr (Option.some_injective String)
  simp only [mem_shownNames_document, someInjective.eq_iff]
  constructor
  · rintro ⟨names, rfl, ascending, shown⟩
    have same : (usedSymbols circuit).names.map powerOnce = (usedSymbols circuit).names := by
      refine (usedSymbols circuit).eq_names_of_ascending ascending fun name => ?_
      simpa using (shown (some name)).symm
    exact map_eq_self_iff.mp same
  · intro once
    exact ⟨(usedSymbols circuit).names, map_eq_self_iff.mpr once,
      (usedSymbols circuit).ascending_names, fun _ => .rfl⟩

/-- A document defines the symbols that stand on it exactly if no rail starts with "power:". -/
theorem definesShown_document_iff_rails
    (own : ∀ component ∈ circuit.components, component.HasOwnSymbol) :
    DefinesShown (document numbering circuit routes) ↔
      ∀ power ∈ circuit.powers, ¬"power:".toList <+: power.rail.toList := by
  have componentsOnce : ∀ component ∈ circuit.components,
      powerOnce component.symbolName = component.symbolName := fun component member =>
    if_neg (not_power_prefix_symbolName (own component member))
  rw [definesShown_document_iff numbering routes own]
  simp only [mem_names_usedSymbols, map_symbolName_instances, List.forall_mem_append,
    List.forall_mem_map, PowerSymbol.symbolName, powerOnce_append_eq_iff]
  exact and_iff_right componentsOnce

end Documents

/-! ## Described circuits -/

theorem hasOwnSymbol_of_component? {entry : List Char} {component : Component K}
    (described : Description.component? entry = some component) : component.HasOwnSymbol := by
  simp only [Description.component?, Option.bind_eq_bind, Option.bind_eq_some_iff] at described
  obtain ⟨⟨head, position⟩, -, ⟨reference, words⟩, -, given⟩ := described
  cases words with
  | nil => cases given
  | cons tag value =>
      obtain rfl := Option.some.inj given
      exact Component.hasOwnSymbol_ofKind ..

/-- Described components are drawn with the symbols of their kinds. -/
theorem kept_hasOwnSymbol :
    Description.Kept fun circuit : Circuit K =>
      ∀ component ∈ circuit.components, component.HasOwnSymbol where
  named := by simp [Circuit.named]
  renamed := fun _ _ own => own
  entered := by
    intro circuit part entry own
    cases part with
    | components =>
        cases described : Description.component? (K := K) entry with
        | none => simpa [Description.addEntry, described] using own
        | some added =>
            intro component member
            rw [Description.addEntry, described] at member
            rcases Circuit.mem_components_addComponent member with before | rfl
            · exact own component before
            · exact hasOwnSymbol_of_component? described
    | power =>
        cases described : Description.power? (K := K) entry with
        | none => simpa [Description.addEntry, described] using own
        | some added => simpa [Description.addEntry, described] using own
    | connections =>
        cases described : Description.connection? entry with
        | none => simpa [Description.addEntry, described] using own
        | some added => simpa [Description.addEntry, described, Circuit.addConnection] using own

/-- The document of a described circuit defines the symbols that stand on it, and no others,
exactly if no rail starts with "power:". In any case it holds one definition for each name that
stands on it, in the ascending order of these names, under that name with "power:" once. -/
theorem definesShown_iff_of_parse {dialect : Description.Dialect} {text : List Char}
    {circuit : Circuit K} (described : Description.parse dialect text = .ok circuit)
    (numbering : Nat → Nat) (routes : List (WireRoute K)) :
    (DefinesShown (document numbering circuit routes) ↔
      ∀ power ∈ circuit.powers, ¬"power:".toList <+: power.rail.toList) ∧
    ∃ names : List String, names.Pairwise (· < ·) ∧
      (∀ name, name ∈ shownNames (document numbering circuit routes) ↔ name ∈ names.map some) ∧
      definedNames (document numbering circuit routes) = (names.map powerOnce).map some := by
  have own := kept_hasOwnSymbol.parse described
  refine ⟨definesShown_document_iff_rails numbering routes own, (usedSymbols circuit).names,
    (usedSymbols circuit).ascending_names, fun _ => ?_, ?_⟩
  · exact mem_shownNames_document numbering routes
  · exact definedNames_document numbering routes own

/-- A circuit with a component and a ground. -/
def groundedCircuit : Circuit Float where
  name := "x"
  components := [Component.ofKind "R1" .resistor "1k" ⟨20, 20⟩]
  powers := [⟨"G1", "GND", ⟨10, 20⟩⟩]
  connections := []

theorem definesShown_iff_of_parse_grounded :
    Description.parse .auto ("circuit: x\ncomponents:\n- R1: resistor 1k at (20, 20)\n" ++
      "power:\n- G1: GND at (10, 20)\n").toList = .ok groundedCircuit ∧
    DefinesShown (document (Identifier.consecutive 1) groundedCircuit []) := by
  have described : Description.parse .auto
      ("circuit: x\ncomponents:\n- R1: resistor 1k at (20, 20)\n" ++
        "power:\n- G1: GND at (10, 20)\n").toList = .ok groundedCircuit := rfl
  have rails : ∀ power ∈ groundedCircuit.powers, ¬"power:".toList <+: power.rail.toList := by decide
  exact ⟨described, (definesShown_iff_of_parse described (Identifier.consecutive 1) []).1.mpr rails⟩

/-- A circuit whose rail is named like a symbol of the power library. -/
def danglingCircuit : Circuit Float where
  name := "x"
  components := []
  powers := [⟨"V1", "power:GND", ⟨10, 20⟩⟩]
  connections := []

/-- The symbol of a rail that is named like a symbol of the power library is not defined. -/
theorem not_definesShown_dangling :
    Description.parse .auto "circuit: x\npower:\n- V1: power:GND at (10, 20)\n".toList =
      .ok danglingCircuit ∧
    ¬DefinesShown (document (Identifier.consecutive 1) danglingCircuit []) := by
  refine ⟨rfl, ?_⟩
  rintro ⟨names, defined, -, shown⟩
  have definedPower : definedNames (document (Identifier.consecutive 1) danglingCircuit []) =
      [some "power:GND"] := by decide +kernel
  have shownPower : shownNames (document (Identifier.consecutive 1) danglingCircuit []) =
      [some "power:power:GND"] := rfl
  have same := shown (some "power:power:GND")
  rw [← defined, definedPower, shownPower] at same
  simp at same

end Sheet
end CircuitSheet
