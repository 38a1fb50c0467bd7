import CircuitSheet.Circuit.PowerKeys
import CircuitSheet.SExpr.Writer
import CircuitSheet.Sheet.Identifier
import CircuitSheet.Sheet.Symbol
import CircuitSheet.Wire.Router

/-!
# Sheet documents

A placed circuit and its routes make a document: a header, the definitions of the symbols in
use, the components, the power symbols and the wires. Identifiers are drawn in the order in
which they stand in the document; a numbering says which one is drawn at each place.
-/

namespace CircuitSheet
namespace Sheet

variable {K : Type} [ScalarText K]

/-- The identifier at a place. -/
def uuid (numbering : Nat → Nat) (place : Nat) : SExpr K :=
  .keyed "uuid" [SExpr.text (Identifier.text (numbering place))]

/-- Draw items one after the other, each from the place of its first identifier on. -/
def drawFrom {α β : Type} (identifiers : α → Nat) (draw : Nat → α → β) (next : Nat) :
    List α → List β
  | [] => []
  | item :: rest => draw next item :: drawFrom identifiers draw (next + identifiers item) rest

/-- The number of identifiers that items take. -/
def identifierCount {α : Type} (identifiers : α → Nat) (items : List α) : Nat :=
  items.foldr (fun item total => identifiers item + total) 0

/-- What a symbol on the sheet shows. -/
structure Instance (K : Type) where
  symbolName : String
  position : Point K
  reference : String
  value : String
  datasheet : String
  pinNumbers : List String

namespace Instance

/-- The symbol of a component. -/
def ofComponent (component : Component K) : Instance K where
  symbolName := component.symbolName
  position := component.position
  reference := component.reference
  value := component.value
  datasheet := "~"
  pinNumbers := (component.kind.pins : List (Pin K)).map (·.number)

/-- The symbol of a rail under its key. -/
def ofPower (power : PowerSymbol K) (key : String) : Instance K where
  symbolName := power.symbolName
  position := power.position
  reference := key
  value := power.rail
  datasheet := ""
  pinNumbers := ["1"]

/-- A symbol takes an identifier for itself and one for every pin. -/
def identifiers (shown : Instance K) : Nat :=
  1 + shown.pinNumbers.length

/-- A pin of a symbol on the sheet. -/
def drawPin (numbering : Nat → Nat) (next : Nat) (number : String) : SExpr K :=
  .keyed "pin" [SExpr.text number, uuid numbering next]

/-- A symbol on the sheet, with identifiers from a place on. -/
def draw (numbering : Nat → Nat) (next : Nat) (shown : Instance K) : SExpr K :=
  let x := toFileUnits shown.position.x
  let y := toFileUnits shown.position.y
  let labelX := x + toFileUnits 2.54
  let labelOffset : K := toFileUnits 1.27
  .keyed "symbol"
    ([.keyed "lib_id" [SExpr.text shown.symbolName],
        Symbol.placedAt x y 0.0,
        .keyed "unit" [.number 1.0],
        .keyed "exclude_from_sim" [.yesNo false],
        .keyed "in_bom" [.yesNo true],
        .keyed "on_board" [.yesNo true],
        .keyed "dnp" [.yesNo false],
        uuid numbering next,
        Symbol.property "Reference" shown.reference labelX (y - labelOffset) false,
        Symbol.property "Value" shown.value labelX (y + labelOffset) false,
        Symbol.property "Footprint" "" x y true,
        Symbol.property "Datasheet" shown.datasheet x y true] ++
      drawFrom (fun _ => 1) (drawPin numbering) (next + 1) shown.pinNumbers)

end Instance

/-- The corner of a wire in file units. -/
def drawCorner (point : Point K) : SExpr K :=
  .keyed "xy" [.number (toFileUnits point.x), .number (toFileUnits point.y)]

/-- A wire. -/
def drawWire (numbering : Nat → Nat) (next : Nat) (segment : WireSegment K) : SExpr K :=
  .keyed "wire"
    [.keyed "pts" [drawCorner segment.start, drawCorner segment.stop],
      Symbol.stroke 0.0,
      uuid numbering next]

/-- What a symbol in use is defined from. -/
inductive SymbolOrigin
  | kind (kind : Kind)
  | rail
  deriving DecidableEq, Repr

/-- The symbols in use by name. A name stands for the first component that uses it. -/
def usedSymbols (circuit : Circuit K) : Table SymbolOrigin :=
  let ofComponents := circuit.components.foldl
    (fun table component => table.insertNew component.symbolName (.kind component.kind))
    Table.empty
  circuit.powers.foldl (fun table power => table.insertNew power.symbolName .rail) ofComponents

/-- The definition of a symbol in use. -/
def define (name : String) : SymbolOrigin → SExpr K
  | .kind kind => Symbol.ofKind name kind
  | .rail => Symbol.ofRail (String.ofList (Text.dropRepeated "power:".toList name.toList))

/-- The definitions of all symbols in use, in the order of their names. -/
def symbolDefinitions (circuit : Circuit K) : SExpr K :=
  .keyed "lib_symbols"
    ((usedSymbols circuit).entries.map fun (name, origin) => define name origin)

/-- The version of the file format. -/
def formatVersion : K := 20241201.0

/-- The program that sheets are drawn by. -/
def generator : String := "schemgen"

/-- The version of the program. -/
def generatorVersion : String := "0.1.0"

/-- What stands in front of the symbols and wires. -/
def header (numbering : Nat → Nat) (circuit : Circuit K) : List (SExpr K) :=
  [.keyed "version" [.number formatVersion],
    .keyed "generator" [.symbol generator],
    .keyed "generator_version" [SExpr.text generatorVersion],
    uuid numbering 0,
    .keyed "paper" [SExpr.text "A4"],
    .keyed "title_block"
      [.keyed "title" [SExpr.text circuit.name],
        .keyed "date" [SExpr.text ""],
        .keyed "rev" [SExpr.text ""],
        .keyed "company" [SExpr.text ""]],
    symbolDefinitions circuit]

/-- The symbols of a circuit, components first. -/
def instances (circuit : Circuit K) : List (Instance K) :=
  circuit.components.map Instance.ofComponent ++
    circuit.keyedPowers.map fun (power, key) => Instance.ofPower power key

/-- The segments of some routes. -/
def segmentsOf (routes : List (WireRoute K)) : List (WireSegment K) :=
  routes.flatMap (·.segments)

/-- What stands behind the symbols and wires. -/
def footer : SExpr K :=
  .keyed "sheet_instances"
    [.keyed "path" [SExpr.text "/", .keyed "page" [SExpr.text "1"]]]

/-- The document of a circuit and its routes. -/
def document (numbering : Nat → Nat) (circuit : Circuit K) (routes : List (WireRoute K)) :
    SExpr K :=
  let shown := instances circuit
  let firstWire := 1 + identifierCount Instance.identifiers shown
  .keyed "kicad_sch"
    (header numbering circuit ++
      drawFrom Instance.identifiers (Instance.draw numbering) 1 shown ++
      drawFrom (fun _ => 1) (drawWire numbering) firstWire (segmentsOf routes) ++ [footer])

/-- The text of a circuit and its routes under a numbering of the identifiers. -/
def writeNumbered (numbering : Nat → Nat) (circuit : Circuit K) (routes : List (WireRoute K)) :
    Except (SExpr.Refusal K) (List Char) :=
  (document numbering circuit routes).write

/-- The text of a circuit and its routes, with consecutive identifiers from a number on. -/
def write (first : Nat) (circuit : Circuit K) (routes : List (WireRoute K)) :
    Except (SExpr.Refusal K) (List Char) :=
  writeNumbered (Identifier.consecutive first) circuit routes

end Sheet
end CircuitSheet
