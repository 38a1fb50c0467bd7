import CircuitSheet.Description.Section
import CircuitSheet.SExpr.Reader
import CircuitSheet.Wire.Router

/-!
# Reading sheets

The components, power symbols and wires of a sheet are read back from its text. Connections
are not: wires are geometry only. Of entities that bear one reference only the first is read.
-/

namespace CircuitSheet
namespace Sheet

variable {K : Type} [ScalarText K]

/-- What a sheet shows. -/
structure Content (K : Type) where
  circuit : Circuit K
  wires : List (WireSegment K)
  deriving DecidableEq

/-- Why a text is not read as a sheet. -/
inductive ReadError
  | malformed (cause : SExpr.SyntaxError)
  | notASheet (root : String)
  | missing (field : String)
  deriving DecidableEq, Repr

/-- The message for a text that is not read as a sheet. -/
def ReadError.message : ReadError → String
  | .malformed cause => "Parse error: " ++ cause.message
  | .notASheet root => "Not a schematic: root is '" ++ root ++ "'"
  | .missing field => "Symbol instance is missing " ++ field

/-- A property with a name. -/
def isProperty (name : String) (tree : SExpr K) : Bool :=
  ((tree.arg? 1).bind SExpr.text?) == some name

/-- The value of the first property with a name. -/
def property? (shown : SExpr K) (name : String) : Option String := do
  let property ← (shown.findAll "property").find? (isProperty name)
  let value ← property.arg? 2
  value.text?

/-- The point whose coordinates follow a key. -/
def point? (tree : SExpr K) : Option (Point K) := do
  let x ← (← tree.arg? 1).number?
  let y ← (← tree.arg? 2).number?
  some ⟨fromFileUnits x, fromFileUnits y⟩

/-- Add the entity that a symbol shows to a circuit. -/
def addInstance (circuit : Circuit K) (shown : SExpr K) : Except ReadError (Circuit K) := do
  let some symbolName := (shown.valueOf? "lib_id").bind SExpr.text? | .error (.missing "lib_id")
  let some position := (shown.find? "at").bind point? | .error (.missing "at")
  let some reference := property? shown "Reference" | .error (.missing "Reference")
  let value := (property? shown "Value").getD ""
  let (library, symbol) :=
    (Text.cutAt? ':' symbolName.toList).getD ([], symbolName.toList)
  if library = "power".toList then
    let rail := if value = "" then String.ofList symbol else value
    .ok (circuit.addPower ⟨reference, rail, position⟩)
  else
    let kind := Kind.ofSymbol (String.ofList library) (String.ofList symbol)
    .ok (circuit.addComponent (Component.ofKind reference kind value position))

/-- The wire between the first two corners of a tree. -/
def wire? (tree : SExpr K) : Option (WireSegment K) := do
  let corners ← tree.find? "pts"
  match (corners.findAll "xy").filterMap point? with
  | start :: stop :: _ => some (WireSegment.between start stop)
  | _ => none

/-- The title of a sheet. -/
def title? (root : SExpr K) : Option String := do
  let block ← root.find? "title_block"
  let title ← block.valueOf? "title"
  title.text?

/-- What the tree of a sheet shows. -/
def ofTree (root : SExpr K) : Except ReadError (Content K) :=
  if root.head? = some "kicad_sch" then do
    let empty : Circuit K := Circuit.named ((title? root).getD Description.untitled)
    let circuit ← (root.findAll "symbol").foldlM addInstance empty
    .ok ⟨circuit, (root.findAll "wire").filterMap wire?⟩
  else .error (.notASheet (root.head?.getD ""))

/-- What the text of a sheet shows. -/
def read (text : List Char) : Except ReadError (Content K) :=
  match SExpr.parse text with
  | .error cause => .error (.malformed cause)
  | .ok root => ofTree root

end Sheet
end CircuitSheet
