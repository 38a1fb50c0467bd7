import CircuitSheet.Circuit.Basic
import CircuitSheet.Floorplan.Arrangement
import CircuitSheet.Floorplan.Statistics
import CircuitSheet.Json.Decoding
import CircuitSheet.Pin.Basic
import CircuitSheet.Severity

/-!
# Circuits as JSON

Circuits, pins and placements have a form in JSON. How numbers are written is a parameter.
Circuits can be read back.
-/

namespace CircuitSheet

section

variable {K : Type} (number : K → Json)

/-- A point as JSON. -/
def Point.toJson (point : Point K) : Json :=
  .object [("x", number point.x), ("y", number point.y)]

/-- A page as JSON. -/
def Page.toJson (page : Page K) : Json :=
  .object
    [("width", number page.width), ("height", number page.height), ("margin", number page.margin)]

/-- A kind as JSON: its tag, which is marked where the kind is not known. -/
def Kind.toJson : Kind → Json
  | .other tag => .object [("other", .string tag)]
  | kind => .string kind.tag

/-- A component as JSON. -/
def Component.toJson (component : Component K) : Json :=
  .object
    [("reference", .string component.reference), ("kind", component.kind.toJson),
      ("value", .string component.value), ("position", component.position.toJson number),
      ("library", .string component.library), ("symbol", .string component.symbol)]

/-- A power symbol as JSON. -/
def PowerSymbol.toJson (power : PowerSymbol K) : Json :=
  .object
    [("reference", .string power.reference), ("power_type", .string power.rail),
      ("position", power.position.toJson number)]

/-- A terminal as JSON. -/
def Terminal.toJson (terminal : Terminal) : Json :=
  .object
    [("component", .string terminal.entity), ("pin", Json.ofOption Json.string terminal.pin)]

/-- A connection as JSON. -/
def Connection.toJson (connection : Connection) : Json :=
  .object [("from", connection.source.toJson), ("to", connection.target.toJson)]

/-- A circuit as JSON. -/
def Circuit.toJson (circuit : Circuit K) : Json :=
  .object
    [("name", .string circuit.name),
      ("components", Json.ofList (Component.toJson number) circuit.components),
      ("power_symbols", Json.ofList (PowerSymbol.toJson number) circuit.powers),
      ("connections", Json.ofList Connection.toJson circuit.connections)]

/-- The name of a role. -/
def PinRole.name : PinRole → String
  | .electrical => "electrical"
  | .power => "power"
  | .ground => "ground"
  | .signal => "signal"

/-- A pin as JSON. -/
def Pin.toJson (pin : Pin K) : Json :=
  .object
    [("number", .string pin.number), ("name", .string pin.name),
      ("direction", .string pin.direction.keyword), ("pin_type", .string pin.role.name),
      ("offset", pin.offset.toJson number), ("length", number pin.length),
      ("angle", number pin.angle)]

/-- A placement as JSON. -/
def Placement.toJson (placement : Placement K) : Json :=
  .object
    [("reference", .string placement.reference), ("position", placement.position.toJson number)]

/-- The figures of a floorplan as JSON. -/
def LayoutStatistics.toJson (figures : LayoutStatistics K) : Json :=
  .object
    [("total_components", Json.ofNat figures.totalComponents),
      ("area_utilization", number figures.areaUtilization),
      ("average_spacing", number figures.averageSpacing),
      ("bounds_violations", Json.ofNat figures.boundsViolations)]

end

/-- The point that a JSON value is. -/
def Point.ofJson? (value : Json) : Option (Point Float) := do
  match ← value.record? ["x", "y"] with
  | [x, y] => some ⟨← Json.required Json.toFloat? x, ← Json.required Json.toFloat? y⟩
  | _ => none

/-- The page that a JSON value is. -/
def Page.ofJson? (value : Json) : Option (Page Float) := do
  match ← value.record? ["width", "height", "margin"] with
  | [width, height, margin] =>
      some
        { width := ← Json.required Json.toFloat? width
          height := ← Json.required Json.toFloat? height
          margin := ← Json.required Json.toFloat? margin }
  | _ => none

/-- The kind that a JSON value is. -/
def Kind.ofJson? (value : Json) : Option Kind :=
  match value.case? with
  | some ("other", content) => content.toText?.map Kind.other
  | _ => value.oneOf? (Kind.known.map fun kind => (kind.tag, kind))

/-- The component that a JSON value is. -/
def Component.ofJson? (value : Json) : Option (Component Float) := do
  match ← value.record? ["reference", "kind", "value", "position", "library", "symbol"] with
  | [reference, kind, text, position, library, symbol] =>
      some
        { reference := ← Json.required Json.toText? reference
          kind := ← Json.required Kind.ofJson? kind
          value := ← Json.required Json.toText? text
          position := ← Json.required Point.ofJson? position
          library := ← Json.required Json.toText? library
          symbol := ← Json.required Json.toText? symbol }
  | _ => none

/-- The power symbol that a JSON value is. -/
def PowerSymbol.ofJson? (value : Json) : Option (PowerSymbol Float) := do
  match ← value.record? ["reference", "power_type", "position"] with
  | [reference, rail, position] =>
      some
        { reference := ← Json.required Json.toText? reference
          rail := ← Json.required Json.toText? rail
          position := ← Json.required Point.ofJson? position }
  | _ => none

/-- The terminal that a JSON value is; it may lack its pin. -/
def Terminal.ofJson? (value : Json) : Option Terminal := do
  match ← value.record? ["component", "pin"] with
  | [entity, pin] =>
      some
        { entity := ← Json.required Json.toText? entity
          pin := ← Json.withDefault none (Json.toOption? Json.toText?) pin }
  | _ => none

/-- The connection that a JSON value is. -/
def Connection.ofJson? (value : Json) : Option Connection := do
  match ← value.record? ["from", "to"] with
  | [source, target] =>
      some ⟨← Json.required Terminal.ofJson? source, ← Json.required Terminal.ofJson? target⟩
  | _ => none

/-- The circuit that a JSON value is. -/
def Circuit.ofJson? (value : Json) : Option (Circuit Float) := do
  match ← value.record? ["name", "components", "power_symbols", "connections"] with
  | [name, components, powers, connections] =>
      some
        { name := ← Json.required Json.toText? name
          components := ← Json.required (Json.toList? Component.ofJson?) components
          powers := ← Json.required (Json.toList? PowerSymbol.ofJson?) powers
          connections := ← Json.required (Json.toList? Connection.ofJson?) connections }
  | _ => none

end CircuitSheet
