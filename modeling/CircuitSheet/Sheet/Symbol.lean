import CircuitSheet.Pin.Arrangement
import CircuitSheet.SExpr.Token

/-!
# Symbol definitions

A sheet carries the definitions of the symbols that it uses. They are drawn from the pin
arrangements, so that the pins of a symbol are where wires meet them. Coordinates are in
millimetres from the symbol's origin.
-/

namespace CircuitSheet
namespace Symbol

variable {K : Type} [ScalarText K]

/-- A position and an angle. -/
def placedAt (x y angle : K) : SExpr K :=
  .keyed "at" [.number x, .number y, .number angle]

/-- The height of all letters in millimetres. -/
def fontSize : K := 1.27

/-- How a text is shown. -/
def effects (hidden : Bool) : SExpr K :=
  .keyed "effects"
    (.keyed "font" [.keyed "size" [.number fontSize, .number fontSize]] ::
      if hidden then [.keyed "hide" [.yesNo true]] else [])

/-- A named text at a position. -/
def property (name value : String) (x y : K) (hidden : Bool) : SExpr K :=
  .keyed "property" [SExpr.text name, SExpr.text value, placedAt x y 0.0, effects hidden]

/-- A definition takes part in everything but simulation. -/
def flags : List (SExpr K) :=
  [.keyed "exclude_from_sim" [.yesNo false], .keyed "in_bom" [.yesNo true],
    .keyed "on_board" [.yesNo true]]

/-- A pin, given at the end where wires meet it and pointing back to the body. -/
def pin (pin : Pin K) : SExpr K :=
  let turn := Scalar.radians pin.angle
  .keyed "pin"
    [.symbol pin.direction.keyword,
      .symbol "line",
      placedAt (Scalar.roundTo 1e4 (pin.offset.x + pin.length * Scalar.cos turn))
        (Scalar.roundTo 1e4 (pin.offset.y + pin.length * Scalar.sin turn))
        (Scalar.modulo (pin.angle + 180.0) 360.0),
      .keyed "length" [.number pin.length],
      .keyed "name" [SExpr.text pin.name, effects false],
      .keyed "number" [SExpr.text pin.number, effects false]]

/-- How lines are drawn. -/
def stroke (width : K) : SExpr K :=
  .keyed "stroke" [.keyed "width" [.number width], .keyed "type" [.symbol "default"]]

/-- Half of the least width and height of a body. -/
def leastReach : K := 1.27

/-- How far offsets reach from the origin. -/
def reach (offsets : List K) : K :=
  offsets.foldl (fun furthest offset => Scalar.greater furthest (Scalar.magnitude offset)) leastReach

/-- The rectangle of a body that reaches to the stubs of its pins. -/
def bodyRectangle (pins : List (Pin K)) : SExpr K :=
  let halfWidth := reach (pins.map (·.offset.x))
  let halfHeight := reach (pins.map (·.offset.y))
  .keyed "rectangle"
    [.keyed "start" [.number (-halfWidth), .number (-halfHeight)],
      .keyed "end" [.number halfWidth, .number halfHeight],
      stroke 0.254,
      .keyed "fill" [.keyed "type" [.symbol "none"]]]

/-- A line through some points. -/
def polyline (points : List (Point K)) : SExpr K :=
  .keyed "polyline"
    [.keyed "pts" (points.map fun point => .keyed "xy" [.number point.x, .number point.y])]

/-- What follows the last colon of a symbol's name. -/
def shortName (name : String) : String :=
  match Text.cutAtLast? ':' name.toList with
  | some (_, short) => String.ofList short
  | none => name

/-- The definition of a component's symbol under a name. -/
def ofKind (name : String) (kind : Kind) : SExpr K :=
  let short := shortName name
  .keyed "symbol"
    ([SExpr.text name, .keyed "pin_names" [.keyed "offset" [.number 0.0]]] ++ flags ++
      [property "Reference" kind.referenceLetters 2.54 0.0 false,
        property "Value" short (-2.54) 0.0 false,
        property "Footprint" "" 0.0 0.0 true,
        property "Datasheet" "~" 0.0 0.0 true,
        .keyed "symbol" [SExpr.text (short ++ "_0_1"), bodyRectangle kind.pins],
        .keyed "symbol" (SExpr.text (short ++ "_1_1") :: kind.pins.map pin)])

/-- The drawing of a ground: a bar below the pin. -/
def groundLines : List (SExpr K) :=
  [polyline [⟨0.0, 0.0⟩, ⟨0.0, 1.27⟩],
    polyline [⟨-1.27, 1.27⟩, ⟨1.27, 1.27⟩, ⟨0.0, 2.54⟩, ⟨-1.27, 1.27⟩]]

/-- The drawing of a supply: an arrow above the pin. -/
def supplyLines : List (SExpr K) :=
  [polyline [⟨-0.762, -1.27⟩, ⟨0.0, -2.54⟩],
    polyline [⟨0.0, 0.0⟩, ⟨0.0, -2.54⟩],
    polyline [⟨0.0, -2.54⟩, ⟨0.762, -1.27⟩]]

/-- The definition of a rail's power symbol. -/
def ofRail (rail : String) : SExpr K :=
  .keyed "symbol"
    ([SExpr.text ("power:" ++ rail),
        .keyed "power" [],
        .keyed "pin_names" [.keyed "offset" [.number 0.0], .keyed "hide" [.yesNo true]]] ++
      flags ++
      [property "Reference" "#PWR" 0.0 (-3.81) true,
        property "Value" rail 0.0 3.556 false,
        property "Footprint" "" 0.0 0.0 true,
        property "Datasheet" "" 0.0 0.0 true,
        .keyed "symbol"
          (SExpr.text (rail ++ "_0_1") :: if isGround rail then groundLines else supplyLines),
        .keyed "symbol" [SExpr.text (rail ++ "_1_1"), pin (Pin.ofRail rail)]])

end Symbol
end CircuitSheet
