import CircuitSheet.Pin.Basic

/-!
# Pin arrangements

Every kind of component has a fixed arrangement of pins; unknown kinds have that of a
resistor. The only pin of a power symbol sits on the symbol's origin.
-/

namespace CircuitSheet

variable {K : Type} [Scalar K]

/-- The length of the stubs of all built-in symbols. -/
def Pin.stubLength : K := 2.54

/-- A pin with a stub of the usual length. -/
def Pin.standard (number name : String) (direction : PinDirection) (role : PinRole)
    (offset : Point K) (angle : K) : Pin K :=
  ⟨number, name, direction, role, offset, Pin.stubLength, angle⟩

/-- A passive electrical pin. -/
def Pin.passive (number name : String) (offset : Point K) (angle : K) : Pin K :=
  Pin.standard number name .passive .electrical offset angle

/-- The pins of a part with a terminal on either side. -/
def Pin.pair (first second : String) : List (Pin K) :=
  [Pin.passive "1" first ⟨-2.54, 0.0⟩ 180.0, Pin.passive "2" second ⟨2.54, 0.0⟩ 0.0]

/-- The pins of a transistor. -/
def Pin.transistor : List (Pin K) :=
  [Pin.standard "1" "B" .input .signal ⟨-5.08, 0.0⟩ 180.0,
    Pin.passive "2" "C" ⟨0.0, 2.54⟩ 90.0,
    Pin.passive "3" "E" ⟨0.0, -2.54⟩ 270.0]

/-- The pins of a kind of component. -/
def Kind.pins : Kind → List (Pin K)
  | .led => Pin.pair "K" "A"
  | .diode => Pin.pair "K" "A"
  | .transistorNpn => Pin.transistor
  | .transistorPnp => Pin.transistor
  | .integratedCircuit =>
      [Pin.standard "1" "Pin1" .bidirectional .signal ⟨-7.62, -2.54⟩ 180.0,
        Pin.standard "2" "Pin2" .bidirectional .signal ⟨-7.62, 2.54⟩ 180.0,
        Pin.standard "3" "VCC" .powerIn .power ⟨7.62, 2.54⟩ 0.0,
        Pin.standard "4" "GND" .powerIn .ground ⟨7.62, -2.54⟩ 0.0]
  | .microcontroller =>
      [Pin.standard "1" "VCC" .powerIn .power ⟨0.0, -12.7⟩ 270.0,
        Pin.standard "2" "GND" .powerIn .ground ⟨0.0, 12.7⟩ 90.0,
        Pin.standard "3" "PA0" .bidirectional .signal ⟨-10.16, -5.08⟩ 180.0,
        Pin.standard "4" "PA1" .bidirectional .signal ⟨-10.16, 0.0⟩ 180.0,
        Pin.standard "5" "PA2" .bidirectional .signal ⟨-10.16, 5.08⟩ 180.0,
        Pin.standard "6" "PB0" .bidirectional .signal ⟨10.16, -5.08⟩ 0.0,
        Pin.standard "7" "PB1" .bidirectional .signal ⟨10.16, 0.0⟩ 0.0,
        Pin.standard "8" "PB2" .bidirectional .signal ⟨10.16, 5.08⟩ 0.0]
  | .amplifier =>
      [Pin.standard "1" "IN" .input .signal ⟨-7.62, 0.0⟩ 180.0,
        Pin.standard "2" "OUT" .output .signal ⟨7.62, 0.0⟩ 0.0,
        Pin.standard "3" "VCC" .powerIn .power ⟨0.0, -6.35⟩ 270.0,
        Pin.standard "4" "GND" .powerIn .ground ⟨0.0, 6.35⟩ 90.0]
  | .battery =>
      [Pin.standard "1" "+" .powerOut .power ⟨0.0, -5.08⟩ 270.0,
        Pin.standard "2" "-" .powerOut .ground ⟨0.0, 5.08⟩ 90.0]
  | _ => Pin.pair "~" "~"

/-- The pin of a power symbol for a rail. -/
def Pin.ofRail (rail : String) : Pin K where
  number := "1"
  name := rail
  direction := .powerIn
  role := if isGround rail then .ground else .power
  offset := Point.origin
  length := 0.0
  angle := 0.0

/-- A pin of an entity that has its place on the page. -/
structure PlacedPin (K : Type) where
  entity : String
  pin : Pin K
  position : Point K
  rotation : K
  deriving Repr

namespace PlacedPin

/-- The name of the pin within the whole circuit. -/
def key {K : Type} (placed : PlacedPin K) : String :=
  placed.entity ++ "." ++ placed.pin.number

/-- The place where a wire meets the pin: the end of its stub, rounded to a millionth. -/
def connectionPoint (placed : PlacedPin K) : Point K :=
  let turn := Scalar.radians placed.rotation
  let direction := Scalar.radians (placed.pin.angle + placed.rotation)
  let offset := placed.pin.offset
  let rootX := offset.x * Scalar.cos turn - offset.y * Scalar.sin turn
  let rootY := offset.x * Scalar.sin turn + offset.y * Scalar.cos turn
  { x := Scalar.roundTo 1e6 (placed.position.x + rootX + placed.pin.length * Scalar.cos direction)
    y := Scalar.roundTo 1e6
      (placed.position.y + rootY + placed.pin.length * Scalar.sin direction) }

/-- The direction of the stub on the page, from zero up to a full turn. -/
def absoluteAngle (placed : PlacedPin K) : K :=
  Scalar.modulo (placed.pin.angle + placed.rotation) 360.0

end PlacedPin
end CircuitSheet
