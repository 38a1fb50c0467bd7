import CircuitSheet.Geometry.Page
import CircuitSheet.Text.LowerCase
import CircuitSheet.Text.Pieces

/-!
# Kinds of components

A kind is named by a tag in descriptions, drawn with a library symbol, and has a body of
nominal size. Tags that are not known name kinds of their own, drawn as a generic part with
two pins.
-/

namespace CircuitSheet

/-- What a component is. -/
inductive Kind
  | resistor
  | capacitor
  | inductor
  | led
  | diode
  | transistorNpn
  | transistorPnp
  | integratedCircuit
  | microcontroller
  | switch
  | connector
  | battery
  | amplifier
  | speaker
  | other (tag : String)
  deriving DecidableEq, Repr

namespace Kind

/-- The kinds with a symbol of their own. -/
def known : List Kind :=
  [resistor, capacitor, inductor, led, diode, transistorNpn, transistorPnp, integratedCircuit,
    microcontroller, switch, connector, battery, amplifier, speaker]

/-- The tag of a kind. -/
def tag : Kind → String
  | resistor => "resistor"
  | capacitor => "capacitor"
  | inductor => "inductor"
  | led => "led"
  | diode => "diode"
  | transistorNpn => "transistor_npn"
  | transistorPnp => "transistor_pnp"
  | integratedCircuit => "ic"
  | microcontroller => "microcontroller"
  | switch => "switch"
  | connector => "connector"
  | battery => "battery"
  | amplifier => "amplifier"
  | speaker => "speaker"
  | other tag => tag

/-- The kind that a tag in lower case names; some kinds have a short tag as well. -/
def ofLowerTag (tag : String) : Kind :=
  match tag with
  | "npn" => transistorNpn
  | "pnp" => transistorPnp
  | "mcu" => microcontroller
  | _ => (known.find? (·.tag == tag)).getD (other tag)

/-- The kind that a tag names, whatever its case and the blanks around it. -/
def ofTag (tag : String) : Kind :=
  ofLowerTag (String.ofList (Text.lower (Text.trim tag.toList)))

/-- The library and the symbol that a kind is drawn with. -/
def symbol : Kind → String × String
  | resistor => ("Device", "R")
  | capacitor => ("Device", "C")
  | inductor => ("Device", "L")
  | led => ("Device", "LED")
  | diode => ("Device", "D")
  | transistorNpn => ("Device", "Q_NPN_CBE")
  | transistorPnp => ("Device", "Q_PNP_CBE")
  | integratedCircuit => ("Device", "U")
  | microcontroller => ("MCU", "Microcontroller")
  | switch => ("Switch", "SW_Push")
  | connector => ("Connector", "Conn_01x02")
  | battery => ("Device", "Battery")
  | amplifier => ("Amplifier_Audio", "Amplifier")
  | speaker => ("Device", "Speaker")
  | other _ => ("Device", "R")

/-- The kind that is drawn with a symbol; an unknown symbol gives its own name as a tag. -/
def ofSymbol (library name : String) : Kind :=
  (known.find? (·.symbol == (library, name))).getD (other (Text.lowerString name))

/-- The nominal size of the body in millimetres. -/
def bodySize {K : Type} [Scalar K] : Kind → Size K
  | resistor => ⟨10.0, 5.0⟩
  | capacitor => ⟨8.0, 6.0⟩
  | inductor => ⟨12.0, 8.0⟩
  | led => ⟨6.0, 8.0⟩
  | diode => ⟨8.0, 6.0⟩
  | transistorNpn => ⟨10.0, 12.0⟩
  | transistorPnp => ⟨10.0, 12.0⟩
  | integratedCircuit => ⟨20.0, 15.0⟩
  | microcontroller => ⟨20.0, 25.0⟩
  | switch => ⟨12.0, 8.0⟩
  | connector => ⟨15.0, 10.0⟩
  | battery => ⟨8.0, 10.0⟩
  | amplifier => ⟨15.0, 12.0⟩
  | speaker => ⟨10.0, 10.0⟩
  | other _ => ⟨10.0, 8.0⟩

/-- Parts that draw supply current and need a power and a ground rail. -/
def isConsumer : Kind → Bool
  | integratedCircuit => true
  | microcontroller => true
  | amplifier => true
  | _ => false

/-- The letters that references of this kind start with. -/
def referenceLetters : Kind → String
  | resistor => "R"
  | capacitor => "C"
  | inductor => "L"
  | led => "D"
  | diode => "D"
  | transistorNpn => "Q"
  | transistorPnp => "Q"
  | integratedCircuit => "U"
  | microcontroller => "U"
  | amplifier => "U"
  | switch => "SW"
  | connector => "J"
  | battery => "BT"
  | speaker => "LS"
  | other _ => "X"

/-- A known kind is found again by its symbol. -/
theorem ofSymbol_symbol {kind : Kind} (isKnown : kind ∈ known) :
    ofSymbol kind.symbol.1 kind.symbol.2 = kind := by
  simp only [known, List.mem_cons, List.not_mem_nil, or_false] at isKnown
  rcases isKnown with rfl | rfl | rfl | rfl | rfl | rfl | rfl | rfl | rfl | rfl | rfl | rfl |
    rfl | rfl <;> rfl

end Kind
end CircuitSheet
