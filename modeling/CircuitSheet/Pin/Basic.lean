import CircuitSheet.Circuit.Basic

/-!
# Pins

A pin has a number and a name, a direction in which signals or supply run, and a stub that
leaves the body at an angle. Descriptions name pins by number, by name or by a long alias.
-/

namespace CircuitSheet

/-- The direction of a pin. -/
inductive PinDirection
  | input
  | output
  | bidirectional
  | passive
  | powerIn
  | powerOut
  | openCollector
  | openEmitter
  | noConnect
  deriving DecidableEq, Repr

namespace PinDirection

/-- The word for a direction in symbol definitions. -/
def keyword : PinDirection → String
  | input => "input"
  | output => "output"
  | bidirectional => "bidirectional"
  | passive => "passive"
  | powerIn => "power_in"
  | powerOut => "power_out"
  | openCollector => "open_collector"
  | openEmitter => "open_emitter"
  | noConnect => "no_connect"

/-- Pins that may be joined to a supply pin. -/
def takesSupply : PinDirection → Bool
  | powerIn => true
  | passive => true
  | _ => false

/-- Pins that may be joined to an output. -/
def takesOutput : PinDirection → Bool
  | input => true
  | bidirectional => true
  | passive => true
  | _ => false

end PinDirection

/-- What a pin carries. -/
inductive PinRole
  | electrical
  | power
  | ground
  | signal
  deriving DecidableEq, Repr

/-- A pin of a symbol. -/
structure Pin (K : Type) where
  number : String
  name : String
  direction : PinDirection
  role : PinRole
  offset : Point K
  length : K
  angle : K
  deriving Repr

namespace Pin

variable {K : Type}

/-- The pin name that a long alias stands for. -/
def aliasName? (token : List Char) : Option String :=
  match String.ofList token with
  | "anode" => some "A"
  | "cathode" => some "K"
  | "base" => some "B"
  | "collector" => some "C"
  | "emitter" => some "E"
  | "positive" => some "+"
  | "pos" => some "+"
  | "negative" => some "-"
  | "neg" => some "-"
  | "input" => some "IN"
  | "output" => some "OUT"
  | "vdd" => some "VCC"
  | "vcc" => some "VCC"
  | "vss" => some "GND"
  | "gnd" => some "GND"
  | "ground" => some "GND"
  | _ => none

/-- A token names the pin by number, by name in any case of letters, or by an alias. -/
def isNamedBy (pin : Pin K) (token : String) : Bool :=
  let trimmed := Text.trim token.toList
  String.ofList trimmed == pin.number || Text.sameLetters trimmed pin.name.toList ||
    (aliasName? (Text.lower trimmed)).any fun name =>
      Text.sameLetters pin.name.toList name.toList

/-- Two pins may be joined: supply pins to pins that take supply, grounds to any other pin,
outputs to pins that take one, and otherwise one of the two has to be passive or
bidirectional. -/
def canJoin (first second : Pin K) : Bool :=
  if first.role = .power then second.direction.takesSupply
  else if second.role = .power then first.direction.takesSupply
  else if first.role = .ground ∨ second.role = .ground then true
  else if first.direction = .output then second.direction.takesOutput
  else if second.direction = .output then first.direction.takesOutput
  else if first.direction = .passive ∨ second.direction = .passive then true
  else decide (first.direction = .bidirectional) || decide (second.direction = .bidirectional)

end Pin
end CircuitSheet
