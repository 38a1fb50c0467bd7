import CircuitSheet.Wiring.Net

/-!
# Inferred wiring

Circuits described without connections can be wired by guesses from the kinds of their
components: supply rails to every part that draws current, pairs of a resistor and a light,
and a chain of connector, amplifier and speaker.
-/

namespace CircuitSheet

/-- A guessed connection and the net that it belongs to. -/
structure InferredConnection where
  connection : Connection
  netName : String
  kind : NetKind
  deriving DecidableEq, Repr

namespace Circuit

variable {K : Type}

/-- A guessed connection between two pins. -/
def guess (source sourcePin target targetPin netName : String) (kind : NetKind) :
    InferredConnection :=
  ⟨⟨⟨source, some sourcePin⟩, ⟨target, some targetPin⟩⟩, netName, kind⟩

/-- The parts that draw supply current. -/
def consumers (circuit : Circuit K) : List (Component K) :=
  circuit.components.filter (·.kind.isConsumer)

/-- Both terminals of every battery go to every consumer. -/
def batteryRails (circuit : Circuit K) : List InferredConnection :=
  (circuit.ofKind .battery).flatMap fun battery =>
    circuit.consumers.flatMap fun part =>
      [guess battery.reference "+" part.reference "VCC" "VCC" .power,
        guess battery.reference "-" part.reference "GND" "GND" .ground]

/-- Every named power symbol goes to every consumer. -/
def symbolRails (circuit : Circuit K) : List InferredConnection :=
  (circuit.powers.filter (·.reference != "")).flatMap fun power =>
    circuit.consumers.map fun part =>
      ⟨⟨⟨power.reference, none⟩, ⟨part.reference, none⟩⟩, power.rail, NetKind.ofRail power.rail⟩

/-- Resistors and lights are paired off in order. -/
def lightPairs (circuit : Circuit K) : List InferredConnection :=
  ((circuit.ofKind .resistor).zip (circuit.ofKind .led)).mapIdx fun index (resistor, light) =>
    guess resistor.reference "2" light.reference "A" ("LED_NET" ++ toString (index + 1)) .signal

/-- The first connector, amplifier and speaker form a chain. -/
def audioChain (circuit : Circuit K) : List InferredConnection :=
  match (circuit.ofKind .amplifier).head? with
  | none => []
  | some amplifier =>
      let inputs := (circuit.ofKind .connector).head?.toList.map fun connector =>
        guess connector.reference "1" amplifier.reference "IN" "AUDIO_IN" .signal
      let outputs := (circuit.ofKind .speaker).head?.toList.map fun speaker =>
        guess amplifier.reference "OUT" speaker.reference "1" "AUDIO_OUT" .signal
      inputs ++ outputs

/-- The guessed connections of a circuit that has none of its own. -/
def inferConnections (circuit : Circuit K) : List InferredConnection :=
  if circuit.connections.isEmpty then
    circuit.batteryRails ++ circuit.symbolRails ++ circuit.lightPairs ++ circuit.audioChain
  else []

end Circuit
end CircuitSheet
