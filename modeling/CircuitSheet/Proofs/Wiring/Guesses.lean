import CircuitSheet.Proofs.Wiring.Order
import CircuitSheet.Proofs.Wiring.Registration
import CircuitSheet.Wiring.Inference
import Mathlib

/-!
# Guessed connections

Guesses name pins by words, and every one of them finds the pins that it means: a supply pin of the
battery or power symbol and that of the consumer, or two pins of the signal parts. All of these may
be joined. So no guess is turned away, and where there is a battery, no consumer lacks its supply.
-/

namespace CircuitSheet

variable {K : Type}

namespace NetKind

/-- The name that guesses give to a supply net, which is also that of the pins of consumers. -/
def supplyName : NetKind → String
  | .ground => "GND"
  | _ => "VCC"

/-- The name of the terminal of a battery that feeds a supply net. -/
def batteryPin : NetKind → String
  | .ground => "-"
  | _ => "+"

theorem ofRail_ne_signal (rail : String) : ofRail rail ≠ .signal := by
  unfold ofRail
  split <;> exact nofun

end NetKind

/-! ## What is guessed -/

namespace Circuit

variable {circuit : Circuit K} {inferred : InferredConnection}

theorem mem_ofKind_iff {kind : Kind} {component : Component K} :
    component ∈ circuit.ofKind kind ↔ component ∈ circuit.components ∧ component.kind = kind := by
  rw [ofKind, List.mem_filter, beq_iff_eq]

theorem mem_consumers_iff {component : Component K} :
    component ∈ circuit.consumers ↔
      component ∈ circuit.components ∧ component.kind.isConsumer = true :=
  List.mem_filter

theorem mem_batteryRails_iff :
    inferred ∈ circuit.batteryRails ↔
      ∃ net : NetKind, net ≠ .signal ∧ ∃ source ∈ circuit.ofKind .battery,
        ∃ part ∈ circuit.consumers, inferred = guess source.reference net.batteryPin
          part.reference net.supplyName net.supplyName net := by
  simp only [batteryRails, List.mem_flatMap, List.mem_pair]
  constructor
  · rintro ⟨source, isSource, part, consumes, rfl | rfl⟩
    · exact ⟨.power, nofun, source, isSource, part, consumes, rfl⟩
    · exact ⟨.ground, nofun, source, isSource, part, consumes, rfl⟩
  · rintro ⟨net, supply, source, isSource, part, consumes, rfl⟩
    refine ⟨source, isSource, part, consumes, ?_⟩
    cases net with
    | power => exact .inl rfl
    | ground => exact .inr rfl
    | signal => exact absurd rfl supply

theorem mem_symbolRails_iff :
    inferred ∈ circuit.symbolRails ↔
      ∃ power ∈ circuit.powers, power.reference ≠ "" ∧ ∃ part ∈ circuit.consumers,
        inferred = ⟨⟨⟨power.reference, none⟩, ⟨part.reference, none⟩⟩, power.rail,
          NetKind.ofRail power.rail⟩ := by
  simp only [symbolRails, List.mem_flatMap, List.mem_filter, List.mem_map, bne_iff_ne, and_assoc,
    @eq_comm _ inferred]

theorem mem_lightPairs_iff :
    inferred ∈ circuit.lightPairs ↔
      ∃ (index : Nat) (resistor light : Component K),
        (circuit.ofKind .resistor)[index]? = some resistor ∧
        (circuit.ofKind .led)[index]? = some light ∧
        inferred = guess resistor.reference "2" light.reference "A"
          ("LED_NET" ++ toString (index + 1)) .signal := by
  rw [lightPairs, List.mem_iff_getElem?]
  simp only [List.getElem?_mapIdx, List.getElem?_zip_eq_some, Option.map_eq_some_iff,
    Prod.exists, and_assoc, @eq_comm _ inferred]

theorem mem_audioChain_iff :
    inferred ∈ circuit.audioChain ↔
      ∃ amplifier, (circuit.ofKind .amplifier).head? = some amplifier ∧
        ((∃ connector, (circuit.ofKind .connector).head? = some connector ∧
          inferred = guess connector.reference "1" amplifier.reference "IN" "AUDIO_IN" .signal) ∨
        ∃ speaker, (circuit.ofKind .speaker).head? = some speaker ∧
          inferred = guess amplifier.reference "OUT" speaker.reference "1" "AUDIO_OUT"
            .signal) := by
  unfold audioChain
  cases (circuit.ofKind .amplifier).head? with
  | none => simp
  | some amplifier => simp [eq_comm]

end Circuit

/-! ## Pins that guesses name -/

/-- A pin that feeds a supply net may be joined to one that takes supply from it. -/
theorem Pin.canJoin_of_supply {first second : Pin K} {net : NetKind} (supply : net ≠ .signal)
    (feeds : first.role = net.pinRole) (fits : second.role = net.pinRole)
    (takes : second.direction = .powerIn) : first.canJoin second = true := by
  cases net with
  | signal => exact absurd rfl supply
  | power => simp [canJoin, feeds, NetKind.pinRole, takes, PinDirection.takesSupply]
  | ground => simp [canJoin, feeds, fits, NetKind.pinRole]

variable [Scalar K]

namespace Kind

/-- The terminals of a battery are its supply pins. -/
theorem namedPin?_batteryPin {net : NetKind} (supply : net ≠ .signal) :
    battery.namedPin? (K := K) net.batteryPin = battery.supplyPin? net := by
  cases net with
  | power => cbv
  | ground => cbv
  | signal => exact absurd rfl supply

theorem isConsumer_iff {kind : Kind} :
    kind.isConsumer = true ↔
      kind = .integratedCircuit ∨ kind = .microcontroller ∨ kind = .amplifier := by
  cases kind <;> simp [isConsumer]

/-- The supply pins of consumers have the names of supply nets. -/
theorem namedPin?_supplyName {kind : Kind} (consumes : kind.isConsumer = true) {net : NetKind}
    (supply : net ≠ .signal) : kind.namedPin? (K := K) net.supplyName = kind.supplyPin? net := by
  rcases isConsumer_iff.mp consumes with rfl | rfl | rfl
  all_goals
    cases net with
    | signal => exact absurd rfl supply
    | _ => cbv

/-- A battery has a pin for each kind of supply. -/
theorem exists_supplyPin_battery {net : NetKind} (supply : net ≠ .signal) :
    ∃ pin : Pin K, battery.supplyPin? net = some pin := by
  cases net with
  | signal => exact absurd rfl supply
  | _ => exact ⟨_, rfl⟩

/-- Consumers have a pin for each kind of supply, and it takes supply. -/
theorem exists_supplyPin {kind : Kind} (consumes : kind.isConsumer = true) {net : NetKind}
    (supply : net ≠ .signal) :
    ∃ pin : Pin K, kind.supplyPin? net = some pin ∧ pin.direction = .powerIn := by
  rcases isConsumer_iff.mp consumes with rfl | rfl | rfl
  all_goals
    cases net with
    | signal => exact absurd rfl supply
    | _ => exact ⟨_, rfl, rfl⟩

theorem direction_of_supplyPin {kind : Kind} (consumes : kind.isConsumer = true) {net : NetKind}
    (supply : net ≠ .signal) {pin : Pin K} (found : kind.supplyPin? net = some pin) :
    pin.direction = .powerIn := by
  obtain ⟨other, otherFound, takes⟩ := exists_supplyPin (K := K) consumes supply
  obtain rfl := Option.some.inj (found.symm.trans otherFound)
  exact takes

theorem role_of_supplyPin {kind : Kind} {net : NetKind} {pin : Pin K}
    (found : kind.supplyPin? net = some pin) : pin.role = net.pinRole := by
  have fits := List.find?_some found
  exact eq_of_beq fits

theorem namedPin?_resistor :
    resistor.namedPin? (K := K) "2" = some (Pin.passive "2" "~" ⟨2.54, 0.0⟩ 0.0) := by
  cbv

theorem namedPin?_led :
    led.namedPin? (K := K) "A" = some (Pin.passive "2" "A" ⟨2.54, 0.0⟩ 0.0) := by
  cbv

theorem namedPin?_connector :
    connector.namedPin? (K := K) "1" = some (Pin.passive "1" "~" ⟨-2.54, 0.0⟩ 180.0) := by
  cbv

theorem namedPin?_speaker :
    speaker.namedPin? (K := K) "1" = some (Pin.passive "1" "~" ⟨-2.54, 0.0⟩ 180.0) := by
  cbv

theorem namedPin?_input :
    amplifier.namedPin? (K := K) "IN" =
      some (Pin.standard "1" "IN" .input .signal ⟨-7.62, 0.0⟩ 180.0) := by
  cbv

theorem namedPin?_output :
    amplifier.namedPin? (K := K) "OUT" =
      some (Pin.standard "2" "OUT" .output .signal ⟨7.62, 0.0⟩ 0.0) := by
  cbv

end Kind

/-! ## Guesses and their pins -/

namespace Circuit

/-- A guess joins two pins of a circuit: a battery or a named power symbol supplies a consumer, a
resistor stands before a light, or a connector, an amplifier and a speaker form a chain. -/
inductive Joins (circuit : Circuit K) : InferredConnection → PlacedPin K → PlacedPin K → Prop
  | battery {net : NetKind} {source part : Component K} {first second : Pin K}
      (supply : net ≠ .signal) (isSource : source ∈ circuit.ofKind .battery)
      (consumes : part ∈ circuit.consumers) (gives : Kind.battery.supplyPin? net = some first)
      (takes : part.kind.supplyPin? net = some second) :
      Joins circuit
        (guess source.reference net.batteryPin part.reference net.supplyName net.supplyName net)
        (source.placed first) (part.placed second)
  | rail {power : PowerSymbol K} {part : Component K} {second : Pin K}
      (isSource : power ∈ circuit.powers) (named : power.reference ≠ "")
      (consumes : part ∈ circuit.consumers)
      (takes : part.kind.supplyPin? (NetKind.ofRail power.rail) = some second) :
      Joins circuit
        ⟨⟨⟨power.reference, none⟩, ⟨part.reference, none⟩⟩, power.rail, NetKind.ofRail power.rail⟩
        (power.placed power.reference) (part.placed second)
  | light {index : Nat} {resistor light : Component K} {first second : Pin K}
      (resistorAt : (circuit.ofKind .resistor)[index]? = some resistor)
      (lightAt : (circuit.ofKind .led)[index]? = some light)
      (gives : Kind.resistor.namedPin? "2" = some first)
      (takes : Kind.led.namedPin? "A" = some second) :
      Joins circuit
        (guess resistor.reference "2" light.reference "A" ("LED_NET" ++ toString (index + 1))
          .signal)
        (resistor.placed first) (light.placed second)
  | input {connector amplifier : Component K} {first second : Pin K}
      (isConnector : (circuit.ofKind .connector).head? = some connector)
      (isAmplifier : (circuit.ofKind .amplifier).head? = some amplifier)
      (gives : Kind.connector.namedPin? "1" = some first)
      (takes : Kind.amplifier.namedPin? "IN" = some second) :
      Joins circuit (guess connector.reference "1" amplifier.reference "IN" "AUDIO_IN" .signal)
        (connector.placed first) (amplifier.placed second)
  | output {amplifier speaker : Component K} {first second : Pin K}
      (isAmplifier : (circuit.ofKind .amplifier).head? = some amplifier)
      (isSpeaker : (circuit.ofKind .speaker).head? = some speaker)
      (gives : Kind.amplifier.namedPin? "OUT" = some first)
      (takes : Kind.speaker.namedPin? "1" = some second) :
      Joins circuit (guess amplifier.reference "OUT" speaker.reference "1" "AUDIO_OUT" .signal)
        (amplifier.placed first) (speaker.placed second)

variable {circuit : Circuit K} {inferred : InferredConnection}

/-- The guesses are those that join pins. -/
theorem mem_inferConnections_iff (unwired : circuit.connections = []) :
    inferred ∈ circuit.inferConnections ↔ ∃ first second, circuit.Joins inferred first second := by
  rw [inferConnections, unwired, List.isEmpty_nil, if_pos rfl]
  simp only [List.mem_append, mem_batteryRails_iff, mem_symbolRails_iff, mem_lightPairs_iff,
    mem_audioChain_iff]
  constructor
  · rintro (((⟨net, supply, source, isSource, part, consumes, rfl⟩ |
      ⟨power, isSource, named, part, consumes, rfl⟩) |
      ⟨index, resistor, light, resistorAt, lightAt, rfl⟩) |
      ⟨amplifier, isAmplifier, ⟨connector, isConnector, rfl⟩ | ⟨speaker, isSpeaker, rfl⟩⟩)
    · obtain ⟨first, gives⟩ := Kind.exists_supplyPin_battery (K := K) supply
      obtain ⟨second, takes, -⟩ :=
        Kind.exists_supplyPin (K := K) (mem_consumers_iff.mp consumes).2 supply
      exact ⟨_, _, .battery supply isSource consumes gives takes⟩
    · obtain ⟨second, takes, -⟩ := Kind.exists_supplyPin (K := K)
        (mem_consumers_iff.mp consumes).2 (NetKind.ofRail_ne_signal power.rail)
      exact ⟨_, _, .rail isSource named consumes takes⟩
    · exact ⟨_, _, .light resistorAt lightAt Kind.namedPin?_resistor Kind.namedPin?_led⟩
    · exact ⟨_, _, .input isConnector isAmplifier Kind.namedPin?_connector Kind.namedPin?_input⟩
    · exact ⟨_, _, .output isAmplifier isSpeaker Kind.namedPin?_output Kind.namedPin?_speaker⟩
  · rintro ⟨first, second, joins⟩
    cases joins with
    | battery supply isSource consumes =>
        exact .inl (.inl (.inl ⟨_, supply, _, isSource, _, consumes, rfl⟩))
    | rail isSource named consumes =>
        exact .inl (.inl (.inr ⟨_, isSource, named, _, consumes, rfl⟩))
    | light resistorAt lightAt => exact .inl (.inr ⟨_, _, _, resistorAt, lightAt, rfl⟩)
    | input isConnector isAmplifier =>
        exact .inr ⟨_, isAmplifier, .inl ⟨_, isConnector, rfl⟩⟩
    | output isAmplifier isSpeaker =>
        exact .inr ⟨_, isAmplifier, .inr ⟨_, isSpeaker, rfl⟩⟩

/-- Pins that a guess joins may be joined. -/
theorem Joins.canJoin {first second : PlacedPin K} (joins : circuit.Joins inferred first second) :
    first.pin.canJoin second.pin = true := by
  cases joins with
  | battery supply _ consumes gives takes =>
      exact Pin.canJoin_of_supply supply (Kind.role_of_supplyPin gives)
        (Kind.role_of_supplyPin takes)
        (Kind.direction_of_supplyPin (mem_consumers_iff.mp consumes).2 supply takes)
  | @rail power _ _ _ _ consumes takes =>
      have supply := NetKind.ofRail_ne_signal power.rail
      exact Pin.canJoin_of_supply supply (Pin.role_ofRail power.rail)
        (Kind.role_of_supplyPin takes)
        (Kind.direction_of_supplyPin (mem_consumers_iff.mp consumes).2 supply takes)
  | light _ _ gives takes =>
      obtain rfl := Option.some.inj (gives.symm.trans Kind.namedPin?_resistor)
      obtain rfl := Option.some.inj (takes.symm.trans Kind.namedPin?_led)
      rfl
  | input _ _ gives takes =>
      obtain rfl := Option.some.inj (gives.symm.trans Kind.namedPin?_connector)
      obtain rfl := Option.some.inj (takes.symm.trans Kind.namedPin?_input)
      rfl
  | output _ _ gives takes =>
      obtain rfl := Option.some.inj (gives.symm.trans Kind.namedPin?_output)
      obtain rfl := Option.some.inj (takes.symm.trans Kind.namedPin?_speaker)
      rfl

/-- The terminals of a guess stand for the pins that it joins. -/
theorem Joins.resolve (distinct : circuit.DistinctReferences) {first second : PlacedPin K}
    (joins : circuit.Joins inferred first second) :
    (Wiring.ofCircuit circuit).resolve inferred.connection.source inferred.connection.target =
        .ok first ∧
      (Wiring.ofCircuit circuit).resolve inferred.connection.target inferred.connection.source =
        .ok second := by
  have named : ∀ {kind : Kind} {source : Component K} {token : String} {pin : Pin K}
      (other : Terminal), source ∈ circuit.ofKind kind → kind.namedPin? token = some pin →
        (Wiring.ofCircuit circuit).resolve ⟨source.reference, some token⟩ other =
          .ok (source.placed pin) := by
    intro kind source token pin other member found
    obtain ⟨listed, rfl⟩ := mem_ofKind_iff.mp member
    exact Wiring.resolve_named distinct listed found other
  cases joins with
  | battery supply isSource consumes gives takes =>
      obtain ⟨listed, isConsumer⟩ := mem_consumers_iff.mp consumes
      rw [← Kind.namedPin?_batteryPin supply] at gives
      rw [← Kind.namedPin?_supplyName isConsumer supply] at takes
      exact ⟨named _ isSource gives, Wiring.resolve_named distinct listed takes _⟩
  | rail isSource isNamed consumes takes =>
      have listed := (mem_consumers_iff.mp consumes).1
      exact ⟨Wiring.resolve_rail distinct listed isSource isNamed,
        Wiring.resolve_toRail distinct listed isSource isNamed takes⟩
  | light resistorAt lightAt gives takes =>
      exact ⟨named _ (List.mem_of_getElem? resistorAt) gives,
        named _ (List.mem_of_getElem? lightAt) takes⟩
  | input isConnector isAmplifier gives takes =>
      exact ⟨named _ (List.mem_of_head? isConnector) gives,
        named _ (List.mem_of_head? isAmplifier) takes⟩
  | output isAmplifier isSpeaker gives takes =>
      exact ⟨named _ (List.mem_of_head? isAmplifier) gives,
        named _ (List.mem_of_head? isSpeaker) takes⟩

/-- A guess is accepted between the pins that it joins. -/
theorem Joins.check (distinct : circuit.DistinctReferences) {first second : PlacedPin K}
    (joins : circuit.Joins inferred first second) :
    (Wiring.ofCircuit circuit).check inferred.connection.source inferred.connection.target =
      .ok (first, second) := by
  obtain ⟨source, target⟩ := joins.resolve distinct
  exact Wiring.check_eq_ok_iff.mpr ⟨source, target, joins.canJoin⟩

/-- The guesses as connections. -/
def guessedConnections (circuit : Circuit K) : List Connection :=
  circuit.inferConnections.map (·.connection)

/-- The wiring of the circuit with its guesses. -/
def guessedWiring (circuit : Circuit K) : Wiring K :=
  (Wiring.ofCircuit circuit).attemptAll circuit.guessedConnections

/-- The accepted connections are the pairs of pins that guesses join. -/
theorem mem_accepted_guessedWiring_iff (distinct : circuit.DistinctReferences)
    (unwired : circuit.connections = []) {first second : PlacedPin K} :
    (first, second) ∈ circuit.guessedWiring.accepted ↔
      ∃ inferred, circuit.Joins inferred first second := by
  obtain ⟨-, noneAccepted⟩ := Wiring.unjoined_ofCircuit circuit
  rw [guessedWiring, Wiring.accepted_attemptAll, noneAccepted, List.nil_append, guessedConnections,
    List.filterMap_map, List.mem_filterMap]
  constructor
  · rintro ⟨inferred, isGuess, accepted⟩
    obtain ⟨one, other, joins⟩ := (mem_inferConnections_iff unwired).mp isGuess
    simp only [Function.comp_apply, joins.check distinct, Except.toOption, Option.some.injEq,
      Prod.mk.injEq] at accepted
    obtain ⟨rfl, rfl⟩ := accepted
    exact ⟨inferred, joins⟩
  · rintro ⟨inferred, joins⟩
    refine ⟨inferred, (mem_inferConnections_iff unwired).mpr ⟨first, second, joins⟩, ?_⟩
    simp only [Function.comp_apply, joins.check distinct, Except.toOption]

end Circuit

/-! ## Supplied consumers -/

namespace Wiring

omit [Scalar K] in
theorem isJoined_iff {wiring : Wiring K} {key : String} :
    wiring.isJoined key = true ↔ key ∈ wiring.neighbours.names :=
  Table.mem_names_iff.symm

omit [Scalar K] in
/-- The pins of an accepted connection are joined. -/
theorem Consistent.isJoined_of_mem {wiring : Wiring K} (consistent : wiring.Consistent)
    {pair : PlacedPin K × PlacedPin K} (member : pair ∈ wiring.accepted) :
    wiring.isJoined pair.1.key = true ∧ wiring.isJoined pair.2.key = true := by
  have atEnds := mem_endKeys_of_mem (List.mem_map.mpr ⟨pair, member, rfl⟩)
  rw [isJoined_iff, isJoined_iff, consistent.mem_names_iff, consistent.mem_names_iff]
  exact atEnds

omit [Scalar K] in
theorem reference_of_mem_auditComponent {wiring : Wiring K} {reference : String} {kind : Kind}
    {pins : List (PlacedPin K)} {issue : WiringIssue}
    (member : issue ∈ wiring.auditComponent reference kind pins) : issue.reference = reference := by
  unfold auditComponent at member
  grind [warn]

omit [Scalar K] in
/-- There is no warning about a component with a joined pin for each kind of supply. -/
theorem auditComponent_eq_nil {wiring : Wiring K} {reference : String} {kind : Kind}
    {pins : List (PlacedPin K)}
    (supplied : ∀ net : NetKind, net ≠ .signal →
      ∃ placed ∈ pins, wiring.isJoined placed.key = true ∧ placed.pin.role = net.pinRole) :
    wiring.auditComponent reference kind pins = [] := by
  obtain ⟨power, powerMember, powerJoined, isPower⟩ := supplied .power nofun
  obtain ⟨ground, groundMember, groundJoined, isGround⟩ := supplied .ground nofun
  have listed : power ∈ pins.filter fun placed => wiring.isJoined placed.key :=
    List.mem_filter.mpr ⟨powerMember, powerJoined⟩
  have groundListed : ground ∈ pins.filter fun placed => wiring.isJoined placed.key :=
    List.mem_filter.mpr ⟨groundMember, groundJoined⟩
  have hasPower : (pins.filter fun placed => wiring.isJoined placed.key).any
      (·.pin.role == .power) = true :=
    List.any_eq_true.mpr ⟨power, listed, by simp [isPower, NetKind.pinRole]⟩
  have hasGround : (pins.filter fun placed => wiring.isJoined placed.key).any
      (·.pin.role == .ground) = true :=
    List.any_eq_true.mpr ⟨ground, groundListed, by simp [isGround, NetKind.pinRole]⟩
  have someJoined := List.isEmpty_eq_false_iff.mpr (List.ne_nil_of_mem listed)
  simp [auditComponent, someJoined, hasPower, hasGround]

end Wiring

namespace Circuit

variable {circuit : Circuit K}

/-- Where there is a battery, every consumer has a joined pin for each kind of supply. -/
theorem exists_joined_supplyPin (distinct : circuit.DistinctReferences)
    (unwired : circuit.connections = []) {source part : Component K}
    (isSource : source ∈ circuit.ofKind .battery) (consumes : part ∈ circuit.consumers)
    {net : NetKind} (supply : net ≠ .signal) :
    ∃ placed ∈ part.registered.pins, circuit.guessedWiring.isJoined placed.key = true ∧
      placed.pin.role = net.pinRole := by
  obtain ⟨first, gives⟩ := Kind.exists_supplyPin_battery (K := K) supply
  obtain ⟨second, takes, -⟩ :=
    Kind.exists_supplyPin (K := K) (mem_consumers_iff.mp consumes).2 supply
  have accepted : (source.placed first, part.placed second) ∈ circuit.guessedWiring.accepted :=
    (mem_accepted_guessedWiring_iff distinct unwired).mpr
      ⟨_, .battery supply isSource consumes gives takes⟩
  have consistent : circuit.guessedWiring.Consistent :=
    (Wiring.consistent_ofCircuit circuit).attemptAll _
  refine ⟨part.placed second, ?_, (consistent.isJoined_of_mem accepted).2,
    Kind.role_of_supplyPin takes⟩
  exact List.mem_map.mpr ⟨second, List.mem_of_find?_eq_some takes, rfl⟩

/-- In a circuit without connections whose references differ, every guess is accepted in its turn;
and where there is a battery, the audit has nothing to say about any consumer. -/
theorem guesses_accepted (circuit : Circuit K) (distinct : circuit.DistinctReferences)
    (unwired : circuit.connections = []) :
    (∀ outcome ∈ (Wiring.ofCircuit circuit).outcomes circuit.guessedConnections,
      ∃ pins, outcome.2 = .ok pins) ∧
    (circuit.ofKind .battery ≠ [] → ∀ part ∈ circuit.consumers,
      ∀ issue ∈ circuit.guessedWiring.audit, issue.reference ≠ part.reference) := by
  refine ⟨?_, ?_⟩
  · rw [Wiring.outcomes_eq, guessedConnections, List.map_map, List.forall_mem_map]
    intro inferred isGuess
    obtain ⟨first, second, joins⟩ := (mem_inferConnections_iff unwired).mp isGuess
    exact ⟨(first, second), joins.check distinct⟩
  · intro powered part consumes issue member same
    obtain ⟨source, isSource⟩ := List.exists_mem_of_ne_nil _ powered
    obtain ⟨⟨reference, entity⟩, listed, inEntry⟩ := List.mem_flatMap.mp member
    have registered := Wiring.find?_entities_component distinct (mem_consumers_iff.mp consumes).1
    have found : (Wiring.ofCircuit circuit).entities.find? reference = some entity := by
      rw [← Wiring.entities_attemptAll _ circuit.guessedConnections]
      exact Table.mem_entries_iff.mp listed
    dsimp only at inEntry
    split at inEntry
    case h_1 kind isComponent =>
      obtain rfl := Wiring.reference_of_mem_auditComponent inEntry
      obtain rfl : part.registered = entity :=
        Option.some.inj (registered.symm.trans (same ▸ found))
      rw [Wiring.auditComponent_eq_nil fun net supply =>
        exists_joined_supplyPin distinct unwired isSource consumes supply] at inEntry
      cases inEntry
    case h_2 => cases inEntry

/-- A battery and two power symbols with references supply two consumers; there are parts for a
light and for a chain, and one power symbol without a reference. -/
def sampleSupplies : Circuit Float where
  name := "Supplies"
  components :=
    [("BAT1", .battery), ("U1", .integratedCircuit), ("U2", .amplifier), ("R1", .resistor),
      ("R2", .resistor), ("D1", .led), ("J1", .connector), ("LS1", .speaker)].map
        fun (reference, kind) => Component.ofKind reference kind "" ⟨50.0, 50.0⟩
  powers := [⟨"V1", "+5V", ⟨20.0, 20.0⟩⟩, ⟨"", "GND", ⟨20.0, 40.0⟩⟩, ⟨"V2", "AGND", ⟨20.0, 60.0⟩⟩]
  connections := []

/-- All eleven guesses are accepted, and the findings are about a resistor without connections. -/
theorem guesses_accepted_supplies :
    sampleSupplies.DistinctReferences ∧ sampleSupplies.connections = [] ∧
      sampleSupplies.ofKind .battery ≠ [] ∧
      (∀ outcome ∈ (Wiring.ofCircuit sampleSupplies).outcomes sampleSupplies.guessedConnections,
        ∃ pins, outcome.2 = .ok pins) ∧
      sampleSupplies.guessedConnections.length = 11 ∧
      (∀ part ∈ sampleSupplies.consumers, ∀ issue ∈ sampleSupplies.guessedWiring.audit,
        issue.reference ≠ part.reference) ∧
      sampleSupplies.guessedWiring.audit = [Wiring.warn "R2" "connections"] := by
  have distinct : sampleSupplies.DistinctReferences := by
    simp [DistinctReferences, sampleSupplies, Component.ofKind]
  have powered : sampleSupplies.ofKind .battery ≠ [] := by
    decide +kernel
  obtain ⟨accepted, supplied⟩ := guesses_accepted sampleSupplies distinct rfl
  exact ⟨distinct, rfl, powered, accepted, by decide +kernel, supplied powered, by decide +kernel⟩

end Circuit
end CircuitSheet
