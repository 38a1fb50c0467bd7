import CircuitSheet.Proofs.Wiring.Guesses

/-!
# Guessed nets

Guesses mean one supply net of each kind, one net for each light, and two for sound. Whatever
connections they make, pins are linked only within the net that is meant for them, and the pins
that are meant for a supply net are all linked. So a net of guesses has one of two names: the name
that its guesses give it, or, on a supply net, the rail of the first power symbol that feeds it.
-/

namespace CircuitSheet

variable {K : Type} [Scalar K]

/-- The net that guesses mean for a pin. -/
inductive GuessedNet
  | supply (net : NetKind)
  | light (index : Nat)
  | soundInput
  | soundOutput
  deriving DecidableEq

namespace GuessedNet

/-- The kind of the connections of the net. -/
def kind : GuessedNet → NetKind
  | supply net => net
  | _ => .signal

/-- The name that guesses without a power symbol give to the net. -/
def name : GuessedNet → String
  | supply net => net.supplyName
  | light index => "LED_NET" ++ toString (index + 1)
  | soundInput => "AUDIO_IN"
  | soundOutput => "AUDIO_OUT"

/-- Only supply nets have the kind of a supply. -/
theorem eq_supply_iff {guessed : GuessedNet} {net : NetKind} (supply : net ≠ .signal) :
    guessed = .supply net ↔ guessed.kind = net := by
  constructor
  · rintro rfl
    rfl
  · rintro rfl
    cases guessed with
    | supply net => rfl
    | _ => exact absurd rfl supply

end GuessedNet

/-! ## Nets of touched pins -/

namespace Wiring

variable {K : Type} {wiring : Wiring K}

theorem key_mem_endKeys {placed : PlacedPin K} (touched : placed ∈ wiring.touchedPins) :
    placed.key ∈ wiring.endKeys :=
  mem_touchedKeys_iff.mp (List.mem_map.mpr ⟨placed, touched, rfl⟩)

/-- The pins of accepted connections are touched. -/
theorem Consistent.touched_of_accepted (consistent : wiring.Consistent)
    {pair : PlacedPin K × PlacedPin K} (accepted : pair ∈ wiring.accepted) :
    pair.1 ∈ wiring.touchedPins ∧ pair.2 ∈ wiring.touchedPins := by
  have touched : ∀ placed ∈ wiring.allPins, placed.key ∈ wiring.endKeys →
      placed ∈ wiring.touchedPins := by
    intro placed isPin atEnd
    obtain ⟨other, isTouched, sameKey⟩ := List.mem_map.mp (mem_touchedKeys_iff.mpr atEnd)
    rwa [← consistent.registered.eq_of_key_eq (consistent.mem_allPins_of_touched isTouched) isPin
      sameKey]
  obtain ⟨firstPin, secondPin⟩ := consistent.accepted_mem pair accepted
  obtain ⟨firstAtEnd, secondAtEnd⟩ :=
    mem_endKeys_of_mem (List.mem_map.mpr ⟨pair, accepted, rfl⟩)
  exact ⟨touched _ firstPin firstAtEnd, touched _ secondPin secondAtEnd⟩

/-- The net of a touched pin is that of all touched pins with its label. -/
theorem eq_describeNet_of_mem {net : Net} (member : net ∈ wiring.nets) {placed : PlacedPin K}
    (touched : placed ∈ wiring.touchedPins) (inNet : placed.key ∈ net.pins) :
    net = wiring.describeNet (wiring.labelled DisjointSets.labels
      (wiring.netLabel DisjointSets.labels placed.key)) := by
  rw [nets, netsBy_eq wiring DisjointSets.labels_lawful, List.mem_map] at member
  obtain ⟨label, -, rfl⟩ := member
  rw [pins_describeNet, mem_map_key_labelled_iff (key_mem_endKeys touched)] at inNet
  rw [inNet]

end Wiring

/-! ## Nets of pins -/

namespace Circuit

/-- The rail of the first named power symbol for nets of a kind. -/
def firstRail? {K : Type} (circuit : Circuit K) (net : NetKind) : Option String :=
  (circuit.powers.find? fun power =>
    power.reference != "" && NetKind.ofRail power.rail == net).map (·.rail)

/-- The place of a reference among the components of a kind. -/
def placeAmong {K : Type} (circuit : Circuit K) (kind : Kind) (reference : String) : Nat :=
  ((circuit.ofKind kind).map (·.reference)).idxOf reference

/-- The net that guesses mean for a pin without supply, of a component of some kind. -/
def signalNet {K : Type} (circuit : Circuit K) (reference : String) (direction : PinDirection) :
    Kind → GuessedNet
  | .resistor => .light (circuit.placeAmong .resistor reference)
  | .led => .light (circuit.placeAmong .led reference)
  | .connector => .soundInput
  | .amplifier => if direction = .input then .soundInput else .soundOutput
  | _ => .soundOutput

/-- The kind of the component that a pin belongs to. -/
def kindAt? (circuit : Circuit K) (placed : PlacedPin K) : Option Kind :=
  ((Wiring.ofCircuit circuit).entities.find? placed.entity).bind (·.kind?)

/-- The net that guesses mean for a pin. -/
def guessedNet (circuit : Circuit K) (placed : PlacedPin K) : GuessedNet :=
  match placed.pin.role with
  | .power => .supply .power
  | .ground => .supply .ground
  | _ =>
      match circuit.kindAt? placed with
      | some kind => circuit.signalNet placed.entity placed.pin.direction kind
      | none => .soundOutput

theorem placeAmong_eq {K : Type} {circuit : Circuit K} (distinct : circuit.DistinctReferences)
    {kind : Kind} {index : Nat} {component : Component K}
    (listed : (circuit.ofKind kind)[index]? = some component) :
    circuit.placeAmong kind component.reference = index := by
  have references : ((circuit.ofKind kind).map (·.reference)).Nodup :=
    (List.nodup_append.mp distinct).1.sublist (List.filter_sublist.map _)
  obtain ⟨below, rfl⟩ := List.getElem?_eq_some_iff.mp listed
  have place := references.idxOf_getElem index (by simpa using below)
  rwa [List.getElem_map] at place

theorem exists_firstRail? {K : Type} {circuit : Circuit K} {power : PowerSymbol K}
    (member : power ∈ circuit.powers) (named : power.reference ≠ "") :
    ∃ rail, circuit.firstRail? (NetKind.ofRail power.rail) = some rail := by
  rw [← Option.isSome_iff_exists, firstRail?, Option.isSome_map, List.find?_isSome]
  exact ⟨power, member, by simp [named]⟩

/-- Power symbols feed no signal nets. -/
theorem ne_signal_of_firstRail? {K : Type} {circuit : Circuit K} {net : NetKind} {rail : String}
    (fed : circuit.firstRail? net = some rail) : net ≠ .signal := by
  rintro rfl
  obtain ⟨power, isFirst, -⟩ := Option.map_eq_some_iff.mp fed
  have found := List.find?_some isFirst
  simp only [Bool.and_eq_true, beq_iff_eq] at found
  exact NetKind.ofRail_ne_signal _ found.2

variable {circuit : Circuit K} {inferred : InferredConnection}

theorem kindAt?_component (distinct : circuit.DistinctReferences) {component : Component K}
    (member : component ∈ circuit.components) (pin : Pin K) :
    circuit.kindAt? (component.placed pin) = some component.kind := by
  rw [kindAt?, Component.placed, Wiring.find?_entities_component distinct member]
  rfl

theorem kindAt?_power (distinct : circuit.DistinctReferences) {power : PowerSymbol K}
    (member : power ∈ circuit.powers) (named : power.reference ≠ "") :
    circuit.kindAt? (power.placed power.reference) = none := by
  rw [kindAt?, PowerSymbol.placed, Wiring.find?_entities_power distinct member named]
  rfl

theorem guessedNet_of_supply {net : NetKind} {placed : PlacedPin K} (supply : net ≠ .signal)
    (carries : placed.pin.role = net.pinRole) : circuit.guessedNet placed = .supply net := by
  cases net with
  | power => rw [guessedNet, carries]; rfl
  | ground => rw [guessedNet, carries]; rfl
  | signal => exact absurd rfl supply

theorem guessedNet_of_signal (distinct : circuit.DistinctReferences) {kind : Kind}
    {component : Component K} (member : component ∈ circuit.ofKind kind) {pin : Pin K}
    (carries : pin.role = .electrical ∨ pin.role = .signal) :
    circuit.guessedNet (component.placed pin) =
      circuit.signalNet component.reference pin.direction kind := by
  obtain ⟨listed, rfl⟩ := mem_ofKind_iff.mp member
  rw [guessedNet, kindAt?_component distinct listed]
  rcases carries with electrical | signal
  · simp [Component.placed, electrical]
  · simp [Component.placed, signal]

/-- Both pins of a guess belong to one net. Its kind is that of the guess, and so is its name unless
the guess starts at a power symbol. -/
theorem Joins.guessedNet_eq (distinct : circuit.DistinctReferences) {first second : PlacedPin K}
    (joins : circuit.Joins inferred first second) :
    circuit.guessedNet second = circuit.guessedNet first ∧
      (circuit.guessedNet first).kind = inferred.kind ∧
      ((circuit.guessedNet first).name = inferred.netName ∨
        ∃ power ∈ circuit.powers, power.reference ≠ "" ∧
          NetKind.ofRail power.rail = inferred.kind) := by
  cases joins with
  | @battery net source part first second supply _ _ gives takes =>
      have atSource : circuit.guessedNet (source.placed first) = .supply net :=
        guessedNet_of_supply supply (Kind.role_of_supplyPin gives)
      have atPart : circuit.guessedNet (part.placed second) = .supply net :=
        guessedNet_of_supply supply (Kind.role_of_supplyPin takes)
      rw [atSource, atPart]
      exact ⟨rfl, rfl, .inl rfl⟩
  | @rail power part second isSource named _ takes =>
      have supply := NetKind.ofRail_ne_signal power.rail
      have atSource : circuit.guessedNet (power.placed power.reference) =
          .supply (NetKind.ofRail power.rail) :=
        guessedNet_of_supply supply (Pin.role_ofRail power.rail)
      have atPart : circuit.guessedNet (part.placed second) =
          .supply (NetKind.ofRail power.rail) :=
        guessedNet_of_supply supply (Kind.role_of_supplyPin takes)
      rw [atSource, atPart]
      dsimp only [GuessedNet.kind]
      exact ⟨rfl, rfl, .inr ⟨power, isSource, named, rfl⟩⟩
  | @light _ _ _ first second resistorAt lightAt gives takes =>
      have givesSignal : first.role = .electrical := by
        obtain rfl := Option.some.inj (gives.symm.trans Kind.namedPin?_resistor)
        rfl
      have takesSignal : second.role = .electrical := by
        obtain rfl := Option.some.inj (takes.symm.trans Kind.namedPin?_led)
        rfl
      rw [guessedNet_of_signal distinct (List.mem_of_getElem? resistorAt) (.inl givesSignal),
        guessedNet_of_signal distinct (List.mem_of_getElem? lightAt) (.inl takesSignal), signalNet,
        signalNet, placeAmong_eq distinct resistorAt, placeAmong_eq distinct lightAt]
      exact ⟨rfl, rfl, .inl rfl⟩
  | @input _ _ first second isConnector isAmplifier gives takes =>
      have givesSignal : first.role = .electrical := by
        obtain rfl := Option.some.inj (gives.symm.trans Kind.namedPin?_connector)
        rfl
      have takesSignal : second.role = .signal ∧ second.direction = .input := by
        obtain rfl := Option.some.inj (takes.symm.trans Kind.namedPin?_input)
        exact ⟨rfl, rfl⟩
      rw [guessedNet_of_signal distinct (List.mem_of_head? isConnector) (.inl givesSignal),
        guessedNet_of_signal distinct (List.mem_of_head? isAmplifier) (.inr takesSignal.1),
        takesSignal.2]
      exact ⟨rfl, rfl, .inl rfl⟩
  | @output _ _ first second isAmplifier isSpeaker gives takes =>
      have givesSignal : first.role = .signal ∧ first.direction = .output := by
        obtain rfl := Option.some.inj (gives.symm.trans Kind.namedPin?_output)
        exact ⟨rfl, rfl⟩
      have takesSignal : second.role = .electrical := by
        obtain rfl := Option.some.inj (takes.symm.trans Kind.namedPin?_speaker)
        rfl
      rw [guessedNet_of_signal distinct (List.mem_of_head? isAmplifier) (.inr givesSignal.1),
        guessedNet_of_signal distinct (List.mem_of_head? isSpeaker) (.inl takesSignal),
        givesSignal.2]
      exact ⟨rfl, rfl, .inl rfl⟩

/-- The pins of a guess are meant for the supply net of a kind if the guess is of that kind. -/
theorem Joins.guessedNet_eq_supply_iff (distinct : circuit.DistinctReferences)
    {first second : PlacedPin K} (joins : circuit.Joins inferred first second) {net : NetKind}
    (supply : net ≠ .signal) :
    (circuit.guessedNet first = .supply net ↔ inferred.kind = net) ∧
      (circuit.guessedNet second = .supply net ↔ inferred.kind = net) := by
  obtain ⟨sameNet, sameKind, -⟩ := joins.guessedNet_eq distinct
  rw [sameNet, GuessedNet.eq_supply_iff supply, sameKind, and_self_iff]

/-- Where no power symbol feeds a net of the kind, a guess is named like its net. -/
theorem Joins.netName_eq (distinct : circuit.DistinctReferences) {first second : PlacedPin K}
    (joins : circuit.Joins inferred first second)
    (noRail : circuit.firstRail? inferred.kind = none) :
    inferred.netName = (circuit.guessedNet first).name := by
  obtain ⟨-, -, named | ⟨power, member, named, kind⟩⟩ := joins.guessedNet_eq distinct
  · exact named.symm
  · obtain ⟨rail, found⟩ := exists_firstRail? member named
    rw [kind, noRail] at found
    cases found

/-! ## Linked pins -/

theorem consistent_guessedWiring (circuit : Circuit K) : circuit.guessedWiring.Consistent :=
  (Wiring.consistent_ofCircuit circuit).attemptAll _

theorem entities_guessedWiring (circuit : Circuit K) :
    circuit.guessedWiring.entities = (Wiring.ofCircuit circuit).entities :=
  Wiring.entities_attemptAll ..

/-- The net that guesses mean for the pin with a key. -/
def guessedNetAt? (circuit : Circuit K) (key : String) : Option GuessedNet :=
  (circuit.guessedWiring.allPins.find? (·.key == key)).map circuit.guessedNet

section Linked

variable (distinct : circuit.DistinctReferences) (unwired : circuit.connections = [])
include distinct unwired

/-- Touched pins are pins of guesses. -/
theorem exists_joins_of_touched {placed : PlacedPin K}
    (touched : placed ∈ circuit.guessedWiring.touchedPins) :
    ∃ inferred first second, circuit.Joins inferred first second ∧
      (placed = first ∨ placed = second) := by
  obtain ⟨⟨first, second⟩, accepted, atEnd⟩ :=
    List.mem_flatMap.mp ((distinctBy_sublist ..).mem touched)
  obtain ⟨inferred, joins⟩ := (mem_accepted_guessedWiring_iff distinct unwired).mp accepted
  exact ⟨inferred, first, second, joins, List.mem_pair.mp atEnd⟩

theorem Joins.accepted {first second : PlacedPin K} (joins : circuit.Joins inferred first second) :
    (first, second) ∈ circuit.guessedWiring.accepted :=
  (mem_accepted_guessedWiring_iff distinct unwired).mpr ⟨inferred, joins⟩

theorem Joins.linked {first second : PlacedPin K} (joins : circuit.Joins inferred first second) :
    Linked circuit.guessedWiring.acceptedKeys first.key second.key :=
  Linked.of_mem (List.mem_map.mpr ⟨_, joins.accepted distinct unwired, rfl⟩)

theorem Joins.mem_touchedPins {first second : PlacedPin K}
    (joins : circuit.Joins inferred first second) :
    first ∈ circuit.guessedWiring.touchedPins ∧ second ∈ circuit.guessedWiring.touchedPins :=
  (consistent_guessedWiring circuit).touched_of_accepted (joins.accepted distinct unwired)

theorem Joins.mem_allPins {first second : PlacedPin K}
    (joins : circuit.Joins inferred first second) :
    first ∈ circuit.guessedWiring.allPins ∧ second ∈ circuit.guessedWiring.allPins :=
  (consistent_guessedWiring circuit).accepted_mem _ (joins.accepted distinct unwired)

omit distinct unwired in
/-- A pin of the wiring is found by its key, and so is its net. -/
theorem guessedNetAt?_key {placed : PlacedPin K} (member : placed ∈ circuit.guessedWiring.allPins) :
    circuit.guessedNetAt? placed.key = some (circuit.guessedNet placed) := by
  rw [guessedNetAt?, (consistent_guessedWiring circuit).registered.find?_allPins member,
    Option.map_some]

/-- Pins are linked only within the net that is meant for them. -/
theorem guessedNet_eq_of_linked {one other : PlacedPin K}
    (oneTouched : one ∈ circuit.guessedWiring.touchedPins)
    (otherTouched : other ∈ circuit.guessedWiring.touchedPins)
    (linked : Linked circuit.guessedWiring.acceptedKeys one.key other.key) :
    circuit.guessedNet one = circuit.guessedNet other := by
  have consistent := consistent_guessedWiring circuit
  have samePairs : ∀ pair ∈ circuit.guessedWiring.acceptedKeys,
      circuit.guessedNetAt? pair.1 = circuit.guessedNetAt? pair.2 := by
    intro pair member
    obtain ⟨⟨first, second⟩, accepted, rfl⟩ := List.mem_map.mp member
    obtain ⟨firstPin, secondPin⟩ := consistent.accepted_mem _ accepted
    obtain ⟨inferred, joins⟩ := (mem_accepted_guessedWiring_iff distinct unwired).mp accepted
    rw [guessedNetAt?_key firstPin, guessedNetAt?_key secondPin, (joins.guessedNet_eq distinct).1]
  have same := linked.eq_of_pairs circuit.guessedNetAt? samePairs
  rw [guessedNetAt?_key (consistent.mem_allPins_of_touched oneTouched),
    guessedNetAt?_key (consistent.mem_allPins_of_touched otherTouched)] at same
  exact Option.some.inj same

end Linked

/-! ## Supply nets -/

/-- A pin feeds the supply nets of a kind. -/
inductive Feeds (circuit : Circuit K) (net : NetKind) : PlacedPin K → Prop
  | battery {source : Component K} {first : Pin K} (isSource : source ∈ circuit.ofKind .battery)
      (gives : Kind.battery.supplyPin? net = some first) : Feeds circuit net (source.placed first)
  | rail {power : PowerSymbol K} (isSource : power ∈ circuit.powers) (named : power.reference ≠ "")
      (carries : NetKind.ofRail power.rail = net) :
      Feeds circuit net (power.placed power.reference)

/-- A pin takes supply of a kind. -/
inductive Takes (circuit : Circuit K) (net : NetKind) : PlacedPin K → Prop
  | consumer {part : Component K} {second : Pin K} (consumes : part ∈ circuit.consumers)
      (takes : part.kind.supplyPin? net = some second) : Takes circuit net (part.placed second)

/-- A pin that takes supply belongs to a consumer. -/
theorem Takes.isConsumer (distinct : circuit.DistinctReferences) {net : NetKind}
    {placed : PlacedPin K} (takes : circuit.Takes net placed) :
    (circuit.kindAt? placed).any (·.isConsumer) = true := by
  obtain ⟨consumes, -⟩ := takes
  obtain ⟨listed, isConsumer⟩ := mem_consumers_iff.mp consumes
  rwa [kindAt?_component distinct listed, Option.any_some]

/-- A pin that feeds supply nets does not belong to a consumer. -/
theorem Feeds.not_isConsumer (distinct : circuit.DistinctReferences) {net : NetKind}
    {placed : PlacedPin K} (feeds : circuit.Feeds net placed) :
    (circuit.kindAt? placed).any (·.isConsumer) = false := by
  cases feeds with
  | battery isSource =>
      obtain ⟨listed, isBattery⟩ := mem_ofKind_iff.mp isSource
      rw [kindAt?_component distinct listed, isBattery]
      rfl
  | rail isSource named => rw [kindAt?_power distinct isSource named, Option.any_none]

theorem Joins.supplies {first second : PlacedPin K} (joins : circuit.Joins inferred first second)
    (supply : inferred.kind ≠ .signal) :
    circuit.Feeds inferred.kind first ∧ circuit.Takes inferred.kind second := by
  cases joins with
  | battery _ isSource consumes gives takes =>
      exact ⟨.battery isSource gives, .consumer consumes takes⟩
  | rail isSource named consumes takes =>
      dsimp only
      exact ⟨.rail isSource named rfl, .consumer consumes takes⟩
  | light => exact absurd rfl supply
  | input => exact absurd rfl supply
  | output => exact absurd rfl supply

/-- A pin that feeds the supply nets of a kind is joined to every pin that takes supply of it. -/
theorem Feeds.joins {net : NetKind} {first second : PlacedPin K} (feeds : circuit.Feeds net first)
    (supply : net ≠ .signal) (takes : circuit.Takes net second) :
    ∃ inferred, circuit.Joins inferred first second := by
  obtain ⟨consumes, takes⟩ := takes
  cases feeds with
  | battery isSource gives => exact ⟨_, .battery supply isSource consumes gives takes⟩
  | rail isSource named carries =>
      subst carries
      exact ⟨_, .rail isSource named consumes takes⟩

section Supply

variable (distinct : circuit.DistinctReferences) (unwired : circuit.connections = [])
include distinct unwired

/-- A pin that is meant for a supply net is linked to one that feeds it and to one that takes
supply from it. -/
theorem exists_linked_of_supply {net : NetKind} (supply : net ≠ .signal) {placed : PlacedPin K}
    (touched : placed ∈ circuit.guessedWiring.touchedPins)
    (meant : circuit.guessedNet placed = .supply net) :
    ∃ first second, circuit.Feeds net first ∧ circuit.Takes net second ∧
      Linked circuit.guessedWiring.acceptedKeys placed.key first.key ∧
      Linked circuit.guessedWiring.acceptedKeys placed.key second.key := by
  obtain ⟨inferred, first, second, joins, isEnd⟩ := exists_joins_of_touched distinct unwired touched
  obtain ⟨sameNet, sameKind, -⟩ := joins.guessedNet_eq distinct
  have meantFirst : circuit.guessedNet first = .supply net := by
    rcases isEnd with rfl | rfl
    · exact meant
    · exact sameNet.symm.trans meant
  have kind : inferred.kind = net := by
    rw [← sameKind, meantFirst]
    rfl
  obtain ⟨feeds, takes⟩ := joins.supplies (kind ▸ supply)
  have linked := joins.linked distinct unwired
  refine ⟨first, second, kind ▸ feeds, kind ▸ takes, ?_⟩
  rcases isEnd with rfl | rfl
  · exact ⟨Relation.ReflTransGen.refl, linked⟩
  · exact ⟨linked.symm, Relation.ReflTransGen.refl⟩

/-- All pins that are meant for one supply net are linked. -/
theorem linked_of_supply {net : NetKind} (supply : net ≠ .signal) {one other : PlacedPin K}
    (oneTouched : one ∈ circuit.guessedWiring.touchedPins)
    (otherTouched : other ∈ circuit.guessedWiring.touchedPins)
    (oneMeant : circuit.guessedNet one = .supply net)
    (otherMeant : circuit.guessedNet other = .supply net) :
    Linked circuit.guessedWiring.acceptedKeys one.key other.key := by
  obtain ⟨-, drain, -, takes, -, toDrain⟩ :=
    exists_linked_of_supply distinct unwired supply oneTouched oneMeant
  obtain ⟨source, -, feeds, -, toSource, -⟩ :=
    exists_linked_of_supply distinct unwired supply otherTouched otherMeant
  obtain ⟨inferred, joins⟩ := feeds.joins supply takes
  have between := joins.linked distinct unwired
  exact (toDrain.trans between.symm).trans toSource.symm

end Supply

/-! ## Rails -/

/-- The rail that a guess names: only guesses that start at a power symbol as a whole name one. -/
def guessedRail? (inferred : InferredConnection) : Option String :=
  if inferred.connection.source.pin = none then some inferred.netName else none

/-- The rail of the power symbol that a pin belongs to. -/
def railAt? (circuit : Circuit K) (placed : PlacedPin K) : Option String :=
  ((Wiring.ofCircuit circuit).entities.find? placed.entity).bind (·.rail?)

theorem railAt?_component (distinct : circuit.DistinctReferences) {component : Component K}
    (member : component ∈ circuit.components) (pin : Pin K) :
    circuit.railAt? (component.placed pin) = none := by
  rw [railAt?, Component.placed, Wiring.find?_entities_component distinct member]
  rfl

theorem railAt?_power (distinct : circuit.DistinctReferences) {power : PowerSymbol K}
    (member : power ∈ circuit.powers) (named : power.reference ≠ "") :
    circuit.railAt? (power.placed power.reference) = some power.rail := by
  rw [railAt?, PowerSymbol.placed, Wiring.find?_entities_power distinct member named]
  rfl

/-- A guess starts at the power symbol whose rail it names, if it names one, and never ends at a
power symbol. -/
theorem Joins.railAt?_eq (distinct : circuit.DistinctReferences) {first second : PlacedPin K}
    (joins : circuit.Joins inferred first second) :
    circuit.railAt? first = guessedRail? inferred ∧ circuit.railAt? second = none := by
  have atComponent : ∀ {kind : Kind} {component : Component K} (pin : Pin K),
      component ∈ circuit.ofKind kind → circuit.railAt? (component.placed pin) = none :=
    fun pin member => railAt?_component distinct (mem_ofKind_iff.mp member).1 pin
  have atConsumer : ∀ {part : Component K} (pin : Pin K), part ∈ circuit.consumers →
      circuit.railAt? (part.placed pin) = none :=
    fun pin member => railAt?_component distinct (mem_consumers_iff.mp member).1 pin
  cases joins with
  | battery _ isSource consumes => exact ⟨atComponent _ isSource, atConsumer _ consumes⟩
  | rail isSource named consumes =>
      exact ⟨railAt?_power distinct isSource named, atConsumer _ consumes⟩
  | light resistorAt lightAt =>
      exact ⟨atComponent _ (List.mem_of_getElem? resistorAt),
        atComponent _ (List.mem_of_getElem? lightAt)⟩
  | input isConnector isAmplifier =>
      exact ⟨atComponent _ (List.mem_of_head? isConnector),
        atComponent _ (List.mem_of_head? isAmplifier)⟩
  | output isAmplifier isSpeaker =>
      exact ⟨atComponent _ (List.mem_of_head? isAmplifier),
        atComponent _ (List.mem_of_head? isSpeaker)⟩

/-- A supply guess has the name of the rail where it starts, or else that of the supply. -/
theorem Joins.netName_eq_railAt? (distinct : circuit.DistinctReferences)
    {first second : PlacedPin K} (joins : circuit.Joins inferred first second)
    (supply : inferred.kind ≠ .signal) :
    inferred.netName = (circuit.railAt? first).getD inferred.kind.supplyName := by
  rw [(joins.railAt?_eq distinct).1]
  cases joins with
  | battery => rfl
  | rail => rfl
  | light => exact absurd rfl supply
  | input => exact absurd rfl supply
  | output => exact absurd rfl supply

/-- The first rail that guesses of a kind name is that of the first named power symbol for it, if
there is a consumer to feed. -/
theorem findSome?_inferConnections {K : Type} {circuit : Circuit K} {net : NetKind}
    (unwired : circuit.connections = []) (consumed : circuit.consumers ≠ []) :
    (circuit.inferConnections.findSome? fun inferred =>
      if inferred.kind = net then guessedRail? inferred else none) = circuit.firstRail? net := by
  have batteries : ∀ inferred ∈ circuit.batteryRails, guessedRail? inferred = none := by
    intro inferred isGuess
    obtain ⟨_, -, _, -, _, -, rfl⟩ := mem_batteryRails_iff.mp isGuess
    rfl
  have lights : ∀ inferred ∈ circuit.lightPairs, guessedRail? inferred = none := by
    intro inferred isGuess
    obtain ⟨_, _, _, -, -, rfl⟩ := mem_lightPairs_iff.mp isGuess
    rfl
  have chain : ∀ inferred ∈ circuit.audioChain, guessedRail? inferred = none := by
    intro inferred isGuess
    obtain ⟨_, -, ⟨_, -, rfl⟩ | ⟨_, -, rfl⟩⟩ := mem_audioChain_iff.mp isGuess
    · rfl
    · rfl
  have nameless : ∀ {guesses : List InferredConnection},
      (∀ inferred ∈ guesses, guessedRail? inferred = none) →
        (guesses.findSome? fun inferred =>
          if inferred.kind = net then guessedRail? inferred else none) = none := by
    intro guesses unnamed
    rw [List.findSome?_eq_none_iff]
    intro inferred isGuess
    rw [unnamed inferred isGuess, ite_self]
  have rails : (circuit.symbolRails.findSome? fun inferred =>
      if inferred.kind = net then guessedRail? inferred else none) = circuit.firstRail? net := by
    obtain ⟨part, others, isConsumers⟩ := List.exists_cons_of_ne_nil consumed
    rw [symbolRails, firstRail?, isConsumers]
    induction circuit.powers with
    | nil => rfl
    | cons power rest inductionHypothesis =>
        by_cases named : power.reference = ""
        · simpa [named] using inductionHypothesis
        · by_cases carries : NetKind.ofRail power.rail = net
          · simp [named, carries, guessedRail?]
          · rw [List.filter_cons_of_pos (by simpa using named), List.flatMap_cons,
              List.findSome?_append, inductionHypothesis,
              List.find?_cons_of_neg (by simp [carries]), Option.or_eq_right_of_none]
            rw [List.findSome?_eq_none_iff, List.forall_mem_map]
            simp [carries]
  rw [inferConnections, unwired, List.isEmpty_nil, if_pos rfl, List.findSome?_append,
    List.findSome?_append, List.findSome?_append, nameless batteries, rails, nameless lights,
    nameless chain, Option.none_or, Option.or_none, Option.or_none]

section Nets

variable (distinct : circuit.DistinctReferences) (unwired : circuit.connections = [])
include distinct unwired

/-- A search among the pins that are meant for a supply net is one among the guesses of its kind, in
their order. -/
theorem findSome?_supply {β : Type} {net : NetKind} (supply : net ≠ .signal)
    {find : PlacedPin K → Option β} {findGuess : InferredConnection → Option β}
    (atEnds : ∀ inferred first second, circuit.Joins inferred first second → inferred.kind = net →
      [first, second].findSome? find = findGuess inferred) :
    (circuit.guessedWiring.touchedPins.filter fun placed =>
        circuit.guessedNet placed = .supply net).findSome? find =
      circuit.inferConnections.findSome? fun inferred =>
        if inferred.kind = net then findGuess inferred else none := by
  have consistent := consistent_guessedWiring circuit
  have joins : ∀ inferred ∈ circuit.inferConnections,
      ∃ first second, circuit.Joins inferred first second :=
    fun inferred isGuess => (mem_inferConnections_iff unwired).mp isGuess
  rw [← List.head?_filterMap, List.filterMap_filter, List.head?_filterMap, Wiring.touchedPins,
    findSome?_distinctBy ?alike]
  case alike =>
    intro one oneMember other otherMember sameKey
    rw [consistent.registered.eq_of_key_eq (consistent.mem_allPins_of_atEnd oneMember)
      (consistent.mem_allPins_of_atEnd otherMember) sameKey]
  rw [guessedWiring, Wiring.accepted_attemptAll, (Wiring.unjoined_ofCircuit circuit).2,
    List.nil_append, guessedConnections, List.filterMap_map]
  simp only [decide_eq_true_eq]
  generalize circuit.inferConnections = guesses at joins
  induction guesses with
  | nil => rfl
  | cons inferred rest inductionHypothesis =>
      obtain ⟨⟨first, second, joinsHere⟩, joinsLater⟩ := List.forall_mem_cons.mp joins
      have accepted : ((fun connection : Connection => ((Wiring.ofCircuit circuit).check
          connection.source connection.target).toOption) ∘ (·.connection)) inferred =
            some (first, second) := by
        rw [Function.comp_apply, joinsHere.check distinct]
        rfl
      have here : ([first, second].findSome? fun placed =>
          if circuit.guessedNet placed = .supply net then find placed else none) =
            if inferred.kind = net then findGuess inferred else none := by
        obtain ⟨firstMeant, secondMeant⟩ := joinsHere.guessedNet_eq_supply_iff distinct supply
        by_cases kind : inferred.kind = net
        · rw [← atEnds inferred first second joinsHere kind]
          simp only [List.findSome?_cons, List.findSome?_nil, firstMeant, secondMeant, kind,
            if_true]
        · simp [firstMeant, secondMeant, kind]
      rw [List.filterMap_cons_some accepted, List.flatMap_cons, List.findSome?_append, here,
        inductionHypothesis joinsLater, List.findSome?_cons]
      cases (if inferred.kind = net then findGuess inferred else none) <;> rfl

/-- The first rail at the touched pins that are meant for a supply net is that of the first named
power symbol. -/
theorem railOf?_supply {net : NetKind} (supply : net ≠ .signal) {placed : PlacedPin K}
    (touched : placed ∈ circuit.guessedWiring.touchedPins)
    (meant : circuit.guessedNet placed = .supply net) :
    circuit.guessedWiring.railOf? (circuit.guessedWiring.touchedPins.filter fun placed =>
      circuit.guessedNet placed = .supply net) = circuit.firstRail? net := by
  obtain ⟨-, -, -, ⟨consumes, -⟩, -⟩ :=
    exists_linked_of_supply distinct unwired supply touched meant
  have atEnds : ∀ inferred first second, circuit.Joins inferred first second →
      inferred.kind = net → [first, second].findSome? circuit.railAt? = guessedRail? inferred := by
    intro inferred first second joins _
    obtain ⟨atFirst, atSecond⟩ := joins.railAt?_eq distinct
    rw [List.findSome?_cons, atFirst, List.findSome?_cons, atSecond]
    cases guessedRail? inferred <;> rfl
  rw [Wiring.railOf?, entities_guessedWiring, ← findSome?_inferConnections unwired
    (List.ne_nil_of_mem consumes), ← findSome?_supply distinct unwired supply atEnds]
  rfl

/-- The pins that are linked to one that is meant for a supply net are those that are meant for
it. -/
theorem labelled_supply {net : NetKind} (supply : net ≠ .signal) {placed : PlacedPin K}
    (touched : placed ∈ circuit.guessedWiring.touchedPins)
    (meant : circuit.guessedNet placed = .supply net) :
    circuit.guessedWiring.labelled DisjointSets.labels
        (circuit.guessedWiring.netLabel DisjointSets.labels placed.key) =
      circuit.guessedWiring.touchedPins.filter fun other =>
        circuit.guessedNet other = .supply net := by
  apply List.filter_congr
  intro other otherTouched
  rw [decide_eq_decide, Wiring.netLabel_eq_iff DisjointSets.labels_lawful
    (Wiring.key_mem_endKeys otherTouched) (Wiring.key_mem_endKeys touched)]
  constructor
  · intro linked
    rw [guessedNet_eq_of_linked distinct unwired otherTouched touched linked, meant]
  · intro otherMeant
    exact linked_of_supply distinct unwired supply otherTouched touched otherMeant meant

/-- The pins of a supply net of guesses are those that are meant for it. -/
theorem pins_eq_of_supply {net : Net} (member : net ∈ circuit.guessedWiring.nets)
    {placed : PlacedPin K} (touched : placed ∈ circuit.guessedWiring.touchedPins)
    (inNet : placed.key ∈ net.pins) {kind : NetKind} (supply : kind ≠ .signal)
    (meant : circuit.guessedNet placed = .supply kind) :
    net.pins = (circuit.guessedWiring.touchedPins.filter fun other =>
      circuit.guessedNet other = .supply kind).map PlacedPin.key := by
  rw [Wiring.eq_describeNet_of_mem member touched inNet,
    labelled_supply distinct unwired supply touched meant, Wiring.pins_describeNet]

/-- A net of guesses that a power symbol feeds is named like the rail of the first one. -/
theorem name_eq_of_firstRail? {net : Net} (member : net ∈ circuit.guessedWiring.nets)
    {placed : PlacedPin K} (touched : placed ∈ circuit.guessedWiring.touchedPins)
    (inNet : placed.key ∈ net.pins) {rail : String}
    (fed : circuit.firstRail? (circuit.guessedNet placed).kind = some rail) : net.name = rail := by
  have supply := ne_signal_of_firstRail? fed
  have meant : circuit.guessedNet placed = .supply (circuit.guessedNet placed).kind :=
    (GuessedNet.eq_supply_iff supply).mpr rfl
  have isRail := railOf?_supply distinct unwired supply touched meant
  rw [fed] at isRail
  rw [Wiring.eq_describeNet_of_mem member touched inNet,
    labelled_supply distinct unwired supply touched meant, Wiring.describeNet, isRail]

/-- A pin that is meant for a net without a power symbol has none. -/
theorem railAt?_eq_none {placed : PlacedPin K}
    (touched : placed ∈ circuit.guessedWiring.touchedPins)
    (unfed : circuit.firstRail? (circuit.guessedNet placed).kind = none) :
    circuit.railAt? placed = none := by
  obtain ⟨inferred, first, second, joins, isEnd⟩ := exists_joins_of_touched distinct unwired touched
  obtain ⟨atFirst, atSecond⟩ := joins.railAt?_eq distinct
  obtain ⟨-, sameKind, -⟩ := joins.guessedNet_eq distinct
  rcases isEnd with rfl | rfl
  · rw [sameKind] at unfed
    rw [atFirst]
    cases joins with
    | rail isSource named =>
        obtain ⟨rail, found⟩ := exists_firstRail? isSource named
        dsimp only at unfed
        rw [found] at unfed
        cases unfed
    | _ => rfl
  · exact atSecond

/-- All pins of a net of guesses are meant for that net. -/
theorem guessedNetAt?_of_mem_pins {net : Net} (member : net ∈ circuit.guessedWiring.nets)
    {placed : PlacedPin K} (touched : placed ∈ circuit.guessedWiring.touchedPins)
    (inNet : placed.key ∈ net.pins) {key : String} (otherInNet : key ∈ net.pins) :
    circuit.guessedNetAt? key = some (circuit.guessedNet placed) := by
  have consistent := consistent_guessedWiring circuit
  have linked := (Wiring.exists_net_iff DisjointSets.labels_lawful
    (Wiring.key_mem_endKeys touched)).mp ⟨net, member, inNet, otherInNet⟩
  have atEnd := Wiring.mem_endKeys_of_linked (Wiring.key_mem_endKeys touched) linked
  obtain ⟨other, otherTouched, rfl⟩ := List.mem_map.mp (Wiring.mem_touchedKeys_iff.mpr atEnd)
  rw [guessedNetAt?_key (consistent.mem_allPins_of_touched otherTouched),
    guessedNet_eq_of_linked distinct unwired touched otherTouched linked]

/-- A net of guesses without a power symbol is named after its first pin. -/
theorem name_eq_of_no_firstRail? {net : Net} (member : net ∈ circuit.guessedWiring.nets)
    {placed : PlacedPin K} (touched : placed ∈ circuit.guessedWiring.touchedPins)
    (inNet : placed.key ∈ net.pins)
    (unfed : circuit.firstRail? (circuit.guessedNet placed).kind = none) :
    ∃ rest, net.name = "Net-(" ++ rest := by
  obtain ⟨members, isDescribed, listed⟩ : ∃ members,
      net = circuit.guessedWiring.describeNet members ∧ ∀ other ∈ members,
        other ∈ circuit.guessedWiring.touchedPins ∧ other.key ∈ net.pins := by
    refine ⟨_, Wiring.eq_describeNet_of_mem member touched inNet, ?_⟩
    intro other inMembers
    refine ⟨(List.mem_filter.mp inMembers).1, ?_⟩
    rw [Wiring.eq_describeNet_of_mem member touched inNet, Wiring.pins_describeNet]
    exact List.mem_map.mpr ⟨other, inMembers, rfl⟩
  have noRail : circuit.guessedWiring.railOf? members = none := by
    rw [Wiring.railOf?, List.findSome?_eq_none_iff, entities_guessedWiring]
    intro other inMembers
    obtain ⟨otherTouched, otherInNet⟩ := listed other inMembers
    apply railAt?_eq_none distinct unwired otherTouched
    have meant := guessedNetAt?_of_mem_pins distinct unwired member touched inNet otherInNet
    rw [guessedNetAt?_key ((consistent_guessedWiring circuit).mem_allPins_of_touched
      otherTouched)] at meant
    rwa [Option.some.inj meant]
  rw [isDescribed, Wiring.describeNet, noRail]
  cases members with
  | nil =>
      rw [isDescribed, Wiring.pins_describeNet] at inNet
      cases inNet
  | cons first others =>
      exact ⟨first.entity ++ "-" ++ first.pin.number ++ ")", by
        simp only [Wiring.nameOfMembers, String.append_assoc]⟩

end Nets

end Circuit
end CircuitSheet
