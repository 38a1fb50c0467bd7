import CircuitSheet.Proofs.Description.Entries
import CircuitSheet.Proofs.Drawing.Connections
import CircuitSheet.Proofs.Wiring.Direction
import CircuitSheet.Proofs.Wiring.GuessedNets

/-!
# Names of guessed nets

A net that guesses make has the name that its guesses give it, unless a power symbol feeds it. Then
it is named after the rail of the first one, whatever a battery or another power symbol on the net
would have called it. No name is promised for a rail that starts like the name of a net without a
rail: it is mistaken for one, and what comes of it is recorded beside the rule.
-/

namespace CircuitSheet

namespace Circuit

variable {K : Type}

/-- The name of the first guess of a kind. -/
def firstGuessName? (circuit : Circuit K) (net : NetKind) : Option String :=
  circuit.inferConnections.findSome? fun inferred =>
    if inferred.kind = net then some inferred.netName else none

/-- The name that the net of a guess is given. It is that of the guess, unless a power symbol feeds
nets of its kind: then it is the rail of the first one. The remaining case, a rail that is mistaken
for the name of a net without a rail, is no part of the rule. -/
def drawnName (circuit : Circuit K) (inferred : InferredConnection) : String :=
  match circuit.firstRail? inferred.kind with
  | none => inferred.netName
  | some rail =>
      if Drawing.pinNetStart.toList.isPrefixOf rail.toList then
        (circuit.firstGuessName? inferred.kind).getD rail
      else rail

/-- Without a power symbol the name is that of the guess. -/
theorem drawnName_of_unfed {circuit : Circuit K} {inferred : InferredConnection}
    (unfed : circuit.firstRail? inferred.kind = none) :
    circuit.drawnName inferred = inferred.netName := by
  rw [drawnName, unfed]

/-- With a power symbol the name is the rail of the first one, unless the rail is mistaken. -/
theorem drawnName_of_fed {circuit : Circuit K} {inferred : InferredConnection} {rail : String}
    (fed : circuit.firstRail? inferred.kind = some rail)
    (plain : Drawing.pinNetStart.toList.isPrefixOf rail.toList = false) :
    circuit.drawnName inferred = rail := by
  rw [drawnName, fed]
  dsimp only
  rw [if_neg (Bool.eq_false_iff.mp plain)]

/-- The rails of a circuit are not a matter of positions. -/
theorem firstRail?_unplaced (circuit : Circuit K) (net : NetKind) :
    circuit.unplaced.firstRail? net = circuit.firstRail? net := by
  rw [firstRail?, powers_unplaced, List.find?_map, Option.map_map]
  rfl

theorem drawnName_unplaced (circuit : Circuit K) :
    circuit.unplaced.drawnName = circuit.drawnName := by
  funext inferred
  rw [drawnName, firstRail?_unplaced, firstGuessName?, inferConnections_unplaced]
  rfl

end Circuit

namespace Drawing

variable {K : Type} [ScalarText K]

/-! ## Names of pins -/

/-- The names of pins are those of guesses with an end there, and no pin at the end of an accepted
connection lacks one. -/
structure NamesGuesses (circuit : Circuit K) (wired : Wired K) : Prop where
  entities : wired.wiring.entities = (Wiring.ofCircuit circuit).entities
  guessed : ∀ key name, wired.pinNames.find? key = some name →
    ∃ inferred first second, circuit.Joins inferred first second ∧
      (key = first.key ∨ key = second.key) ∧ inferred.netName = name
  named : ∀ key ∈ wired.wiring.endKeys, ∃ name, wired.pinNames.find? key = some name

variable {circuit : Circuit K}

/-- One more guess keeps the names of pins those of guesses. -/
theorem NamesGuesses.add (distinct : circuit.DistinctReferences) {wired : Wired K}
    (names : NamesGuesses circuit wired) {inferred : InferredConnection}
    {first second : PlacedPin K} (joins : circuit.Joins inferred first second) :
    NamesGuesses circuit (wired.add ⟨inferred.connection, some inferred.netName⟩) := by
  have accepted : wired.wiring.connect inferred.connection.source inferred.connection.target =
      .ok ((first, second), wired.wiring.join first second) := by
    rw [Wiring.connect_eq_ok_iff, Wiring.check_eq_of_entities_eq names.entities]
    exact ⟨joins.check distinct, rfl⟩
  have added : wired.add ⟨inferred.connection, some inferred.netName⟩ =
      { wired with
        wiring := wired.wiring.join first second
        pinNames := (wired.pinNames.insert first.key inferred.netName).insert second.key
          inferred.netName } := by
    rw [Wired.add, accepted]
    rfl
  rw [added]
  refine ⟨names.entities, ?_, ?_⟩
  · intro key name found
    rw [Table.find?_insert, Table.find?_insert] at found
    split at found
    case isTrue atSecond =>
      exact ⟨inferred, first, second, joins, .inr atSecond, Option.some.inj found⟩
    case isFalse =>
      split at found
      case isTrue atFirst =>
        exact ⟨inferred, first, second, joins, .inl atFirst, Option.some.inj found⟩
      case isFalse => exact names.guessed key name found
  · intro key atEnd
    rw [Table.find?_insert, Table.find?_insert]
    by_cases atSecond : key = second.key
    · exact ⟨_, if_pos atSecond⟩
    · by_cases atFirst : key = first.key
      · exact ⟨_, by rw [if_neg atSecond, if_pos atFirst]⟩
      · rw [if_neg atSecond, if_neg atFirst]
        apply names.named
        simpa [Wiring.endKeys_join, atFirst, atSecond] using atEnd

/-- After all guesses the names of pins are those of guesses. -/
theorem namesGuesses_wired (distinct : circuit.DistinctReferences)
    (unwired : circuit.connections = []) : NamesGuesses circuit (wired true circuit) := by
  have start : NamesGuesses circuit ⟨Wiring.ofCircuit circuit, Table.empty, []⟩ := by
    refine ⟨rfl, nofun, ?_⟩
    simp [Wiring.endKeys, Wiring.acceptedKeys, (Wiring.unjoined_ofCircuit circuit).2]
  have guesses : wishes true circuit =
      circuit.inferConnections.map fun inferred => ⟨inferred.connection, some inferred.netName⟩ := by
    simp [wishes, unwired]
  rw [wired, wire, guesses]
  refine List.foldlRecOn _ _ start ?_
  intro soFar names wish member
  obtain ⟨inferred, isGuess, rfl⟩ := List.mem_map.mp member
  obtain ⟨first, second, joins⟩ := (Circuit.mem_inferConnections_iff unwired).mp isGuess
  exact names.add distinct joins

/-! ## Names of nets -/

theorem wiring_wired_guesses (unwired : circuit.connections = []) :
    (wired true circuit).wiring = circuit.guessedWiring := by
  rw [wiring_wired, wanted, if_pos ⟨unwired, rfl⟩]
  rfl

section Renamed

variable (distinct : circuit.DistinctReferences) (unwired : circuit.connections = [])
include distinct unwired

/-- A net of guesses without a power symbol is given the name that its guesses mean. -/
theorem name_renameNet_of_no_firstRail? {net : Net} (member : net ∈ circuit.guessedWiring.nets)
    {placed : PlacedPin K} (touched : placed ∈ circuit.guessedWiring.touchedPins)
    (inNet : placed.key ∈ net.pins)
    (unfed : circuit.firstRail? (circuit.guessedNet placed).kind = none) :
    (renameNet (wired true circuit).pinNames net).name = (circuit.guessedNet placed).name := by
  have names := namesGuesses_wired distinct unwired
  have isNamed := names.named placed.key
  rw [wiring_wired_guesses unwired] at isNamed
  obtain ⟨name, found⟩ := isNamed (Wiring.key_mem_endKeys touched)
  have someNamed : (net.pins.findSome? (wired true circuit).pinNames.find?).isSome :=
    List.findSome?_isSome_iff.mpr ⟨placed.key, inNet, by simp [found]⟩
  obtain ⟨chosen, isChosen⟩ := Option.isSome_iff_exists.mp someNamed
  obtain ⟨key, keyInNet, keyNamed⟩ := List.exists_of_findSome?_eq_some isChosen
  obtain ⟨inferred, first, second, joins, atEnd, rfl⟩ := names.guessed key chosen keyNamed
  -- The guess that gives the name ends at a pin of the net, so it means this net.
  have meant := Circuit.guessedNetAt?_of_mem_pins distinct unwired member touched inNet keyInNet
  obtain ⟨firstPin, secondPin⟩ := joins.mem_allPins distinct unwired
  obtain ⟨sameNet, sameKind, -⟩ := joins.guessedNet_eq distinct
  have meantFirst : circuit.guessedNet first = circuit.guessedNet placed := by
    rcases atEnd with rfl | rfl
    · rw [Circuit.guessedNetAt?_key firstPin] at meant
      exact Option.some.inj meant
    · rw [Circuit.guessedNetAt?_key secondPin, sameNet] at meant
      exact Option.some.inj meant
  have fromPin : pinNetStart.toList.isPrefixOf net.name.toList = true := by
    obtain ⟨rest, plain⟩ :=
      Circuit.name_eq_of_no_firstRail? distinct unwired member touched inNet unfed
    rw [plain, String.toList_append, List.isPrefixOf_iff_prefix]
    exact List.prefix_append ..
  rw [renameNet, if_pos fromPin, isChosen, Option.getD_some, ← meantFirst]
  apply joins.netName_eq distinct
  rw [← sameKind, meantFirst, unfed]

/-- The pin at which a supply guess starts has the name of the guess. -/
theorem find?_pinNames_of_supply {inferred : InferredConnection} {first second : PlacedPin K}
    (joins : circuit.Joins inferred first second) (supply : inferred.kind ≠ .signal) :
    (wired true circuit).pinNames.find? first.key = some inferred.netName := by
  have names := namesGuesses_wired distinct unwired
  have isNamed := names.named first.key
  rw [wiring_wired_guesses unwired] at isNamed
  obtain ⟨name, found⟩ :=
    isNamed (Wiring.key_mem_endKeys (joins.mem_touchedPins distinct unwired).1)
  obtain ⟨other, otherFirst, otherSecond, otherJoins, atEnd, rfl⟩ := names.guessed _ _ found
  have registered := (Circuit.consistent_guessedWiring circuit).registered
  obtain ⟨firstPin, -⟩ := joins.mem_allPins distinct unwired
  obtain ⟨otherFirstPin, otherSecondPin⟩ := otherJoins.mem_allPins distinct unwired
  obtain ⟨-, sameKind, -⟩ := joins.guessedNet_eq distinct
  obtain ⟨otherNet, otherKind, -⟩ := otherJoins.guessedNet_eq distinct
  rw [found, Option.some.injEq]
  rcases atEnd with atFirst | atSecond
  · obtain rfl := registered.eq_of_key_eq firstPin otherFirstPin atFirst
    have kind : other.kind = inferred.kind := otherKind.symm.trans sameKind
    rw [joins.netName_eq_railAt? distinct supply,
      otherJoins.netName_eq_railAt? distinct (kind ▸ supply), kind]
  · -- No guess ends at a pin that feeds a supply net.
    obtain rfl := registered.eq_of_key_eq firstPin otherSecondPin atSecond
    have kind : other.kind = inferred.kind := by
      rw [← otherKind, ← otherNet, sameKind]
    have consumes := (otherJoins.supplies (kind ▸ supply)).2.isConsumer distinct
    rw [(joins.supplies supply).1.not_isConsumer distinct] at consumes
    cases consumes

/-- The first name at the pins of a supply net of guesses is that of the first guess of its kind. -/
theorem findSome?_pinNames {net : Net} (member : net ∈ circuit.guessedWiring.nets)
    {placed : PlacedPin K} (touched : placed ∈ circuit.guessedWiring.touchedPins)
    (inNet : placed.key ∈ net.pins) {kind : NetKind} (supply : kind ≠ .signal)
    (meant : circuit.guessedNet placed = .supply kind) :
    net.pins.findSome? (wired true circuit).pinNames.find? = circuit.firstGuessName? kind := by
  have atEnds : ∀ inferred first second, circuit.Joins inferred first second →
      inferred.kind = kind → [first, second].findSome?
        ((wired true circuit).pinNames.find? ∘ PlacedPin.key) = some inferred.netName := by
    rintro inferred first second joins rfl
    rw [List.findSome?_cons, Function.comp_apply,
      find?_pinNames_of_supply distinct unwired joins supply]
  rw [Circuit.pins_eq_of_supply distinct unwired member touched inNet supply meant,
    List.findSome?_map, Circuit.findSome?_supply distinct unwired supply atEnds]
  rfl

/-- The net of the pins of a guess is given its name. -/
theorem name_renameNet {inferred : InferredConnection} {first second : PlacedPin K}
    (joins : circuit.Joins inferred first second) {net : Net}
    (member : net ∈ circuit.guessedWiring.nets) (inNet : first.key ∈ net.pins) :
    (renameNet (wired true circuit).pinNames net).name = circuit.drawnName inferred := by
  have touched := (joins.mem_touchedPins distinct unwired).1
  obtain ⟨-, sameKind, -⟩ := joins.guessedNet_eq distinct
  cases fed : circuit.firstRail? inferred.kind with
  | none =>
      rw [name_renameNet_of_no_firstRail? distinct unwired member touched inNet (sameKind ▸ fed),
        Circuit.drawnName_of_unfed fed, joins.netName_eq distinct fed]
  | some rail =>
      have supply := Circuit.ne_signal_of_firstRail? fed
      have meant := (joins.guessedNet_eq_supply_iff distinct supply).1.mpr rfl
      have name := Circuit.name_eq_of_firstRail? distinct unwired member touched inNet
        (sameKind ▸ fed)
      rw [renameNet, name, Circuit.drawnName, fed]
      dsimp only
      split
      · rw [findSome?_pinNames distinct unwired member touched inNet supply meant]
      · exact name

/-- The net of the pins of a guess has its name in a drawing. -/
theorem name_of_mem_orderedNets {inferred : InferredConnection} {first second : PlacedPin K}
    (joins : circuit.Joins inferred first second) {net : Net}
    (member : net ∈ orderedNets (wired true circuit)) (inNet : first.key ∈ net.pins) :
    net.name = circuit.drawnName inferred := by
  obtain ⟨plain, isNet, rfl⟩ := mem_orderedNets_iff.mp member
  rw [wiring_wired_guesses unwired] at isNet
  rw [pins_renameNet] at inNet
  exact name_renameNet distinct unwired joins isNet inNet

/-- The pins of a guess share a net. -/
theorem shareNet_of_joins {inferred : InferredConnection} {first second : PlacedPin K}
    (joins : circuit.Joins inferred first second) :
    ShareNet (orderedNets (wired true circuit)) first second := by
  apply shareNet_orderedNets
  rw [wiring_wired_guesses unwired]
  exact joins.accepted distinct unwired

end Renamed

/-! ## Names in drawings -/

/-- The references of a circuit that is read differ. -/
theorem distinctReferences_of_readCircuit {options : DrawingOptions K} {text : List Char}
    {described : Circuit K} (read : readCircuit options text = .ok described) :
    described.DistinctReferences := by
  unfold readCircuit at read
  split at read
  case h_1 parsed isParsed =>
    obtain rfl := Except.ok.inj read
    exact (Description.kept_isDescribed.parse isParsed).distinctReferences
  case h_2 => cases read

/-- A drawing shows the circuit that was read, at other places, and the nets of its wiring. -/
theorem ofText_eq_ok {options : DrawingOptions K} {text : List Char} {described : Circuit K}
    {drawing : Drawing K} (read : readCircuit options text = .ok described)
    (drawn : ofText options text = .ok drawing) :
    drawing.circuit.unplaced = described.unplaced ∧ drawing.circuit.DistinctReferences ∧
      drawing.nets = orderedNets (wired options.infersWiring drawing.circuit) := by
  obtain ⟨other, readOther, drawnCircuit⟩ := ofText_eq_ok_iff.mp drawn
  obtain rfl := Except.ok.inj (read.symm.trans readOther)
  obtain ⟨laidOut, nets, -, -⟩ := ofCircuit_eq_ok drawnCircuit
  have same : drawing.circuit.unplaced = described.unplaced := by
    rw [laidOut, Floorplan.unplaced_layOut]
  exact ⟨same, (distinctReferences_of_readCircuit read).of_unplaced same.symm, nets⟩

/-- Where a drawing is made of guesses, each of them is accepted, and one net holds its pins. It has
the name of the guess, or the rail of the first power symbol that feeds nets of its kind. -/
theorem guessed_net_name {options : DrawingOptions K} {text : List Char} {described : Circuit K}
    {drawing : Drawing K} (read : readCircuit options text = .ok described)
    (unwired : described.connections = []) (guesses : options.infersWiring = true)
    (drawn : ofText options text = .ok drawing) :
    ∀ inferred ∈ described.inferConnections, ∃ first second,
      (Wiring.ofCircuit drawing.circuit).check inferred.connection.source
        inferred.connection.target = .ok (first, second) ∧
      ShareNet drawing.nets first second ∧
      ∀ net ∈ drawing.nets, first.key ∈ net.pins → net.name = described.drawnName inferred := by
  obtain ⟨same, distinct, nets⟩ := ofText_eq_ok read drawn
  have unwiredDrawn : drawing.circuit.connections = [] :=
    (congrArg (·.connections) same).trans unwired
  intro inferred isGuess
  rw [← Circuit.inferConnections_unplaced, ← same, Circuit.inferConnections_unplaced] at isGuess
  rw [← Circuit.drawnName_unplaced, ← same, Circuit.drawnName_unplaced, nets, guesses]
  obtain ⟨first, second, joins⟩ := (Circuit.mem_inferConnections_iff unwiredDrawn).mp isGuess
  refine ⟨first, second, joins.check distinct, shareNet_of_joins distinct unwiredDrawn joins, ?_⟩
  intro net member inNet
  exact name_of_mem_orderedNets distinct unwiredDrawn joins member inNet

/-! ## A battery beside a power symbol -/

/-- A battery and a power symbol feed one consumer. -/
def railedText : List Char :=
  ("circuit: x\ncomponents:\nB1 battery 9V (30, 30)\nU1 ic NE555 (99, 60)\npower:\n" ++
    "V1 +5V (60, 20)\n").toList

/-- What the text describes, without positions. -/
def railedShape : Circuit Unit where
  name := "x"
  components :=
    [Component.ofKind "B1" .battery "9V" ⟨(), ()⟩,
      Component.ofKind "U1" .integratedCircuit "NE555" ⟨(), ()⟩]
  powers := [⟨"V1", "+5V", ⟨(), ()⟩⟩]
  connections := []

/-- The usual options, with guesses. -/
def guessingOptions : DrawingOptions K :=
  { DrawingOptions.default with infersWiring := true }

theorem railedText_describes_exact :
    (Description.parse (guessingOptions (K := ℝ)).dialect railedText).toOption.map
      (·.unplaced : Circuit ℝ → Circuit Unit) = some railedShape := by
  decide +kernel

theorem railedText_describes :
    (Description.parse (guessingOptions (K := Float)).dialect railedText).toOption.map
      (·.unplaced : Circuit Float → Circuit Unit) = some railedShape := by
  decide +kernel

theorem guessed_net_name_railed :
    ∃ (described : Circuit ℝ) (drawing : Drawing ℝ),
      readCircuit guessingOptions railedText = .ok described ∧
      described.connections = [] ∧ ofText guessingOptions railedText = .ok drawing ∧
      described.inferConnections.length = 3 ∧
      ∀ inferred ∈ described.inferConnections, ∃ first second,
        (Wiring.ofCircuit drawing.circuit).check inferred.connection.source
          inferred.connection.target = .ok (first, second) ∧
        ShareNet drawing.nets first second ∧
        ∀ net ∈ drawing.nets, first.key ∈ net.pins →
          net.name = described.drawnName inferred := by
  obtain ⟨described, read, shape⟩ := exists_readCircuit railedText_describes_exact
  obtain ⟨drawing, drawn⟩ := exists_ofText read
  have unwired : described.connections = [] := congrArg (·.connections) shape
  have three : described.inferConnections.length = 3 := by
    rw [← Circuit.inferConnections_unplaced, shape]
    decide +kernel
  exact ⟨described, drawing, read, unwired, drawn, three,
    guessed_net_name read unwired rfl drawn⟩

/-- The net of the pins of a guess does not have the name of the guess. -/
def Misnames (drawing : Drawing K) (inferred : InferredConnection) : Prop :=
  ∃ first second,
    (Wiring.ofCircuit drawing.circuit).check inferred.connection.source
      inferred.connection.target = .ok (first, second) ∧
    ∃ net ∈ drawing.nets, first.key ∈ net.pins ∧ second.key ∈ net.pins ∧
      net.name ≠ inferred.netName

/-- The battery means another name than the power symbol. -/
theorem misnames_of_railedShape {drawing : Drawing K}
    (shape : drawing.circuit.unplaced = railedShape)
    (distinct : drawing.circuit.DistinctReferences)
    (nets : drawing.nets = orderedNets (wired true drawing.circuit)) :
    ∃ inferred ∈ railedShape.inferConnections, Misnames drawing inferred := by
  have unwired : drawing.circuit.connections = [] := congrArg (·.connections) shape
  let fromBattery := Circuit.guess "B1" "+" "U1" "VCC" "VCC" .power
  have isGuess : fromBattery ∈ railedShape.inferConnections := by
    decide +kernel
  have drawnName : drawing.circuit.drawnName fromBattery = "+5V" := by
    rw [← Circuit.drawnName_unplaced, shape]
    exact Circuit.drawnName_of_fed (by decide) (by decide)
  refine ⟨_, isGuess, ?_⟩
  rw [← shape, Circuit.inferConnections_unplaced] at isGuess
  obtain ⟨first, second, joins⟩ := (Circuit.mem_inferConnections_iff unwired).mp isGuess
  obtain ⟨net, member, ⟨firstIn, secondIn⟩, -⟩ := shareNet_of_joins distinct unwired joins
  have name := name_of_mem_orderedNets distinct unwired joins member firstIn
  refine ⟨first, second, joins.check distinct, net, nets ▸ member, firstIn, secondIn, ?_⟩
  rw [name, drawnName]
  decide

/-- Not every net of a guess has its name, be it drawn with exact numbers or with those of the
machine. -/
theorem guess_misnamed :
    (∃ (described : Circuit ℝ) (drawing : Drawing ℝ),
      readCircuit guessingOptions railedText = .ok described ∧
      described.connections = [] ∧ ofText guessingOptions railedText = .ok drawing ∧
      ∃ inferred ∈ described.inferConnections, Misnames drawing inferred) ∧
    ∀ (described : Circuit Float) (drawing : Drawing Float),
      readCircuit guessingOptions railedText = .ok described →
      ofText guessingOptions railedText = .ok drawing →
      described.connections = [] ∧
        ∃ inferred ∈ described.inferConnections, Misnames drawing inferred := by
  refine ⟨?_, ?_⟩
  · obtain ⟨described, read, shape⟩ := exists_readCircuit railedText_describes_exact
    obtain ⟨drawing, drawn⟩ := exists_ofText read
    obtain ⟨same, distinct, nets⟩ := ofText_eq_ok read drawn
    refine ⟨described, drawing, read, congrArg (·.connections) shape, drawn, ?_⟩
    rw [← Circuit.inferConnections_unplaced, shape]
    exact misnames_of_railedShape (same.trans shape) distinct nets
  · intro described drawing read drawn
    obtain ⟨other, readOther, shape⟩ := exists_readCircuit railedText_describes
    obtain rfl := Except.ok.inj (read.symm.trans readOther)
    obtain ⟨same, distinct, nets⟩ := ofText_eq_ok read drawn
    refine ⟨congrArg (·.connections) shape, ?_⟩
    rw [← Circuit.inferConnections_unplaced, shape]
    exact misnames_of_railedShape (same.trans shape) distinct nets

end Drawing
end CircuitSheet
