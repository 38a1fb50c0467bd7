import CircuitSheet.Drawing.Pipeline
import CircuitSheet.Proofs.Floorplan.LaidOut
import CircuitSheet.Proofs.Sheet.RoundTrip
import CircuitSheet.Proofs.Wiring.Order

/-!
# Connections of a drawing

No connection is lost silently. Every connection that a drawing should make is either counted and
joins two pins of one net, or told of by a diagnostic of its own; the diagnostics stand in the order
of the connections.
-/

namespace CircuitSheet

variable {K : Type}

/-- The diagnostic is about a connection that was not accepted. -/
def Diagnostic.isDropped : Diagnostic K → Bool
  | .unknownPin .. => true
  | .incompatiblePins .. => true
  | _ => false

namespace Drawing

/-- The connections that a drawing of a circuit should make. -/
def wanted (infersWiring : Bool) (circuit : Circuit K) : List Connection :=
  if circuit.connections = [] ∧ infersWiring = true then
    circuit.inferConnections.map (·.connection)
  else circuit.connections

/-- The diagnostic for a connection that was tried, unless it was accepted. -/
def diagnosticOf :
    Connection × Except WiringError (PlacedPin K × PlacedPin K) → Option (Diagnostic K)
  | (_, .ok _) => none
  | (connection, .error cause) => some (dropped connection cause)

/-- What is wanted is not a matter of positions. -/
theorem wanted_unplaced (infersWiring : Bool) (circuit : Circuit K) :
    wanted infersWiring circuit.unplaced = wanted infersWiring circuit := by
  rw [wanted, Circuit.inferConnections_unplaced]
  rfl

theorem wanted_of_unplaced {infersWiring : Bool} {one other : Circuit K}
    (same : one.unplaced = other.unplaced) :
    wanted infersWiring one = wanted infersWiring other := by
  rw [← wanted_unplaced, same, wanted_unplaced]

theorem map_connection_wishes (infersWiring : Bool) (circuit : Circuit K) :
    (wishes infersWiring circuit).map (·.connection) = wanted infersWiring circuit := by
  by_cases guesses : circuit.connections = [] ∧ infersWiring = true
  · simp [wishes, wanted, guesses]
  · have own : (circuit.connections.isEmpty && infersWiring) = false := by
      simpa [List.isEmpty_iff] using guesses
    simp [wishes, wanted, guesses, own, Function.comp_def]

theorem isDropped_dropped (connection : Connection) (cause : WiringError) :
    (dropped connection cause : Diagnostic K).isDropped = true := by
  cases cause <;> rfl

theorem isDropped_of_diagnosticOf
    {outcome : Connection × Except WiringError (PlacedPin K × PlacedPin K)}
    {diagnostic : Diagnostic K} (told : diagnosticOf outcome = some diagnostic) :
    diagnostic.isDropped = true := by
  obtain ⟨connection, ⟨cause⟩ | ⟨pins⟩⟩ := outcome
  · obtain rfl := Option.some.inj told
    exact isDropped_dropped connection cause
  · cases told

theorem eq_boundaryViolation_of_mem {review : BoundaryReport K} {placements : List (Placement K)}
    {diagnostic : Diagnostic K} (member : diagnostic ∈ boundaryDiagnostics review placements) :
    ∃ reference severity described placed,
      diagnostic = .boundaryViolation reference severity described placed := by
  obtain ⟨issue, -, told⟩ := List.mem_filterMap.mp member
  simp only [bind, Option.bind_eq_some_iff] at told
  obtain ⟨described, -, placed, -, same⟩ := told
  exact ⟨_, _, described, placed, (Option.some.inj same).symm⟩

/-- No finding about positions is about a connection. -/
theorem filter_isDropped_boundaryDiagnostics (review : BoundaryReport K)
    (placements : List (Placement K)) :
    (boundaryDiagnostics review placements).filter (·.isDropped) = [] := by
  rw [List.filter_eq_nil_iff]
  intro diagnostic member
  obtain ⟨_, _, _, _, rfl⟩ := eq_boundaryViolation_of_mem member
  exact Bool.false_ne_true

/-- Where all diagnostics are about other things, none is left. -/
theorem filter_diagnostics_eq_nil {α : Type} {diagnose : α → Diagnostic K}
    {concerns : Diagnostic K → Bool} (items : List α)
    (others : ∀ item, concerns (diagnose item) = false) :
    (items.map diagnose).filter concerns = [] := by
  rw [List.filter_eq_nil_iff, List.forall_mem_map]
  intro item _
  simp [others]

/-! ## Wiring a circuit -/

theorem wiring_add (wired : Wired K) (wish : Wish) :
    (wired.add wish).wiring = wired.wiring.attempt wish.connection := by
  unfold Wired.add Wiring.attempt
  cases wired.wiring.connect wish.connection.source wish.connection.target <;> rfl

theorem diagnostics_add (wired : Wired K) (wish : Wish) :
    (wired.add wish).diagnostics = wired.diagnostics ++ (diagnosticOf (wish.connection,
      (wired.wiring.connect wish.connection.source wish.connection.target).map (·.1))).toList := by
  unfold Wired.add
  cases wired.wiring.connect wish.connection.source wish.connection.target with
  | error cause => rfl
  | ok result => exact (List.append_nil _).symm

/-- Making wishes come true is trying their connections. -/
theorem wiring_foldl_add (wired : Wired K) (wishes : List Wish) :
    (wishes.foldl Wired.add wired).wiring =
      wired.wiring.attemptAll (wishes.map (·.connection)) := by
  induction wishes generalizing wired with
  | nil => rfl
  | cons wish rest inductionHypothesis =>
      rw [List.foldl_cons, inductionHypothesis, wiring_add]
      rfl

/-- Each connection that is not accepted is told of in its turn. -/
theorem diagnostics_foldl_add (wired : Wired K) (wishes : List Wish) :
    (wishes.foldl Wired.add wired).diagnostics = wired.diagnostics ++
      (wired.wiring.outcomes (wishes.map (·.connection))).filterMap diagnosticOf := by
  induction wishes generalizing wired with
  | nil => exact (List.append_nil _).symm
  | cons wish rest inductionHypothesis =>
      rw [List.foldl_cons, inductionHypothesis, diagnostics_add, wiring_add, List.append_assoc,
        List.map_cons, Wiring.outcomes, List.filterMap_cons]
      cases diagnosticOf (wish.connection,
        (wired.wiring.connect wish.connection.source wish.connection.target).map (·.1)) <;> rfl

/-- What is accepted and what is told of are all connections together. -/
theorem length_accepted_add (wiring : Wiring K) (connections : List Connection) :
    (wiring.attemptAll connections).accepted.length +
        ((wiring.outcomes connections).filterMap diagnosticOf).length =
      wiring.accepted.length + connections.length := by
  induction connections generalizing wiring with
  | nil => rfl
  | cons connection rest inductionHypothesis =>
      have later := inductionHypothesis (wiring.attempt connection)
      rw [Wiring.attemptAll, List.foldl_cons, ← Wiring.attemptAll, Wiring.outcomes,
        List.filterMap_cons, Wiring.map_connect]
      rcases wiring.attempt_cases connection with ⟨first, second, accepted, joined⟩ |
        ⟨cause, rejected, same⟩
      · rw [joined, Wiring.accepted_join, List.length_append] at later
        simp only [accepted, joined, diagnosticOf, List.length_cons, List.length_nil] at later ⊢
        omega
      · rw [same] at later
        simp only [rejected, same, diagnosticOf, List.length_cons]
        omega

/-! ## Nets of a drawing -/

@[simp] theorem pins_renameNet (pinNames : Table String) (net : Net) :
    (renameNet pinNames net).pins = net.pins := by
  unfold renameNet
  split <;> rfl

theorem orderedNets_perm (wired : Wired K) :
    (orderedNets wired).Perm (wired.wiring.nets.map (renameNet wired.pinNames)) :=
  List.mergeSort_perm ..

theorem mem_orderedNets_iff {wired : Wired K} {net : Net} :
    net ∈ orderedNets wired ↔
      ∃ plain ∈ wired.wiring.nets, renameNet wired.pinNames plain = net := by
  rw [(orderedNets_perm wired).mem_iff, List.mem_map]

theorem nodup_flatMap_orderedNets (wired : Wired K) :
    ((orderedNets wired).flatMap Net.pins).Nodup := by
  have renamed : ((wired.wiring.nets.map (renameNet wired.pinNames)).flatMap Net.pins) =
      wired.wiring.nets.flatMap Net.pins := by
    rw [List.flatMap_map]
    simp only [pins_renameNet]
  rw [((orderedNets_perm wired).flatMap_right Net.pins).nodup_iff, renamed]
  exact (Wiring.flatMap_pins_netsBy_perm ..).nodup_iff.mpr wired.wiring.nodup_touchedKeys

/-- A key is in one net only. -/
theorem eq_of_mem_pins {wired : Wired K} {net other : Net} {key : String}
    (member : net ∈ orderedNets wired) (otherMember : other ∈ orderedNets wired)
    (inNet : key ∈ net.pins) (inOther : key ∈ other.pins) : net = other := by
  obtain ⟨-, disjoint⟩ := List.nodup_flatMap.mp (nodup_flatMap_orderedNets wired)
  have symmetric : Std.Symm (Function.onFun List.Disjoint Net.pins) :=
    ⟨fun _ _ apart => List.Disjoint.symm apart⟩
  by_contra different
  exact disjoint.forall member otherMember different inNet inOther

/-- The pins of both ends are in one net, and no other net holds either of them. -/
def ShareNet (nets : List Net) (first second : PlacedPin K) : Prop :=
  ∃ net ∈ nets, (first.key ∈ net.pins ∧ second.key ∈ net.pins) ∧
    ∀ other ∈ nets, first.key ∈ other.pins ∨ second.key ∈ other.pins → other = net

theorem shareNet_orderedNets {wired : Wired K} {first second : PlacedPin K}
    (accepted : (first, second) ∈ wired.wiring.accepted) :
    ShareNet (orderedNets wired) first second := by
  have keys : (first.key, second.key) ∈ wired.wiring.acceptedKeys :=
    List.mem_map.mpr ⟨_, accepted, rfl⟩
  obtain ⟨plain, member, firstIn, secondIn⟩ :=
    (Wiring.exists_net_iff DisjointSets.labels_lawful (Wiring.mem_endKeys_of_mem keys).1).mpr
      (Linked.of_mem keys)
  have listed : renameNet wired.pinNames plain ∈ orderedNets wired :=
    mem_orderedNets_iff.mpr ⟨plain, member, rfl⟩
  rw [← pins_renameNet wired.pinNames] at firstIn secondIn
  refine ⟨_, listed, ⟨firstIn, secondIn⟩, ?_⟩
  rintro other otherListed (holdsFirst | holdsSecond)
  · exact eq_of_mem_pins otherListed listed holdsFirst firstIn
  · exact eq_of_mem_pins otherListed listed holdsSecond secondIn

/-! ## Drawings -/

variable [ScalarText K]

/-- The wiring of a placed circuit with the connections that its drawing makes. -/
def wired (infersWiring : Bool) (circuit : Circuit K) : Wired K :=
  wire circuit (wishes infersWiring circuit)

theorem wiring_wired (infersWiring : Bool) (circuit : Circuit K) :
    (wired infersWiring circuit).wiring =
      (Wiring.ofCircuit circuit).attemptAll (wanted infersWiring circuit) := by
  rw [wired, wire, wiring_foldl_add, map_connection_wishes]

theorem diagnostics_wired (infersWiring : Bool) (circuit : Circuit K) :
    (wired infersWiring circuit).diagnostics =
      ((Wiring.ofCircuit circuit).outcomes (wanted infersWiring circuit)).filterMap
        diagnosticOf := by
  rw [wired, wire, diagnostics_foldl_add, map_connection_wishes, List.nil_append]

/-- What the wiring of its circuit tells of a drawing. -/
structure ShowsWiring (infersWiring : Bool) (drawing : Drawing K) : Prop where
  nets : drawing.nets = orderedNets (wired infersWiring drawing.circuit)
  figures : drawing.wiringFigures = (wired infersWiring drawing.circuit).wiring.statistics
  dropped : drawing.diagnostics.filter (·.isDropped) =
    (wired infersWiring drawing.circuit).diagnostics

theorem filter_isDropped_diagnostics_wired (infersWiring : Bool) (circuit : Circuit K) :
    (wired infersWiring circuit).diagnostics.filter (·.isDropped) =
      (wired infersWiring circuit).diagnostics := by
  rw [diagnostics_wired, List.filter_eq_self]
  intro diagnostic member
  obtain ⟨outcome, -, told⟩ := List.mem_filterMap.mp member
  exact isDropped_of_diagnosticOf told

/-- A drawing shows the laid out circuit and its wiring. -/
theorem ofCircuit_eq_ok {options : DrawingOptions K} {described : Circuit K} {drawing : Drawing K}
    (drawn : ofCircuit options described = .ok drawing) :
    drawing.circuit = (options.blankPlan.layOut described options.layout).circuit ∧
      ShowsWiring options.infersWiring drawing := by
  unfold ofCircuit at drawn
  dsimp only at drawn
  split at drawn
  · cases drawn
  · obtain rfl := Except.ok.inj drawn
    refine ⟨rfl, rfl, rfl, ?_⟩
    simp only [List.filter_append, filter_isDropped_boundaryDiagnostics]
    rw [filter_diagnostics_eq_nil _ fun _ => rfl, filter_diagnostics_eq_nil _ fun _ => rfl,
      filter_diagnostics_eq_nil _ fun _ => rfl]
    simp only [List.nil_append, List.append_nil]
    exact filter_isDropped_diagnostics_wired ..

theorem ofText_eq_ok_iff {options : DrawingOptions K} {text : List Char} {drawing : Drawing K} :
    ofText options text = .ok drawing ↔
      ∃ described, readCircuit options text = .ok described ∧
        ofCircuit options described = .ok drawing := by
  unfold ofText
  cases readCircuit options text <;> simp

/-! ## Exact drawings -/

/-- In exact arithmetic every text that can be read is drawn. -/
theorem exists_ofText {options : DrawingOptions ℝ} {text : List Char} {described : Circuit ℝ}
    (read : readCircuit options text = .ok described) :
    ∃ drawing, ofText options text = .ok drawing := by
  simp only [ofText, read, ofCircuit]
  split
  case h_1 cause refused =>
    obtain ⟨sheet, written, -⟩ := Exact.exists_write_and_parse (Sheet.writable_document_exact
      (Identifier.consecutive firstIdentifier)
      (options.blankPlan.layOut described options.layout).circuit _)
    rw [Sheet.write, Sheet.writeNumbered, written] at refused
    cases refused
  case h_2 sheet written => exact ⟨_, rfl⟩

/-- Where something is seen of a result, there is a result. -/
theorem exists_ok_of_toOption {Error α β : Type} {outcome : Except Error α} {view : α → β}
    {seen : β} (isSeen : outcome.toOption.map view = some seen) :
    ∃ result, outcome = .ok result ∧ view result = seen := by
  cases outcome with
  | error cause => cases isSeen
  | ok result => exact ⟨result, rfl, Option.some.inj isSeen⟩

/-- What a text describes is found without looking at positions. -/
theorem exists_readCircuit {options : DrawingOptions K} {text : List Char} {shape : Circuit Unit}
    (parsed : (Description.parse (K := K) options.dialect text).toOption.map (·.unplaced) =
      some shape) :
    ∃ described, readCircuit options text = .ok described ∧ described.unplaced = shape := by
  obtain ⟨described, isParsed, isShape⟩ := exists_ok_of_toOption parsed
  exact ⟨described, by rw [readCircuit, isParsed], isShape⟩

/-- Whatever text is drawn, no connection is lost. Those that are wanted, be they described or
guessed, are counted or told of; those that are told of are the ones that are not accepted, in
their order; and the pins of an accepted one share a net. -/
theorem connections_accounted {options : DrawingOptions K} {text : List Char} {drawing : Drawing K}
    (drawn : ofText options text = .ok drawing) :
    ∃ described, readCircuit options text = .ok described ∧
      described.SameBesidesPositions drawing.circuit ∧
      let connections := wanted options.infersWiring described
      let outcomes := (Wiring.ofCircuit drawing.circuit).outcomes connections
      drawing.wiringFigures.totalConnections + drawing.diagnostics.countP (·.isDropped) =
          connections.length ∧
        drawing.diagnostics.filter (·.isDropped) = outcomes.filterMap diagnosticOf ∧
        ∀ outcome ∈ outcomes, ∀ first second, outcome.2 = .ok (first, second) →
          ShareNet drawing.nets first second := by
  obtain ⟨described, read, drawnCircuit⟩ := ofText_eq_ok_iff.mp drawn
  obtain ⟨laidOut, nets, figures, dropped⟩ := ofCircuit_eq_ok drawnCircuit
  have same : described.unplaced = drawing.circuit.unplaced := by
    rw [laidOut, Floorplan.unplaced_layOut]
  rw [diagnostics_wired, ← wanted_of_unplaced same] at dropped
  rw [wiring_wired, ← wanted_of_unplaced same] at figures
  refine ⟨described, read, .of_unplaced same, ?_, dropped, ?_⟩
  · have count := length_accepted_add (Wiring.ofCircuit drawing.circuit)
      (wanted options.infersWiring described)
    rw [(Wiring.unjoined_ofCircuit drawing.circuit).2, List.length_nil, Nat.zero_add] at count
    rw [figures, List.countP_eq_length_filter, dropped]
    exact count
  · rw [Wiring.outcomes_eq, List.forall_mem_map]
    intro connection isWanted first second accepted
    rw [nets]
    apply shareNet_orderedNets
    rw [wiring_wired, ← wanted_of_unplaced same, Wiring.accepted_attemptAll]
    refine List.mem_append_right _ (List.mem_filterMap.mpr ⟨connection, isWanted, ?_⟩)
    exact congrArg Except.toOption accepted

/-- Of these connections one is repeated, one joins a pin to itself, one has an end that does not
exist, one names a pin that does not exist, and one joins two inputs. -/
def carelessText : List Char :=
  ("circuit: x\ncomponents:\nR1 led (9, 9)\nQ1 npn (60, 9)\nconnections:\n" ++
    "R1.2 -> Q1.B\nR1.2 -> Q1.B\nR9.1 -> R1\nR1 -> R1.1\nQ1.B -> Q1\nR1.7 -> Q1\n").toList

/-- What the careless text describes, without positions. -/
def carelessShape : Circuit Unit where
  name := "x"
  components :=
    [Component.ofKind "R1" .led "" ⟨(), ()⟩, Component.ofKind "Q1" .transistorNpn "" ⟨(), ()⟩]
  powers := []
  connections :=
    [⟨⟨"R1", some "2"⟩, ⟨"Q1", some "B"⟩⟩, ⟨⟨"R1", some "2"⟩, ⟨"Q1", some "B"⟩⟩,
      ⟨⟨"R9", some "1"⟩, ⟨"R1", none⟩⟩, ⟨⟨"R1", none⟩, ⟨"R1", some "1"⟩⟩,
      ⟨⟨"Q1", some "B"⟩, ⟨"Q1", none⟩⟩, ⟨⟨"R1", some "7"⟩, ⟨"Q1", none⟩⟩]

theorem carelessText_describes :
    (Description.parse (DrawingOptions.default (K := ℝ)).dialect carelessText).toOption.map
      (·.unplaced : Circuit ℝ → Circuit Unit) = some carelessShape := by
  decide +kernel

theorem connections_accounted_careless :
    ∃ (described : Circuit ℝ) (drawing : Drawing ℝ),
      readCircuit .default carelessText = .ok described ∧
      ofText .default carelessText = .ok drawing ∧
      let outcomes := (Wiring.ofCircuit drawing.circuit).outcomes carelessShape.connections
      drawing.wiringFigures.totalConnections + drawing.diagnostics.countP (·.isDropped) = 6 ∧
        drawing.diagnostics.filter (·.isDropped) = outcomes.filterMap diagnosticOf ∧
        ∀ outcome ∈ outcomes, ∀ first second, outcome.2 = .ok (first, second) →
          ShareNet drawing.nets first second := by
  obtain ⟨described, read, shape⟩ := exists_readCircuit carelessText_describes
  obtain ⟨drawing, drawn⟩ := exists_ofText read
  obtain ⟨other, readOther, -, accounted⟩ := connections_accounted drawn
  obtain rfl := Except.ok.inj (read.symm.trans readOther)
  have isWanted : wanted (DrawingOptions.default (K := ℝ)).infersWiring described =
      carelessShape.connections := by
    rw [← wanted_unplaced, shape]
    rfl
  rw [isWanted] at accounted
  exact ⟨described, drawing, read, drawn, accounted⟩

end Drawing
end CircuitSheet
