import CircuitSheet.Proofs.Wiring.Pins

/-!
# Trying connections

However many connections are tried on the wiring of a circuit, its accepted ones join
registered pins, and exactly the pins at their ends have neighbours.
-/

namespace CircuitSheet
namespace Wiring

variable {K : Type}

/-- Try a connection; one that is not accepted leaves the wiring as it is. -/
def attempt (wiring : Wiring K) (connection : Connection) : Wiring K :=
  match wiring.connect connection.source connection.target with
  | .ok (_, joined) => joined
  | .error _ => wiring

/-- Try connections one after the other. -/
def attemptAll (wiring : Wiring K) (connections : List Connection) : Wiring K :=
  connections.foldl attempt wiring

/-- The keys of the two pins of each accepted connection. -/
def acceptedKeys (wiring : Wiring K) : List (String × String) :=
  wiring.accepted.map fun (first, second) => (first.key, second.key)

/-- The keys of the pins of the accepted connections one after the other. -/
def endKeys (wiring : Wiring K) : List String :=
  wiring.acceptedKeys.flatMap fun (first, second) => [first, second]

/-! ## Resolving terminals -/

theorem entity_eq_ok_iff {wiring : Wiring K} {reference : String} {entity : WiringEntity K} :
    wiring.entity reference = .ok entity ↔ wiring.entities.find? reference = some entity := by
  unfold Wiring.entity
  split
  · next found => simp [found]
  · next absent => simp [absent]

/-- What is picked from the pins of a registered entity is a registered pin. -/
theorem mem_allPins_of_mem {wiring : Wiring K} {reference : String} {entity : WiringEntity K}
    {placed : PlacedPin K} (found : wiring.entity reference = .ok entity)
    (member : placed ∈ entity.pins) : placed ∈ wiring.allPins :=
  mem_allPins_iff.mpr ⟨reference, entity, entity_eq_ok_iff.mp found, member⟩

theorem pin_mem_allPins {wiring : Wiring K} {reference token : String} {placed : PlacedPin K}
    (named : wiring.pin reference token = .ok placed) : placed ∈ wiring.allPins := by
  unfold Wiring.pin at named
  split at named
  · cases named
  · next entity found =>
      split at named
      · next picked =>
          obtain rfl := Except.ok.inj named
          refine mem_allPins_of_mem found ?_
          rcases Option.or_eq_some_iff.mp picked with byNumber | ⟨_, byName⟩
          · exact List.mem_of_find?_eq_some byNumber
          · exact List.mem_of_find?_eq_some byName
      · cases named

/-- A terminal stands for a registered pin. -/
theorem resolve_mem_allPins {wiring : Wiring K} {terminal other : Terminal} {placed : PlacedPin K}
    (resolved : wiring.resolve terminal other = .ok placed) : placed ∈ wiring.allPins := by
  unfold resolve at resolved
  split at resolved
  · exact pin_mem_allPins resolved
  · split at resolved
    · cases resolved
    · next entity found =>
        split at resolved
        · next picked =>
            obtain rfl := Except.ok.inj resolved
            refine mem_allPins_of_mem found ?_
            rcases Option.or_eq_some_iff.mp picked with fitting | ⟨_, first⟩
            · exact List.mem_of_find?_eq_some fitting
            · exact List.mem_of_head? first
        · cases resolved

/-- A connection is acceptable when its terminals stand for pins that may be joined. -/
theorem check_eq_ok_iff {wiring : Wiring K} {source target : Terminal}
    {first second : PlacedPin K} :
    wiring.check source target = .ok (first, second) ↔
      wiring.resolve source target = .ok first ∧ wiring.resolve target source = .ok second ∧
        first.pin.canJoin second.pin = true := by
  unfold check
  cases wiring.resolve source target with
  | error cause => simp
  | ok one =>
      cases wiring.resolve target source with
      | error cause => simp
      | ok other =>
          by_cases joins : one.pin.canJoin other.pin = true
          · simp only [joins, if_true, Except.ok.injEq, Prod.mk.injEq]
            grind
          · simp only [joins, Except.ok.injEq]
            grind

/-- A connection that is accepted joins registered pins. -/
theorem check_mem_allPins {wiring : Wiring K} {source target : Terminal}
    {first second : PlacedPin K} (accepted : wiring.check source target = .ok (first, second)) :
    first ∈ wiring.allPins ∧ second ∈ wiring.allPins := by
  obtain ⟨firstResolved, secondResolved, -⟩ := check_eq_ok_iff.mp accepted
  exact ⟨resolve_mem_allPins firstResolved, resolve_mem_allPins secondResolved⟩

/-! ## One more connection -/

/-- A connection that is tried is either recorded between two registered pins or dropped. -/
theorem attempt_cases (wiring : Wiring K) (connection : Connection) :
    (∃ first second, wiring.check connection.source connection.target = .ok (first, second) ∧
      wiring.attempt connection = wiring.join first second) ∨
    (∃ cause, wiring.check connection.source connection.target = .error cause ∧
      wiring.attempt connection = wiring) := by
  unfold attempt connect
  cases wiring.check connection.source connection.target with
  | error cause => exact .inr ⟨cause, rfl, rfl⟩
  | ok pair => exact .inl ⟨pair.1, pair.2, rfl, rfl⟩

theorem mem_names_addNeighbour {neighbours : Table NameSet} {name neighbour key : String} :
    key ∈ (addNeighbour neighbours name neighbour).names ↔
      key = name ∨ key ∈ neighbours.names := by
  rw [Table.mem_names_iff, Table.mem_names_iff, addNeighbour, Table.find?_alter]
  by_cases same : key = name
  · simp [same]
  · simp [same]

@[simp] theorem entities_join (wiring : Wiring K) (first second : PlacedPin K) :
    (wiring.join first second).entities = wiring.entities := rfl

@[simp] theorem allPins_join (wiring : Wiring K) (first second : PlacedPin K) :
    (wiring.join first second).allPins = wiring.allPins := rfl

@[simp] theorem accepted_join (wiring : Wiring K) (first second : PlacedPin K) :
    (wiring.join first second).accepted = wiring.accepted ++ [(first, second)] := rfl

@[simp] theorem endKeys_join (wiring : Wiring K) (first second : PlacedPin K) :
    (wiring.join first second).endKeys = wiring.endKeys ++ [first.key, second.key] := by
  simp [endKeys, acceptedKeys]

theorem mem_names_join {wiring : Wiring K} {first second : PlacedPin K} {key : String} :
    key ∈ (wiring.join first second).neighbours.names ↔
      (key = first.key ∨ key = second.key) ∨ key ∈ wiring.neighbours.names := by
  rw [Wiring.join, mem_names_addNeighbour, mem_names_addNeighbour, ← or_assoc]
  exact or_congr_left or_comm

theorem entities_attempt (wiring : Wiring K) (connection : Connection) :
    (wiring.attempt connection).entities = wiring.entities := by
  rcases wiring.attempt_cases connection with ⟨first, second, _, joined⟩ | ⟨_, _, dropped⟩
  · rw [joined, entities_join]
  · rw [dropped]

/-- Trying connections registers nothing. -/
theorem entities_attemptAll (wiring : Wiring K) (connections : List Connection) :
    (wiring.attemptAll connections).entities = wiring.entities := by
  induction connections generalizing wiring with
  | nil => rfl
  | cons connection rest inductionHypothesis =>
      exact (inductionHypothesis (wiring.attempt connection)).trans
        (entities_attempt wiring connection)

/-- Joining pins does not change how connections are checked. -/
theorem check_eq_of_entities_eq {one other : Wiring K} (same : one.entities = other.entities)
    (source target : Terminal) : one.check source target = other.check source target := by
  simp only [check, resolve, Wiring.pin, Wiring.entity, wantedRole?, same]

/-- The connections that were accepted are those that pass the check at the start, in the order in
which they were tried. -/
theorem accepted_attemptAll (wiring : Wiring K) (connections : List Connection) :
    (wiring.attemptAll connections).accepted =
      wiring.accepted ++ connections.filterMap fun connection =>
        (wiring.check connection.source connection.target).toOption := by
  induction connections generalizing wiring with
  | nil => simp [attemptAll]
  | cons connection rest inductionHypothesis =>
      have later := inductionHypothesis (wiring.attempt connection)
      rw [attemptAll, List.foldl_cons, ← attemptAll, later]
      rcases wiring.attempt_cases connection with
        ⟨first, second, accepted, joined⟩ | ⟨cause, rejected, dropped⟩
      · have checks := check_eq_of_entities_eq (entities_join wiring first second)
        simp [joined, accepted, checks, Except.toOption]
      · simp [dropped, rejected, Except.toOption]

/-- What holds of a wiring whatever connections were tried on it. -/
structure Consistent (wiring : Wiring K) : Prop where
  registered : wiring.Registered
  accepted_mem : ∀ pair ∈ wiring.accepted, pair.1 ∈ wiring.allPins ∧ pair.2 ∈ wiring.allPins
  mem_names_iff : ∀ key, key ∈ wiring.neighbours.names ↔ key ∈ wiring.endKeys

namespace Consistent

variable {wiring : Wiring K}

theorem join (consistent : wiring.Consistent) {first second : PlacedPin K}
    (firstMember : first ∈ wiring.allPins) (secondMember : second ∈ wiring.allPins) :
    (wiring.join first second).Consistent where
  registered := consistent.registered
  accepted_mem := by
    intro pair member
    rw [accepted_join, List.mem_append, List.mem_singleton] at member
    rcases member with earlier | rfl
    · exact consistent.accepted_mem pair earlier
    · exact ⟨firstMember, secondMember⟩
  mem_names_iff := by
    intro key
    rw [mem_names_join, endKeys_join, consistent.mem_names_iff key]
    simp only [List.mem_append, List.mem_cons, List.not_mem_nil, or_false]
    exact or_comm

/-- Trying a connection keeps a wiring consistent. -/
theorem attempt (consistent : wiring.Consistent) (connection : Connection) :
    (wiring.attempt connection).Consistent := by
  rcases wiring.attempt_cases connection with ⟨first, second, accepted, joined⟩ | ⟨_, _, dropped⟩
  · obtain ⟨firstMember, secondMember⟩ := check_mem_allPins accepted
    rw [joined]
    exact consistent.join firstMember secondMember
  · rw [dropped]
    exact consistent

/-- A wiring stays consistent whatever connections are tried on it. -/
theorem attemptAll (consistent : wiring.Consistent) (connections : List Connection) :
    (wiring.attemptAll connections).Consistent :=
  List.foldlRecOn _ _ consistent fun _ soFar connection _ => soFar.attempt connection

end Consistent

/-- No connection has been accepted. -/
def Unjoined (wiring : Wiring K) : Prop :=
  wiring.neighbours = Table.empty ∧ wiring.accepted = []

/-- Registering entities joins nothing. -/
theorem unjoined_ofCircuit [Scalar K] (circuit : Circuit K) : (ofCircuit circuit).Unjoined := by
  have unjoined : (empty : Wiring K).Unjoined := ⟨rfl, rfl⟩
  unfold ofCircuit
  refine List.foldlRecOn _ _ ?_ fun _ untouched _ _ => ⟨untouched.1, untouched.2⟩
  exact List.foldlRecOn _ _ unjoined fun _ untouched _ _ => ⟨untouched.1, untouched.2⟩

/-- The wiring of a circuit is consistent before connections are tried. -/
theorem consistent_ofCircuit [Scalar K] (circuit : Circuit K) :
    (ofCircuit circuit).Consistent := by
  obtain ⟨noNeighbours, noneAccepted⟩ := unjoined_ofCircuit circuit
  refine ⟨registered_ofCircuit circuit, ?_, ?_⟩
  · simp [noneAccepted]
  · simp [noNeighbours, noneAccepted, endKeys, acceptedKeys, Table.names, Table.empty]

end Wiring
end CircuitSheet
