import CircuitSheet.Proofs.Wiring.Order
import CircuitSheet.Proofs.Wiring.Runs

/-!
# Neighbours and accepted connections

A wiring keeps its connections twice, as a set of neighbours for every pin and as a list in the
order of acceptance. Whatever is done to it, the sets are those that the list makes, so both tell of
the same connections. A connection that is not accepted leaves the wiring as it is.
-/

namespace CircuitSheet
namespace Wiring

variable {K : Type}

/-! ## Neighbours -/

/-- A name is in the set of another one. -/
def Neighbouring (neighbours : Table NameSet) (first second : String) : Prop :=
  (neighbours.find? first).any (·.contains second) = true

/-- Every name that has a set of neighbours has a neighbour. -/
def NoneAlone (neighbours : Table NameSet) : Prop :=
  ∀ key ∈ neighbours.names, ∃ other, Neighbouring neighbours key other

theorem areNeighbours_eq_true_iff {wiring : Wiring K} {first second : String} :
    wiring.areNeighbours first second = true ↔ Neighbouring wiring.neighbours first second :=
  Iff.rfl

theorem mem_neighboursOf_iff {wiring : Wiring K} {first second : String} :
    second ∈ wiring.neighboursOf first ↔ wiring.areNeighbours first second = true := by
  unfold neighboursOf areNeighbours
  cases wiring.neighbours.find? first with
  | none => simp
  | some names => exact Table.mem_names_iff

theorem contains_empty (name : String) : (Table.empty : NameSet).contains name = false := rfl

theorem contains_insert_iff {names : NameSet} {name other : String} :
    (names.insert name ()).contains other = true ↔ names.contains other = true ∨ other = name := by
  rw [Table.contains, Table.contains, Table.find?_insert]
  by_cases same : other = name <;> simp [same]

theorem neighbouring_addNeighbour_iff {neighbours : Table NameSet}
    {key neighbour first second : String} :
    Neighbouring (addNeighbour neighbours key neighbour) first second ↔
      Neighbouring neighbours first second ∨ (first = key ∧ second = neighbour) := by
  unfold Neighbouring addNeighbour
  rw [Table.find?_alter]
  split
  · next same =>
      subst same
      cases neighbours.find? first with
      | none => simp [contains_insert_iff, contains_empty]
      | some names => simp [contains_insert_iff]
  · next different => simp [different]

/-- A pair is entered in both directions. -/
theorem neighbouring_joinKeys_iff {neighbours : Table NameSet}
    {pair : PlacedPin K × PlacedPin K} {first second : String} :
    Neighbouring (joinKeys neighbours pair) first second ↔
      Neighbouring neighbours first second ∨ (first, second) = (pair.1.key, pair.2.key) ∨
        (second, first) = (pair.1.key, pair.2.key) := by
  rw [joinKeys, neighbouring_addNeighbour_iff, neighbouring_addNeighbour_iff, or_assoc,
    Prod.mk.injEq, Prod.mk.injEq, and_comm (a := second = pair.1.key)]

theorem NoneAlone.addNeighbour {neighbours : Table NameSet} (noneAlone : NoneAlone neighbours)
    (key neighbour : String) : NoneAlone (addNeighbour neighbours key neighbour) := by
  intro name member
  rcases mem_names_addNeighbour.mp member with rfl | earlier
  · exact ⟨neighbour, neighbouring_addNeighbour_iff.mpr (.inr ⟨rfl, rfl⟩)⟩
  · obtain ⟨other, together⟩ := noneAlone name earlier
    exact ⟨other, neighbouring_addNeighbour_iff.mpr (.inl together)⟩

/-- Pairs that are entered one after the other are neighbours in both directions, and nothing else
is. -/
theorem neighbouring_foldl_joinKeys_iff {neighbours : Table NameSet}
    {pairs : List (PlacedPin K × PlacedPin K)} {first second : String} :
    Neighbouring (pairs.foldl joinKeys neighbours) first second ↔
      Neighbouring neighbours first second ∨
        (first, second) ∈ pairs.map (fun pair => (pair.1.key, pair.2.key)) ∨
        (second, first) ∈ pairs.map (fun pair => (pair.1.key, pair.2.key)) := by
  induction pairs generalizing neighbours with
  | nil => simp
  | cons pair rest inductionHypothesis =>
      rw [List.foldl_cons, inductionHypothesis, neighbouring_joinKeys_iff, List.map_cons,
        List.mem_cons, List.mem_cons]
      grind

theorem noneAlone_foldl_joinKeys {neighbours : Table NameSet} (noneAlone : NoneAlone neighbours)
    (pairs : List (PlacedPin K × PlacedPin K)) : NoneAlone (pairs.foldl joinKeys neighbours) :=
  List.foldlRecOn pairs joinKeys noneAlone fun _ soFar _ _ =>
    (soFar.addNeighbour _ _).addNeighbour _ _

/-! ## Runs -/

section Runs

variable [Scalar K]

/-- The answer of a wiring to something that is done to it: for a connection the pins that it joins
or the reason why it is not accepted. Registering an entity has no answer. -/
def answer? (wiring : Wiring K) :
    WiringAction K → Option (Except WiringError (PlacedPin K × PlacedPin K))
  | .connect connection =>
      some ((wiring.connect connection.source connection.target).map (·.1))
  | .addComponent .. | .addPower .. => none

/-- The answers to things that are done one after the other. -/
def answers (wiring : Wiring K) :
    List (WiringAction K) → List (Except WiringError (PlacedPin K × PlacedPin K))
  | [] => []
  | action :: rest => (wiring.answer? action).toList ++ (wiring.act action).answers rest

/-- Something that is done to a wiring adds the pair of pins of its answer, if it has one. -/
theorem accepted_act (wiring : Wiring K) (action : WiringAction K) :
    (wiring.act action).accepted =
      wiring.accepted ++ (wiring.answer? action).toList.filterMap Except.toOption := by
  cases action with
  | addComponent | addPower => exact (List.append_nil _).symm
  | connect connection =>
      rw [act, answer?, map_connect]
      rcases wiring.attempt_cases connection with
        ⟨first, second, accepted, joined⟩ | ⟨cause, rejected, dropped⟩
      · rw [joined, accepted]
        rfl
      · rw [dropped, rejected]
        exact (List.append_nil _).symm

/-- The accepted connections are the answers that are not errors, in their order. -/
theorem accepted_foldl_act (wiring : Wiring K) (actions : List (WiringAction K)) :
    (actions.foldl act wiring).accepted =
      wiring.accepted ++ (wiring.answers actions).filterMap Except.toOption := by
  induction actions generalizing wiring with
  | nil => exact (List.append_nil _).symm
  | cons action rest inductionHypothesis =>
      rw [List.foldl_cons, inductionHypothesis, accepted_act, answers, List.filterMap_append,
        List.append_assoc]

/-- The neighbours are those that the accepted connections make. -/
def NeighboursMatch (wiring : Wiring K) : Prop :=
  wiring.neighbours = wiring.accepted.foldl joinKeys Table.empty

theorem NeighboursMatch.act {wiring : Wiring K} (same : wiring.NeighboursMatch)
    (action : WiringAction K) : (wiring.act action).NeighboursMatch := by
  cases action with
  | addComponent | addPower => exact same
  | connect connection =>
      rw [Wiring.act]
      rcases wiring.attempt_cases connection with ⟨first, second, -, joined⟩ | ⟨cause, -, dropped⟩
      · rw [joined, NeighboursMatch, accepted_join, List.foldl_append, ← same]
        rfl
      · rw [dropped]
        exact same

theorem neighboursMatch_run (actions : List (WiringAction K)) : (run actions).NeighboursMatch :=
  List.foldlRecOn actions Wiring.act rfl fun _ same action _ => same.act action

/-- Whatever entities are registered and whatever connections are tried, with pins or without, in
any order: neighbours are neighbours of one another, and two keys are neighbours exactly when an
accepted connection joins pins with these keys, in either direction. The accepted connections are
the answers that are not errors, in the order in which they were tried, repetitions included. No pin
has an empty set of neighbours, and a connection that is answered by an error leaves the wiring as
it is. -/
theorem areNeighbours_run_iff (actions : List (WiringAction K)) :
    let wiring := run actions
    (∀ first second, wiring.areNeighbours first second = wiring.areNeighbours second first) ∧
    (∀ first second, wiring.areNeighbours first second = true ↔
      ∃ pair ∈ wiring.accepted, (pair.1.key = first ∧ pair.2.key = second) ∨
        (pair.1.key = second ∧ pair.2.key = first)) ∧
    wiring.accepted = (empty.answers actions).filterMap Except.toOption ∧
    (∀ key ∈ wiring.neighbours.names, wiring.neighboursOf key ≠ []) ∧
    ∀ action cause, wiring.answer? action = some (.error cause) →
      run (actions ++ [action]) = wiring := by
  intro wiring
  have joined : ∀ first second, wiring.areNeighbours first second = true ↔
      ∃ pair ∈ wiring.accepted, (pair.1.key = first ∧ pair.2.key = second) ∨
        (pair.1.key = second ∧ pair.2.key = first) := by
    intro first second
    rw [areNeighbours_eq_true_iff, neighboursMatch_run, neighbouring_foldl_joinKeys_iff]
    simp only [Neighbouring, Table.find?_empty, Option.any_none, Bool.false_eq_true, false_or,
      List.mem_map, Prod.mk.injEq, ← exists_or, ← and_or_left]
    rfl
  have noneAlone : NoneAlone wiring.neighbours := by
    have empty : NoneAlone Table.empty := List.forall_mem_nil _
    rw [neighboursMatch_run]
    exact noneAlone_foldl_joinKeys empty _
  refine ⟨fun first second => ?_, joined, accepted_foldl_act empty actions, ?_, ?_⟩
  · rw [Bool.eq_iff_iff, joined, joined]
    simp only [or_comm]
  · intro key member
    obtain ⟨other, together⟩ := noneAlone key member
    exact List.ne_nil_of_mem (mem_neighboursOf_iff.mpr together)
  · intro action cause answered
    rw [run, List.foldl_append]
    change wiring.act action = wiring
    cases action with
    | addComponent | addPower => cases answered
    | connect connection =>
        rw [answer?, map_connect, Option.some.injEq] at answered
        rcases wiring.attempt_cases connection with ⟨first, second, accepted, -⟩ | ⟨-, -, dropped⟩
        · rw [accepted] at answered
          cases answered
        · exact dropped

end Runs

/-- A connection is made twice, a pin is joined to itself, an entity takes the place of another, and
connections fail at their first end, at their second end and because supply meets an input. -/
def restlessActions : List (WiringAction Float) :=
  [.addComponent "R1" .resistor ⟨20.0, 30.0⟩ 0.0,
    .addComponent "Q1" .transistorNpn ⟨60.0, 30.0⟩ 0.0, .addPower "V1" "VCC" ⟨10.0, 10.0⟩,
    .connect ⟨⟨"R1", some "2"⟩, ⟨"Q1", some "B"⟩⟩, .connect ⟨⟨"R9", none⟩, ⟨"R1", none⟩⟩,
    .connect ⟨⟨"R1", some "2"⟩, ⟨"Q1", some "B"⟩⟩, .connect ⟨⟨"R1", none⟩, ⟨"R1", some "1"⟩⟩,
    .addComponent "R1" .led ⟨20.0, 30.0⟩ 0.0, .connect ⟨⟨"R1", none⟩, ⟨"Q1", some "7"⟩⟩,
    .connect ⟨⟨"V1", none⟩, ⟨"Q1", some "B"⟩⟩]

theorem areNeighbours_run_iff_restless :
    let wiring := run restlessActions
    wiring.acceptedKeys = [("R1.2", "Q1.1"), ("R1.2", "Q1.1"), ("R1.1", "R1.1")] ∧
    (empty.answers restlessActions).countP (·.toOption.isNone) = 3 ∧
    (∀ first second, wiring.areNeighbours first second = true ↔
      ∃ pair ∈ wiring.accepted, (pair.1.key = first ∧ pair.2.key = second) ∨
        (pair.1.key = second ∧ pair.2.key = first)) ∧
    wiring.neighbours.names = ["Q1.1", "R1.1", "R1.2"] ∧
    (∀ key ∈ wiring.neighbours.names, wiring.neighboursOf key ≠ []) ∧
    wiring.answer? (.connect ⟨⟨"R1", none⟩, ⟨"Q1", some "7"⟩⟩) =
      some (.error (.unknownPin "Q1" "7")) ∧
    run (restlessActions ++ [.connect ⟨⟨"R1", none⟩, ⟨"Q1", some "7"⟩⟩]) = wiring := by
  obtain ⟨-, joined, -, noneAlone, unchanged⟩ := areNeighbours_run_iff restlessActions
  have refused : (run restlessActions).answer? (.connect ⟨⟨"R1", none⟩, ⟨"Q1", some "7"⟩⟩) =
      some (.error (.unknownPin "Q1" "7")) := by
    rfl
  exact ⟨by decide, by decide, joined, by decide, noneAlone, refused, unchanged _ _ refused⟩

end Wiring
end CircuitSheet
