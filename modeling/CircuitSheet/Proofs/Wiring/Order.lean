import CircuitSheet.Proofs.Wiring.Nets
import Mathlib.Data.Finset.Dedup
import Mathlib.Data.Finset.Insert

/-!
# The order of connections

Whether a connection is accepted does not depend on those that were tried before it. So the same
connections in another order have the same outcomes one by one and leave the same neighbours, and
what is counted and audited is the same. Their nets are the same sets of pins, and a net without a
power symbol is of the same kind; only the order of nets and of their pins, and names, may differ.
-/

namespace CircuitSheet

namespace Linked

/-- The order of the pairs does not matter. -/
theorem iff_of_perm {α : Type} {pairs others : List (α × α)} (reordered : pairs.Perm others)
    {one other : α} : Linked pairs one other ↔ Linked others one other :=
  ⟨mono reordered.subset, mono reordered.symm.subset⟩

end Linked

namespace Wiring

variable {K : Type}

/-! ## Outcomes -/

/-- Connections tried one after the other, each with the pins that it joins or the reason why it is
not accepted. -/
def outcomes (wiring : Wiring K) :
    List Connection → List (Connection × Except WiringError (PlacedPin K × PlacedPin K))
  | [] => []
  | connection :: rest =>
      (connection, (wiring.connect connection.source connection.target).map (·.1)) ::
        (wiring.attempt connection).outcomes rest

/-- The connection is checked by the entities alone. -/
theorem map_connect (wiring : Wiring K) (source target : Terminal) :
    (wiring.connect source target).map (·.1) = wiring.check source target := by
  unfold connect
  cases wiring.check source target <;> rfl

/-- Every outcome is what the check at the start tells. -/
theorem outcomes_eq (wiring : Wiring K) (connections : List Connection) :
    wiring.outcomes connections = connections.map fun connection =>
      (connection, wiring.check connection.source connection.target) := by
  induction connections generalizing wiring with
  | nil => rfl
  | cons connection rest inductionHypothesis =>
      rw [outcomes, map_connect, inductionHypothesis, List.map_cons]
      simp only [check_eq_of_entities_eq (entities_attempt wiring connection)]

/-! ## Neighbours -/

/-- Make two pins neighbours of one another. -/
def joinKeys (neighbours : Table NameSet) (pair : PlacedPin K × PlacedPin K) : Table NameSet :=
  addNeighbour (addNeighbour neighbours pair.1.key pair.2.key) pair.2.key pair.1.key

theorem insert_insert_comm (names : NameSet) (one other : String) :
    (names.insert one ()).insert other () = (names.insert other ()).insert one () := by
  apply Table.ext_of_find?
  intro name
  simp only [Table.find?_insert]
  grind

theorem addNeighbour_comm (neighbours : Table NameSet) (one first other second : String) :
    addNeighbour (addNeighbour neighbours one first) other second =
      addNeighbour (addNeighbour neighbours other second) one first := by
  apply Table.ext_of_find?
  intro key
  simp only [addNeighbour, Table.find?_alter]
  grind [insert_insert_comm]

instance : RightCommutative (joinKeys (K := K)) where
  right_comm neighbours one other := by
    simp only [joinKeys]
    rw [addNeighbour_comm _ one.2.key, addNeighbour_comm _ one.1.key,
      addNeighbour_comm _ one.2.key, addNeighbour_comm _ one.1.key]

/-- The pairs of pins that pass the check, in the order in which they are tried. -/
def passing (wiring : Wiring K) (connections : List Connection) :
    List (PlacedPin K × PlacedPin K) :=
  connections.filterMap fun connection =>
    (wiring.check connection.source connection.target).toOption

theorem passing_perm (wiring : Wiring K) {connections others : List Connection}
    (reordered : connections.Perm others) :
    (wiring.passing connections).Perm (wiring.passing others) :=
  reordered.filterMap _

theorem neighbours_attempt (wiring : Wiring K) (connection : Connection) :
    (wiring.attempt connection).neighbours =
      (wiring.passing [connection]).foldl joinKeys wiring.neighbours := by
  rcases wiring.attempt_cases connection with ⟨first, second, accepted, joined⟩ |
    ⟨cause, rejected, dropped⟩
  · simp [joined, passing, accepted, Except.toOption, join, joinKeys]
  · simp [dropped, passing, rejected, Except.toOption]

/-- The pins of every pair that passes the check are made neighbours. -/
theorem neighbours_attemptAll (wiring : Wiring K) (connections : List Connection) :
    (wiring.attemptAll connections).neighbours =
      (wiring.passing connections).foldl joinKeys wiring.neighbours := by
  induction connections generalizing wiring with
  | nil => rfl
  | cons connection rest inductionHypothesis =>
      have samePassing : (wiring.attempt connection).passing rest = wiring.passing rest := by
        simp only [passing, check_eq_of_entities_eq (entities_attempt wiring connection)]
      have split : wiring.passing (connection :: rest) =
          wiring.passing [connection] ++ wiring.passing rest :=
        List.filterMap_append (l := [connection])
      rw [attemptAll, List.foldl_cons, ← attemptAll, inductionHypothesis, samePassing,
        neighbours_attempt, split, List.foldl_append]

/-! ## Reordered wirings -/

/-- Two wirings differ at most in the order in which connections were accepted. -/
structure Reordered (one other : Wiring K) : Prop where
  entities_eq : one.entities = other.entities
  neighbours_eq : one.neighbours = other.neighbours
  accepted_perm : one.accepted.Perm other.accepted

/-- Connections that are tried in another order lead to wirings that differ at most in the order
of the accepted ones. -/
theorem reordered_attemptAll (wiring : Wiring K) {connections others : List Connection}
    (reordered : connections.Perm others) :
    Reordered (wiring.attemptAll connections) (wiring.attemptAll others) where
  entities_eq := by rw [entities_attemptAll, entities_attemptAll]
  neighbours_eq := by
    rw [neighbours_attemptAll, neighbours_attemptAll]
    exact (wiring.passing_perm reordered).foldl_eq _
  accepted_perm := by
    rw [accepted_attemptAll, accepted_attemptAll]
    exact (wiring.passing_perm reordered).append_left _

namespace Reordered

variable {one other : Wiring K}

theorem allPins_eq (same : Reordered one other) : one.allPins = other.allPins := by
  rw [allPins, allPins, same.entities_eq]

theorem statistics_eq (same : Reordered one other) : one.statistics = other.statistics := by
  rw [statistics, statistics, same.entities_eq, same.allPins_eq, same.neighbours_eq,
    same.accepted_perm.length_eq]

theorem audit_eq (same : Reordered one other) : one.audit = other.audit := by
  have components : one.auditComponent = other.auditComponent := by
    unfold auditComponent isJoined
    rw [same.neighbours_eq]
  unfold audit
  rw [components, same.entities_eq]

theorem acceptedKeys_perm (same : Reordered one other) :
    one.acceptedKeys.Perm other.acceptedKeys :=
  same.accepted_perm.map _

theorem mem_endKeys_iff (same : Reordered one other) {key : String} :
    key ∈ one.endKeys ↔ key ∈ other.endKeys :=
  (same.acceptedKeys_perm.flatMap_right _).mem_iff

end Reordered

end Wiring

/-! ## Sets of pins -/

/-- The keys of a net, whatever their order. -/
def Net.pinSet (net : Net) : Finset String := net.pins.toFinset

namespace Wiring

variable {State : Type} {wiring : Wiring K} {sets : DisjointSets State}

/-- No two nets are the same set of pins. -/
theorem nodup_map_pinSet (wiring : Wiring K) (sets : DisjointSets State) :
    ((wiring.netsBy sets).map Net.pinSet).Nodup := by
  have distinct : ((wiring.netsBy sets).flatMap Net.pins).Nodup :=
    (flatMap_pins_netsBy_perm wiring sets).nodup_iff.mpr wiring.nodup_touchedKeys
  obtain ⟨-, disjoint⟩ := List.nodup_flatMap.mp distinct
  refine List.pairwise_map.mpr (disjoint.imp_of_mem ?_)
  intro earlier later earlierMember _ apart same
  obtain ⟨key, inEarlier⟩ :=
    List.exists_mem_of_ne_nil _ (ne_nil_of_mem_groupBy (pins_mem_groupBy earlierMember))
  have inLater : key ∈ later.pinSet := same ▸ List.mem_toFinset.mpr inEarlier
  exact apart inEarlier (List.mem_toFinset.mp inLater)

/-- The keys that share the label of a touched key are those that chains link to it. -/
theorem mem_sameLabel_iff (lawful : sets.Lawful) {key other : String}
    (member : key ∈ wiring.endKeys) :
    other ∈ (wiring.touchedKeys.filter fun touched =>
      wiring.netLabel sets touched = wiring.netLabel sets key) ↔
      Linked wiring.acceptedKeys key other := by
  rw [List.mem_filter, decide_eq_true_eq, mem_touchedKeys_iff]
  constructor
  · rintro ⟨otherMember, same⟩
    exact ((netLabel_eq_iff lawful otherMember member).mp same).symm
  · intro linked
    have otherMember := mem_endKeys_of_linked member linked
    exact ⟨otherMember, (netLabel_eq_iff lawful otherMember member).mpr linked.symm⟩

/-- A set of pins is that of a net exactly when it is all that chains of accepted connections link
to a pin at the end of a connection. -/
theorem mem_map_pinSet_iff (lawful : sets.Lawful) {keys : Finset String} :
    keys ∈ (wiring.netsBy sets).map Net.pinSet ↔
      ∃ key ∈ wiring.endKeys, ∀ other, other ∈ keys ↔ Linked wiring.acceptedKeys key other := by
  have grouped : (wiring.netsBy sets).map Net.pinSet =
      (groupBy (wiring.netLabel sets) wiring.touchedKeys).map List.toFinset := by
    rw [← map_pins_netsBy, List.map_map]
    rfl
  rw [grouped, List.mem_map]
  constructor
  · rintro ⟨group, member, rfl⟩
    obtain ⟨key, touched, rfl⟩ := mem_groupBy_iff.mp member
    have atEnd := mem_touchedKeys_iff.mp touched
    exact ⟨key, atEnd, fun other => List.mem_toFinset.trans (mem_sameLabel_iff lawful atEnd)⟩
  · rintro ⟨key, atEnd, linked⟩
    refine ⟨_, mem_groupBy_iff.mpr ⟨key, mem_touchedKeys_iff.mpr atEnd, rfl⟩, ?_⟩
    ext other
    rw [List.mem_toFinset, mem_sameLabel_iff lawful atEnd, linked]

/-! ## Kinds of nets -/

/-- A registered pin is found by its key. -/
theorem Registered.find?_allPins (registered : wiring.Registered) {placed : PlacedPin K}
    (member : placed ∈ wiring.allPins) :
    wiring.allPins.find? (·.key == placed.key) = some placed :=
  find?_key_eq registered.nodup_keys_allPins member

/-- The pins of a net are the registered ones with its keys. -/
theorem Registered.mem_pinsOf_iff (registered : wiring.Registered) {net : Net}
    {placed : PlacedPin K} :
    placed ∈ wiring.pinsOf net ↔ placed ∈ wiring.allPins ∧ placed.key ∈ net.pinSet := by
  rw [pinsOf, List.mem_filterMap, Net.pinSet, List.mem_toFinset]
  constructor
  · rintro ⟨key, inNet, found⟩
    have sameKey := List.find?_some found
    obtain rfl : placed.key = key := eq_of_beq sameKey
    exact ⟨List.mem_of_find?_eq_some found, inNet⟩
  · rintro ⟨member, inNet⟩
    exact ⟨placed.key, inNet, registered.find?_allPins member⟩

/-- The pins at the ends of accepted connections are registered. -/
theorem Consistent.mem_allPins_of_atEnd (consistent : wiring.Consistent) {placed : PlacedPin K}
    (atEnds : placed ∈ wiring.accepted.flatMap fun (first, second) => [first, second]) :
    placed ∈ wiring.allPins := by
  obtain ⟨pair, accepted, atEnd⟩ := List.mem_flatMap.mp atEnds
  obtain ⟨firstMember, secondMember⟩ := consistent.accepted_mem pair accepted
  rcases List.mem_pair.mp atEnd with rfl | rfl
  · exact firstMember
  · exact secondMember

/-- The touched pins are registered. -/
theorem Consistent.mem_allPins_of_touched (consistent : wiring.Consistent) {placed : PlacedPin K}
    (touched : placed ∈ wiring.touchedPins) : placed ∈ wiring.allPins :=
  consistent.mem_allPins_of_atEnd ((distinctBy_sublist ..).mem touched)

/-- Registered pins that are described as a net are the pins of that net. -/
theorem Registered.pinsOf_describeNet (registered : wiring.Registered)
    {members : List (PlacedPin K)} (placed : ∀ member ∈ members, member ∈ wiring.allPins) :
    wiring.pinsOf (wiring.describeNet members) = members := by
  rw [pinsOf, pins_describeNet, List.filterMap_map]
  refine (List.filterMap_congr ?_).trans List.filterMap_some
  intro member inMembers
  exact registered.find?_allPins (placed member inMembers)

/-- No pin of the net belongs to a power symbol. -/
def OffRails (wiring : Wiring K) (net : Net) : Prop :=
  ∀ placed ∈ wiring.pinsOf net, wiring.isPower placed.entity = false

/-- A net without a power symbol is of the kind that its pins tell. -/
theorem Consistent.kind_eq (consistent : wiring.Consistent) {net : Net}
    (member : net ∈ wiring.netsBy sets) (offRails : wiring.OffRails net) :
    net.kind = kindOfMembers (wiring.pinsOf net) := by
  obtain ⟨members, inGroups, rfl⟩ := List.mem_map.mp member
  have registered : ∀ placed ∈ members, placed ∈ wiring.allPins := by
    intro placed inMembers
    exact consistent.mem_allPins_of_touched ((sublist_of_mem_groupBy inGroups).mem inMembers)
  rw [OffRails, consistent.registered.pinsOf_describeNet registered] at offRails
  have noRail : wiring.railOf? members = none := by
    rw [railOf?, List.findSome?_eq_none_iff]
    intro placed inMembers
    exact Option.isNone_iff_eq_none.mp (Option.isSome_eq_false_iff.mp (offRails placed inMembers))
  rw [consistent.registered.pinsOf_describeNet registered, describeNet, noRail]

/-- The kind is told by which pins there are, not by their order. -/
theorem kindOfMembers_congr {members others : List (PlacedPin K)}
    (same : ∀ placed, placed ∈ members ↔ placed ∈ others) :
    kindOfMembers members = kindOfMembers others := by
  have any : ∀ test : PlacedPin K → Bool, members.any test = others.any test := by
    intro test
    rw [Bool.eq_iff_iff, List.any_eq_true, List.any_eq_true]
    simp only [same]
  rw [kindOfMembers, kindOfMembers, any, any]

namespace Reordered

variable {one other : Wiring K}

theorem map_pinSet_perm (same : Reordered one other) (lawful : sets.Lawful) :
    ((one.netsBy sets).map Net.pinSet).Perm ((other.netsBy sets).map Net.pinSet) := by
  refine (List.perm_ext_iff_of_nodup (nodup_map_pinSet ..) (nodup_map_pinSet ..)).mpr ?_
  intro keys
  rw [mem_map_pinSet_iff lawful, mem_map_pinSet_iff lawful]
  simp only [same.mem_endKeys_iff, Linked.iff_of_perm same.acceptedKeys_perm]

theorem mem_pinsOf_iff (same : Reordered one other) (registered : one.Registered)
    (otherRegistered : other.Registered) {net otherNet : Net} (pins : net.pinSet = otherNet.pinSet)
    (placed : PlacedPin K) : placed ∈ one.pinsOf net ↔ placed ∈ other.pinsOf otherNet := by
  rw [registered.mem_pinsOf_iff, otherRegistered.mem_pinsOf_iff, same.allPins_eq, pins]

theorem kind_eq (same : Reordered one other) (consistent : one.Consistent)
    (otherConsistent : other.Consistent) {net otherNet : Net} (member : net ∈ one.netsBy sets)
    (otherMember : otherNet ∈ other.netsBy sets) (pins : net.pinSet = otherNet.pinSet)
    (offRails : one.OffRails net) : net.kind = otherNet.kind := by
  have samePins := same.mem_pinsOf_iff consistent.registered otherConsistent.registered pins
  have otherOffRails : other.OffRails otherNet := by
    intro placed inNet
    have inOne := offRails placed ((samePins placed).mpr inNet)
    rwa [isPower, same.entities_eq] at inOne
  rw [consistent.kind_eq member offRails, otherConsistent.kind_eq otherMember otherOffRails]
  exact kindOfMembers_congr samePins

end Reordered

/-- The order in which connections are tried on the wiring of a circuit does not decide what is
connected. Each of them has the same outcome in every order; the neighbours, the counts and the
findings are equal; and the nets are the same sets of pins, with the same kind wherever no power
symbol is on the net. -/
theorem attemptAll_perm [Scalar K] (circuit : Circuit K) {connections others : List Connection}
    (reordered : connections.Perm others) (lawful : sets.Lawful) :
    let start := ofCircuit circuit
    let one := start.attemptAll connections
    let other := start.attemptAll others
    (start.outcomes connections).Perm (start.outcomes others) ∧
      one.neighbours = other.neighbours ∧
      one.statistics = other.statistics ∧
      one.audit = other.audit ∧
      ((one.netsBy sets).map Net.pinSet).Perm ((other.netsBy sets).map Net.pinSet) ∧
      ∀ net ∈ one.netsBy sets, ∀ otherNet ∈ other.netsBy sets, net.pinSet = otherNet.pinSet →
        one.OffRails net → net.kind = otherNet.kind := by
  intro start one other
  have same : Reordered one other := reordered_attemptAll start reordered
  have consistent : one.Consistent := (consistent_ofCircuit circuit).attemptAll connections
  have otherConsistent : other.Consistent := (consistent_ofCircuit circuit).attemptAll others
  refine ⟨?_, same.neighbours_eq, same.statistics_eq, same.audit_eq, same.map_pinSet_perm lawful,
    ?_⟩
  · rw [outcomes_eq, outcomes_eq]
    exact reordered.map _
  · intro net member otherNet otherMember pins offRails
    exact same.kind_eq consistent otherConsistent member otherMember pins offRails

/-- In reverse order the last connection opens the one net, whose pins then stand in another
order. -/
theorem attemptAll_perm_reversed :
    let start := ofCircuit sampleChain
    let other := start.attemptAll sampleConnections.reverse
    DisjointSets.labels.Lawful ∧
      other.nets.map Net.pins = [["R4.1", "R1.2", "R.3.2", "R2.1"]] ∧
      (other.nets.map Net.pinSet).Perm [{"R1.2", "R2.1", "R.3.2", "R4.1"}] := by
  intro start other
  have reordered : sampleConnections.Perm sampleConnections.reverse :=
    (List.reverse_perm _).symm
  have pins : (start.attemptAll sampleConnections).nets.map Net.pinSet =
      [{"R1.2", "R2.1", "R.3.2", "R4.1"}] := by
    decide +kernel
  have same := attemptAll_perm sampleChain reordered DisjointSets.labels_lawful
  refine ⟨DisjointSets.labels_lawful, by decide +kernel, ?_⟩
  rw [← pins]
  exact same.2.2.2.2.1.symm

end Wiring
end CircuitSheet
