import CircuitSheet.Binary64
import CircuitSheet.Proofs.Grouping
import CircuitSheet.Proofs.Wiring.Connections
import CircuitSheet.Proofs.Wiring.Linked
import CircuitSheet.Wiring.Audit
import Mathlib.Algebra.GroupWithZero.Nat
import Mathlib.Data.List.Basic

/-!
# Nets as connected components

The nets of a wiring are the connected components of its accepted connections, in the order in
which connections first touch them. The keys of a net stand in the order of their first
appearance, and each of them finds the one registered pin that bears it.
-/

namespace CircuitSheet

/-- One of the two pins belongs to the net. -/
def Net.touches {K : Type} (net : Net) (pair : PlacedPin K × PlacedPin K) : Bool :=
  net.pins.contains pair.1.key || net.pins.contains pair.2.key

namespace Wiring

variable {K State : Type}

/-- The place of the first accepted connection with a pin of the net. -/
def firstTouch (wiring : Wiring K) (net : Net) : Nat :=
  wiring.accepted.findIdx net.touches

/-! ## Keys of touched pins -/

theorem touchedKeys_eq (wiring : Wiring K) :
    wiring.touchedKeys = withoutRepeats wiring.endKeys := by
  rw [touchedKeys, touchedPins, map_distinctBy, List.map_flatMap, endKeys, acceptedKeys,
    List.flatMap_map]
  rfl

theorem mem_touchedKeys_iff {wiring : Wiring K} {key : String} :
    key ∈ wiring.touchedKeys ↔ key ∈ wiring.endKeys := by
  rw [touchedKeys_eq, mem_withoutRepeats]

theorem nodup_touchedKeys (wiring : Wiring K) : wiring.touchedKeys.Nodup := by
  rw [touchedKeys_eq]
  exact nodup_withoutRepeats _

theorem mem_endKeys_of_mem {wiring : Wiring K} {pair : String × String}
    (member : pair ∈ wiring.acceptedKeys) : pair.1 ∈ wiring.endKeys ∧ pair.2 ∈ wiring.endKeys :=
  ⟨List.mem_flatMap.mpr ⟨pair, member, by simp⟩, List.mem_flatMap.mpr ⟨pair, member, by simp⟩⟩

/-- Chains of accepted connections do not leave the pins at the ends of connections. -/
theorem mem_endKeys_of_linked {wiring : Wiring K} {one other : String}
    (member : one ∈ wiring.endKeys) (linked : Linked wiring.acceptedKeys one other) :
    other ∈ wiring.endKeys := by
  cases linked with
  | refl => exact member
  | tail _ adjacent =>
      rcases adjacent with forward | backward
      · exact (mem_endKeys_of_mem forward).2
      · exact (mem_endKeys_of_mem backward).1

/-! ## Places of keys -/

/-- The place of a key among the touched ones. -/
def placeOf (wiring : Wiring K) (key : String) : Nat :=
  wiring.touchedKeys.idxOf key

/-- The touched key at a place. -/
def keyAt (wiring : Wiring K) (place : Nat) : String :=
  wiring.touchedKeys.getD place ""

theorem placeOf_lt {wiring : Wiring K} {key : String} (member : key ∈ wiring.endKeys) :
    wiring.placeOf key < wiring.touchedKeys.length :=
  List.idxOf_lt_length_iff.mpr (mem_touchedKeys_iff.mpr member)

@[simp] theorem keyAt_placeOf {wiring : Wiring K} {key : String} (member : key ∈ wiring.endKeys) :
    wiring.keyAt (wiring.placeOf key) = key := by
  have below : wiring.touchedKeys.idxOf key < wiring.touchedKeys.length := placeOf_lt member
  simp [keyAt, placeOf, below]

/-- The places of the two pins of each accepted connection. -/
def acceptedPlaces (wiring : Wiring K) : List (Nat × Nat) :=
  wiring.acceptedKeys.map (Prod.map wiring.placeOf wiring.placeOf)

theorem map_keyAt_acceptedPlaces (wiring : Wiring K) :
    wiring.acceptedPlaces.map (Prod.map wiring.keyAt wiring.keyAt) = wiring.acceptedKeys := by
  rw [acceptedPlaces, List.map_map]
  refine (List.map_congr_left ?_).trans (List.map_id _)
  intro pair member
  obtain ⟨firstMember, secondMember⟩ := mem_endKeys_of_mem member
  exact Prod.ext (keyAt_placeOf firstMember) (keyAt_placeOf secondMember)

/-- Chains of accepted connections are chains of their places. -/
theorem linked_acceptedPlaces_iff {wiring : Wiring K} {one other : String}
    (oneMember : one ∈ wiring.endKeys) (otherMember : other ∈ wiring.endKeys) :
    Linked wiring.acceptedPlaces (wiring.placeOf one) (wiring.placeOf other) ↔
      Linked wiring.acceptedKeys one other := by
  constructor
  · intro linked
    have keys := linked.map wiring.keyAt
    rw [map_keyAt_acceptedPlaces, keyAt_placeOf oneMember, keyAt_placeOf otherMember] at keys
    exact keys
  · exact Linked.map wiring.placeOf

/-! ## Labels of keys -/

/-- The representative of the set that holds the place of a key. -/
def netLabel (wiring : Wiring K) (sets : DisjointSets State) (key : String) : Nat :=
  sets.find (wiring.netSets sets) (wiring.placeOf key)

/-- The places that accepted connections join are united. -/
theorem netSets_eq (wiring : Wiring K) (sets : DisjointSets State) :
    wiring.netSets sets =
      sets.unionAll (sets.discrete wiring.touchedKeys.length) wiring.acceptedPlaces := by
  rw [acceptedPlaces, acceptedKeys, List.map_map]
  rfl

/-- Touched keys have one label exactly when a chain of accepted connections links them. -/
theorem netLabel_eq_iff {wiring : Wiring K} {sets : DisjointSets State} (lawful : sets.Lawful)
    {one other : String} (oneMember : one ∈ wiring.endKeys) (otherMember : other ∈ wiring.endKeys) :
    wiring.netLabel sets one = wiring.netLabel sets other ↔
      Linked wiring.acceptedKeys one other := by
  rw [netLabel, netLabel, netSets_eq, ← linked_acceptedPlaces_iff oneMember otherMember]
  refine lawful.find_unionAll_iff ?_ (placeOf_lt oneMember) (placeOf_lt otherMember)
  simp only [acceptedPlaces, List.forall_mem_map]
  intro pair member
  obtain ⟨firstMember, secondMember⟩ := mem_endKeys_of_mem member
  exact ⟨placeOf_lt firstMember, placeOf_lt secondMember⟩

/-- The nets do not depend on how disjoint sets are kept. -/
theorem netsBy_eq_nets (wiring : Wiring K) {sets : DisjointSets State} (lawful : sets.Lawful) :
    wiring.netsBy sets = wiring.nets := by
  have members : wiring.netMembers sets = wiring.netMembers DisjointSets.labels := by
    apply groupBy_congr
    intro one oneTouched two twoTouched
    have touched : ∀ placed ∈ wiring.touchedPins, placed.key ∈ wiring.endKeys :=
      fun placed member => mem_touchedKeys_iff.mp (List.mem_map.mpr ⟨placed, member, rfl⟩)
    have bySets := netLabel_eq_iff lawful (touched one oneTouched) (touched two twoTouched)
    have byLabels := netLabel_eq_iff DisjointSets.labels_lawful (touched one oneTouched)
      (touched two twoTouched)
    exact bySets.trans byLabels.symm
  rw [nets, netsBy, netsBy, members]

/-! ## Keys of nets -/

@[simp] theorem pins_describeNet (wiring : Wiring K) (members : List (PlacedPin K)) :
    (wiring.describeNet members).pins = members.map PlacedPin.key := by
  unfold describeNet
  split <;> rfl

/-- The keys of the nets are the touched keys, grouped by their labels. -/
theorem map_pins_netsBy (wiring : Wiring K) (sets : DisjointSets State) :
    (wiring.netsBy sets).map Net.pins =
      groupBy (wiring.netLabel sets) wiring.touchedKeys := by
  rw [touchedKeys, groupBy_map, netsBy, List.map_map]
  apply List.map_congr_left
  intro members _
  exact wiring.pins_describeNet members

theorem pins_mem_groupBy {wiring : Wiring K} {sets : DisjointSets State} {net : Net}
    (member : net ∈ wiring.netsBy sets) :
    net.pins ∈ groupBy (wiring.netLabel sets) wiring.touchedKeys := by
  rw [← map_pins_netsBy]
  exact List.mem_map.mpr ⟨net, member, rfl⟩

/-- The nets together hold every touched key once. -/
theorem flatMap_pins_netsBy_perm (wiring : Wiring K) (sets : DisjointSets State) :
    ((wiring.netsBy sets).flatMap Net.pins).Perm wiring.touchedKeys := by
  rw [List.flatMap, map_pins_netsBy]
  exact flatten_groupBy_perm ..

/-- Touched keys share a net exactly when a chain of accepted connections links them. -/
theorem exists_net_iff {wiring : Wiring K} {sets : DisjointSets State} (lawful : sets.Lawful)
    {one other : String} (oneMember : one ∈ wiring.endKeys) :
    (∃ net ∈ wiring.netsBy sets, one ∈ net.pins ∧ other ∈ net.pins) ↔
      Linked wiring.acceptedKeys one other := by
  have grouped : (∃ net ∈ wiring.netsBy sets, one ∈ net.pins ∧ other ∈ net.pins) ↔
      ∃ group ∈ groupBy (wiring.netLabel sets) wiring.touchedKeys, one ∈ group ∧ other ∈ group := by
    simp [← map_pins_netsBy]
  rw [grouped, exists_mem_groupBy_iff, mem_touchedKeys_iff, mem_touchedKeys_iff]
  constructor
  · rintro ⟨_, otherMember, same⟩
    exact (netLabel_eq_iff lawful oneMember otherMember).mp same
  · intro linked
    have otherMember := mem_endKeys_of_linked oneMember linked
    exact ⟨oneMember, otherMember, (netLabel_eq_iff lawful oneMember otherMember).mpr linked⟩

/-- The keys of a net stand in the order in which they first appear. -/
theorem pairwise_pins {wiring : Wiring K} {sets : DisjointSets State} {net : Net}
    (member : net ∈ wiring.netsBy sets) :
    net.pins.Pairwise fun earlier later =>
      wiring.endKeys.idxOf earlier < wiring.endKeys.idxOf later := by
  have ordered := pairwise_idxOf_withoutRepeats wiring.endKeys
  rw [← touchedKeys_eq] at ordered
  exact ordered.sublist (sublist_of_mem_groupBy (pins_mem_groupBy member))

/-! ## The order of nets -/

theorem findIdx_congr {α : Type} {test other : α → Bool} {items : List α}
    (same : ∀ item ∈ items, test item = other item) : items.findIdx test = items.findIdx other := by
  induction items with
  | nil => rfl
  | cons head tail inductionHypothesis =>
      obtain ⟨sameHead, sameTail⟩ := List.forall_mem_cons.mp same
      rw [List.findIdx_cons, List.findIdx_cons, sameHead, inductionHypothesis sameTail]

/-- The touched pins whose keys have a label. -/
def labelled (wiring : Wiring K) (sets : DisjointSets State) (label : Nat) : List (PlacedPin K) :=
  wiring.touchedPins.filter fun placed => wiring.netLabel sets placed.key = label

/-- The labels of the touched keys in the order in which accepted connections bring them. -/
def acceptedLabels (wiring : Wiring K) (sets : DisjointSets State) : List Nat :=
  wiring.accepted.map fun pair => wiring.netLabel sets pair.1.key

/-- Both pins of an accepted connection are touched, and they have one label. -/
theorem netLabel_accepted {wiring : Wiring K} {sets : DisjointSets State} (lawful : sets.Lawful)
    {pair : PlacedPin K × PlacedPin K} (member : pair ∈ wiring.accepted) :
    pair.1.key ∈ wiring.endKeys ∧ pair.2.key ∈ wiring.endKeys ∧
      wiring.netLabel sets pair.2.key = wiring.netLabel sets pair.1.key := by
  have keysMember : (pair.1.key, pair.2.key) ∈ wiring.acceptedKeys :=
    List.mem_map.mpr ⟨pair, member, rfl⟩
  obtain ⟨firstMember, secondMember⟩ := mem_endKeys_of_mem keysMember
  have linked := (Linked.of_mem keysMember).symm
  exact ⟨firstMember, secondMember, (netLabel_eq_iff lawful secondMember firstMember).mpr linked⟩

/-- Since a connection joins pins of one net, it brings one label. -/
theorem withoutRepeats_map_netLabel (wiring : Wiring K) {sets : DisjointSets State}
    (lawful : sets.Lawful) :
    withoutRepeats (wiring.touchedKeys.map (wiring.netLabel sets)) =
      withoutRepeats (wiring.acceptedLabels sets) := by
  have labels : wiring.endKeys.map (wiring.netLabel sets) =
      wiring.accepted.flatMap fun pair =>
        [wiring.netLabel sets pair.1.key, wiring.netLabel sets pair.1.key] := by
    rw [endKeys, acceptedKeys, List.flatMap_map, List.map_flatMap]
    apply List.flatMap_congr
    intro pair member
    obtain ⟨-, -, same⟩ := netLabel_accepted lawful member
    simp [same]
  rw [touchedKeys_eq, withoutRepeats_map_withoutRepeats, labels, withoutRepeats_flatMap_pair]
  rfl

/-- There is a net for every label that accepted connections bring. -/
theorem netsBy_eq (wiring : Wiring K) {sets : DisjointSets State} (lawful : sets.Lawful) :
    wiring.netsBy sets =
      (withoutRepeats (wiring.acceptedLabels sets)).map fun label =>
        wiring.describeNet (wiring.labelled sets label) := by
  have members : wiring.netMembers sets =
      (withoutRepeats (wiring.touchedKeys.map (wiring.netLabel sets))).map
        (wiring.labelled sets) := by
    rw [touchedKeys, List.map_map]
    exact groupBy_eq ..
  rw [netsBy, members, withoutRepeats_map_netLabel wiring lawful, List.map_map]
  rfl

theorem mem_map_key_labelled_iff {wiring : Wiring K} {sets : DisjointSets State} {label : Nat}
    {key : String} (member : key ∈ wiring.endKeys) :
    key ∈ (wiring.labelled sets label).map PlacedPin.key ↔ wiring.netLabel sets key = label := by
  obtain ⟨placed, touched, rfl⟩ := List.mem_map.mp (mem_touchedKeys_iff.mpr member)
  constructor
  · intro listed
    obtain ⟨other, inLabelled, sameKey⟩ := List.mem_map.mp listed
    rw [← sameKey]
    exact of_decide_eq_true (List.mem_filter.mp inLabelled).2
  · intro same
    exact List.mem_map.mpr ⟨placed, List.mem_filter.mpr ⟨touched, by simp [same]⟩, rfl⟩

/-- A net is touched first where its label is brought first. -/
theorem firstTouch_describeNet (wiring : Wiring K) {sets : DisjointSets State}
    (lawful : sets.Lawful) (label : Nat) :
    wiring.firstTouch (wiring.describeNet (wiring.labelled sets label)) =
      (wiring.acceptedLabels sets).idxOf label := by
  have touches : ∀ pair ∈ wiring.accepted,
      (wiring.describeNet (wiring.labelled sets label)).touches pair =
        (wiring.netLabel sets pair.1.key == label) := by
    intro pair member
    obtain ⟨firstMember, secondMember, same⟩ := netLabel_accepted lawful member
    rw [Bool.eq_iff_iff, Net.touches, Bool.or_eq_true, List.contains_iff_mem, List.contains_iff_mem,
      pins_describeNet, mem_map_key_labelled_iff firstMember, mem_map_key_labelled_iff secondMember,
      same, or_self, beq_iff_eq]
  rw [firstTouch, acceptedLabels, List.idxOf, List.findIdx_map]
  exact findIdx_congr touches

/-- Nets stand in the order in which accepted connections first touch them. -/
theorem pairwise_netsBy (wiring : Wiring K) {sets : DisjointSets State} (lawful : sets.Lawful) :
    (wiring.netsBy sets).Pairwise fun earlier later =>
      wiring.firstTouch earlier < wiring.firstTouch later := by
  rw [netsBy_eq wiring lawful, List.pairwise_map]
  simp only [firstTouch_describeNet wiring lawful]
  exact pairwise_idxOf_withoutRepeats _

/-! ## Pins of nets -/

/-- Every key of an accepted connection is found among the registered pins. -/
theorem Consistent.find?_allPins {wiring : Wiring K} (consistent : wiring.Consistent)
    {key : String} (member : key ∈ wiring.endKeys) :
    ∃ placed, wiring.allPins.find? (·.key == key) = some placed ∧ placed.key = key := by
  obtain ⟨keys, keysMember, atEnd⟩ := List.mem_flatMap.mp member
  obtain ⟨pair, accepted, rfl⟩ := List.mem_map.mp keysMember
  obtain ⟨firstMember, secondMember⟩ := consistent.accepted_mem pair accepted
  have borne : ∃ placed ∈ wiring.allPins, placed.key = key := by
    rcases List.mem_pair.mp atEnd with rfl | rfl
    · exact ⟨pair.1, firstMember, rfl⟩
    · exact ⟨pair.2, secondMember, rfl⟩
  obtain ⟨bearer, registered, rfl⟩ := borne
  exact ⟨bearer, find?_key_eq consistent.registered.nodup_keys_allPins registered, rfl⟩

/-- The registered pins of a net bear its keys, in their order. -/
theorem Consistent.map_key_pinsOf {wiring : Wiring K} (consistent : wiring.Consistent) {net : Net}
    (touched : ∀ key ∈ net.pins, key ∈ wiring.endKeys) :
    (wiring.pinsOf net).map PlacedPin.key = net.pins := by
  rw [pinsOf, List.map_filterMap]
  refine (List.filterMap_congr ?_).trans List.filterMap_some
  intro key member
  obtain ⟨placed, found, sameKey⟩ := consistent.find?_allPins (touched key member)
  rw [found, Option.map_some, sameKey]

theorem mem_allPins_of_mem_pinsOf {wiring : Wiring K} {net : Net} {placed : PlacedPin K}
    (member : placed ∈ wiring.pinsOf net) : placed ∈ wiring.allPins := by
  obtain ⟨key, -, found⟩ := List.mem_filterMap.mp member
  exact List.mem_of_find?_eq_some found

/-! ## Components -/

/-- The nets together hold the keys of the joined pins, each of them once. -/
theorem Consistent.flatMap_pins_perm {wiring : Wiring K} (consistent : wiring.Consistent)
    (sets : DisjointSets State) :
    ((wiring.netsBy sets).flatMap Net.pins).Perm wiring.neighbours.names := by
  refine (flatMap_pins_netsBy_perm wiring sets).trans ?_
  refine (List.perm_ext_iff_of_nodup wiring.nodup_touchedKeys wiring.neighbours.nodup_names).mpr ?_
  intro key
  rw [mem_touchedKeys_iff, consistent.mem_names_iff]

/-- The nets of a circuit's wiring are the connected components of the connections that were
accepted, however the disjoint sets are kept. Every joined pin is in one net and once in it; pins
share a net exactly when a chain of accepted connections links them; nets stand in the order of
the first accepted connection that touches them, and their pins in the order of first appearance.
Every key of a net finds one registered pin, and no two registered pins bear one key. -/
theorem netsBy_components [Scalar K] (circuit : Circuit K) (connections : List Connection)
    {sets : DisjointSets State} (lawful : sets.Lawful) :
    let wiring := (ofCircuit circuit).attemptAll connections
    let nets := wiring.netsBy sets
    ((nets.flatMap Net.pins).Perm wiring.neighbours.names ∧ wiring.neighbours.names.Nodup ∧
      ∀ net ∈ nets, net.pins ≠ []) ∧
    (∀ one ∈ wiring.neighbours.names, ∀ other,
      (∃ net ∈ nets, one ∈ net.pins ∧ other ∈ net.pins) ↔
        Linked wiring.acceptedKeys one other) ∧
    (nets.Pairwise fun earlier later => wiring.firstTouch earlier < wiring.firstTouch later) ∧
    (∀ net ∈ nets, net.pins.Pairwise fun earlier later =>
      wiring.endKeys.idxOf earlier < wiring.endKeys.idxOf later) ∧
    (∀ net ∈ nets, (wiring.pinsOf net).map PlacedPin.key = net.pins ∧
      ∀ placed ∈ wiring.pinsOf net, placed ∈ wiring.allPins) ∧
    (wiring.allPins.map PlacedPin.key).Nodup ∧
    wiring.statistics.connectedPins = (nets.map fun net => net.pins.length).sum := by
  intro wiring nets
  have consistent : wiring.Consistent := (consistent_ofCircuit circuit).attemptAll connections
  have perm : (nets.flatMap Net.pins).Perm wiring.neighbours.names :=
    consistent.flatMap_pins_perm sets
  refine ⟨⟨perm, wiring.neighbours.nodup_names, ?_⟩, ?_, pairwise_netsBy wiring lawful, ?_, ?_,
    consistent.registered.nodup_keys_allPins, ?_⟩
  · intro net member
    exact ne_nil_of_mem_groupBy (pins_mem_groupBy member)
  · intro one joined other
    exact exists_net_iff lawful ((consistent.mem_names_iff one).mp joined)
  · intro net member
    exact pairwise_pins member
  · intro net member
    have touched : ∀ key ∈ net.pins, key ∈ wiring.endKeys := by
      intro key inNet
      have listed := (sublist_of_mem_groupBy (pins_mem_groupBy member)).mem inNet
      exact mem_touchedKeys_iff.mp listed
    exact ⟨consistent.map_key_pinsOf touched, fun placed => mem_allPins_of_mem_pinsOf⟩
  · have count := perm.length_eq
    rw [List.length_flatMap, Table.length_names] at count
    exact count.symm

/-- Four resistors, one of them with a dot in its reference. -/
def sampleChain : Circuit Float where
  name := "Chain"
  components := ["R1", "R2", "R.3", "R4"].map fun reference =>
    Component.ofKind reference .resistor "10k" ⟨50.0, 50.0⟩
  powers := []
  connections := []

/-- The last connection joins two groups that were apart; the one before it is not accepted. -/
def sampleConnections : List Connection :=
  [⟨⟨"R1", some "2"⟩, ⟨"R2", some "1"⟩⟩, ⟨⟨"R.3", some "2"⟩, ⟨"R4", none⟩⟩,
    ⟨⟨"R5", none⟩, ⟨"R4", none⟩⟩, ⟨⟨"R4", some "1"⟩, ⟨"R1", some "2"⟩⟩]

theorem netsBy_components_sample :
    let wiring := (ofCircuit sampleChain).attemptAll sampleConnections
    DisjointSets.labels.Lawful ∧
      wiring.nets.map Net.pins = [["R1.2", "R2.1", "R.3.2", "R4.1"]] ∧
      Linked wiring.acceptedKeys "R2.1" "R.3.2" := by
  intro wiring
  have pins : wiring.nets.map Net.pins = [["R1.2", "R2.1", "R.3.2", "R4.1"]] := by
    decide +kernel
  have joined : "R2.1" ∈ wiring.neighbours.names := by
    decide +kernel
  have shared : ∃ net ∈ wiring.nets, "R2.1" ∈ net.pins ∧ "R.3.2" ∈ net.pins := by
    decide +kernel
  have components :=
    netsBy_components sampleChain sampleConnections DisjointSets.labels_lawful
  exact ⟨DisjointSets.labels_lawful, pins, (components.2.1 "R2.1" joined "R.3.2").mp shared⟩

end Wiring
end CircuitSheet
