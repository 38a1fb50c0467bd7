import CircuitSheet.Proofs.Floorplan.LaidOut
import CircuitSheet.Proofs.Grouping
import CircuitSheet.Proofs.Table

/-!
# Arranged items

A strategy places every item once: there are as many preferred positions as items, and a zone hands
on the items of its group. Where references differ, the body of every item is recorded behind those
of earlier references, at the position that is told of it and with the size of its own occupant.
-/

namespace CircuitSheet

/-- The items in the order in which a strategy places them: those of one group after those of the
group before it where there are zones, and else as they are listed. -/
def LayoutStrategy.order (items : List LayoutItem) : LayoutStrategy → List LayoutItem
  | .hierarchical =>
      (withoutRepeats (items.map (·.occupant.group))).flatMap fun group =>
        items.filter (·.occupant.group = group)
  | .grid | .row | .column | .circular => items

namespace LayoutStrategy

theorem order_hierarchical (items : List LayoutItem) :
    order items .hierarchical = (groupBy (·.occupant.group) items).flatten := by
  rw [order, groupBy_eq, List.flatMap]

theorem order_perm (items : List LayoutItem) (strategy : LayoutStrategy) :
    (order items strategy).Perm items := by
  cases strategy with
  | hierarchical =>
      rw [order_hierarchical]
      exact flatten_groupBy_perm ..
  | grid | row | column | circular => exact .refl _

end LayoutStrategy

variable {K : Type} [Scalar K]

namespace Floorplan

/-! ## Placings -/

/-- The placings are those of the items, in their order. -/
theorem map_item_placings (plan : Floorplan K) (items : List (LayoutItem × Option (Point K))) :
    (plan.placings items).map (·.item) = items.map (·.1) := by
  induction items generalizing plan with
  | nil => rfl
  | cons head rest inductionHypothesis =>
      obtain ⟨item, preferred⟩ := head
      rw [placings, List.map_cons, inductionHypothesis, List.map_cons]

theorem map_reference_bodies_placings (plan : Floorplan K)
    (items : List (LayoutItem × Option (Point K))) :
    ((plan.placings items).map Placing.body).map (·.reference) = items.map (·.1.reference) := by
  have same := congrArg (List.map LayoutItem.reference) (plan.map_item_placings items)
  rw [List.map_map, List.map_map] at same
  rw [List.map_map]
  exact same

omit [Scalar K] in
/-- A body that is recorded stays unless its reference is placed again later. -/
theorem filter_placed_record (plan : Floorplan K) {body : Body K} {later : List String}
    (absent : body.reference ∉ later) :
    (plan.record body).placed.filter (fun other => other.reference ∉ later) =
      plan.placed.filter (fun other => other.reference ∉ body.reference :: later) ++ [body] := by
  have kept : [body].filter (fun other => other.reference ∉ later) = [body] :=
    List.filter_eq_self.mpr (List.forall_mem_singleton.mpr (decide_eq_true absent))
  rw [record, List.filter_append, kept, List.filter_filter]
  congr 1
  apply List.filter_congr
  intro other _
  rw [Bool.eq_iff_iff]
  simp [and_comm]

/-- Items whose references differ are recorded one after the other, in place of what had their
references before. -/
theorem placed_afterAll (plan : Floorplan K) {items : List (LayoutItem × Option (Point K))}
    (distinct : (items.map (·.1.reference)).Nodup) :
    (plan.afterAll items).placed =
      plan.placed.filter (fun body => body.reference ∉ items.map (·.1.reference)) ++
        (plan.placings items).map Placing.body := by
  induction items generalizing plan with
  | nil => simp [afterAll, placings]
  | cons head rest inductionHypothesis =>
      obtain ⟨item, preferred⟩ := head
      obtain ⟨absent, restDistinct⟩ := List.nodup_cons.mp distinct
      let placing : Placing K := ⟨plan, item, preferred⟩
      have step : plan.afterAll ((item, preferred) :: rest) = placing.after.afterAll rest := rfl
      rw [step, inductionHypothesis _ restDistinct, Placing.after, filter_placed_record _ absent,
        List.append_assoc]
      rfl

/-- What is recorded for an item whose reference is its own is its body and nothing else. -/
theorem filter_placed_afterAll (plan : Floorplan K) {items : List (LayoutItem × Option (Point K))}
    (distinct : (items.map (·.1.reference)).Nodup) {placing : Placing K}
    (member : placing ∈ plan.placings items) :
    (plan.afterAll items).placed.filter (·.reference == placing.item.reference) =
      [placing.body] := by
  have isItem : placing.item.reference ∈ items.map (·.1.reference) := by
    rw [← plan.map_reference_bodies_placings, List.map_map]
    exact List.mem_map.mpr ⟨placing, member, rfl⟩
  have replaced : (plan.placed.filter fun body => body.reference ∉ items.map (·.1.reference)).filter
      (·.reference == placing.item.reference) = [] := by
    rw [List.filter_eq_nil_iff]
    intro body isKept same
    have spared := of_decide_eq_true (List.mem_filter.mp isKept).2
    exact spared (eq_of_beq same ▸ isItem)
  have recorded : ((plan.placings items).map Placing.body).filter
      (·.reference == placing.item.reference) = [placing.body] := by
    rw [← plan.map_reference_bodies_placings] at distinct
    exact filter_key_eq distinct (List.mem_map_of_mem member)
  rw [placed_afterAll _ distinct, List.filter_append, replaced, recorded, List.nil_append]

/-! ## Preferred positions -/

theorem length_gridCandidates (plan : Floorplan K) (items : List LayoutItem) :
    (plan.gridCandidates items).length = items.length := by
  simp [gridCandidates]

theorem length_rowCandidates (plan : Floorplan K) (items : List LayoutItem) :
    (plan.rowCandidates items).length = items.length := by
  simp [rowCandidates]

theorem length_columnCandidates (plan : Floorplan K) (items : List LayoutItem) :
    (plan.columnCandidates items).length = items.length := by
  simp [columnCandidates]

theorem length_circularCandidates (plan : Floorplan K) (items : List LayoutItem) :
    (plan.circularCandidates items).length = items.length := by
  simp [circularCandidates]

/-- A zone hands on its items where their references differ. -/
theorem map_fst_zonePreferences (zone : Floorplan K) {members : List LayoutItem}
    (distinct : (members.map (·.reference)).Nodup) (corner : Point K) :
    (zone.zonePreferences members corner).map (·.1) = members := by
  have paired : (members.zip (zone.gridCandidates members)).map (·.1) = members :=
    List.map_fst_zip (zone.length_gridCandidates members).ge
  have placed : (zone.placings ((members.zip (zone.gridCandidates members)).map request)).map
      (·.item) = members := by
    rw [map_item_placings, List.map_map]
    exact paired
  rw [zonePreferences, placeAll_eq, List.map_map, List.map_map]
  refine Eq.trans (List.map_congr_left fun placing member => ?_) placed
  have isMember : placing.item ∈ members := placed ▸ List.mem_map_of_mem member
  have found : members.find? (·.reference == placing.item.reference) = some placing.item :=
    find?_key_eq distinct isMember
  simp only [Function.comp_apply, Placing.outcome, found, Option.map_some, Option.getD_some]

theorem map_fst_zonedPreferences (plan : Floorplan K) {groups : List (List LayoutItem)}
    (distinct : ∀ members ∈ groups, (members.map (·.reference)).Nodup) :
    (plan.zonedPreferences groups).map (·.1) = groups.flatten := by
  have indexed : groups = groups.zipIdx.map (·.1) := by simp
  rw [zonedPreferences, List.map_flatten, List.map_map]
  conv_rhs => rw [indexed]
  congr 1
  apply List.map_congr_left
  rintro ⟨members, index⟩ member
  exact map_fst_zonePreferences _ (distinct members (List.fst_mem_of_mem_zipIdx member)) _

/-- A strategy places every item once, in its order. -/
theorem map_fst_preferences (plan : Floorplan K) {items : List LayoutItem}
    (distinct : (items.map (·.reference)).Nodup) (strategy : LayoutStrategy) :
    (plan.preferences items strategy).map (·.1) = strategy.order items := by
  cases strategy with
  | grid => exact List.map_fst_zip (plan.length_gridCandidates items).ge
  | row => exact List.map_fst_zip (plan.length_rowCandidates items).ge
  | column => exact List.map_fst_zip (plan.length_columnCandidates items).ge
  | circular => exact List.map_fst_zip (plan.length_circularCandidates items).ge
  | hierarchical =>
      rw [LayoutStrategy.order_hierarchical]
      refine plan.map_fst_zonedPreferences fun members isGroup => ?_
      exact distinct.sublist ((sublist_of_mem_groupBy isGroup).map _)

/-! ## Records -/

/-- Where the items of some spots were put. -/
def placementsOf (spots : List (String × Spot K)) : List (Placement K) :=
  spots.map fun (reference, spot) => ⟨reference, spot.position⟩

/-- The bodies of items where they were put. -/
def bodiesAt (items : List LayoutItem) (placements : List (Placement K)) : List (Body K) :=
  items.zipWith
    (fun item placement => ⟨placement.reference, placement.position, item.occupant.bodySize⟩)
    placements

/-- The place where an item was put. -/
def Placing.placement (placing : Placing K) : Placement K :=
  ⟨placing.item.reference, placing.spot.position⟩

theorem placementsOf_outcomes (placings : List (Placing K)) :
    placementsOf (placings.map Placing.outcome) = placings.map Placing.placement := by
  rw [placementsOf, List.map_map]
  rfl

theorem map_body_eq_bodiesAt (placings : List (Placing K)) :
    placings.map Placing.body =
      bodiesAt (placings.map (·.item)) (placings.map Placing.placement) := by
  rw [bodiesAt, List.zipWith_map, List.zipWith_self]
  rfl

/-- Every item is placed once, in the order of the strategy, which is the given order without zones
and else that of the groups, each with its items in their order. The records of other references
stay as they are, and behind them there is one for each item: the only one of its reference, at the
position that is told and with the size of the item's own occupant. -/
theorem arrange_order (plan : Floorplan K) {items : List LayoutItem} (strategy : LayoutStrategy)
    (distinct : (items.map (·.reference)).Nodup) :
    let arranged := plan.arrange items strategy
    let placements := placementsOf arranged.1
    (strategy.order items).Perm items ∧
    placements.map (·.reference) = (strategy.order items).map (·.reference) ∧
    (∀ placement ∈ placements, ∃ item ∈ items, item.reference = placement.reference ∧
      arranged.2.placed.filter (·.reference == placement.reference) =
        [⟨placement.reference, placement.position, item.occupant.bodySize⟩]) ∧
    arranged.2.placed =
      plan.placed.filter (fun body => body.reference ∉ items.map (·.reference)) ++
        bodiesAt (strategy.order items) placements := by
  intro arranged placements
  let placings := plan.placings ((plan.preferences items strategy).map request)
  have perm : (strategy.order items).Perm items := strategy.order_perm items
  have ordered : placings.map (·.item) = strategy.order items := by
    rw [map_item_placings, List.map_map]
    exact plan.map_fst_preferences distinct strategy
  have told : placements = placings.map Placing.placement := by
    rw [← placementsOf_outcomes]
    exact congrArg (placementsOf ·.1) (plan.placeAll_eq _)
  have references : ((plan.preferences items strategy).map request).map (·.1.reference) =
      (strategy.order items).map (·.reference) := by
    rw [← plan.map_fst_preferences distinct strategy, List.map_map, List.map_map]
    rfl
  have requestsDistinct : (((plan.preferences items strategy).map request).map
      (·.1.reference)).Nodup := by
    rw [references]
    exact (perm.map _).nodup_iff.mpr distinct
  have last : arranged.2 = plan.afterAll ((plan.preferences items strategy).map request) :=
    congrArg Prod.snd (plan.placeAll_eq _)
  have placed : arranged.2.placed =
      plan.placed.filter (fun body => body.reference ∉ items.map (·.reference)) ++
        placings.map Placing.body := by
    rw [last, placed_afterAll _ requestsDistinct, references]
    simp only [(perm.map LayoutItem.reference).mem_iff]
    rfl
  refine ⟨perm, ?_, ?_, ?_⟩
  · rw [told, ← ordered, List.map_map, List.map_map]
    rfl
  · rw [told, List.forall_mem_map]
    intro placing member
    have isItem : placing.item ∈ items :=
      perm.mem_iff.mp (ordered ▸ List.mem_map_of_mem member)
    refine ⟨placing.item, isItem, rfl, ?_⟩
    rw [last]
    exact filter_placed_afterAll _ requestsDistinct member
  · rw [placed, told, ← ordered]
    exact congrArg _ (map_body_eq_bodiesAt placings)

/-- Two resistors with a capacitor between them; the second goes by a kind that is not known and
shares the zone of the first. -/
def interleavedItems : List LayoutItem :=
  [⟨"R1", .component .resistor⟩, ⟨"C1", .component .capacitor⟩,
    ⟨"R2", .component (.other "resistor")⟩]

/-- A page on which the capacitor and a speaker are already. -/
def occupiedPlan : Floorplan Float :=
  ((blank Page.a4 1.0 10.16).reserve "C1" (.component .capacitor) ⟨50.0, 50.0⟩).reserve "LS1"
    (.component .speaker) ⟨200.0, 150.0⟩

theorem arrange_order_interleaved :
    let arranged := occupiedPlan.arrange interleavedItems .hierarchical
    let placements := placementsOf arranged.1
    (interleavedItems.map (·.reference)).Nodup ∧
      placements.map (·.reference) = ["R1", "R2", "C1"] ∧
      arranged.2.placed =
        [⟨"LS1", ⟨200.0, 150.0⟩, Occupant.bodySize (.component .speaker)⟩] ++
          bodiesAt
            [⟨"R1", .component .resistor⟩, ⟨"R2", .component (.other "resistor")⟩,
              ⟨"C1", .component .capacitor⟩] placements := by
  intro arranged placements
  have distinct : (interleavedItems.map (·.reference)).Nodup := by decide
  obtain ⟨-, references, -, placed⟩ := occupiedPlan.arrange_order .hierarchical distinct
  have ordered : LayoutStrategy.order interleavedItems .hierarchical =
      [⟨"R1", .component .resistor⟩, ⟨"R2", .component (.other "resistor")⟩,
        ⟨"C1", .component .capacitor⟩] := by decide
  rw [ordered] at references placed
  exact ⟨distinct, references, placed⟩

end Floorplan
end CircuitSheet
