import CircuitSheet.Proofs.Drawing.Connections
import CircuitSheet.Proofs.Sheet.Finite

/-!
# Nets, routes and wires of a drawing

The nets of a drawing are those of its wiring, supply nets first and otherwise in their order. Each
is drawn by one route with its name and its pins, and every segment of a route is a wire of the
sheet.
-/

namespace CircuitSheet

variable {K : Type}

/-! ## The order of nets -/

/-- Nets that carry power or ground. -/
def NetKind.isSupply : NetKind → Bool
  | .signal => false
  | _ => true

theorem NetKind.priority_eq (kind : NetKind) : kind.priority = if kind.isSupply then 2 else 1 := by
  cases kind <;> rfl

/-- In a list in which no item of a class comes behind one of the other class, the class stands in
front. -/
theorem eq_filter_append_filter {α : Type} {first : α → Bool} {items : List α}
    (sorted : items.Pairwise fun one other => (first one || !first other) = true) :
    items = items.filter first ++ items.filter fun item => !first item := by
  induction items with
  | nil => rfl
  | cons item rest inductionHypothesis =>
      obtain ⟨before, restSorted⟩ := List.pairwise_cons.mp sorted
      have restEq := inductionHypothesis restSorted
      cases isFirst : first item with
      | true =>
          rw [List.filter_cons_of_pos isFirst, List.filter_cons_of_neg (by simp [isFirst]),
            List.cons_append, ← restEq]
      | false =>
          have none : rest.filter first = [] := by
            rw [List.filter_eq_nil_iff]
            intro other member
            have behind := before other member
            rw [isFirst, Bool.false_or] at behind
            simpa using behind
          rw [none, List.nil_append] at restEq
          rw [List.filter_cons_of_neg (by simp [isFirst]), none, List.nil_append,
            List.filter_cons_of_pos (by simp [isFirst]), ← restEq]

/-- A stable sort by two classes puts one class in front and changes nothing else. -/
theorem mergeSort_eq_filter_append {α : Type} (first : α → Bool) (items : List α) :
    items.mergeSort (fun one other => first one || !first other) =
      items.filter first ++ items.filter fun item => !first item := by
  have transitive (one other third : α) (le : (first one || !first other) = true)
      (le' : (first other || !first third) = true) : (first one || !first third) = true := by
    revert le le'
    cases first one <;> cases first other <;> cases first third <;> decide
  have total (one other : α) :
      ((first one || !first other) || (first other || !first one)) = true := by
    cases first one <;> cases first other <;> rfl
  -- Each class alone is in order already, so it keeps its order.
  have kept (test : α → Bool) (alike : ∀ one other, test one = true → test other = true →
      (first one || !first other) = true) :
      (items.mergeSort fun one other => first one || !first other).filter test =
        items.filter test := by
    have ordered : (items.filter test).Pairwise fun one other =>
        (first one || !first other) = true :=
      List.pairwise_of_forall_mem_list fun one member other otherMember =>
        alike one other (List.mem_filter.mp member).2 (List.mem_filter.mp otherMember).2
    have sublist := (List.sublist_mergeSort transitive total ordered List.filter_sublist).filter test
    rw [List.filter_filter] at sublist
    simp only [Bool.and_self] at sublist
    exact (sublist.eq_of_length ((List.mergeSort_perm items _).filter test).length_eq.symm).symm
  rw [eq_filter_append_filter (List.pairwise_mergeSort transitive total items),
    kept first fun one other isFirst _ => by rw [isFirst, Bool.true_or],
    kept (fun item => !first item) fun one other _ isSecond => by rw [isSecond, Bool.or_true]]

namespace Drawing

/-- Supply nets come first, and the order is the same otherwise. -/
theorem orderedNets_eq (wired : Wired K) :
    orderedNets wired =
      (wired.wiring.nets.map (renameNet wired.pinNames)).filter (·.kind.isSupply) ++
        (wired.wiring.nets.map (renameNet wired.pinNames)).filter (!·.kind.isSupply) := by
  have order : (fun first second : Net => decide (second.kind.priority ≤ first.kind.priority)) =
      fun first second => first.kind.isSupply || !second.kind.isSupply := by
    funext first second
    rw [NetKind.priority_eq, NetKind.priority_eq]
    cases first.kind.isSupply <;> cases second.kind.isSupply <;> rfl
  rw [orderedNets, order, mergeSort_eq_filter_append]

/-! ## Routing nets -/

variable [ScalarText K]

/-- A route bears the name and the priority of a net and joins its pins. -/
structure Follows (wiring : Wiring K) (net : Net) (route : WireRoute K) : Prop where
  netName : route.netName = net.name
  connectedPins : route.connectedPins = (wiring.pinsOf net).map PlacedPin.key
  priority : route.priority = net.kind.priority

/-- Every net adds one route of its own. -/
theorem exists_routes_routeNets (wiring : Wiring K) (strategy : RoutingStrategy)
    (router : Router K) (nets : List Net) :
    ∃ drawn, (routeNets wiring strategy router nets).1.routes = router.routes ++ drawn ∧
      List.Forall₂ (Follows wiring) nets drawn := by
  induction nets generalizing router with
  | nil => exact ⟨[], (List.append_nil _).symm, .nil⟩
  | cons net rest inductionHypothesis =>
      let route := (router.star net.name (wiring.pinsOf net) strategy net.kind.priority).1
      obtain ⟨drawn, routes, follow⟩ := inductionHypothesis (router.keep route)
      refine ⟨route :: drawn, ?_, .cons ⟨rfl, rfl, rfl⟩ follow⟩
      rw [List.append_cons]
      exact routes

/-- A router without routes gets those of the nets, in their order. -/
theorem forall₂_follows_routeNets (wiring : Wiring K) (strategy : RoutingStrategy)
    {router : Router K} (noRoutes : router.routes = []) (nets : List Net) :
    List.Forall₂ (Follows wiring) nets (routeNets wiring strategy router nets).1.routes := by
  obtain ⟨drawn, routes, follow⟩ := exists_routes_routeNets wiring strategy router nets
  rwa [routes, noRoutes, List.nil_append]

/-- Every key of a net finds its pin. -/
theorem map_key_pinsOf_orderedNets {infersWiring : Bool} {circuit : Circuit K} {net : Net}
    (member : net ∈ orderedNets (wired infersWiring circuit)) :
    ((wired infersWiring circuit).wiring.pinsOf net).map PlacedPin.key = net.pins := by
  have consistent : (wired infersWiring circuit).wiring.Consistent := by
    rw [wiring_wired]
    exact (Wiring.consistent_ofCircuit circuit).attemptAll _
  refine consistent.map_key_pinsOf fun key inNet => ?_
  obtain ⟨plain, isNet, rfl⟩ := mem_orderedNets_iff.mp member
  rw [pins_renameNet] at inNet
  exact Wiring.mem_touchedKeys_iff.mp
    ((sublist_of_mem_groupBy (Wiring.pins_mem_groupBy isNet)).mem inNet)

/-- What the routes tell of a drawing. -/
structure ShowsRoutes (infersWiring : Bool) (drawing : Drawing K) : Prop where
  follow : List.Forall₂ (Follows (wired infersWiring drawing.circuit).wiring) drawing.nets
    drawing.routes
  figures : drawing.routingFigures.totalSegments = drawing.wireCount
  written : Sheet.write firstIdentifier drawing.circuit drawing.routes = .ok drawing.sheet

theorem showsRoutes_of_ofCircuit {options : DrawingOptions K} {described : Circuit K}
    {drawing : Drawing K} (drawn : ofCircuit options described = .ok drawing) :
    ShowsRoutes options.infersWiring drawing := by
  unfold ofCircuit at drawn
  dsimp only at drawn
  split at drawn
  · cases drawn
  · rename_i written
    obtain rfl := Except.ok.inj drawn
    exact ⟨forall₂_follows_routeNets _ _ rfl _, rfl, written⟩

/-! ## Drawings in double precision -/

/-- The number of segments of all routes. -/
def segmentCount {K : Type} (routes : List (WireRoute K)) : ℕ :=
  (routes.map fun route => route.segments.length).sum

omit [ScalarText K] in
theorem length_segments (routes : List (WireRoute K)) :
    (routes.flatMap (·.segments)).length = segmentCount routes :=
  List.length_flatMap

/-- With any sine and cosine, those of the machine among them: whatever text is drawn with whatever
options, the nets of the drawing are the renamed nets of its wiring, those of power and ground
before those of signals and each of both in their order. There is a route for every net, in the
same order, with its name, its pins and its priority. The segments of all routes are counted, and
on the sheet there is a wire for each of them. -/
theorem nets_routes_wires {sine cosine : Float → Float}
    {options : DrawingOptions (Turning sine cosine)} {text : List Char}
    {drawing : Drawing (Turning sine cosine)} (drawn : ofText options text = .ok drawing) :
    let built := wired options.infersWiring drawing.circuit
    let renamed := built.wiring.nets.map (renameNet built.pinNames)
    drawing.nets =
        renamed.filter (·.kind.isSupply) ++ renamed.filter (fun net => !net.kind.isSupply) ∧
      List.Forall₂
        (fun net route => route.netName = net.name ∧ route.connectedPins = net.pins ∧
          route.priority = if net.kind.isSupply then 2 else 1)
        drawing.nets drawing.routes ∧
      drawing.routingFigures.totalSegments = segmentCount drawing.routes ∧
      drawing.wireCount = segmentCount drawing.routes ∧
      ∃ tree : SExpr (Turning sine cosine), SExpr.parse drawing.sheet = .ok tree ∧
        (tree.findAll "wire").length = segmentCount drawing.routes := by
  intro built renamed
  obtain ⟨described, -, drawnCircuit⟩ := ofText_eq_ok_iff.mp drawn
  obtain ⟨-, nets, -, -⟩ := ofCircuit_eq_ok drawnCircuit
  obtain ⟨follow, figures, written⟩ := showsRoutes_of_ofCircuit drawnCircuit
  have wires : drawing.wireCount = segmentCount drawing.routes := length_segments drawing.routes
  refine ⟨nets.trans (orderedNets_eq built), ?_, figures.trans wires, wires, ?_⟩
  · have resolved : ∀ net ∈ drawing.nets,
        (built.wiring.pinsOf net).map PlacedPin.key = net.pins := by
      intro net member
      rw [nets] at member
      exact map_key_pinsOf_orderedNets member
    refine ((List.forall₂_and_left _ _).mpr ⟨resolved, follow⟩).imp ?_
    rintro net route ⟨keys, name, pins, priority⟩
    exact ⟨name, pins.trans keys, priority.trans (NetKind.priority_eq net.kind)⟩
  · refine ⟨_, (Turning.parse_of_write written).1, ?_⟩
    rw [SExpr.findAll_asRead, List.length_map, Sheet.findAll_wire_document, Sheet.length_drawFrom]
    exact length_segments drawing.routes

/-- A signal and then a supply are wired. -/
def suppliedText : List Char :=
  ("circuit: x\ncomponents:\nR1 led (30, 30)\nQ1 npn (60, 40)\npower:\nV1 +5V (30, 60)\n" ++
    "connections:\nR1.2 -> Q1.B\nV1 -> R1.1\n").toList

/-- The text is drawn with four wires, and the supply is in front. -/
theorem suppliedText_drawn :
    (ofText (DrawingOptions.default (K := Turning quarterSine quarterCosine))
        suppliedText).toOption.map (fun drawing => (drawing.wireCount, drawing.nets.map (·.name))) =
      some (4, ["+5V", "Net-(R1-2)"]) := by
  simp only [ofText, ofCircuit, orderedNets_eq]
  decide +kernel

theorem nets_routes_wires_supplied :
    ∃ drawing : Drawing (Turning quarterSine quarterCosine),
      ofText .default suppliedText = .ok drawing ∧
      drawing.nets.map (·.name) = ["+5V", "Net-(R1-2)"] ∧
      List.Forall₂
        (fun net route => route.netName = net.name ∧ route.connectedPins = net.pins ∧
          route.priority = if net.kind.isSupply then 2 else 1)
        drawing.nets drawing.routes ∧
      drawing.wireCount = 4 ∧ drawing.routingFigures.totalSegments = 4 ∧
      ∃ tree : SExpr (Turning quarterSine quarterCosine),
        SExpr.parse drawing.sheet = .ok tree ∧ (tree.findAll "wire").length = 4 := by
  obtain ⟨drawing, isDrawing, same⟩ := Option.map_eq_some_iff.mp suppliedText_drawn
  obtain ⟨wires, names⟩ := Prod.mk.inj same
  have drawn : ofText .default suppliedText = .ok drawing := by
    cases outcome : ofText (DrawingOptions.default (K := Turning quarterSine quarterCosine))
        suppliedText with
    | error failure => rw [outcome] at isDrawing; cases isDrawing
    | ok other =>
        rw [outcome] at isDrawing
        rw [Option.some.inj isDrawing]
  obtain ⟨-, follow, figures, count, parsed⟩ := nets_routes_wires drawn
  rw [← count, wires] at figures parsed
  exact ⟨drawing, drawn, names, follow, wires, figures, parsed⟩

end Drawing
end CircuitSheet
