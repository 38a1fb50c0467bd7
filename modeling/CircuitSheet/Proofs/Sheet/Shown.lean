import CircuitSheet.Proofs.Circuit.References
import CircuitSheet.Proofs.Sheet.Writable
import CircuitSheet.Sheet.Content

/-!
# What a document shows

Reading the tree of a document gives back the entities and the wires that it was drawn from:
every symbol is read as the entity that it shows, and every wire as its two ends.
-/

namespace CircuitSheet

variable {K : Type} [ScalarText K]

/-- The place that is read where a point was drawn. -/
def Point.onSheet (point : Point K) : Point K :=
  ⟨fromFileUnits (toFileUnits point.x), fromFileUnits (toFileUnits point.y)⟩

/-- The wire that is read where a segment was drawn. -/
def WireSegment.onSheet (segment : WireSegment K) : WireSegment K :=
  WireSegment.between segment.start.onSheet segment.stop.onSheet

theorem map_eq_self_iff {α : Type} {change : α → α} {items : List α} :
    items.map change = items ↔ ∀ item ∈ items, change item = item := by
  have pointwise : items.map change = items.map id ↔ ∀ item ∈ items, change item = id item :=
    List.map_inj_left
  rwa [List.map_id] at pointwise

@[simp] theorem SExpr.text?_text (content : String) :
    (SExpr.text content : SExpr K).text? = some content := by
  unfold SExpr.text
  split <;> rfl

namespace Sheet

/-! ## Items drawn in order -/

section Drawing

variable {α β γ : Type} {identifiers : α → Nat} {draw : Nat → α → β}

theorem length_drawFrom (next : Nat) (items : List α) :
    (drawFrom identifiers draw next items).length = items.length := by
  induction items generalizing next with
  | nil => rfl
  | cons item rest inductionHypothesis =>
      rw [drawFrom, List.length_cons, inductionHypothesis, List.length_cons]

theorem filter_drawFrom_eq_self {test : β → Bool}
    (kept : ∀ next item, test (draw next item) = true) (next : Nat) (items : List α) :
    (drawFrom identifiers draw next items).filter test = drawFrom identifiers draw next items := by
  rw [List.filter_eq_self]
  intro result member
  obtain ⟨place, item, -, rfl⟩ := exists_of_mem_drawFrom member
  exact kept place item

theorem filter_drawFrom_eq_nil {test : β → Bool}
    (dropped : ∀ next item, test (draw next item) = false) (next : Nat) (items : List α) :
    (drawFrom identifiers draw next items).filter test = [] := by
  rw [List.filter_eq_nil_iff]
  intro result member
  obtain ⟨place, item, -, rfl⟩ := exists_of_mem_drawFrom member
  simp [dropped place item]

theorem map_drawFrom {read : β → γ} {shown : α → γ}
    (reads : ∀ next item, read (draw next item) = shown item) (next : Nat) (items : List α) :
    (drawFrom identifiers draw next items).map read = items.map shown := by
  induction items generalizing next with
  | nil => rfl
  | cons item rest inductionHypothesis =>
      rw [drawFrom, List.map_cons, reads, inductionHypothesis, List.map_cons]

theorem filterMap_drawFrom {read : β → Option γ} {shown : α → γ}
    (reads : ∀ next item, read (draw next item) = some (shown item)) (next : Nat)
    (items : List α) :
    (drawFrom identifiers draw next items).filterMap read = items.map shown := by
  have entries : (drawFrom identifiers draw next items).map read = items.map (some ∘ shown) :=
    map_drawFrom reads next items
  rw [← Function.id_comp read, ← List.filterMap_map, entries, List.filterMap_map,
    Function.id_comp, List.filterMap_eq_map]

theorem foldlM_drawFrom {ε σ : Type} {step : σ → β → Except ε σ} {after : σ → α → σ}
    (steps : ∀ state next item, step state (draw next item) = .ok (after state item))
    (state : σ) (next : Nat) (items : List α) :
    (drawFrom identifiers draw next items).foldlM step state = .ok (items.foldl after state) := by
  induction items generalizing state next with
  | nil => rfl
  | cons item rest inductionHypothesis =>
      rw [drawFrom, List.foldlM_cons, steps, List.foldl_cons]
      exact inductionHypothesis (after state item) _

end Drawing

/-! ## Symbols -/

namespace Instance

/-- The library and the symbol that a name on the sheet is cut into. -/
def nameParts (shown : Instance K) : List Char × List Char :=
  (Text.cutAt? ':' shown.symbolName.toList).getD ([], shown.symbolName.toList)

/-- The entity that is read from a symbol: a power symbol from those of the power library, and a
component from all others. -/
def entity (shown : Instance K) : Entity K :=
  if shown.nameParts.1 = "power".toList then
    .power
      { reference := shown.reference
        rail := if shown.value = "" then String.ofList shown.nameParts.2 else shown.value
        position := shown.position.onSheet }
  else
    .component (Component.ofKind shown.reference
      (Kind.ofSymbol (String.ofList shown.nameParts.1) (String.ofList shown.nameParts.2))
      shown.value shown.position.onSheet)

variable (numbering : Nat → Nat) (next : Nat) (shown : Instance K)

theorem valueOf?_draw :
    (draw numbering next shown).valueOf? "lib_id" = some (SExpr.text shown.symbolName) := rfl

theorem point?_draw :
    ((draw numbering next shown).find? "at").bind point? = some shown.position.onSheet := rfl

theorem property?_draw_reference :
    property? (draw numbering next shown) "Reference" = some shown.reference :=
  SExpr.text?_text shown.reference

theorem property?_draw_value :
    property? (draw numbering next shown) "Value" = some shown.value :=
  SExpr.text?_text shown.value

end Instance

/-- A symbol on the sheet is read as the entity that it shows. -/
theorem addInstance_draw (numbering : Nat → Nat) (circuit : Circuit K) (next : Nat)
    (shown : Instance K) :
    addInstance circuit (shown.draw numbering next) = .ok (circuit.addEntity shown.entity) := by
  rw [addInstance, Instance.valueOf?_draw, Instance.point?_draw, Instance.property?_draw_reference,
    Instance.property?_draw_value, Option.bind_some, SExpr.text?_text]
  change (if shown.nameParts.1 = "power".toList then _ else _) = _
  unfold Instance.entity
  split <;> rfl

/-! ## Documents -/

section Documents

variable (numbering : Nat → Nat) (circuit : Circuit K) (routes : List (WireRoute K))

theorem title?_document : title? (document numbering circuit routes) = some circuit.name :=
  SExpr.text?_text circuit.name

/-- The symbols and wires of a document, apart from what stands in front of and behind them. -/
theorem findAll_document {key : String}
    (notHeader : (header numbering circuit).filter (·.head? == some key) = [])
    (notFooter : "sheet_instances" ≠ key) :
    (document numbering circuit routes).findAll key =
      (drawFrom Instance.identifiers (Instance.draw numbering) 1 (instances circuit)).filter
          (·.head? == some key) ++
        (drawFrom (fun _ => 1) (drawWire numbering)
          (1 + identifierCount Instance.identifiers (instances circuit)) (segmentsOf routes)).filter
          (·.head? == some key) := by
  rw [document, SExpr.findAll, SExpr.items_keyed, List.filter_cons_of_neg (by simp [SExpr.head?]),
    List.filter_append, List.filter_append, List.filter_append, notHeader,
    List.filter_cons_of_neg (by simpa [footer] using notFooter), List.filter_nil, List.nil_append,
    List.append_nil]

theorem findAll_symbol_document :
    (document numbering circuit routes).findAll "symbol" =
      drawFrom Instance.identifiers (Instance.draw numbering) 1 (instances circuit) := by
  rw [findAll_document numbering circuit routes rfl (by decide),
    filter_drawFrom_eq_self (fun _ _ => rfl), filter_drawFrom_eq_nil (fun _ _ => rfl),
    List.append_nil]

theorem findAll_wire_document :
    (document numbering circuit routes).findAll "wire" =
      drawFrom (fun _ => 1) (drawWire numbering)
        (1 + identifierCount Instance.identifiers (instances circuit)) (segmentsOf routes) := by
  rw [findAll_document numbering circuit routes rfl (by decide),
    filter_drawFrom_eq_nil (fun _ _ => rfl), filter_drawFrom_eq_self (fun _ _ => rfl),
    List.nil_append]

theorem wire?_drawWire (next : Nat) (segment : WireSegment K) :
    wire? (drawWire numbering next segment) = some segment.onSheet := rfl

/-- The circuit that is read where a circuit was drawn: the entities that its symbols show join one
after the other. -/
def readBack : Circuit K :=
  ((instances circuit).map Instance.entity).foldl Circuit.addEntity (Circuit.named circuit.name)

/-- The tree of a document is read as the entities and wires that were drawn. -/
theorem ofTree_document :
    ofTree (document numbering circuit routes) =
      .ok
        { circuit := readBack circuit
          wires := (segmentsOf routes).map WireSegment.onSheet } := by
  have sheet : (document numbering circuit routes).head? = some "kicad_sch" := rfl
  have symbols :
      ((document numbering circuit routes).findAll "symbol").foldlM addInstance
          (Circuit.named circuit.name) = .ok (readBack circuit) := by
    rw [findAll_symbol_document, foldlM_drawFrom (addInstance_draw numbering), readBack,
      List.foldl_map]
  have wires : ((document numbering circuit routes).findAll "wire").filterMap wire? =
      (segmentsOf routes).map WireSegment.onSheet := by
    rw [findAll_wire_document, filterMap_drawFrom (wire?_drawWire numbering)]
  rw [ofTree, if_pos sheet, title?_document, Option.getD_some]
  dsimp only
  rw [symbols, wires]
  rfl

end Documents

end Sheet
end CircuitSheet
