import CircuitSheet.Proofs.Sheet.IdentifierTexts
import CircuitSheet.Sheet.Document

/-!
# Identifiers of a sheet

Identifiers are drawn where they stand: the document first, then each symbol before its pins, then
the wires. So the lists that hold them, read from the front to the back of a document and at every
depth, number its parts one after the other, and definitions take no identifier.
-/

namespace CircuitSheet

/-! ## Lists with a key at every depth -/

namespace SExpr

variable {N : Type}

mutual
/-- The lists with a key at every depth of a tree, in the order in which they open. -/
def findWithin (key : String) : SExpr N → List (SExpr N)
  | .list items =>
      (if (list items).head? = some key then [.list items] else []) ++ itemsFindWithin key items
  | _ => []
/-- The lists with a key at every depth of some trees. -/
def itemsFindWithin (key : String) : List (SExpr N) → List (SExpr N)
  | [] => []
  | item :: rest => item.findWithin key ++ itemsFindWithin key rest
end

variable {key : String}

theorem itemsFindWithin_eq_flatMap (items : List (SExpr N)) :
    itemsFindWithin key items = items.flatMap (findWithin key) := by
  induction items with
  | nil => simp [itemsFindWithin]
  | cons item rest inductionHypothesis =>
      rw [itemsFindWithin, inductionHypothesis, List.flatMap_cons]

@[simp] theorem findWithin_symbol (name : String) :
    (symbol name : SExpr N).findWithin key = [] := by
  simp [findWithin]

@[simp] theorem findWithin_string (content : String) :
    (string content : SExpr N).findWithin key = [] := by
  simp [findWithin]

@[simp] theorem findWithin_number (value : N) : (number value).findWithin key = [] := by
  simp [findWithin]

theorem findWithin_list (items : List (SExpr N)) :
    (list items).findWithin key =
      (if (list items).head? = some key then [list items] else []) ++
        items.flatMap (findWithin key) := by
  rw [findWithin, itemsFindWithin_eq_flatMap]

@[simp] theorem findWithin_keyed (name : String) (children : List (SExpr N)) :
    (keyed name children).findWithin key =
      (if name = key then [keyed name children] else []) ++
        children.flatMap (findWithin key) := by
  rw [keyed, findWithin_list, List.flatMap_cons, findWithin_symbol, List.nil_append]
  simp [head?, symbol?]

@[simp] theorem findWithin_yesNo (flag : Bool) :
    (yesNo flag : SExpr N).findWithin key = [] :=
  findWithin_symbol _

variable [ScalarText N]

@[simp] theorem findWithin_text (content : String) :
    (text content : SExpr N).findWithin key = [] := by
  unfold text
  split <;> simp

/-- In the tree that is read for a written tree the lists with a key are those that are read. -/
theorem findWithin_asRead (tree : SExpr N) :
    tree.asRead.findWithin key = (tree.findWithin key).map asRead := by
  induction tree using induction_on_items with
  | symbol | string | number => simp
  | list items inductionHypothesis =>
      have head := head?_asRead (list items)
      rw [asRead_list] at head
      rw [asRead_list, findWithin_list, findWithin_list, head, List.map_append, itemsAsRead_eq_map,
        List.flatMap_map, List.map_flatMap]
      congr 1
      · split <;> simp [itemsAsRead_eq_map]
      · exact List.flatMap_congr inductionHypothesis

end SExpr

/-! ## Definitions -/

variable {K : Type} [ScalarText K]

namespace Symbol

omit [ScalarText K] in
@[simp] theorem findWithin_placedAt (x y angle : K) :
    (placedAt x y angle).findWithin "uuid" = [] := by
  simp [placedAt]

@[simp] theorem findWithin_effects (hidden : Bool) :
    (effects hidden : SExpr K).findWithin "uuid" = [] := by
  cases hidden <;> simp [effects]

@[simp] theorem findWithin_property (name value : String) (x y : K) (hidden : Bool) :
    (property name value x y hidden).findWithin "uuid" = [] := by
  simp [property]

@[simp] theorem findWithin_pin (pin : Pin K) : (Symbol.pin pin).findWithin "uuid" = [] := by
  simp [Symbol.pin]

omit [ScalarText K] in
@[simp] theorem findWithin_stroke (width : K) : (stroke width).findWithin "uuid" = [] := by
  simp [stroke]

@[simp] theorem findWithin_bodyRectangle (pins : List (Pin K)) :
    (bodyRectangle pins).findWithin "uuid" = [] := by
  simp [bodyRectangle]

omit [ScalarText K] in
@[simp] theorem findWithin_polyline (points : List (Point K)) :
    (polyline points).findWithin "uuid" = [] := by
  simp [polyline]

theorem findWithin_ofKind (name : String) (kind : Kind) :
    (ofKind name kind : SExpr K).findWithin "uuid" = [] := by
  simp [ofKind, flags]

theorem findWithin_ofRail (rail : String) : (ofRail rail : SExpr K).findWithin "uuid" = [] := by
  cases ground : isGround rail <;> simp [ofRail, flags, ground, groundLines, supplyLines]

end Symbol

namespace Sheet

theorem findWithin_define (name : String) (origin : SymbolOrigin) :
    (define name origin : SExpr K).findWithin "uuid" = [] := by
  cases origin with
  | kind kind => exact Symbol.findWithin_ofKind name kind
  | rail => exact Symbol.findWithin_ofRail _

/-- Definitions bear no identifiers. -/
theorem findWithin_symbolDefinitions (circuit : Circuit K) :
    (symbolDefinitions circuit).findWithin "uuid" = [] := by
  rw [symbolDefinitions, SExpr.findWithin_keyed, if_neg (by decide), List.nil_append,
    List.flatMap_eq_nil_iff, List.forall_mem_map]
  exact fun entry _ => findWithin_define entry.1 entry.2

/-! ## Parts -/

variable (numbering : ℕ → ℕ)

@[simp] theorem findWithin_uuid (place : ℕ) :
    (uuid numbering place : SExpr K).findWithin "uuid" = [uuid numbering place] := by
  simp [uuid]

/-- Items drawn one after the other bear the identifiers of all places from the first on, when each
bears those of its own places. -/
theorem flatMap_findWithin_drawFrom {α : Type} {identifiers : α → ℕ} {draw : ℕ → α → SExpr K}
    (drawn : ∀ next item, (draw next item).findWithin "uuid" =
      (List.range' next (identifiers item)).map (uuid numbering)) (next : ℕ) (items : List α) :
    (drawFrom identifiers draw next items).flatMap (SExpr.findWithin "uuid") =
      (List.range' next (identifierCount identifiers items)).map (uuid numbering) := by
  induction items generalizing next with
  | nil => rfl
  | cons item rest inductionHypothesis =>
      rw [drawFrom, List.flatMap_cons, drawn, inductionHypothesis, ← List.map_append,
        List.range'_append_1]
      rfl

theorem identifierCount_eq_sum {α : Type} (identifiers : α → ℕ) (items : List α) :
    identifierCount identifiers items = (items.map identifiers).sum := by
  rw [List.sum_eq_foldr, List.foldr_map]
  rfl

theorem identifierCount_one {α : Type} (items : List α) :
    identifierCount (fun _ => 1) items = items.length := by
  simp [identifierCount_eq_sum]

theorem Instance.findWithin_drawPin (next : ℕ) (number : String) :
    (drawPin numbering next number : SExpr K).findWithin "uuid" =
      (List.range' next 1).map (uuid numbering) := by
  simp [drawPin]

/-- A symbol bears its own identifier and then those of its pins. -/
theorem Instance.findWithin_draw (next : ℕ) (shown : Instance K) :
    (draw numbering next shown).findWithin "uuid" =
      (List.range' next shown.identifiers).map (uuid numbering) := by
  have pins := flatMap_findWithin_drawFrom numbering (findWithin_drawPin (K := K) numbering)
    (next + 1) shown.pinNumbers
  rw [identifierCount_one] at pins
  rw [draw, SExpr.findWithin_keyed, if_neg (by decide), List.nil_append, List.flatMap_append, pins,
    identifiers, ← List.range'_append_1, List.map_append]
  simp

theorem findWithin_drawWire (next : ℕ) (segment : WireSegment K) :
    (drawWire numbering next segment).findWithin "uuid" =
      (List.range' next 1).map (uuid numbering) := by
  simp [drawWire, drawCorner]

theorem flatMap_findWithin_header (circuit : Circuit K) :
    (header numbering circuit).flatMap (SExpr.findWithin "uuid") = [uuid numbering 0] := by
  simp [header, findWithin_symbolDefinitions]

/-! ## Documents -/

/-- The number of identifiers on a sheet: one for the document, for each component one and one for
every pin, two for each power symbol, and one for each segment of a route. -/
def identifierTotal (circuit : Circuit K) (routes : List (WireRoute K)) : ℕ :=
  1 + (circuit.components.map fun component =>
      1 + (component.kind.pins : List (Pin K)).length).sum +
    2 * circuit.powers.length + (routes.map fun route => route.segments.length).sum

theorem identifierCount_instances (circuit : Circuit K) :
    identifierCount Instance.identifiers (instances circuit) =
      (circuit.components.map fun component =>
        1 + (component.kind.pins : List (Pin K)).length).sum + 2 * circuit.powers.length := by
  have components : Instance.identifiers ∘ Instance.ofComponent (K := K) =
      fun component => 1 + (component.kind.pins : List (Pin K)).length := by
    funext component
    simp [Instance.identifiers, Instance.ofComponent]
  have powers : (circuit.keyedPowers.map fun entry =>
      (Instance.ofPower entry.1 entry.2).identifiers).sum = 2 * circuit.powers.length := by
    simp [Instance.identifiers, Instance.ofPower, Circuit.keyedPowers, Nat.mul_comm]
  rw [identifierCount_eq_sum, instances, List.map_append, List.sum_append, List.map_map, components,
    List.map_map]
  exact congrArg _ powers

/-- The lists with identifiers in a document are those of all places in their order. -/
theorem findWithin_document (circuit : Circuit K) (routes : List (WireRoute K)) :
    (document numbering circuit routes).findWithin "uuid" =
      (List.range (identifierTotal circuit routes)).map (uuid numbering) := by
  have symbols := flatMap_findWithin_drawFrom numbering (Instance.findWithin_draw (K := K) numbering)
    1 (instances circuit)
  have wires := flatMap_findWithin_drawFrom numbering (findWithin_drawWire (K := K) numbering)
    (1 + identifierCount Instance.identifiers (instances circuit)) (segmentsOf routes)
  have total : identifierTotal circuit routes =
      1 + identifierCount Instance.identifiers (instances circuit) + (segmentsOf routes).length := by
    rw [identifierCount_instances, segmentsOf, List.length_flatMap, identifierTotal]
    omega
  have footerFree : (footer : SExpr K).findWithin "uuid" = [] := by
    simp [footer]
  rw [identifierCount_one] at wires
  rw [document, SExpr.findWithin_keyed, if_neg (by decide), List.nil_append]
  simp only [List.flatMap_append, List.flatMap_singleton, flatMap_findWithin_header, symbols, wires,
    footerFree, List.append_nil]
  -- The document's own place, those of the symbols and those of the wires abut.
  rw [total, List.range_eq_range', ← List.range'_append_1, ← List.range'_append_1, List.map_append,
    List.map_append, Nat.zero_add, Nat.zero_add]
  rfl

/-! ## Consecutive identifiers -/

/-- The list that holds an identifier which stands bare. -/
def bareIdentifier {N : Type} (text : String) : SExpr N :=
  .keyed "uuid" [.symbol text]

theorem asRead_bareIdentifier (text : String) :
    (bareIdentifier text : SExpr K).asRead = bareIdentifier text := by
  simp [bareIdentifier, SExpr.keyed, SExpr.itemsAsRead]

section

variable {sine cosine : Float → Float} {first : ℕ}

theorem uuid_consecutive {place : ℕ} (inRange : first + place < 2 ^ 128) :
    (uuid (Identifier.consecutive first) place : SExpr (Turning sine cosine)) =
      bareIdentifier (Identifier.text (first + place)) := by
  rw [uuid, bareIdentifier, ← (Identifier.isTextOf_text inRange).text_eq_symbol]
  rfl

variable {circuit : Circuit (Turning sine cosine)} {routes : List (WireRoute (Turning sine cosine))}

/-- With consecutive numbers the identifiers of a document are those of the numbers in a row. -/
theorem findWithin_document_consecutive
    (inRange : first + identifierTotal circuit routes < 2 ^ 128) :
    (document (Identifier.consecutive first) circuit routes).findWithin "uuid" =
      ((List.range' first (identifierTotal circuit routes)).map Identifier.text).map
        bareIdentifier := by
  rw [findWithin_document, List.range'_eq_map_range, List.map_map, List.map_map]
  refine List.map_congr_left fun place member => ?_
  have inDocument := List.mem_range.mp member
  exact uuid_consecutive (by omega)

/-- When the numbers from a first one on stay in range, the identifiers of a sheet are those of that
number and the following ones, one for each part and no two the same, in the order in which they
stand in the document. Each stands bare there, and in every text that is written for the sheet it is
read as the same symbol, never as a number. -/
theorem identifiers_consecutive (inRange : first + identifierTotal circuit routes < 2 ^ 128) :
    ∃ texts : List String,
      List.Forall₂ Identifier.IsTextOf texts (List.range' first (identifierTotal circuit routes)) ∧
      texts.Nodup ∧
      (document (Identifier.consecutive first) circuit routes).findWithin "uuid" =
        texts.map bareIdentifier ∧
      ∀ written, write first circuit routes = .ok written →
        ∃ tree : SExpr (Turning sine cosine), SExpr.parse written = .ok tree ∧
          tree.findWithin "uuid" = texts.map bareIdentifier := by
  have drawn := findWithin_document_consecutive inRange
  have isText : ∀ number ∈ List.range' first (identifierTotal circuit routes),
      Identifier.IsTextOf (Identifier.text number) number := by
    intro number member
    rw [List.mem_range'_1] at member
    exact Identifier.isTextOf_text (by omega)
  refine ⟨(List.range' first (identifierTotal circuit routes)).map Identifier.text, ?_, ?_, drawn,
    fun written isWritten => ?_⟩
  · rw [List.forall₂_map_left_iff, List.forall₂_same]
    exact isText
  · refine List.Nodup.map_on (fun one isOne other isOther same => ?_) List.nodup_range'
    have sameText := isText other isOther
    rw [← same] at sameText
    exact (isText one isOne).number_eq sameText
  · refine ⟨_, (Turning.parse_of_write isWritten).1, ?_⟩
    rw [SExpr.findWithin_asRead, drawn, List.map_map]
    exact List.map_congr_left fun text _ => asRead_bareIdentifier text

end

/-- The texts of a circuit look like identifiers and their keys. -/
def mimicCircuit : Circuit (Turning quarterSine quarterCosine) where
  name := "uuid"
  components :=
    [{ reference := "00000000-0000-0000-0000-0000000001e5", kind := .resistor, value := "uuid",
        library := "(uuid", symbol := "1)", position := ⟨(50.0 : Float), (80.0 : Float)⟩ }]
  powers := [⟨"", "uuid", ⟨(90.0 : Float), (20.0 : Float)⟩⟩]
  connections := []

/-- A route of one wire. -/
def mimicRoute : WireRoute (Turning quarterSine quarterCosine) where
  netName := "uuid"
  segments := [⟨⟨(50.0 : Float), (20.0 : Float)⟩, ⟨(50.0 : Float), (80.0 : Float)⟩, .vertical⟩]
  connectedPins := []
  priority := 1

theorem exists_write_mimicCircuit :
    ∃ written, write 485 mimicCircuit [mimicRoute] = .ok written := by
  have isWritten : (write 485 mimicCircuit [mimicRoute]).toOption.isSome = true := by
    decide +kernel
  cases outcome : write 485 mimicCircuit [mimicRoute] with
  | ok written => exact ⟨written, rfl⟩
  | error refusal =>
      rw [outcome] at isWritten
      cases isWritten

theorem identifiers_consecutive_mimic :
    identifierTotal mimicCircuit [mimicRoute] = 7 ∧ 485 + 7 < 2 ^ 128 ∧
      ∃ texts written, write 485 mimicCircuit [mimicRoute] = .ok written ∧
        List.Forall₂ Identifier.IsTextOf texts (List.range' 485 7) ∧ texts.Nodup ∧
        ∃ tree : SExpr (Turning quarterSine quarterCosine), SExpr.parse written = .ok tree ∧
          tree.findWithin "uuid" = texts.map bareIdentifier := by
  have total : identifierTotal mimicCircuit [mimicRoute] = 7 := rfl
  have inRange : 485 + identifierTotal mimicCircuit [mimicRoute] < 2 ^ 128 := by
    rw [total]
    decide
  obtain ⟨texts, numbered, nodup, -, readBack⟩ := identifiers_consecutive inRange
  obtain ⟨written, isWritten⟩ := exists_write_mimicCircuit
  exact ⟨total, by decide, texts, written, isWritten, numbered, nodup, readBack written isWritten⟩

end Sheet
end CircuitSheet
