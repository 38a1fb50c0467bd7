import CircuitSheet.Proofs.SExpr.Writable
import CircuitSheet.Sheet.Document

/-!
# Sheets that can be written

Texts never keep a sheet from being written: its document is writable for a sort of numbers
exactly when the numbers on it are of that sort. The numbers are those of the symbol
definitions, the positions of symbols and the ends of wires.
-/

namespace CircuitSheet

variable {K : Type} [ScalarText K] {sort : K → Prop}

/-! ## Symbol definitions -/

namespace Symbol

theorem writable_placedAt {x y angle : K} :
    (placedAt x y angle).Writable sort ↔ sort x ∧ sort y ∧ sort angle := by
  simp (disch := decide) [placedAt, SExpr.writable_keyed]

theorem writable_effects {hidden : Bool} :
    (effects hidden : SExpr K).Writable sort ↔ sort (fontSize : K) := by
  cases hidden <;>
    simp (disch := decide) [effects, SExpr.writable_keyed]

theorem writable_property {name value : String} {x y : K} {hidden : Bool} :
    (property name value x y hidden).Writable sort ↔
      (sort x ∧ sort y ∧ sort 0.0) ∧ sort (fontSize : K) := by
  simp (disch := decide) [property, SExpr.writable_keyed, writable_placedAt, writable_effects]

theorem writable_of_mem_flags {tree : SExpr K} (member : tree ∈ flags) : tree.Writable sort := by
  simp only [flags, List.mem_cons, List.not_mem_nil, or_false] at member
  rcases member with rfl | rfl | rfl <;> exact SExpr.writable_keyed_yesNo (by decide) _

/-- The lengths that stand in symbol definitions as they are. -/
def constants : List K :=
  [0.0, 0.254, 0.762, -0.762, 1.27, -1.27, 2.54, -2.54, -3.81, 3.556]

/-- The numbers of a pin are of a sort. -/
def PinSort (sort : K → Prop) (pin : Pin K) : Prop :=
  sort (Scalar.roundTo 1e4 (pin.offset.x + pin.length * Scalar.cos (Scalar.radians pin.angle))) ∧
    sort (Scalar.roundTo 1e4 (pin.offset.y + pin.length * Scalar.sin (Scalar.radians pin.angle))) ∧
    sort (Scalar.modulo (pin.angle + 180.0) 360.0) ∧ sort pin.length

theorem writable_pin {pin : Pin K} (font : sort (fontSize : K))
    (pinSort : PinSort sort pin) : (Symbol.pin pin).Writable sort := by
  obtain ⟨x, y, angle, length⟩ := pinSort
  have keyword : (SExpr.symbol pin.direction.keyword : SExpr K).Writable sort := by
    cases pin.direction <;> exact SExpr.writable_symbol_of_isWord (by decide)
  have line : (SExpr.symbol "line" : SExpr K).Writable sort :=
    SExpr.writable_symbol_of_isWord (by decide)
  simp (disch := decide) [Symbol.pin, SExpr.writable_keyed, writable_placedAt,
    writable_effects, -SExpr.writable_symbol, keyword, line, x, y, angle, length, font]

theorem writable_stroke {width : K} : (stroke width).Writable sort ↔ sort width := by
  have default : (SExpr.symbol "default" : SExpr K).Writable sort :=
    SExpr.writable_symbol_of_isWord (by decide)
  simp (disch := decide) [stroke, SExpr.writable_keyed, -SExpr.writable_symbol, default]

theorem writable_bodyRectangle {pins : List (Pin K)} :
    (bodyRectangle pins).Writable sort ↔
      sort (-reach (pins.map (·.offset.x))) ∧ sort (-reach (pins.map (·.offset.y))) ∧
        sort (reach (pins.map (·.offset.x))) ∧ sort (reach (pins.map (·.offset.y))) ∧
        sort 0.254 := by
  have none : (SExpr.symbol "none" : SExpr K).Writable sort :=
    SExpr.writable_symbol_of_isWord (by decide)
  simp (disch := decide) [bodyRectangle, SExpr.writable_keyed, writable_stroke,
    -SExpr.writable_symbol, none, and_assoc]

theorem writable_polyline {points : List (Point K)} :
    (polyline points).Writable sort ↔ ∀ point ∈ points, sort point.x ∧ sort point.y := by
  simp (disch := decide) [polyline, SExpr.writable_keyed]

/-- The definition of a kind is writable when its pins and its body are. -/
theorem writable_ofKind {name : String} {kind : Kind}
    (known : ∀ length ∈ (constants : List K), sort length)
    (pins : ∀ pin ∈ (kind.pins : List (Pin K)), PinSort sort pin)
    (body : (bodyRectangle (kind.pins : List (Pin K))).Writable sort) :
    (ofKind name kind : SExpr K).Writable sort := by
  simp only [constants, List.forall_mem_cons] at known
  have font : sort (fontSize : K) := known.2.2.2.2.1
  have flagsFine : ∀ tree ∈ (flags : List (SExpr K)), tree.Writable sort :=
    fun _ member => writable_of_mem_flags member
  have pinsFine : ∀ pin ∈ (kind.pins : List (Pin K)), (Symbol.pin pin).Writable sort :=
    fun pin member => writable_pin font (pins pin member)
  simpa (disch := decide) [ofKind, SExpr.writable_keyed, writable_property, or_imp, forall_and,
    known, font, body] using And.intro flagsFine pinsFine

/-- The definition of a rail is writable when its pin is. -/
theorem writable_ofRail {rail : String}
    (known : ∀ length ∈ (constants : List K), sort length)
    (pinSort : PinSort sort (Pin.ofRail rail : Pin K)) :
    (ofRail rail : SExpr K).Writable sort := by
  simp only [constants, List.forall_mem_cons] at known
  have font : sort (fontSize : K) := known.2.2.2.2.1
  have flagsFine : ∀ tree ∈ (flags : List (SExpr K)), tree.Writable sort :=
    fun _ member => writable_of_mem_flags member
  have pinFine : (Symbol.pin (Pin.ofRail rail : Pin K)).Writable sort := writable_pin font pinSort
  have ground : ∀ tree ∈ (groundLines : List (SExpr K)), tree.Writable sort := by
    simp [groundLines, writable_polyline, known]
  have supply : ∀ tree ∈ (supplyLines : List (SExpr K)), tree.Writable sort := by
    simp [supplyLines, writable_polyline, known]
  have drawn : ∀ tree ∈ (if isGround rail then groundLines else supplyLines : List (SExpr K)),
      tree.Writable sort := by
    split <;> assumption
  have hides : (SExpr.keyed "hide" [SExpr.yesNo true] : SExpr K).Writable sort :=
    SExpr.writable_keyed_yesNo (by decide) true
  simpa (disch := decide) [ofRail, SExpr.writable_keyed, writable_property, or_imp, forall_and,
    known, font, pinFine, hides] using And.intro flagsFine drawn

end Symbol

/-- A sort that holds every number that is written out, with either sign, holds the numbers of
all pins. -/
theorem Kind.numbers_of_pins (literal : ∀ mantissa exponentSign exponent,
      sort (OfScientific.ofScientific mantissa exponentSign exponent))
    (negative : ∀ value, sort value → sort (-value)) (kind : Kind) :
    ∀ pin ∈ (kind.pins : List (Pin K)),
      sort pin.offset.x ∧ sort pin.offset.y ∧ sort pin.length ∧ sort pin.angle := by
  cases kind <;>
    simp [pins, Pin.pair, Pin.transistor, Pin.passive, Pin.standard, Pin.stubLength, literal,
      negative]

/-! ## Documents -/

namespace Sheet

/-- Every drawn result is that of an item at some place. -/
theorem exists_of_mem_drawFrom {α β : Type} {identifiers : α → Nat} {draw : Nat → α → β}
    {next : Nat} {items : List α} {result : β}
    (member : result ∈ drawFrom identifiers draw next items) :
    ∃ place, ∃ item ∈ items, result = draw place item := by
  induction items generalizing next with
  | nil => cases member
  | cons item rest inductionHypothesis =>
      rcases List.mem_cons.mp member with rfl | inRest
      · exact ⟨next, item, List.mem_cons_self, rfl⟩
      · obtain ⟨place, other, inOthers, same⟩ := inductionHypothesis inRest
        exact ⟨place, other, List.mem_cons_of_mem _ inOthers, same⟩

/-- What holds of drawn items wherever they are drawn holds of all of them. -/
theorem forall_mem_drawFrom {α β : Type} {identifiers : α → Nat} {draw : Nat → α → β}
    {drawn : β → Prop} {fine : α → Prop}
    (drawn_iff : ∀ next item, drawn (draw next item) ↔ fine item) (next : Nat) (items : List α) :
    (∀ result ∈ drawFrom identifiers draw next items, drawn result) ↔
      ∀ item ∈ items, fine item := by
  induction items generalizing next with
  | nil => simp [drawFrom]
  | cons item rest inductionHypothesis =>
      rw [drawFrom, List.forall_mem_cons, List.forall_mem_cons, drawn_iff, inductionHypothesis]

@[simp] theorem writable_uuid (numbering : Nat → Nat) (place : Nat) :
    (uuid numbering place : SExpr K).Writable sort := by
  simp (disch := decide) [uuid, SExpr.writable_keyed]

/-- The numbers of a symbol on the sheet are of a sort. -/
def InstanceSort (sort : K → Prop) (shown : Instance K) : Prop :=
  let x := toFileUnits shown.position.x
  let y := toFileUnits shown.position.y
  (sort x ∧ sort y) ∧ sort (x + toFileUnits 2.54) ∧ sort (y - toFileUnits 1.27) ∧
    sort (y + toFileUnits 1.27)

/-- The numbers of a wire are of a sort. -/
def WireSort (sort : K → Prop) (segment : WireSegment K) : Prop :=
  (sort (toFileUnits segment.start.x) ∧ sort (toFileUnits segment.start.y)) ∧
    sort (toFileUnits segment.stop.x) ∧ sort (toFileUnits segment.stop.y)

theorem Instance.writable_drawPins (numbering : Nat → Nat) (next : Nat) (numbers : List String) :
    ∀ tree ∈ drawFrom (fun _ => 1) (drawPin numbering (K := K)) next numbers,
      tree.Writable sort := by
  intro tree member
  obtain ⟨place, number, -, rfl⟩ := exists_of_mem_drawFrom member
  simp (disch := decide) [drawPin, SExpr.writable_keyed]

theorem Instance.writable_draw {numbering : Nat → Nat} {next : Nat} {shown : Instance K}
    (zero : sort 0.0) (one : sort 1.0) (font : sort (Symbol.fontSize : K)) :
    (draw numbering next shown).Writable sort ↔ InstanceSort sort shown := by
  rw [draw, SExpr.writable_keyed (by decide), List.forall_mem_append,
    and_iff_left (writable_drawPins numbering (next + 1) shown.pinNumbers)]
  simp (disch := decide) [SExpr.writable_keyed, SExpr.writable_keyed_yesNo,
    Symbol.writable_property, Symbol.writable_placedAt, zero, one, font, InstanceSort]
  grind

theorem writable_drawWire {numbering : Nat → Nat} {next : Nat} {segment : WireSegment K}
    (zero : sort 0.0) :
    (drawWire numbering next segment).Writable sort ↔ WireSort sort segment := by
  simp (disch := decide) [drawWire, drawCorner, SExpr.writable_keyed, Symbol.writable_stroke, zero,
    WireSort]

theorem writable_header {numbering : Nat → Nat} {circuit : Circuit K} :
    (∀ tree ∈ header numbering circuit, tree.Writable sort) ↔
      sort (formatVersion : K) ∧
        ∀ entry ∈ (usedSymbols circuit).entries,
          (define entry.1 entry.2 : SExpr K).Writable sort := by
  have generatorFine : (SExpr.symbol generator : SExpr K).Writable sort :=
    SExpr.writable_symbol_of_isWord (by decide)
  simp (disch := decide) [header, symbolDefinitions, SExpr.writable_keyed, -SExpr.writable_symbol,
    generatorFine]
  grind

/-- A document is writable for a sort of numbers when all its numbers are of that sort. -/
theorem writable_document {numbering : Nat → Nat} {circuit : Circuit K}
    {routes : List (WireRoute K)}
    (zero : sort 0.0) (one : sort 1.0) (font : sort (Symbol.fontSize : K)) :
    (document numbering circuit routes).Writable sort ↔
      (sort (formatVersion : K) ∧
        ∀ entry ∈ (usedSymbols circuit).entries,
          (define entry.1 entry.2 : SExpr K).Writable sort) ∧
      (∀ shown ∈ instances circuit, InstanceSort sort shown) ∧
      ∀ segment ∈ segmentsOf routes, WireSort sort segment := by
  have footerFine : (footer : SExpr K).Writable sort := by
    simp (disch := decide) [footer, SExpr.writable_keyed]
  have symbolFine (next : Nat) (shown : Instance K) :
      (Instance.draw numbering next shown).Writable sort ↔ InstanceSort sort shown :=
    Instance.writable_draw zero one font
  have wireFine (next : Nat) (segment : WireSegment K) :
      (drawWire numbering next segment).Writable sort ↔ WireSort sort segment :=
    writable_drawWire zero
  rw [document, SExpr.writable_keyed (by decide), List.forall_mem_append, List.forall_mem_append,
    List.forall_mem_append, writable_header, List.forall_mem_singleton, and_iff_left footerFine,
    forall_mem_drawFrom symbolFine, forall_mem_drawFrom wireFine, and_assoc]

end Sheet
end CircuitSheet
