import CircuitSheet.Proofs.Binary64.Turning
import CircuitSheet.Proofs.Circuit.PowerKeys
import CircuitSheet.Proofs.Sheet.Writable

/-!
# Only coordinates keep a sheet from being written

The definitions of symbols hold finite numbers whatever the texts of a circuit are. So a sheet is
written exactly when the places of its symbols and the ends of its wires are finite in file units.
-/

namespace CircuitSheet

variable {sine cosine : Float → Float}

/-! ## Definitions -/

namespace Binary64

/-- The numbers of a pin are of moderate size, and its angles are finite. -/
def isDrawable (pin : Pin Float) : Bool :=
  isModerate pin.offset.x && isModerate pin.offset.y && isModerate pin.length &&
    (Scalar.radians pin.angle).isFinite && (Scalar.modulo (pin.angle + 180.0) 360.0).isFinite

/-- The body that reaches to some pins has finite corners. -/
def isBounded (pins : List (Pin Float)) : Bool :=
  let width := Symbol.reach (pins.map (·.offset.x))
  let height := Symbol.reach (pins.map (·.offset.y))
  width.isFinite && height.isFinite && (-width).isFinite && (-height).isFinite

theorem isDrawable_of_mem_pins {kind : Kind} {pin : Pin Float} (member : pin ∈ kind.pins) :
    isDrawable pin = true := by
  have all : (kind.pins : List (Pin Float)).all isDrawable = true := by
    cases kind <;> first
      | decide +kernel
      | exact (by decide +kernel : (Pin.pair "~" "~" : List (Pin Float)).all isDrawable = true)
  exact List.all_eq_true.mp all pin member

theorem isBounded_pins (kind : Kind) : isBounded kind.pins = true := by
  cases kind <;> first
    | decide +kernel
    | exact (by decide +kernel : isBounded (Pin.pair "~" "~") = true)

theorem isDrawable_ofRail (rail : String) : isDrawable (Pin.ofRail rail) = true := by
  -- Neither the name nor the role of a pin is a number.
  change isDrawable ⟨"1", "", .powerIn, .power, Point.origin, 0.0, 0.0⟩ = true
  decide +kernel

theorem isFinite_constants : ∀ length ∈ (Symbol.constants : List Float), length.isFinite = true := by
  decide +kernel

end Binary64

namespace Turning

theorem pins_eq (kind : Kind) :
    (kind.pins : List (Pin (Turning sine cosine))) = (kind.pins : List (Pin Float)) := by
  cases kind <;> rfl

end Turning

namespace Sheet

section

variable (sineWithin : StaysWithinOne sine) (cosineWithin : StaysWithinOne cosine)
include sineWithin cosineWithin

/-- A pin is drawn at a finite place. -/
theorem pinSort_isFinite {pin : Pin (Turning sine cosine)}
    (drawable : Binary64.isDrawable pin = true) : Symbol.PinSort SExpr.IsFinite pin := by
  simp only [Binary64.isDrawable, Bool.and_eq_true] at drawable
  obtain ⟨⟨⟨⟨x, y⟩, length⟩, turn⟩, angle⟩ := drawable
  obtain ⟨cosineLow, cosineHigh⟩ := cosineWithin _ turn
  obtain ⟨sineLow, sineHigh⟩ := sineWithin _ turn
  exact ⟨Binary64.isFinite_roundTo_add_mul x length cosineLow cosineHigh,
    Binary64.isFinite_roundTo_add_mul y length sineLow sineHigh, angle,
    (Binary64.spec_of_isModerate length).1⟩

/-- The definition of a symbol is writable, whatever its name is. -/
theorem writable_define_isFinite (name : String) (origin : SymbolOrigin) :
    (define name origin : SExpr (Turning sine cosine)).Writable SExpr.IsFinite := by
  have constants : ∀ length ∈ (Symbol.constants : List (Turning sine cosine)),
      SExpr.IsFinite length := Binary64.isFinite_constants
  cases origin with
  | kind kind =>
      refine Symbol.writable_ofKind constants (fun pin member => ?_) ?_
      · rw [Turning.pins_eq] at member
        exact pinSort_isFinite sineWithin cosineWithin (Binary64.isDrawable_of_mem_pins member)
      · have bounded := Binary64.isBounded_pins kind
        simp only [Binary64.isBounded, Bool.and_eq_true] at bounded
        obtain ⟨⟨⟨width, height⟩, left⟩, top⟩ := bounded
        have line : SExpr.IsFinite (0.254 : Turning sine cosine) :=
          constants _ (List.mem_cons_of_mem _ List.mem_cons_self)
        rw [Symbol.writable_bodyRectangle, Turning.pins_eq]
        exact ⟨left, top, width, height, line⟩
  | rail =>
      exact Symbol.writable_ofRail constants
        (pinSort_isFinite sineWithin cosineWithin (Binary64.isDrawable_ofRail _))

end

/-! ## Coordinates -/

/-- A point has finite coordinates in file units. -/
def InFile {K : Type} [Scalar K] (point : Point K) : Prop :=
  Scalar.isFinite (toFileUnits point.x) = true ∧ Scalar.isFinite (toFileUnits point.y) = true

/-- The labels of a symbol have finite places when the symbol has one. -/
theorem instanceSort_isFinite_iff (shown : Instance (Turning sine cosine)) :
    InstanceSort SExpr.IsFinite shown ↔ InFile shown.position := by
  constructor
  · exact fun sorts => sorts.1
  · intro inFile
    have across : Binary64.isModerate (toFileUnits 2.54) = true := by
      decide +kernel
    have down : Binary64.isModerate (toFileUnits 1.27) = true := by
      decide +kernel
    obtain ⟨acrossFinite, acrossSmall⟩ := Binary64.spec_of_isModerate across
    obtain ⟨downFinite, downSmall⟩ := Binary64.spec_of_isModerate down
    have atRight := Binary64.isFinite_add_and_sub inFile.1 acrossFinite
      (acrossSmall.trans (by norm_num))
    have around := Binary64.isFinite_add_and_sub inFile.2 downFinite
      (downSmall.trans (by norm_num))
    exact ⟨inFile, atRight.1, around.2, around.1⟩

theorem forall_instances_iff {K : Type} [ScalarText K] {fine : Point K → Prop} (circuit : Circuit K) :
    (∀ shown ∈ instances circuit, fine shown.position) ↔
      (∀ component ∈ circuit.components, fine component.position) ∧
        ∀ power ∈ circuit.powers, fine power.position := by
  rw [instances, List.forall_mem_append, List.forall_mem_map, List.forall_mem_map,
    ← circuit.map_fst_keyedPowers, List.forall_mem_map]
  rfl

/-- Whatever the texts of a circuit are, it is written exactly when its symbols and the ends of
its wires have finite coordinates in file units. The tree that is read from the text is the
document of the circuit up to the signs of its zeros. -/
theorem writeNumbered_iff_inFile (sineWithin : StaysWithinOne sine)
    (cosineWithin : StaysWithinOne cosine) (numbering : ℕ → ℕ)
    (circuit : Circuit (Turning sine cosine)) (routes : List (WireRoute (Turning sine cosine))) :
    ((∃ text, writeNumbered numbering circuit routes = .ok text) ↔
      (∀ component ∈ circuit.components, InFile component.position) ∧
      (∀ power ∈ circuit.powers, InFile power.position) ∧
      ∀ route ∈ routes, ∀ segment ∈ route.segments,
        InFile segment.start ∧ InFile segment.stop) ∧
    ∀ text, writeNumbered numbering circuit routes = .ok text →
      SExpr.parse text = .ok (document numbering circuit routes).asRead ∧
        (document numbering circuit routes).alike Scalar.same
          (document numbering circuit routes).asRead = true := by
  refine ⟨?_, fun text written => Turning.parse_of_write written⟩
  have constants : ∀ length ∈ (Symbol.constants : List (Turning sine cosine)),
      SExpr.IsFinite length := Binary64.isFinite_constants
  have zero : SExpr.IsFinite (0.0 : Turning sine cosine) := constants _ List.mem_cons_self
  have font : SExpr.IsFinite (Symbol.fontSize : Turning sine cosine) :=
    constants _ (by simp [Symbol.constants, Symbol.fontSize])
  have one : (1.0 : Float).isFinite = true := by
    decide +kernel
  have version : (20241201.0 : Float).isFinite = true := by
    decide +kernel
  have written : (∃ text, writeNumbered numbering circuit routes = .ok text) ↔
      (document numbering circuit routes).Writable SExpr.IsFinite := by
    simp only [writeNumbered, SExpr.write_eq_ok_iff, exists_and_left, exists_eq, and_true]
  have segments : (∀ segment ∈ segmentsOf routes, WireSort SExpr.IsFinite segment) ↔
      ∀ route ∈ routes, ∀ segment ∈ route.segments,
        InFile segment.start ∧ InFile segment.stop := by
    simp only [segmentsOf, List.mem_flatMap, forall_exists_index, and_imp]
    exact ⟨fun fine route drawn segment member => fine segment route drawn member,
      fun fine segment route drawn member => fine route drawn segment member⟩
  rw [written, writable_document zero one font, segments,
    and_iff_right ⟨version, fun entry _ =>
      writable_define_isFinite sineWithin cosineWithin entry.1 entry.2⟩]
  simp only [instanceSort_isFinite_iff]
  rw [forall_instances_iff, and_assoc]

/-- Quotes, parentheses, line breaks and flags stand in all texts of a circuit. -/
def hostileCircuit : Circuit (Turning quarterSine quarterCosine) where
  name := "\") (wire"
  components :=
    [{ reference := "R1\n(symbol", kind := .other "no", value := "yes",
       library := "(in_bom", symbol := "\"no\\", position := ⟨(50.0 : Float), (-20.5 : Float)⟩ }]
  powers := [⟨"", "+5V) (dnp yes", ⟨(50.0 : Float), (20.0 : Float)⟩⟩]
  connections := []

/-- A route of one wire with a hostile name. -/
def hostileRoute : WireRoute (Turning quarterSine quarterCosine) where
  netName := "(((("
  segments :=
    [⟨⟨(50.0 : Float), (20.0 : Float)⟩, ⟨(50.0 : Float), (80.0 : Float)⟩, .vertical⟩]
  connectedPins := ["\""]
  priority := 1

theorem writeNumbered_iff_inFile_hostile :
    StaysWithinOne quarterSine ∧ StaysWithinOne quarterCosine ∧
      ∃ text,
        writeNumbered (Identifier.consecutive 1) hostileCircuit [hostileRoute] = .ok text ∧
          SExpr.parse text =
            .ok (document (Identifier.consecutive 1) hostileCircuit [hostileRoute]).asRead ∧
          (document (Identifier.consecutive 1) hostileCircuit [hostileRoute]).alike Scalar.same
            (document (Identifier.consecutive 1) hostileCircuit [hostileRoute]).asRead = true := by
  obtain ⟨written, readBack⟩ := writeNumbered_iff_inFile staysWithinOne_quarterSine
    staysWithinOne_quarterCosine (Identifier.consecutive 1) hostileCircuit [hostileRoute]
  have inFile : (∀ component ∈ hostileCircuit.components, InFile component.position) ∧
      (∀ power ∈ hostileCircuit.powers, InFile power.position) ∧
      ∀ route ∈ [hostileRoute], ∀ segment ∈ route.segments,
        InFile segment.start ∧ InFile segment.stop := by
    unfold InFile
    decide +kernel
  obtain ⟨text, isText⟩ := written.mpr inFile
  exact ⟨staysWithinOne_quarterSine, staysWithinOne_quarterCosine, text, isText,
    readBack text isText⟩

end Sheet
end CircuitSheet
