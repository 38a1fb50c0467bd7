import CircuitSheet.Proofs.Description.Entries
import CircuitSheet.Proofs.Description.ForeignSections

/-!
# Lines that add nothing

A line may be blank or a comment, and an entry may stand before every section, be malformed, or bear
a reference that is taken. Reading passes over such a line without a trace: neither the section that
is open nor the references that are taken change, so all that follows is read as without the line.
-/

namespace CircuitSheet
namespace Description

/-! ## The section of an entry -/

/-- The section that a line opens. -/
def opensSection? (line : List Char) : Option Section :=
  if isIdle line then none
  else
    match Line.of (Text.trim line) with
    | .sectionHeader opened => some opened
    | _ => none

/-- The section that the last section header among some lines opens. -/
def openSection? (lines : List (List Char)) : Option Section :=
  (lines.filterMap opensSection?).getLast?

theorem openSection?_concat (lines : List (List Char)) (line : List Char) :
    openSection? (lines ++ [line]) = (opensSection? line).or (openSection? lines) := by
  rw [openSection?, List.filterMap_append, List.getLast?_append, openSection?]
  congr 1
  cases opens : opensSection? line <;> simp [opens]

theorem openSection?_eq_none_iff {lines : List (List Char)} :
    openSection? lines = none ↔ ∀ line ∈ lines, opensSection? line = none := by
  rw [openSection?, List.getLast?_eq_none_iff, List.filterMap_eq_nil_iff]

/-- The line is blank, or a comment. -/
def HasNoContent (line : List Char) : Prop :=
  Text.trim line = [] ∨ (Text.trim line).head? = some '#'

instance (line : List Char) : Decidable (HasNoContent line) :=
  inferInstanceAs (Decidable (Text.trim line = [] ∨ (Text.trim line).head? = some '#'))

theorem isIdle_eq_true_iff {line : List Char} : isIdle line = true ↔ HasNoContent line := by
  rw [isIdle, HasNoContent]
  cases Text.trim line <;> simp

/-- A line with an entry is no header. -/
theorem not_isHeader_of_entryOf? {line entry : List Char} (isEntry : entryOf? line = some entry) :
    ¬IsHeader line := by
  rintro ⟨content, noEntry⟩
  rw [entryOf?, content, if_neg Bool.false_ne_true] at isEntry
  cases what : Line.of (Text.trim line) with
  | entry text => exact noEntry text what
  | circuitHeader rest => simp [what] at isEntry
  | sectionHeader opened => simp [what] at isEntry

variable {K : Type} [ScalarText K]

theorem readLines_concat (lines : List (List Char)) (line : List Char) :
    (readLines (lines ++ [line]) : Reading K) = (readLines lines).next line :=
  readLines_append lines [line]

theorem Reading.opened_next (reading : Reading K) (line : List Char) :
    (reading.next line).opened = (opensSection? line).or reading.opened := by
  cases idle : isIdle line with
  | true => simp [next, opensSection?, idle]
  | false =>
      cases what : Line.of (Text.trim line) with
      | entry text => cases opened : reading.opened <;>
          simp [next, opensSection?, idle, what, Reading.line, opened]
      | _ => simp [next, opensSection?, idle, what, Reading.line]

/-- The last section header decides which section is open. -/
theorem opened_readLines (lines : List (List Char)) :
    (readLines lines : Reading K).opened = openSection? lines := by
  induction lines using List.reverseRecOn with
  | nil => rfl
  | append_singleton lines line inductionHypothesis =>
      rw [readLines_concat, Reading.opened_next, inductionHypothesis, openSection?_concat]

/-! ## What an entry adds -/

/-- The entity that an entry of components or power symbols describes. -/
def entityOf? (part : Section) (entry : List Char) : Option (Entity K) :=
  match part with
  | .components => (component? entry).map Entity.component
  | .power => (power? entry).map Entity.power
  | .connections => none

/-- The entry is not of the form that its section asks for. -/
def IsMalformed (K : Type) [ScalarText K] (part : Section) (entry : List Char) : Prop :=
  match part with
  | .components => component? (K := K) entry = none
  | .power => power? (K := K) entry = none
  | .connections => connection? entry = none

theorem addEntry_of_malformed {part : Section} {entry : List Char}
    (malformed : IsMalformed K part entry) (circuit : Circuit K) :
    addEntry circuit part entry = circuit := by
  cases part with
  | components => rw [addEntry, show component? entry = none from malformed]; rfl
  | power => rw [addEntry, show power? entry = none from malformed]; rfl
  | connections => rw [addEntry, show connection? entry = none from malformed]; rfl

theorem addEntry_of_entityOf? {part : Section} {entry : List Char} {entity : Entity K}
    (described : entityOf? part entry = some entity) (circuit : Circuit K) :
    addEntry circuit part entry = circuit.addEntity entity := by
  cases part with
  | components =>
      obtain ⟨component, isComponent, rfl⟩ := Option.map_eq_some_iff.mp described
      rw [addEntry, isComponent]
      rfl
  | power =>
      obtain ⟨power, isPower, rfl⟩ := Option.map_eq_some_iff.mp described
      rw [addEntry, isPower]
      rfl
  | connections => cases described

/-- An entry is malformed, or describes an entity or a connection. -/
theorem malformed_or_described (K : Type) [ScalarText K] (part : Section) (entry : List Char) :
    IsMalformed K part entry ∨ (∃ entity : Entity K, entityOf? part entry = some entity) ∨
      part = .connections ∧ ∃ connection, connection? entry = some connection := by
  cases part with
  | components =>
      cases described : component? (K := K) entry with
      | none => exact .inl described
      | some component => exact .inr (.inl ⟨.component component, by simp [entityOf?, described]⟩)
  | power =>
      cases described : power? (K := K) entry with
      | none => exact .inl described
      | some power => exact .inr (.inl ⟨.power power, by simp [entityOf?, described]⟩)
  | connections =>
      cases described : connection? entry with
      | none => exact .inl described
      | some connection => exact .inr (.inr ⟨rfl, connection, rfl⟩)

theorem isDescribed_of_entityOf? {part : Section} {entry : List Char} {entity : Entity K}
    (described : entityOf? part entry = some entity) : entity.IsDescribed := by
  cases part with
  | components =>
      obtain ⟨component, isComponent, rfl⟩ := Option.map_eq_some_iff.mp described
      exact isDescribed_of_component? isComponent
  | power =>
      obtain ⟨power, isPower, rfl⟩ := Option.map_eq_some_iff.mp described
      exact isDescribed_of_power? isPower
  | connections => cases described

/-- An entry changes nothing exactly when it is malformed or bears a reference that is taken. -/
theorem addEntry_eq_self_iff {circuit : Circuit K} {part : Section} {entry : List Char} :
    addEntry circuit part entry = circuit ↔ IsMalformed K part entry ∨
      ∃ entity : Entity K, entityOf? part entry = some entity ∧
        circuit.isTaken entity.reference = true := by
  constructor
  · intro unchanged
    rcases malformed_or_described K part entry with
      malformed | ⟨entity, described⟩ | ⟨rfl, connection, described⟩
    · exact .inl malformed
    · refine .inr ⟨entity, described, ?_⟩
      rw [addEntry_of_entityOf? described] at unchanged
      by_contra free
      have grown := (Circuit.references_addEntity_perm (Bool.not_eq_true _ ▸ free)).length_eq
      rw [unchanged, List.length_cons] at grown
      omega
    · have grown := congrArg (·.connections.length) unchanged
      simp [addEntry, described, Circuit.addConnection] at grown
  · rintro (malformed | ⟨entity, described, taken⟩)
    · exact addEntry_of_malformed malformed circuit
    · rw [addEntry_of_entityOf? described, Circuit.addEntity_of_taken taken]

theorem isTaken_addEntry_iff {circuit : Circuit K} {part : Section} {entry : List Char}
    {reference : String} :
    (addEntry circuit part entry).isTaken reference = true ↔
      circuit.isTaken reference = true ∨
        ∃ entity : Entity K, entityOf? part entry = some entity ∧ entity.reference = reference := by
  rcases malformed_or_described K part entry with
    malformed | ⟨entity, described⟩ | ⟨rfl, connection, described⟩
  · have none : (entityOf? part entry : Option (Entity K)) = none := by
      cases part with
      | components => rw [entityOf?, show component? entry = none from malformed]; rfl
      | power => rw [entityOf?, show power? entry = none from malformed]; rfl
      | connections => rfl
    simp [addEntry_of_malformed malformed, none]
  · have named : entity.reference ≠ "" := (isDescribed_of_entityOf? described).reference.content
    rw [addEntry_of_entityOf? described]
    simp only [described, Option.some.injEq, exists_eq_left']
    cases taken : circuit.isTaken entity.reference with
    | true =>
        rw [Circuit.addEntity_of_taken taken]
        exact ⟨.inl, fun either => either.elim id fun same => same ▸ taken⟩
    | false =>
        rw [Circuit.isTaken_eq_true_iff, Circuit.isTaken_eq_true_iff,
          (Circuit.references_addEntity_perm taken).mem_iff, List.mem_cons]
        constructor
        · rintro ⟨content, rfl | member⟩
          · exact .inr rfl
          · exact .inl ⟨content, member⟩
        · rintro (⟨content, member⟩ | rfl)
          · exact ⟨content, .inr member⟩
          · exact ⟨named, .inl rfl⟩
  · rw [addEntry, described]
    simp [entityOf?, Circuit.isTaken_eq_true_iff, Circuit.references_eq, Circuit.addConnection]

/-! ## References that are taken -/

/-- The line is an entry of components or power symbols, given the section that is open, and bears
the reference. -/
def BearsIn (K : Type) [ScalarText K] (opened : Option Section) (line : List Char)
    (reference : String) : Prop :=
  ∃ part entry, ∃ entity : Entity K, opened = some part ∧ entryOf? line = some entry ∧
    entityOf? part entry = some entity ∧ entity.reference = reference

/-- One of the lines is an entry of components or power symbols and bears the reference. -/
def Bears (K : Type) [ScalarText K] (lines : List (List Char)) (reference : String) : Prop :=
  ∃ before line after, lines = before ++ line :: after ∧
    BearsIn K (openSection? before) line reference

theorem bears_concat_iff {lines : List (List Char)} {line : List Char} {reference : String} :
    Bears K (lines ++ [line]) reference ↔
      Bears K lines reference ∨ BearsIn K (openSection? lines) line reference := by
  constructor
  · rintro ⟨before, bearing, after, whole, bears⟩
    rcases List.eq_nil_or_concat' after with rfl | ⟨after, last, rfl⟩
    · obtain ⟨rfl, last⟩ := List.append_inj' whole rfl
      obtain rfl := (List.cons.inj last).1
      exact .inr bears
    · rw [← List.cons_append, ← List.append_assoc] at whole
      exact .inl ⟨before, bearing, after, (List.append_inj' whole rfl).1, bears⟩
  · rintro (⟨before, bearing, after, rfl, bears⟩ | bears)
    · exact ⟨before, bearing, after ++ [line], by simp, bears⟩
    · exact ⟨lines, line, [], rfl, bears⟩

/-- A line without an entry may rename the circuit and open a section. -/
theorem Reading.references_next_of_none {line : List Char} (noEntry : entryOf? line = none)
    (reading : Reading K) :
    (reading.next line).circuit.references = reading.circuit.references := by
  cases idle : isIdle line with
  | true => simp [next, idle]
  | false =>
      cases what : Line.of (Text.trim line) with
      | entry text => simp [entryOf?, idle, what] at noEntry
      | _ => simp [next, idle, what, Reading.line, Circuit.references_eq]

theorem Reading.isTaken_next_iff {reading : Reading K} {line : List Char} {reference : String} :
    (reading.next line).circuit.isTaken reference = true ↔
      reading.circuit.isTaken reference = true ∨ BearsIn K reading.opened line reference := by
  unfold BearsIn
  cases isEntry : entryOf? line with
  | none =>
      simp [Circuit.isTaken_eq_true_iff, references_next_of_none isEntry]
  | some entry =>
      rw [Reading.next_eq (not_isHeader_of_entryOf? isEntry), isEntry]
      cases opened : reading.opened with
      | none => simp
      | some part => simp [isTaken_addEntry_iff]

/-- The references that are taken are those that entries bear. -/
theorem isTaken_readLines_iff {lines : List (List Char)} {reference : String} :
    (readLines lines : Reading K).circuit.isTaken reference = true ↔ Bears K lines reference := by
  induction lines using List.reverseRecOn with
  | nil =>
      have nothing : ¬Bears K [] reference := by
        rintro ⟨before, line, after, whole, -⟩
        simp at whole
      simp [readLines, nothing]
  | append_singleton lines line inductionHypothesis =>
      rw [readLines_concat, Reading.isTaken_next_iff, inductionHypothesis, bears_concat_iff,
        opened_readLines]

/-! ## Lines that add nothing -/

/-- A line that adds nothing below the lines before it: it is blank or a comment, or it is an entry
that stands in no section, is malformed, or bears the reference of an earlier entry. -/
inductive IsVoid (K : Type) [ScalarText K] (before : List (List Char)) (line : List Char) : Prop
  | idle (noContent : HasNoContent line)
  | unplaced (entry : List Char) (isEntry : entryOf? line = some entry)
      (noSection : ∀ earlier ∈ before, opensSection? earlier = none)
  | malformed (entry : List Char) (part : Section) (isEntry : entryOf? line = some entry)
      (opened : openSection? before = some part) (malformed : IsMalformed K part entry)
  | taken (reference : String) (bears : BearsIn K (openSection? before) line reference)
      (taken : Bears K before reference)

theorem entryOf?_eq_none_iff {line : List Char} (noHeader : ¬IsHeader line) :
    entryOf? line = none ↔ isIdle line = true := by
  constructor
  · intro noEntry
    by_contra content
    rw [Bool.not_eq_true] at content
    refine noHeader ⟨content, fun text what => ?_⟩
    simp [entryOf?, content, what] at noEntry
  · intro idle
    rw [entryOf?, idle, if_pos rfl]

/-- A line that is no header changes nothing exactly when it has no content, no section is open, or
its entry adds nothing. -/
theorem Reading.next_eq_self_iff {reading : Reading K} {line : List Char}
    (noHeader : ¬IsHeader line) :
    reading.next line = reading ↔ ∀ part entry, reading.opened = some part →
      entryOf? line = some entry → addEntry reading.circuit part entry = reading.circuit := by
  rw [next_eq noHeader]
  rcases reading with ⟨circuit, _ | part⟩
  · simp
  · cases entryOf? line <;> simp

/-- Void lines are those that change nothing where they stand. -/
theorem next_readLines_eq_self_iff {before : List (List Char)} {line : List Char}
    (noHeader : ¬IsHeader line) :
    (readLines before : Reading K).next line = readLines before ↔ IsVoid K before line := by
  rw [Reading.next_eq_self_iff noHeader, opened_readLines]
  constructor
  · intro unchanged
    cases isEntry : entryOf? line with
    | none => exact .idle (isIdle_eq_true_iff.mp ((entryOf?_eq_none_iff noHeader).mp isEntry))
    | some entry =>
        cases opened : openSection? before with
        | none => exact .unplaced entry isEntry (openSection?_eq_none_iff.mp opened)
        | some part =>
            have same := unchanged part entry opened isEntry
            rcases addEntry_eq_self_iff.mp same with malformed | ⟨entity, described, taken⟩
            · exact .malformed entry part isEntry opened malformed
            · exact .taken entity.reference ⟨part, entry, entity, opened, isEntry, described, rfl⟩
                (isTaken_readLines_iff.mp taken)
  · intro void part entry opened isEntry
    refine addEntry_eq_self_iff.mpr ?_
    cases void with
    | idle noContent =>
        rw [(entryOf?_eq_none_iff noHeader).mpr (isIdle_eq_true_iff.mpr noContent)] at isEntry
        cases isEntry
    | unplaced _ _ noSection =>
        rw [openSection?_eq_none_iff.mpr noSection] at opened
        cases opened
    | malformed entry part isEntry' opened' malformed =>
        cases opened.symm.trans opened'
        cases isEntry.symm.trans isEntry'
        exact .inl malformed
    | taken reference bears taken =>
        obtain ⟨part, entry, entity, opened', isEntry', described, rfl⟩ := bears
        cases opened.symm.trans opened'
        cases isEntry.symm.trans isEntry'
        exact .inr ⟨entity, described, isTaken_readLines_iff.mpr taken⟩

/-- A void line is no header. -/
theorem IsVoid.not_isHeader {before : List (List Char)} {line : List Char}
    (void : IsVoid K before line) : ¬IsHeader line := by
  cases void with
  | idle noContent =>
      rintro ⟨content, -⟩
      rw [isIdle_eq_true_iff.mpr noContent] at content
      cases content
  | unplaced entry isEntry _ => exact not_isHeader_of_entryOf? isEntry
  | malformed entry part isEntry _ _ => exact not_isHeader_of_entryOf? isEntry
  | taken reference bears _ =>
      obtain ⟨_, _, _, _, isEntry, _, _⟩ := bears
      exact not_isHeader_of_entryOf? isEntry

/-- With a void line or without it, the same is read in the end. -/
theorem readLines_void {before : List (List Char)} {line : List Char}
    (void : IsVoid K before line) (after : List (List Char)) :
    (readLines (before ++ line :: after) : Reading K) = readLines (before ++ after) := by
  rw [readLines_append, List.foldl_cons, (next_readLines_eq_self_iff void.not_isHeader).mpr void,
    ← readLines_append]

/-! ## Texts with void lines -/

theorem isEmptyText_eq_true_iff {text : List Char} :
    isEmptyText text = true ↔ ∀ line ∈ Text.lines text, HasNoContent line := by
  simp only [isEmptyText, List.all_eq_true, isIdle_eq_true_iff]

theorem parseLines_eq_error_iff {text : List Char} :
    (parseLines text : Except Error (Circuit K)) = .error .empty ↔
      ∀ line ∈ Text.lines text, HasNoContent line := by
  rw [← isEmptyText_eq_true_iff, parseLines]
  cases isEmptyText text <;> simp

/-- A text with content describes what is read in the end. -/
theorem parseLines_of_content {text : List Char}
    (content : ∃ line ∈ Text.lines text, ¬HasNoContent line) :
    (parseLines text : Except Error (Circuit K)) = .ok (readLines (Text.lines text)).circuit := by
  have notEmpty : isEmptyText text = false := by
    rw [← Bool.not_eq_true, isEmptyText_eq_true_iff]
    push Not
    exact content
  rw [parseLines, notEmpty]
  rfl

/-- A text in line form is called empty exactly when all its lines are blank or comments, and
otherwise it describes a circuit. Of two texts one may have a void line more than the other. As long
as any other line has content, both describe the same circuit; a void line that is itself blank or a
comment makes no difference in any case. -/
theorem parseLines_void :
    (∀ text, (parseLines text : Except Error (Circuit K)) = .error .empty ↔
      ∀ line ∈ Text.lines text, HasNoContent line) ∧
    (∀ text, (∃ line ∈ Text.lines text, ¬HasNoContent line) →
      ∃ circuit : Circuit K, parseLines text = .ok circuit) ∧
    ∀ longer shorter before line after, Text.lines longer = before ++ line :: after →
      Text.lines shorter = before ++ after → IsVoid K before line →
      ((∃ kept ∈ before ++ after, ¬HasNoContent kept) ∨ HasNoContent line) →
      (parseLines longer : Except Error (Circuit K)) = parseLines shorter := by
  refine ⟨fun text => parseLines_eq_error_iff,
    fun text content => ⟨_, parseLines_of_content content⟩, ?_⟩
  intro longer shorter before line after linesLonger linesShorter void remains
  by_cases content : ∃ kept ∈ before ++ after, ¬HasNoContent kept
  · obtain ⟨kept, member, keptContent⟩ := content
    have inLonger : kept ∈ before ++ line :: after :=
      ((List.sublist_cons_self line after).append_left before).subset member
    rw [parseLines_of_content ⟨kept, linesLonger ▸ inLonger, keptContent⟩,
      parseLines_of_content ⟨kept, linesShorter ▸ member, keptContent⟩, linesLonger, linesShorter,
      readLines_void void]
  · have noContent : HasNoContent line := remains.resolve_left content
    push Not at content
    have shorterEmpty : (parseLines shorter : Except Error (Circuit K)) = .error .empty :=
      parseLines_eq_error_iff.mpr (linesShorter ▸ content)
    have longerEmpty : (parseLines longer : Except Error (Circuit K)) = .error .empty := by
      rw [parseLines_eq_error_iff, linesLonger]
      rw [List.forall_mem_append] at content ⊢
      exact ⟨content.1, List.forall_mem_cons.mpr ⟨noContent, content.2⟩⟩
    rw [shorterEmpty, longerEmpty]

/-- A lamp, and a section of power symbols. -/
def lampAndPowerLines : List (List Char) :=
  ["circuit: x".toList, "components:".toList, "R1 led red (20, 30)".toList, "power:".toList]

/-- A power symbol that bears the reference of the lamp. -/
def takenLine : List Char := "- R1: GND at (5, 5)".toList

/-- A power symbol with a reference of its own. -/
def freeLine : List Char := "- G1: GND at (5, 9)".toList

/-- All these lines in one text. -/
def takenText : List Char :=
  ("circuit: x\ncomponents:\nR1 led red (20, 30)\npower:\n" ++
    "- R1: GND at (5, 5)\n- G1: GND at (5, 9)\n").toList

/-- The text without the power symbol that bears the reference of the lamp. -/
def freeText : List Char :=
  "circuit: x\ncomponents:\nR1 led red (20, 30)\npower:\n- G1: GND at (5, 9)\n".toList

theorem isVoid_takenLine : IsVoid Float lampAndPowerLines takenLine := by
  refine .taken "R1" ?_ ?_
  · exact ⟨.power, "R1: GND at (5, 5)".toList, .power ⟨"R1", "GND", ⟨5, 5⟩⟩, by decide +kernel⟩
  · exact ⟨["circuit: x".toList, "components:".toList], "R1 led red (20, 30)".toList,
      ["power:".toList], rfl, .components, "R1 led red (20, 30)".toList,
      .component (Component.ofKind "R1" .led "red" ⟨20, 30⟩), by decide +kernel⟩

theorem parseLines_void_taken :
    IsVoid Float lampAndPowerLines takenLine ∧
      (parseLines takenText : Except Error (Circuit Float)) = parseLines freeText := by
  have linesTaken : Text.lines takenText = lampAndPowerLines ++ takenLine :: [freeLine, []] := by
    decide +kernel
  have linesFree : Text.lines freeText = lampAndPowerLines ++ [freeLine, []] := by
    decide +kernel
  have remains : ∃ kept ∈ lampAndPowerLines ++ [freeLine, []], ¬HasNoContent kept :=
    ⟨freeLine, by simp, by decide +kernel⟩
  exact ⟨isVoid_takenLine, parseLines_void.2.2 takenText freeText lampAndPowerLines takenLine
    [freeLine, []] linesTaken linesFree isVoid_takenLine (.inl remains)⟩

end Description
end CircuitSheet
