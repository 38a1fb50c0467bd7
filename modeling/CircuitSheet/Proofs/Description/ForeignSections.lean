import CircuitSheet.Binary64
import CircuitSheet.Description.Dialect
import CircuitSheet.Proofs.Text.Trimming
import CircuitSheet.Proofs.Text.Words

/-!
# Foreign sections

A description may hold sections that are none of a circuit. The block form passes over them. The
line form does not know them: the header of one is read as an entry, and the section that was
open before stays open and takes the entries below it.
-/

namespace CircuitSheet
namespace Description

/-! ## Lines between headers -/

/-- The entry that a line holds, whichever section it stands in. -/
def entryOf? (line : List Char) : Option (List Char) :=
  if isIdle line then none
  else
    match Line.of (Text.trim line) with
    | .entry text => some text
    | _ => none

/-- The line names the circuit or opens a section. -/
def IsHeader (line : List Char) : Prop :=
  isIdle line = false ∧ ∀ text, Line.of (Text.trim line) ≠ .entry text

/-- The line is a word with a colon at its end that neither names the circuit nor opens one of its
sections. -/
def IsForeignHeader (line : List Char) : Prop :=
  ∃ word, Text.trim line = word ++ [':'] ∧ word ≠ [] ∧ ':' ∉ word ∧ word.head? ≠ some '#' ∧
    Section.ofHeader? word = none ∧ Text.sameLetters (Text.trim word) "circuit".toList = false

variable {K : Type} [ScalarText K]

/-- What has been read after some lines of a description. -/
def readLines (lines : List (List Char)) : Reading K :=
  lines.foldl Reading.next ⟨Circuit.named untitled, none⟩

theorem readLines_append (first second : List (List Char)) :
    (readLines (first ++ second) : Reading K) = second.foldl Reading.next (readLines first) :=
  List.foldl_append

/-- The entry of a line joins the section that is open. -/
theorem Reading.next_eq {line : List Char} (noHeader : ¬IsHeader line) (reading : Reading K) :
    reading.next line =
      match reading.opened, entryOf? line with
      | some opened, some entry =>
          { reading with circuit := addEntry reading.circuit opened entry }
      | _, _ => reading := by
  rw [Reading.next, entryOf?]
  split
  case isTrue => cases reading.opened <;> rfl
  case isFalse content =>
    cases line? : Line.of (Text.trim line) with
    | entry text => rcases reading with ⟨circuit, _ | opened⟩ <;> rfl
    | circuitHeader rest => exact absurd ⟨by simpa using content, by simp [line?]⟩ noHeader
    | sectionHeader opened => exact absurd ⟨by simpa using content, by simp [line?]⟩ noHeader

/-- What has been read after some entries: up to the next header all of them join the section that
is open, and without a section they are lost. -/
def Reading.joined (reading : Reading K) (lines : List (List Char)) : Reading K :=
  match reading.opened with
  | some opened =>
      { reading with
        circuit := (lines.filterMap entryOf?).foldl (addEntry · opened ·) reading.circuit }
  | none => reading

theorem Reading.foldl_next_eq_joined {lines : List (List Char)}
    (noHeaders : ∀ line ∈ lines, ¬IsHeader line) (reading : Reading K) :
    lines.foldl Reading.next reading = reading.joined lines := by
  induction lines generalizing reading with
  | nil => rcases reading with ⟨circuit, _ | opened⟩ <;> rfl
  | cons line rest inductionHypothesis =>
      obtain ⟨noHeader, others⟩ := List.forall_mem_cons.mp noHeaders
      rw [List.foldl_cons, inductionHypothesis others, Reading.next_eq noHeader]
      rcases reading with ⟨circuit, _ | opened⟩
      · rfl
      · cases entry? : entryOf? line <;> simp [joined, entry?]

/-! ## Headers that are not known -/

/-- A colon at the end of a header makes no difference. -/
theorem ofHeader?_append_colon {word : List Char}
    (trimmed : Text.trim (word ++ [':']) = word ++ [':']) (undivided : ':' ∉ word) :
    Section.ofHeader? (word ++ [':']) = Section.ofHeader? word := by
  have noColon : ∀ text : List Char, ':' ∉ text → dropTrailing (· == ':') text = text := by
    intro text absent
    refine List.rdropWhile_eq_self_iff.mpr fun content isColon => absent ?_
    exact eq_of_beq isColon ▸ List.getLast_mem content
  have dropped : dropTrailing (· == ':') (word ++ [':']) = word :=
    (List.rdropWhile_concat_pos _ _ _ rfl).trans (noColon word undivided)
  have trimmedWord : ':' ∉ Text.trim word := fun member =>
    undivided ((Text.trim_sublist word).mem member)
  unfold Section.ofHeader?
  rw [trimmed, dropped, noColon _ trimmedWord, Text.trim_trim]

/-- A header that is not known is read as an entry. -/
theorem IsForeignHeader.not_isHeader {line : List Char} (foreignHeader : IsForeignHeader line) :
    ¬IsHeader line := by
  obtain ⟨word, trimmed, -, undivided, -, unknown, noCircuit⟩ := foreignHeader
  rintro ⟨-, noEntry⟩
  have again : Text.trim (word ++ [':']) = word ++ [':'] := by rw [← trimmed, Text.trim_trim]
  have unnamed : circuitHeader? (word ++ [':']) = none := by
    rw [circuitHeader?, Text.cutAt?_append undivided]
    simp only [noCircuit, Bool.false_eq_true, if_false]
  have unopened : sectionHeader? (word ++ [':']) = none := by
    rw [sectionHeader?, List.getLast?_concat, if_pos rfl, ofHeader?_append_colon again undivided,
      unknown]
  refine noEntry (dropDash (word ++ [':'])) ?_
  rw [trimmed, Line.of, unnamed, unopened]

/-- A header that is not known is a line with content. -/
theorem IsForeignHeader.isIdle_eq_false {line : List Char}
    (foreignHeader : IsForeignHeader line) : isIdle line = false := by
  obtain ⟨word, trimmed, content, -, noComment, -, -⟩ := foreignHeader
  rw [isIdle, trimmed]
  cases word with
  | nil => exact absurd rfl content
  | cons first rest => simpa using noComment

/-! ## Entries that add nothing -/

/-- How many things a circuit holds. -/
def size (circuit : Circuit K) : Nat :=
  circuit.components.length + circuit.powers.length + circuit.connections.length

/-- An entry adds something or changes nothing. -/
theorem addEntry_eq_or_size_lt (circuit : Circuit K) (opened : Section) (entry : List Char) :
    addEntry circuit opened entry = circuit ∨
      size circuit < size (addEntry circuit opened entry) := by
  cases opened with
  | components =>
      rw [addEntry]
      cases component? (K := K) entry with
      | none => exact .inl rfl
      | some component =>
          simp only [Option.map_some, Option.getD_some, Circuit.addComponent,
            Circuit.addComponent?]
          split
          · exact .inl rfl
          · simp [size]
  | power =>
      rw [addEntry]
      cases power? (K := K) entry with
      | none => exact .inl rfl
      | some power =>
          simp only [Option.map_some, Option.getD_some, Circuit.addPower, Circuit.addPower?]
          split
          · exact .inl rfl
          · simp [size]
  | connections =>
      rw [addEntry]
      cases connection? entry with
      | none => exact .inl rfl
      | some connection => simp [size, Circuit.addConnection]

theorem size_le_foldl_addEntry (circuit : Circuit K) (opened : Section)
    (entries : List (List Char)) :
    size circuit ≤ size (entries.foldl (addEntry · opened ·) circuit) := by
  induction entries generalizing circuit with
  | nil => exact le_refl _
  | cons entry rest inductionHypothesis =>
      refine le_trans ?_ (inductionHypothesis _)
      rcases addEntry_eq_or_size_lt circuit opened entry with same | grown
      · exact (congrArg size same).ge
      · exact grown.le

/-- Entries change nothing together when each of them adds nothing. -/
theorem foldl_addEntry_eq_self_iff {circuit : Circuit K} {opened : Section}
    {entries : List (List Char)} :
    entries.foldl (addEntry · opened ·) circuit = circuit ↔
      ∀ entry ∈ entries, addEntry circuit opened entry = circuit := by
  induction entries with
  | nil => simp
  | cons entry rest inductionHypothesis =>
      rw [List.foldl_cons, List.forall_mem_cons]
      constructor
      · intro unchanged
        have same : addEntry circuit opened entry = circuit := by
          rcases addEntry_eq_or_size_lt circuit opened entry with same | grown
          · exact same
          · have kept := size_le_foldl_addEntry (addEntry circuit opened entry) opened rest
            rw [unchanged] at kept
            exact absurd grown kept.not_gt
        rw [same] at unchanged
        exact ⟨same, inductionHypothesis.mp unchanged⟩
      · rintro ⟨same, others⟩
        rw [same]
        exact inductionHypothesis.mpr others

/-- The circuit stays as it is when no section is open, or no entry adds anything to the one that
is. -/
theorem Reading.circuit_joined_eq_self_iff {reading : Reading K} {lines : List (List Char)} :
    (reading.joined lines).circuit = reading.circuit ↔
      ∀ opened, reading.opened = some opened →
        ∀ line ∈ lines, ∀ entry, entryOf? line = some entry →
          addEntry reading.circuit opened entry = reading.circuit := by
  rcases reading with ⟨circuit, _ | opened⟩
  · simp [joined]
  · simp only [joined, foldl_addEntry_eq_self_iff, List.mem_filterMap, Option.some.injEq,
      forall_eq', forall_exists_index, and_imp]
    exact ⟨fun all line member entry holds => all entry line member holds,
      fun all entry line member holds => all line member entry holds⟩

/-- The section that is open stays open. -/
theorem Reading.joined_eq_self {reading : Reading K} {lines : List (List Char)}
    (unchanged : (reading.joined lines).circuit = reading.circuit) :
    reading.joined lines = reading := by
  rcases reading with ⟨circuit, _ | opened⟩
  · rfl
  · exact congrArg (Reading.mk · (some opened)) unchanged

/-! ## The block form -/

/-- Whether a section of a document in block form is one of a circuit. -/
def isKnownSection (entry : Yaml.Value × Yaml.Value) : Bool :=
  ((entry.1.scalarText?).bind fun header => Section.ofHeader? header.toList).isSome

/-- A document without its foreign sections. -/
def withoutForeign : Yaml.Value → Yaml.Value
  | .mapping ((header, .mapping sections) :: others) =>
      .mapping ((header, .mapping (sections.filter isKnownSection)) :: others)
  | value => value

theorem addSection_of_foreign {entry : Yaml.Value × Yaml.Value}
    (unknown : isKnownSection entry = false) (circuit : Circuit K) :
    addSection circuit entry = circuit := by
  have noSection :
      (entry.1.scalarText?).bind (fun header => Section.ofHeader? header.toList) = none := by
    simpa [isKnownSection] using unknown
  rw [addSection, noSection]

/-- A document describes what it does without its foreign sections. -/
theorem ofYaml_withoutForeign (value : Yaml.Value) :
    (ofYaml (withoutForeign value) : Except Error (Circuit K)) = ofYaml value := by
  unfold withoutForeign
  split
  case h_1 header sections others =>
    have passed (circuit : Circuit K) :
        (sections.filter isKnownSection).foldl addSection circuit =
          sections.foldl addSection circuit := by
      rw [List.foldl_filter]
      congr 1
      funext soFar entry
      cases known : isKnownSection entry with
      | true => exact if_pos rfl
      | false => exact (if_neg Bool.false_ne_true).trans (addSection_of_foreign known soFar).symm
    simp only [ofYaml, passed]
  case h_2 => rfl

/-! ## Both forms -/

/-- The block form reads a document as if its foreign sections were not there. In line form the
entries below a foreign header, and the header itself, join the section that was open before. So
they are passed over exactly when no section was open, or when none of them adds anything to it. -/
theorem foreignSections_passed_over_iff :
    (∀ text : List Char, (parseBlock text : Except Error (Circuit K)) =
      if isEmptyText text then .error .empty
      else
        match Yaml.Value.parse? text with
        | some value => ofYaml (withoutForeign value)
        | none => .error .malformed) ∧
      ∀ (before entries : List (List Char)) (header : List Char), IsForeignHeader header →
        (∀ line ∈ entries, ¬IsHeader line) →
        (∀ text rest, Text.lines text = before ++ header :: entries ++ rest →
          parseLines text = .ok
            (rest.foldl Reading.next
              ((readLines before : Reading K).joined (header :: entries))).circuit) ∧
        ((∀ rest, (readLines (before ++ header :: entries ++ rest) : Reading K).circuit =
            (readLines (before ++ rest)).circuit) ↔
          ∀ opened, (readLines before : Reading K).opened = some opened →
            ∀ line ∈ header :: entries, ∀ entry, entryOf? line = some entry →
              addEntry (readLines before : Reading K).circuit opened entry =
                (readLines before).circuit) := by
  refine ⟨fun text => ?_, fun before entries header foreignHeader noHeaders => ?_⟩
  · simp only [ofYaml_withoutForeign]
    rfl
  have between : ∀ line ∈ header :: entries, ¬IsHeader line :=
    List.forall_mem_cons.mpr ⟨foreignHeader.not_isHeader, noHeaders⟩
  have taken (rest : List (List Char)) :
      (readLines (before ++ header :: entries ++ rest) : Reading K) =
        rest.foldl Reading.next ((readLines before).joined (header :: entries)) := by
    rw [readLines_append, readLines_append, Reading.foldl_next_eq_joined between]
  refine ⟨fun text rest lines => ?_, ?_⟩
  · have content : isEmptyText text = false := by
      rw [isEmptyText, lines, List.all_eq_false]
      exact ⟨header, by simp, by simp [foreignHeader.isIdle_eq_false]⟩
    rw [parseLines, content, lines]
    exact congrArg (Except.ok ∘ Reading.circuit) (taken rest)
  · rw [← Reading.circuit_joined_eq_self_iff]
    constructor
    · intro passedOver
      have atEnd := passedOver []
      rwa [taken, List.append_nil] at atEnd
    · intro unchanged rest
      rw [taken, Reading.joined_eq_self unchanged, readLines_append]

/-- A lamp in the section of components. -/
def lampLines : List (List Char) :=
  ["circuit: x".toList, "components:".toList, "R1 led red (20, 30)".toList]

/-- The header of a section that is not one of a circuit. -/
def sparesHeader : List Char := "spares:".toList

/-- Another lamp. -/
def spareLamp : List Char := "R2 led green (50, 30)".toList

/-- All these lines in one text. -/
def sparesText : List Char :=
  "circuit: x\ncomponents:\nR1 led red (20, 30)\nspares:\nR2 led green (50, 30)".toList

theorem isForeignHeader_sparesHeader : IsForeignHeader sparesHeader :=
  ⟨"spares".toList, by decide +kernel⟩

theorem not_isHeader_spareLamp : ∀ line ∈ [spareLamp], ¬IsHeader line := by
  rw [List.forall_mem_singleton]
  rintro ⟨-, noEntry⟩
  exact noEntry spareLamp (by decide +kernel)

theorem foreignSections_passed_over_iff_spares :
    IsForeignHeader sparesHeader ∧ (∀ line ∈ [spareLamp], ¬IsHeader line) ∧
      Text.lines sparesText = lampLines ++ [sparesHeader, spareLamp] ++ [] ∧
      parseLines sparesText =
        .ok ((readLines lampLines : Reading Float).joined [sparesHeader, spareLamp]).circuit ∧
      ((∀ rest,
          (readLines (lampLines ++ [sparesHeader, spareLamp] ++ rest) : Reading Float).circuit =
            (readLines (lampLines ++ rest)).circuit) ↔
        ∀ opened, (readLines lampLines : Reading Float).opened = some opened →
          ∀ line ∈ [sparesHeader, spareLamp], ∀ entry, entryOf? line = some entry →
            addEntry (readLines lampLines : Reading Float).circuit opened entry =
              (readLines lampLines).circuit) := by
  obtain ⟨described, passedOver⟩ := foreignSections_passed_over_iff (K := Float).2 lampLines
    [spareLamp] sparesHeader isForeignHeader_sparesHeader not_isHeader_spareLamp
  have lines : Text.lines sparesText = lampLines ++ [sparesHeader, spareLamp] ++ [] := by
    decide +kernel
  exact ⟨isForeignHeader_sparesHeader, not_isHeader_spareLamp, lines, described sparesText [] lines,
    passedOver⟩

/-- The lamp below the foreign header comes to be in the circuit. -/
theorem not_passed_over_spares :
    IsForeignHeader sparesHeader ∧
      (readLines (lampLines ++ [sparesHeader, spareLamp]) : Reading Float).circuit.references =
        ["R1", "R2"] ∧
      (readLines lampLines : Reading Float).circuit.references = ["R1"] :=
  ⟨isForeignHeader_sparesHeader, by decide +kernel, by decide +kernel⟩

end Description
end CircuitSheet
