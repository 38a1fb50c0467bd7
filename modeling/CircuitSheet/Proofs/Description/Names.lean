import CircuitSheet.Proofs.Description.Forms
import CircuitSheet.Proofs.Text.Words

/-!
# Names of circuits

The header of a description may put the word "circuit" before the name, and both forms leave it
out. In block form what follows the word is the name that was written. The header of the line form
has lost the word together with its colon when the name is read, so a name that itself begins with
that word is cut short.
-/

namespace CircuitSheet
namespace Description

/-- A name that can be written without quotes: it has content, no quotes in it, and no blanks at
either end. -/
structure IsPlainName (name : List Char) : Prop where
  content : name ≠ []
  trimmed : Text.trim name = name
  unquoted : ∀ character ∈ name, isQuote character = false

/-- The text is the word "circuit", in any case of its letters, and a rest that starts with a
blank, if there is any. -/
def BeginsWithCircuit (text rest : List Char) : Prop :=
  ∃ word, text = word ++ rest ∧ Text.sameLetters word "circuit".toList = true ∧
    ∀ character ∈ rest.head?, Text.isBlank character = true

theorem unquoted_of_all {text : List Char} (all : text.all (!isQuote ·) = true) :
    ∀ character ∈ text, isQuote character = false := by
  simpa using all

/-- The name that a text without quotes gives. -/
def nameOf (text : List Char) : String :=
  if (Text.trim text).isEmpty then untitled else String.ofList (Text.trim text)

theorem IsPlainName.nameOf_eq {name : List Char} (plain : IsPlainName name) :
    nameOf name = String.ofList name := by
  rw [nameOf, plain.trimmed, if_neg (by simpa using plain.content)]

/-! ## The word before the name -/

theorem length_of_sameLetters {first second : List Char}
    (same : Text.sameLetters first second = true) : first.length = second.length := by
  simpa using congrArg List.length (eq_of_beq same)

/-- The word "circuit" is left out where a text without quotes begins with it. -/
theorem afterCircuitWord_of_begins {text rest : List Char} (begins : BeginsWithCircuit text rest) :
    afterCircuitWord text = rest := by
  obtain ⟨word, rfl, same, blank⟩ := begins
  have seven : word.length = 7 := length_of_sameLetters same
  have atStart : (word ++ rest).take 7 = word := List.take_left' seven
  have behind : (word ++ rest).drop 7 = rest := List.drop_left' seven
  unfold afterCircuitWord
  simp only [atStart, behind, same, Bool.true_and]
  cases rest with
  | nil => rfl
  | cons first others => simp [blank first rfl]

/-- Either the whole text is kept or seven characters are left out, which are the word. -/
theorem afterCircuitWord_cases (text : List Char) :
    afterCircuitWord text = text ∨
      afterCircuitWord text = text.drop 7 ∧
        Text.sameLetters (text.take 7) "circuit".toList = true ∧
        ∀ character ∈ (text.drop 7).head?, (Text.isBlank character || character == '"') = true := by
  unfold afterCircuitWord
  cases rest : text.drop 7 with
  | nil =>
      cases same : Text.sameLetters (text.take 7) "circuit".toList with
      | false => exact .inl rfl
      | true => exact .inr ⟨rfl, rfl, by simp⟩
  | cons first others =>
      cases same : Text.sameLetters (text.take 7) "circuit".toList with
      | false => exact .inl rfl
      | true =>
          cases alone : Text.isBlank first || first == '"' with
          | false => exact .inl (by simp [alone])
          | true => exact .inr ⟨by simp [alone], rfl, by simpa using alone⟩

/-- A text without quotes that does not begin with the word is kept. -/
theorem afterCircuitWord_eq_self {text : List Char}
    (unquoted : ∀ character ∈ text, isQuote character = false)
    (beginsNot : ∀ rest, ¬BeginsWithCircuit text rest) : afterCircuitWord text = text := by
  rcases afterCircuitWord_cases text with kept | ⟨-, same, alone⟩
  · exact kept
  · refine absurd ⟨text.take 7, (List.take_append_drop 7 text).symm, same, ?_⟩
      (beginsNot (text.drop 7))
    intro first isFirst
    have member : first ∈ text := List.mem_of_mem_drop (List.mem_of_mem_head? isFirst)
    have noQuote : (first == '"') = false :=
      (Bool.or_eq_false_iff.mp (unquoted first member)).1
    simpa [noQuote] using alone first isFirst

theorem afterCircuitWord_suffix (text : List Char) : afterCircuitWord text <:+ text := by
  rcases afterCircuitWord_cases text with kept | ⟨cut, -, -⟩
  · simp only [kept, List.suffix_rfl]
  · simp only [cut, List.drop_suffix]

/-- A header without quotes gives what follows the word. -/
theorem circuitName_of_unquoted {header : List Char}
    (unquoted : ∀ character ∈ header, isQuote character = false) :
    circuitName header = nameOf (afterCircuitWord (Text.trim header)) := by
  have kept : ∀ character ∈ Text.trim (afterCircuitWord (Text.trim header)),
      isQuote character = false := by
    intro character member
    have behindWord := (Text.trim_sublist _).mem member
    have inTrimmed := (afterCircuitWord_suffix _).mem behindWord
    exact unquoted character ((Text.trim_sublist _).mem inTrimmed)
  have keptAtStart : (Text.trim (afterCircuitWord (Text.trim header))).dropWhile isQuote =
      Text.trim (afterCircuitWord (Text.trim header)) :=
    List.dropWhile_eq_self_iff.mpr fun content => by simp [kept _ (List.getElem_mem content)]
  have keptAtEnd : dropTrailing isQuote (Text.trim (afterCircuitWord (Text.trim header))) =
      Text.trim (afterCircuitWord (Text.trim header)) :=
    List.rdropWhile_eq_self_iff.mpr fun content => by simp [kept _ (List.getLast_mem content)]
  unfold circuitName nameOf
  simp only [keptAtStart, keptAtEnd, Text.trim_trim]

/-- Where a header without quotes and without blanks around it begins with the word, the rest is
the name. -/
theorem circuitName_of_begins {header rest : List Char}
    (unquoted : ∀ character ∈ header, isQuote character = false)
    (trimmed : Text.trim header = header) (begins : BeginsWithCircuit header rest) :
    circuitName header = nameOf rest := by
  rw [circuitName_of_unquoted unquoted, trimmed, afterCircuitWord_of_begins begins]

/-- What is left of a text behind the word is never the whole text again. -/
theorem nameOf_ne_of_begins {text rest : List Char} (begins : BeginsWithCircuit text rest) :
    nameOf rest ≠ String.ofList text := by
  obtain ⟨word, rfl, same, -⟩ := begins
  have seven : word.length = 7 := length_of_sameLetters same
  unfold nameOf
  split
  case isTrue =>
    intro isUntitled
    have letters : untitled.toList = word ++ rest := by
      rw [isUntitled, String.toList_ofList]
    have isStart : word = untitled.toList.take 7 := by
      rw [letters, List.take_left' seven]
    rw [isStart] at same
    exact absurd same (by decide)
  case isFalse =>
    intro whole
    have letters : Text.trim rest = word ++ rest := String.ofList_injective whole
    have shorter := (Text.trim_sublist rest).length_le
    rw [letters, List.length_append] at shorter
    omega

/-- A name is kept exactly when it does not begin with the word. -/
theorem circuitName_eq_iff {name : List Char} (plain : IsPlainName name) :
    circuitName name = String.ofList name ↔ ∀ rest, ¬BeginsWithCircuit name rest := by
  constructor
  · intro whole rest begins
    rw [circuitName_of_begins plain.unquoted plain.trimmed begins] at whole
    exact nameOf_ne_of_begins begins whole
  · intro beginsNot
    rw [circuitName_of_unquoted plain.unquoted, plain.trimmed,
      afterCircuitWord_eq_self plain.unquoted beginsNot, plain.nameOf_eq]

variable {K : Type} [ScalarText K]

/-! ## The block form -/

theorem name_addEntry (circuit : Circuit K) (opened : Section) (entry : List Char) :
    (addEntry circuit opened entry).name = circuit.name := by
  have renamed := congrArg Circuit.name (addEntry_rename circuit circuit.name opened entry)
  exact renamed

theorem name_addItem (opened : Section) (circuit : Circuit K) (item : Yaml.Value) :
    (addItem opened circuit item).name = circuit.name := by
  unfold addItem
  split
  · exact name_addEntry circuit opened _
  · rfl

theorem name_addSection (circuit : Circuit K) (entry : Yaml.Value × Yaml.Value) :
    (addSection circuit entry).name = circuit.name := by
  unfold addSection
  split
  case h_1 opened items _ _ =>
    exact List.foldlRecOn (motive := fun soFar : Circuit K => soFar.name = circuit.name) items _
      rfl fun soFar kept item _ => (name_addItem opened soFar item).trans kept
  case h_2 => rfl

/-- The end of a name is solid, so nothing is lost there. -/
theorem IsPlainName.trimEnd_cons {name : List Char} (plain : IsPlainName name)
    (character : Char) : Text.trimEnd (character :: name) = character :: name := by
  have solid : ∀ content : Text.trim name ≠ [],
      ¬Text.isBlank ((Text.trim name).getLast content) = true :=
    List.rdropWhile_last_not Text.isBlank (Text.trimStart name)
  rw [plain.trimmed] at solid
  refine List.rdropWhile_eq_self_iff.mpr fun _ => ?_
  rw [List.getLast_cons plain.content]
  exact solid plain.content

/-- The word before a name is left out, whether or not the name begins with it, too. -/
theorem circuitName_word {name : List Char} (plain : IsPlainName name) :
    circuitName ("circuit ".toList ++ name) = String.ofList name := by
  have begins : BeginsWithCircuit ("circuit ".toList ++ name) (' ' :: name) :=
    ⟨"circuit".toList, rfl, by decide, by simp [Text.isBlank]⟩
  have unquoted : ∀ character ∈ "circuit ".toList ++ name, isQuote character = false :=
    List.forall_mem_append.mpr ⟨unquoted_of_all (by decide), plain.unquoted⟩
  have trimmed : Text.trim ("circuit".toList ++ ' ' :: name) = "circuit".toList ++ ' ' :: name := by
    rw [Text.trim_append_of_solid (Text.solid_of_all (by decide)) (by decide),
      plain.trimEnd_cons]
  rw [circuitName_of_begins unquoted trimmed begins]
  exact plain.nameOf_eq

theorem name_foldl_addSection (circuit : Circuit K)
    (sections : List (Yaml.Value × Yaml.Value)) :
    (sections.foldl addSection circuit).name = circuit.name := by
  induction sections generalizing circuit with
  | nil => rfl
  | cons entry rest inductionHypothesis =>
      rw [List.foldl_cons, inductionHypothesis]
      exact name_addSection circuit entry

/-- A document describes a circuit under the name of its header when its body is empty or a
mapping. -/
theorem ofYaml_header (header : String) (body : Yaml.Value)
    (others : List (Yaml.Value × Yaml.Value)) :
    ((∃ circuit : Circuit K, ofYaml (.mapping ((.string header, body) :: others)) = .ok circuit) ↔
      body = .null ∨ ∃ sections, body = .mapping sections) ∧
    ∀ circuit : Circuit K, ofYaml (.mapping ((.string header, body) :: others)) = .ok circuit →
      circuit.name = circuitName header.toList := by
  simp only [ofYaml, Yaml.Value.scalarText?, Option.getD_some]
  generalize circuitName header.toList = name
  cases body with
  | null => simp [Circuit.named]
  | mapping sections =>
      refine ⟨iff_of_true ⟨_, rfl⟩ (.inr ⟨sections, rfl⟩), fun circuit made => ?_⟩
      rw [← Except.ok.inj made]
      exact name_foldl_addSection _ sections
  | _ => simp

/-! ## The line form -/

theorem circuitName_congr {first second : List Char} (same : Text.trim first = Text.trim second) :
    circuitName first = circuitName second := by
  unfold circuitName
  rw [same]

/-- Only a header of the circuit changes its name. -/
theorem Reading.name_next {line : List Char} (unnamed : circuitHeader? (Text.trim line) = none)
    (reading : Reading K) : (reading.next line).circuit.name = reading.circuit.name := by
  unfold Reading.next
  split
  case isTrue => rfl
  case isFalse =>
    rw [Line.of, unnamed]
    cases sectionHeader? (Text.trim line) with
    | some opened => rfl
    | none =>
        rcases reading with ⟨circuit, _ | opened⟩
        · rfl
        · exact name_addEntry circuit opened _

theorem Reading.name_foldl_next {lines : List (List Char)}
    (unnamed : ∀ line ∈ lines, circuitHeader? (Text.trim line) = none) (reading : Reading K) :
    (lines.foldl Reading.next reading).circuit.name = reading.circuit.name := by
  induction lines generalizing reading with
  | nil => rfl
  | cons line rest inductionHypothesis =>
      obtain ⟨here, later⟩ := List.forall_mem_cons.mp unnamed
      rw [List.foldl_cons, inductionHypothesis later, Reading.name_next here]

/-- A header with blanks around it names the circuit. -/
theorem Reading.name_next_header {line name : List Char} (plain : IsPlainName name)
    (header : Text.trim line = "circuit: ".toList ++ name) (reading : Reading K) :
    (reading.next line).circuit.name = circuitName name := by
  have trimmed : reading.next line = reading.next (Text.trim line) := by
    rw [Reading.next, Reading.next, isIdle, isIdle, Text.trim_trim]
  have blankLost : Text.trim (' ' :: name) = Text.trim name := rfl
  rw [← circuitName_congr blankLost, trimmed, header, next_header, plain.trimEnd_cons]

/-- A text in line form describes a circuit under the name of its last header. -/
theorem parseLines_header {text name line : List Char} {before after : List (List Char)}
    (plain : IsPlainName name) (lines : Text.lines text = before ++ line :: after)
    (header : Text.trim line = "circuit: ".toList ++ name)
    (unnamed : ∀ other ∈ after, circuitHeader? (Text.trim other) = none) :
    ∃ circuit : Circuit K, parseLines text = .ok circuit ∧ circuit.name = circuitName name := by
  have busy : isIdle line = false := by
    rw [isIdle, header]
    rfl
  have content : isEmptyText text = false := by
    rw [isEmptyText, lines, List.all_eq_false]
    exact ⟨line, by simp, by simp [busy]⟩
  refine ⟨_, by rw [parseLines, content, if_neg Bool.false_ne_true], ?_⟩
  rw [lines, List.foldl_append, List.foldl_cons, Reading.name_foldl_next unnamed,
    Reading.name_next_header plain header]

/-! ## Both forms -/

/-- In block form a circuit has the name that is written behind the word "circuit" of its header,
whatever the name is. In line form it has the name that is written behind the colon exactly when
the name does not itself begin with that word. Otherwise the rest of the name is left, or, without
a rest, the circuit counts as untitled. -/
theorem writtenName_kept {name : List Char} (plain : IsPlainName name) :
    (∀ (text : List Char) (body : Yaml.Value) (others : List (Yaml.Value × Yaml.Value)),
      Yaml.Value.parse? text =
        some (.mapping ((.string (String.ofList ("circuit ".toList ++ name)), body) :: others)) →
      ((∃ circuit : Circuit K, parseBlock text = .ok circuit) ↔
        isEmptyText text = false ∧ (body = .null ∨ ∃ sections, body = .mapping sections)) ∧
      ∀ circuit : Circuit K, parseBlock text = .ok circuit →
        circuit.name = String.ofList name) ∧
    ∀ (text line : List Char) (before after : List (List Char)),
      Text.lines text = before ++ line :: after →
      Text.trim line = "circuit: ".toList ++ name →
      (∀ other ∈ after, circuitHeader? (Text.trim other) = none) →
      ∃ circuit : Circuit K, parseLines text = .ok circuit ∧
        (circuit.name = String.ofList name ↔ ∀ rest, ¬BeginsWithCircuit name rest) ∧
        ∀ rest, BeginsWithCircuit name rest → circuit.name = nameOf rest := by
  constructor
  · intro text body others read
    obtain ⟨described, named⟩ := ofYaml_header (K := K)
      (String.ofList ("circuit ".toList ++ name)) body others
    have sameName : circuitName (String.ofList ("circuit ".toList ++ name)).toList =
        String.ofList name := by
      rw [String.toList_ofList]
      exact circuitName_word plain
    rw [parseBlock, read]
    cases isEmptyText text with
    | true => simp
    | false =>
        rw [if_neg Bool.false_ne_true, described]
        exact ⟨(and_iff_right rfl).symm, fun circuit made => (named circuit made).trans sameName⟩
  · intro text line before after lines header unnamed
    obtain ⟨circuit, described, named⟩ := parseLines_header (K := K) plain lines header unnamed
    refine ⟨circuit, described, named ▸ circuitName_eq_iff plain, fun rest begins => ?_⟩
    rw [named, circuitName_of_begins plain.unquoted plain.trimmed begins]

/-- A name that begins with the word. -/
def boardName : List Char := "circuit board".toList

/-- A header with this name in block form. -/
def boardBlockText : List Char := "circuit circuit board:\n".toList

/-- A header with this name in line form. -/
def boardLineText : List Char := "circuit: circuit board\n".toList

theorem isPlainName_boardName : IsPlainName boardName :=
  ⟨by decide, by decide +kernel, unquoted_of_all (by decide)⟩

theorem boardName_begins : BeginsWithCircuit boardName " board".toList :=
  ⟨"circuit".toList, by decide, by decide, by simp [Text.isBlank]⟩

/-- The document of the header in block form. -/
def boardDocument : Yaml.Value :=
  .mapping [(.string (String.ofList ("circuit ".toList ++ boardName)), .null)]

section Sample

open Yaml

/-- The tokens of the header. -/
def boardTokens : List Token :=
  [.blockMappingStart, .key, .scalar "circuit circuit board".toList true, .value, .blockEnd]

/-- The nodes of the header; the one behind it is empty. -/
def boardRoot {α : Type} : Node α :=
  .mapping NodeProperties.none [(plainNode "circuit circuit board", plainNode "")]

theorem build_boardHeader (links : Links) (depth : Nat) :
    build links depth (plainNode "circuit circuit board") =
      pure (.string (String.ofList ("circuit ".toList ++ boardName))) := by
  have resolved : Resolution.scalar? none "circuit circuit board".toList true =
      some (.string (String.ofList ("circuit ".toList ++ boardName))) :=
    Resolution.scalar?_eq_string (by decide +kernel) (by decide +kernel) (by decide +kernel)
      (by decide +kernel)
  rw [plainNode, build_scalar]
  exact congrArg liftM resolved

theorem build_emptyNode (links : Links) (depth : Nat) :
    build links depth (plainNode "") = pure .null := by
  rw [plainNode, build_scalar]
  rfl

theorem ofRoot?_board : Value.ofRoot? boardRoot = some boardDocument := by
  have linked : Links.none.link? boardRoot = some (boardRoot, Links.none) := rfl
  have built : build Links.none maxDepth boardRoot = pure boardDocument := by
    rw [boardRoot, maxDepth, build_mapping]
    simp [build_boardHeader, build_emptyNode, keysDiffer, markWith, NodeProperties.none]
    rfl
  rw [Value.ofRoot?, linked]
  simp [built]

theorem parse?_board : Value.parse? boardBlockText = some boardDocument := by
  have tokens : Token.ofText? boardBlockText = some boardTokens := by decide +kernel
  have nodes : Node.ofTokens? boardTokens = some (some boardRoot) := rfl
  rw [Value.parse?, tokens]
  simp [nodes, ofRoot?_board]

end Sample

theorem writtenName_kept_board :
    IsPlainName boardName ∧
    Yaml.Value.parse? boardBlockText = some boardDocument ∧
    (∃ circuit : Circuit Float, parseBlock boardBlockText = .ok circuit ∧
      circuit.name = String.ofList boardName) ∧
    Text.lines boardLineText = [] ++ ("circuit: ".toList ++ boardName) :: [[]] ∧
    Text.trim ("circuit: ".toList ++ boardName) = "circuit: ".toList ++ boardName ∧
    (∀ other ∈ [[]], circuitHeader? (Text.trim other) = none) ∧
    BeginsWithCircuit boardName " board".toList ∧
    ∃ circuit : Circuit Float, parseLines boardLineText = .ok circuit ∧
      circuit.name = "board" := by
  obtain ⟨blockForm, lineForm⟩ := writtenName_kept (K := Float) isPlainName_boardName
  obtain ⟨described, named⟩ := blockForm boardBlockText .null [] parse?_board
  obtain ⟨circuit, isDescribed⟩ := described.mpr ⟨by decide, .inl rfl⟩
  have lines : Text.lines boardLineText = [] ++ ("circuit: ".toList ++ boardName) :: [[]] := by
    decide
  have trimmed : Text.trim ("circuit: ".toList ++ boardName) = "circuit: ".toList ++ boardName := by
    decide
  have unnamed : ∀ other ∈ [[]], circuitHeader? (Text.trim other) = none :=
    List.forall_mem_singleton.mpr rfl
  obtain ⟨other, isOther, -, cutShort⟩ := lineForm boardLineText _ [] [[]] lines trimmed unnamed
  exact ⟨isPlainName_boardName, parse?_board, ⟨circuit, isDescribed, named circuit isDescribed⟩,
    lines, trimmed, unnamed, boardName_begins, other, isOther, cutShort _ boardName_begins⟩

/-- The name that is written behind the colon is lost. -/
theorem writtenName_lost_board :
    IsPlainName boardName ∧ boardLineText = "circuit: ".toList ++ boardName ++ ['\n'] ∧
    ∃ circuit : Circuit Float, parseLines boardLineText = .ok circuit ∧
      circuit.name = "board" ∧ circuit.name ≠ String.ofList boardName :=
  ⟨isPlainName_boardName, by decide, Circuit.named "board", by decide +kernel, rfl, by decide⟩

end Description
end CircuitSheet
