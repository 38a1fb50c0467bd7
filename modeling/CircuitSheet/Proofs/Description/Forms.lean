import CircuitSheet.Binary64
import CircuitSheet.Description.Dialect
import CircuitSheet.Proofs.Text.Trimming

/-!
# Agreement of the two forms

Sections of entries can be written in block form and in line form. Whatever the entries are, both
forms add the same ones to a circuit: an item behind a dash is never taken for a header or a
comment, and the blanks that a line loses at its end do not count. Only a text whose lines are all
blank or comments is turned away before its YAML is read, and not every such text is an empty
document, since YAML knows more line breaks than the lines of a description have.
-/

namespace CircuitSheet
namespace Description

/-! ## What both forms can hold -/

/-- The title of a section. -/
def Section.title : Section → List Char
  | .components => "components".toList
  | .power => "power".toList
  | .connections => "connections".toList

/-- An item of a section: a text, or a key with a value. -/
inductive Item
  | text (content : List Char)
  | pair (key value : List Char)

namespace Item

/-- The text of an item. -/
def content : Item → List Char
  | text content => content
  | pair key value => key ++ ':' :: ' ' :: value

/-- An item in block form. -/
def value : Item → Yaml.Value
  | text content => .string (String.ofList content)
  | pair key value => .mapping [(.string (String.ofList key), .string (String.ofList value))]

/-- An item in line form. -/
def line (item : Item) : List Char :=
  '-' :: ' ' :: item.content

end Item

/-- A section with its title, in any case of its letters, and with items on single lines. -/
structure Part where
  opened : Section
  title : List Char
  items : List Item
  titled : Text.sameLetters title opened.title = true
  single : ∀ item ∈ items, '\n' ∉ item.content

namespace Part

/-- A section in block form. -/
def value (part : Part) : Yaml.Value × Yaml.Value :=
  (.string (String.ofList part.title), .sequence (part.items.map Item.value))

/-- A section in line form. -/
def lines (part : Part) : List (List Char) :=
  (part.title ++ [':']) :: part.items.map Item.line

end Part

/-- The document of some sections in block form. Entries after the first do not count. -/
def blockDocument (header : Yaml.Value) (parts : List Part)
    (others : List (Yaml.Value × Yaml.Value)) : Yaml.Value :=
  .mapping ((header, .mapping (parts.map Part.value)) :: others)

/-- The text of some sections in line form. -/
def lineDocument (name : List Char) (parts : List Part) : List Char :=
  Text.joinLines (("circuit: ".toList ++ name) :: parts.flatMap Part.lines)

variable {K : Type} [ScalarText K]

/-- Add what the items of a section describe. -/
def Part.addTo (circuit : Circuit K) (part : Part) : Circuit K :=
  part.items.foldl (fun soFar item => addEntry soFar part.opened item.content) circuit

/-! ## Blanks at the end of entries -/

theorem findSome?_congr {α β : Type} {find other : α → Option β} {items : List α}
    (same : ∀ item ∈ items, find item = other item) :
    items.findSome? find = items.findSome? other := by
  induction items with
  | nil => rfl
  | cons head tail inductionHypothesis =>
      obtain ⟨sameHead, sameTail⟩ := List.forall_mem_cons.mp same
      rw [List.findSome?_cons, List.findSome?_cons, sameHead, inductionHypothesis sameTail]

section Blanks

variable {blanks : List Char} (blank : ∀ character ∈ blanks, Text.isBlank character = true)
include blank

theorem splitPosition?_append_blanks (entry : List Char) :
    splitPosition? (K := K) (entry ++ blanks) = splitPosition? entry := by
  simp only [splitPosition?, Text.trim_append_blanks blank]

omit [ScalarText K] in
theorem terminal?_append_blanks (text : List Char) :
    terminal? (text ++ blanks) = terminal? text := by
  simp only [terminal?, Text.trim_append_blanks blank]

omit [ScalarText K] in
/-- An arrow does not stand among blanks. -/
theorem cutAtArrow_append_blanks {arrow : List Char} (member : arrow ∈ arrows)
    (entry : List Char) :
    Text.cutAtText? arrow (entry ++ blanks) =
      (Text.cutAtText? arrow entry).map fun (before, after) => (before, after ++ blanks) := by
  have solid : ∀ arrow ∈ arrows, arrow ≠ [] ∧ arrow.all (!Text.isBlank ·) = true := by decide
  obtain ⟨content, all⟩ := solid arrow member
  exact Text.cutAtText?_append_blanks blank content (Text.solid_of_all all) entry

omit [ScalarText K] in
theorem connection?_append_blanks (entry : List Char) :
    connection? (entry ++ blanks) = connection? entry := by
  have cuts : (arrows.findSome? fun arrow => Text.cutAtText? arrow (entry ++ blanks)) =
      (arrows.findSome? fun arrow => Text.cutAtText? arrow entry).map
        fun (before, after) => (before, after ++ blanks) := by
    rw [List.map_findSome?]
    exact findSome?_congr fun arrow member => cutAtArrow_append_blanks blank member entry
  rw [connection?, connection?, cuts]
  cases arrows.findSome? fun arrow => Text.cutAtText? arrow entry with
  | none => rfl
  | some cut =>
      simp only [Option.map_some, Option.bind_eq_bind, Option.bind_some,
        terminal?_append_blanks blank]

/-- Blanks at its end do not change what an entry adds. -/
theorem addEntry_append_blanks (circuit : Circuit K) (part : Section) (entry : List Char) :
    addEntry circuit part (entry ++ blanks) = addEntry circuit part entry := by
  cases part with
  | components => simp only [addEntry, component?, splitPosition?_append_blanks blank]
  | power => simp only [addEntry, power?, splitPosition?_append_blanks blank]
  | connections => rw [addEntry, addEntry, connection?_append_blanks blank]

end Blanks

/-! ## Letters of titles -/

namespace Part

variable (part : Part)

theorem isAlpha_of_mem_title : ∀ character ∈ part.title, character.isAlpha = true := by
  refine Text.isAlpha_of_sameLetters part.titled ?_
  cases part.opened <;> decide

theorem map_toLower_title : part.title.map Char.toLower = part.opened.title := by
  rw [eq_of_beq part.titled]
  cases part.opened <;> decide

theorem isBlank_of_mem_title : ∀ character ∈ part.title, Text.isBlank character = false :=
  fun _ member => Text.isBlank_eq_false_of_isAlpha (part.isAlpha_of_mem_title _ member)

theorem not_mem_title (character : Char) (noLetter : character.isAlpha = false) :
    character ∉ part.title := by
  intro member
  simp [part.isAlpha_of_mem_title character member] at noLetter

theorem dropTrailing_title : dropTrailing (· == ':') part.title = part.title := by
  refine List.rdropWhile_eq_self_iff.mpr ?_
  intro content isColon
  have member := List.getLast_mem content
  rw [eq_of_beq isColon] at member
  exact part.not_mem_title ':' rfl member

/-- A title opens its section, with a colon at its end and without one. -/
theorem ofHeader?_title {header : List Char} (trimmed : Text.trim header = header)
    (titled : dropTrailing (· == ':') header = part.title) :
    Section.ofHeader? header = some part.opened := by
  unfold Section.ofHeader?
  rw [trimmed, titled, Text.trim_eq_self part.isBlank_of_mem_title,
    Text.lower_of_isAlpha part.isAlpha_of_mem_title, part.map_toLower_title]
  cases part.opened <;> rfl

/-- The title with a colon at its end is trimmed. -/
theorem trim_titleLine : Text.trim (part.title ++ [':']) = part.title ++ [':'] := by
  refine Text.trim_eq_self ?_
  rw [List.forall_mem_append, List.forall_mem_singleton]
  exact ⟨part.isBlank_of_mem_title, rfl⟩

end Part

/-! ## The block form -/

theorem entryText?_value (item : Item) :
    entryText? item.value = some (String.ofList item.content) := by
  cases item with
  | text content => rfl
  | pair key value =>
      have joined : String.ofList key ++ ": " ++ String.ofList value =
          String.ofList (key ++ ':' :: ' ' :: value) := by
        apply String.toList_injective
        simp
      exact congrArg some joined

theorem addItem_value (opened : Section) (circuit : Circuit K) (item : Item) :
    addItem opened circuit item.value = addEntry circuit opened item.content := by
  simp only [addItem, entryText?_value, String.toList_ofList]

theorem addSection_value (circuit : Circuit K) (part : Part) :
    addSection circuit part.value = part.addTo circuit := by
  have opens : Section.ofHeader? part.title = some part.opened :=
    part.ofHeader?_title (Text.trim_eq_self part.isBlank_of_mem_title) part.dropTrailing_title
  simp only [addSection, Part.value, Yaml.Value.scalarText?, Option.bind_some,
    String.toList_ofList, opens, List.foldl_map, addItem_value]
  rfl

/-- A document in block form describes what its sections add. -/
theorem ofYaml_blockDocument (header : Yaml.Value) (parts : List Part)
    (others : List (Yaml.Value × Yaml.Value)) :
    ofYaml (blockDocument header parts others) =
      .ok (parts.foldl Part.addTo
        (Circuit.named (circuitName (header.scalarText?.getD "").toList) : Circuit K)) := by
  simp only [ofYaml, blockDocument, List.foldl_map, addSection_value]

/-! ## The line form -/

theorem trim_dash (rest : List Char) : Text.trim ('-' :: rest) = '-' :: Text.trimEnd rest :=
  Text.trim_cons rfl rest

/-- A line with a dash at its start does not name the circuit. -/
theorem circuitHeader?_dash (rest : List Char) : circuitHeader? ('-' :: rest) = none := by
  have cut : Text.cutAt? ':' ('-' :: rest) =
      (Text.cutAt? ':' rest).map fun (before, after) => ('-' :: before, after) := by
    rw [Text.cutAt?, if_neg (by decide)]
  rw [circuitHeader?, cut]
  cases Text.cutAt? ':' rest with
  | none => rfl
  | some cut =>
      simp only [Option.map_some, trim_dash]
      rfl

/-- A line with a dash at its start opens no section. -/
theorem ofHeader?_dash (rest : List Char) : Section.ofHeader? ('-' :: rest) = none := by
  have kept : ∀ more, dropTrailing (· == ':') ('-' :: more) =
      '-' :: dropTrailing (· == ':') more := Text.rdropWhile_cons_of_not rfl
  have lowered : ∀ more, Text.lower ('-' :: more) = '-' :: Text.lowerAfter ['-'] more :=
    fun _ => rfl
  unfold Section.ofHeader?
  simp only [trim_dash, kept, lowered]
  rfl

/-- A line with a dash at its start is an entry. -/
theorem lineOf_dash (rest : List Char) :
    Line.of ('-' :: rest) = .entry (dropDash ('-' :: rest)) := by
  simp only [Line.of, circuitHeader?_dash, sectionHeader?, ofHeader?_dash, ite_self]

theorem addEntry_nil (circuit : Circuit K) (opened : Section) :
    addEntry circuit opened [] = circuit := by
  cases opened <;> rfl

theorem addEntry_dash (circuit : Circuit K) (opened : Section) :
    addEntry circuit opened ['-'] = circuit := by
  cases opened <;> rfl

/-- What stands behind the dash of a trimmed line adds what the item does. -/
theorem addEntry_dropDash (circuit : Circuit K) (opened : Section) (content : List Char) :
    addEntry circuit opened (dropDash ('-' :: Text.trimEnd (' ' :: content))) =
      addEntry circuit opened content := by
  obtain ⟨blanks, blank, split⟩ := Text.exists_append_blanks (' ' :: content)
  cases trimmed : Text.trimEnd (' ' :: content) with
  | nil =>
      rw [trimmed, List.nil_append] at split
      have allBlank : ∀ character ∈ content, Text.isBlank character = true :=
        fun character member => blank character (split ▸ List.mem_cons_of_mem _ member)
      have nothing := addEntry_append_blanks allBlank circuit opened []
      rw [List.nil_append, addEntry_nil] at nothing
      exact (addEntry_dash circuit opened).trans nothing.symm
  | cons first entry =>
      rw [trimmed, List.cons_append] at split
      obtain ⟨rfl, rfl⟩ := List.cons_eq_cons.mp split
      exact (addEntry_append_blanks blank circuit opened entry).symm

/-- The item of a line is added to the section that is open. -/
theorem next_line (circuit : Circuit K) (opened : Section) (item : Item) :
    Reading.next ⟨circuit, some opened⟩ item.line =
      ⟨addEntry circuit opened item.content, some opened⟩ := by
  have trimmed : Text.trim item.line = '-' :: Text.trimEnd (' ' :: item.content) :=
    trim_dash _
  have read : isIdle item.line = false := by
    rw [isIdle, trimmed]
    rfl
  rw [Reading.next, read, trimmed, lineOf_dash]
  simp only [Bool.false_eq_true, if_false, Reading.line, addEntry_dropDash]

theorem isIdle_titleLine (part : Part) : isIdle (part.title ++ [':']) = false := by
  rw [isIdle, part.trim_titleLine]
  have noComment : '#' ∉ part.title := part.not_mem_title '#' rfl
  cases title : part.title with
  | nil => rfl
  | cons first rest =>
      rw [title, List.mem_cons, not_or] at noComment
      exact beq_false_of_ne (Ne.symm noComment.1)

/-- A title with a colon is the header of its section and does not name the circuit. -/
theorem lineOf_titleLine (part : Part) :
    Line.of (part.title ++ [':']) = .sectionHeader part.opened := by
  have noCircuit : circuitHeader? (part.title ++ [':']) = none := by
    have cut := Text.cutAt?_append (part.not_mem_title ':' rfl) []
    rw [circuitHeader?, cut]
    simp only [Text.trim_eq_self part.isBlank_of_mem_title, Text.sameLetters,
      part.map_toLower_title]
    cases part.opened <;> rfl
  have titled : dropTrailing (· == ':') (part.title ++ [':']) = part.title :=
    (List.rdropWhile_concat_pos _ _ _ rfl).trans part.dropTrailing_title
  have opens : sectionHeader? (part.title ++ [':']) = some part.opened := by
    rw [sectionHeader?, List.getLast?_concat, if_pos rfl]
    exact part.ofHeader?_title part.trim_titleLine titled
  rw [Line.of, noCircuit, opens]

theorem next_titleLine (reading : Reading K) (part : Part) :
    reading.next (part.title ++ [':']) = { reading with opened := some part.opened } := by
  rw [Reading.next, isIdle_titleLine, part.trim_titleLine, lineOf_titleLine]
  rfl

/-- The lines of a section add what its items describe. -/
theorem foldl_next_lines (reading : Reading K) (part : Part) :
    part.lines.foldl Reading.next reading = ⟨part.addTo reading.circuit, some part.opened⟩ := by
  rw [Part.lines, List.foldl_cons, next_titleLine, Part.addTo]
  generalize reading.circuit = circuit
  induction part.items generalizing circuit with
  | nil => rfl
  | cons item items inductionHypothesis =>
      rw [List.map_cons, List.foldl_cons, next_line, inductionHypothesis, List.foldl_cons]

/-- The lines of all sections add what their items describe. -/
theorem circuit_foldl_next (reading : Reading K) (parts : List Part) :
    ((parts.flatMap Part.lines).foldl Reading.next reading).circuit =
      parts.foldl Part.addTo reading.circuit := by
  induction parts generalizing reading with
  | nil => rfl
  | cons part parts inductionHypothesis =>
      rw [List.flatMap_cons, List.foldl_append, foldl_next_lines, inductionHypothesis,
        List.foldl_cons]

/-- The header names the circuit, and trimming leaves it whole up to its colon. -/
theorem trim_header (name : List Char) :
    Text.trim ("circuit: ".toList ++ name) =
      "circuit".toList ++ ':' :: Text.trimEnd (' ' :: name) := by
  have kept : ∀ character ∈ "circuit:".toList, Text.isBlank character = false :=
    Text.solid_of_all (by decide)
  exact Text.trim_append_of_solid kept (by decide) (' ' :: name)

theorem isIdle_header (name : List Char) : isIdle ("circuit: ".toList ++ name) = false := by
  rw [isIdle, trim_header]
  rfl

theorem next_header (reading : Reading K) (name : List Char) :
    reading.next ("circuit: ".toList ++ name) =
      { reading with circuit :=
          { reading.circuit with name := circuitName (Text.trimEnd (' ' :: name)) } } := by
  have told : Line.of ("circuit".toList ++ ':' :: Text.trimEnd (' ' :: name)) =
      .circuitHeader (Text.trimEnd (' ' :: name)) := by
    rw [Line.of, circuitHeader?, Text.cutAt?_append (by decide)]
    rfl
  rw [Reading.next, isIdle_header, trim_header, told]
  rfl

theorem not_mem_of_mem_lines {part : Part} {line : List Char} (member : line ∈ part.lines) :
    '\n' ∉ line := by
  rcases List.mem_cons.mp member with rfl | inItems
  · simp [part.not_mem_title '\n' rfl]
  · obtain ⟨item, itemMember, rfl⟩ := List.mem_map.mp inItems
    simp [Item.line, part.single item itemMember]

/-- The lines of a document in line form are those that it is made of. -/
theorem lines_lineDocument {name : List Char} (single : '\n' ∉ name) (parts : List Part) :
    Text.lines (lineDocument name parts) =
      (("circuit: ".toList ++ name) :: parts.flatMap Part.lines) ++ [[]] := by
  refine Text.lines_joinLines (List.forall_mem_cons.mpr ⟨?_, ?_⟩)
  · simp [single]
  · intro line member
    obtain ⟨part, -, inPart⟩ := List.mem_flatMap.mp member
    exact not_mem_of_mem_lines inPart

/-- A text in line form describes what its sections add. -/
theorem parseLines_lineDocument {name : List Char} (single : '\n' ∉ name) (parts : List Part) :
    parseLines (lineDocument name parts) =
      .ok (parts.foldl Part.addTo
        (Circuit.named (circuitName (Text.trimEnd (' ' :: name))) : Circuit K)) := by
  have content : isEmptyText (lineDocument name parts) = false := by
    rw [isEmptyText, lines_lineDocument single, List.cons_append, List.all_cons, isIdle_header,
      Bool.false_and]
  have last : ∀ reading : Reading K, reading.next [] = reading := fun _ => rfl
  rw [parseLines, content, if_neg Bool.false_ne_true, lines_lineDocument single]
  simp only [List.foldl_append, List.foldl_cons, List.foldl_nil, last, next_header,
    circuit_foldl_next]
  rfl

/-! ## Agreement -/

omit [ScalarText K] in
theorem addComponent_rename (circuit : Circuit K) (name : String) (component : Component K) :
    Circuit.addComponent { circuit with name := name } component =
      { circuit.addComponent component with name := name } := by
  have sameTaken : Circuit.isTaken { circuit with name := name } component.reference =
      circuit.isTaken component.reference := rfl
  unfold Circuit.addComponent Circuit.addComponent?
  rw [sameTaken]
  cases circuit.isTaken component.reference <;> rfl

omit [ScalarText K] in
theorem addPower_rename (circuit : Circuit K) (name : String) (power : PowerSymbol K) :
    Circuit.addPower { circuit with name := name } power =
      { circuit.addPower power with name := name } := by
  have sameTaken : Circuit.isTaken { circuit with name := name } power.reference =
      circuit.isTaken power.reference := rfl
  unfold Circuit.addPower Circuit.addPower?
  rw [sameTaken]
  cases circuit.isTaken power.reference <;> rfl

/-- What an entry adds does not depend on the name of the circuit. -/
theorem addEntry_rename (circuit : Circuit K) (name : String) (part : Section)
    (entry : List Char) :
    addEntry { circuit with name := name } part entry =
      { addEntry circuit part entry with name := name } := by
  cases part with
  | components =>
      unfold addEntry
      cases component? entry (K := K) with
      | none => rfl
      | some component => exact addComponent_rename circuit name component
  | power =>
      unfold addEntry
      cases power? entry (K := K) with
      | none => rfl
      | some power => exact addPower_rename circuit name power
  | connections =>
      unfold addEntry
      cases connection? entry <;> rfl

theorem addTo_rename (circuit : Circuit K) (name : String) (part : Part) :
    part.addTo { circuit with name := name } = { part.addTo circuit with name := name } := by
  unfold Part.addTo
  induction part.items generalizing circuit with
  | nil => rfl
  | cons item items inductionHypothesis =>
      rw [List.foldl_cons, addEntry_rename, inductionHypothesis, List.foldl_cons]

theorem foldl_addTo_rename (circuit : Circuit K) (name : String) (parts : List Part) :
    parts.foldl Part.addTo { circuit with name := name } =
      { parts.foldl Part.addTo circuit with name := name } := by
  induction parts generalizing circuit with
  | nil => rfl
  | cons part parts inductionHypothesis =>
      rw [List.foldl_cons, addTo_rename, inductionHypothesis, List.foldl_cons]

/-- Both forms of a description agree. Whatever the items of its sections are, a text in line form
describes a circuit, and a text whose YAML holds the same sections describes the same one, under
the name that its own header gives, unless all its lines are taken for blank ones and comments. -/
theorem parseBlock_agrees (header : Yaml.Value) (parts : List Part)
    (others : List (Yaml.Value × Yaml.Value)) {name text : List Char} (single : '\n' ∉ name)
    (read : Yaml.Value.parse? text = some (blockDocument header parts others)) :
    ∃ circuit : Circuit K,
      parseLines (lineDocument name parts) = .ok circuit ∧
      parseBlock text =
        if isEmptyText text then .error .empty
        else .ok { circuit with name := circuitName (header.scalarText?.getD "").toList } := by
  refine ⟨_, parseLines_lineDocument single parts, ?_⟩
  rw [parseBlock, read]
  split
  · rfl
  · have renamed := foldl_addTo_rename
      (Circuit.named (circuitName (Text.trimEnd (' ' :: name))) : Circuit K)
      (circuitName (header.scalarText?.getD "").toList) parts
    exact (ofYaml_blockDocument ..).trans (congrArg Except.ok renamed)

/-- One section with one connection. -/
def samplePart : Part where
  opened := .connections
  title := "Connections".toList
  items := [.text "A -> B".toList]
  titled := by decide
  single := by decide

/-- The section in block form, below a comment and with a choice of line breaks. -/
def sampleText (lineBreak : Char) : List Char :=
  ["# wired", "circuit x:", "  Connections:", "    - A -> B"].flatMap fun line =>
    line.toList ++ [lineBreak]

section Sample

open Yaml

/-- The tokens of the text, whichever its line breaks are. -/
def sampleTokens : List Token :=
  [.blockMappingStart, .key, .scalar "circuit x".toList true, .value,
    .blockMappingStart, .key, .scalar "Connections".toList true, .value,
    .blockSequenceStart, .blockEntry, .scalar "A -> B".toList true,
    .blockEnd, .blockEnd, .blockEnd]

/-- A plain scalar of the document. -/
def plainNode {α : Type} (text : String) : Node α :=
  .scalar NodeProperties.none text.toList true

/-- The nodes of the text. -/
def sampleRoot {α : Type} : Node α :=
  .mapping NodeProperties.none [(plainNode "circuit x", .mapping NodeProperties.none
    [(plainNode "Connections", .sequence NodeProperties.none [plainNode "A -> B"])])]

theorem scalar?_sample {text : String} (member : text ∈ ["circuit x", "Connections", "A -> B"]) :
    Resolution.scalar? none text.toList true = some (.string text) := by
  have looksLikeText : ∀ other ∈ ["circuit x", "Connections", "A -> B"],
      (other.toList.isEmpty || Resolution.isNull other.toList) = false ∧
        (Resolution.bool? other.toList).isNone = true ∧
        (Resolution.recognisedWhole? other.toList).isNone = true ∧
        (Resolution.real? other.toList).isNone = true := by
    decide +kernel
  obtain ⟨content, noBool, noWhole, noReal⟩ := looksLikeText text member
  have plain := Resolution.scalar?_eq_string content noBool noWhole noReal
  rwa [String.ofList_toList] at plain

theorem build_plainNode (links : Links) (depth : Nat) {text : String}
    (member : text ∈ ["circuit x", "Connections", "A -> B"]) :
    build links depth (plainNode text) = pure (.string text) := by
  rw [plainNode, build_scalar]
  exact congrArg liftM (scalar?_sample member)

theorem ofRoot?_sample :
    Value.ofRoot? sampleRoot = some (blockDocument (.string "circuit x") [samplePart] []) := by
  have linked : Links.none.link? sampleRoot = some (sampleRoot, Links.none) := rfl
  have built : build Links.none maxDepth sampleRoot =
      pure (blockDocument (.string "circuit x") [samplePart] []) := by
    simp (disch := decide) [sampleRoot, maxDepth, build_mapping, build_sequence, build_plainNode,
      keysDiffer, markWith, NodeProperties.none]
    rfl
  rw [Value.ofRoot?, linked]
  simp [built]

theorem parse?_sample {lineBreak : Char} (member : lineBreak ∈ ['\n', '\r']) :
    Value.parse? (sampleText lineBreak) =
      some (blockDocument (.string "circuit x") [samplePart] []) := by
  have tokens : Token.ofText? (sampleText lineBreak) = some sampleTokens := by
    rcases List.mem_pair.mp member with rfl | rfl
    · decide +kernel
    · decide +kernel
  have nodes : Node.ofTokens? sampleTokens = some (some sampleRoot) := rfl
  rw [Value.parse?, tokens]
  simp [nodes, ofRoot?_sample]

end Sample

/-- With line feeds both forms describe the connection. -/
theorem parseBlock_agrees_lineFeeds :
    '\n' ∉ ['x'] ∧
    Yaml.Value.parse? (sampleText '\n') =
      some (blockDocument (.string "circuit x") [samplePart] []) ∧
    ∃ circuit : Circuit Float,
      parseLines (lineDocument ['x'] [samplePart]) = .ok circuit ∧
      parseBlock (sampleText '\n') = .ok { circuit with name := "x" } := by
  have single : '\n' ∉ ['x'] := by decide
  have read : Yaml.Value.parse? (sampleText '\n') =
      some (blockDocument (.string "circuit x") [samplePart] []) := parse?_sample (by decide)
  have content : isEmptyText (sampleText '\n') = false := by decide
  obtain ⟨circuit, lineForm, blockForm⟩ :=
    parseBlock_agrees (K := Float) (.string "circuit x") [samplePart] [] single read
  rw [content, if_neg Bool.false_ne_true] at blockForm
  exact ⟨single, read, circuit, lineForm, blockForm⟩

/-- With carriage returns the YAML holds the same section, but the whole text is one line that
starts with the sign of a comment, so it is taken for an empty document. -/
theorem parseBlock_carriageReturns :
    Yaml.Value.parse? (sampleText '\r') =
      some (blockDocument (.string "circuit x") [samplePart] []) ∧
    (parseBlock (sampleText '\r') : Except Error (Circuit Float)) = .error .empty ∧
    ∃ circuit : Circuit Float,
      parseLines (lineDocument ['x'] [samplePart]) = .ok circuit ∧
      circuit.connections = [⟨⟨"A", none⟩, ⟨"B", none⟩⟩] := by
  refine ⟨parse?_sample (by decide), ?_, _, parseLines_lineDocument (by decide) _, by decide⟩
  rw [parseBlock, if_pos (by decide)]

end Description
end CircuitSheet
