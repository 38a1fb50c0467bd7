import CircuitSheet.Proofs.Circuit.References
import CircuitSheet.Proofs.Sheet.Definitions
import CircuitSheet.Proofs.Text.Words

/-!
# What entries describe

Whatever a description holds, its circuit is in order: references are words without colons and
differ from one another, positions are finite, components have the symbols of their kinds, rails
have names, and connections end at entities whose names are words without dots.
-/

namespace CircuitSheet

variable {K : Type}

/-- The text has content, and it holds neither blanks nor the mark. -/
structure IsWordWithout (mark : Char) (text : String) : Prop where
  content : text ≠ ""
  solid : ∀ character ∈ text.toList, Text.isBlank character = false
  undivided : mark ∉ text.toList

/-- The terminal is an entity, or a pin of one that is named without blanks around the name. -/
structure Terminal.IsDescribed (terminal : Terminal) : Prop where
  entity : IsWordWithout '.' terminal.entity
  pin : ∀ name, terminal.pin = some name → name ≠ "" ∧ Text.trim name.toList = name.toList

/-- The entity can be described by an entry. -/
structure Entity.IsDescribed [Scalar K] (entity : Entity K) : Prop where
  reference : IsWordWithout ':' entity.reference
  finite : entity.position.isFinite = true
  symbol : ∀ component, entity.component? = some component → component.HasOwnSymbol
  rail : ∀ power, entity.power? = some power → power.rail ≠ ""

/-- The circuit consists of what entries can describe, and no two entities share a reference. -/
structure Circuit.IsDescribed [Scalar K] (circuit : Circuit K) : Prop where
  entities : ∀ entity ∈ circuit.entities, entity.IsDescribed
  distinct : circuit.references.Nodup
  connections : ∀ connection ∈ circuit.connections,
    connection.source.IsDescribed ∧ connection.target.IsDescribed

theorem Circuit.IsDescribed.distinctReferences [Scalar K] {circuit : Circuit K}
    (inOrder : circuit.IsDescribed) : circuit.DistinctReferences := by
  have distinct := inOrder.distinct
  rw [references_eq] at distinct
  exact distinct.sublist (List.filter_sublist.append_left _)

namespace Description

/-! ## Parts of entries -/

theorem isWordWithout_ofList {mark : Char} {text : List Char} (content : text ≠ [])
    (solid : ∀ character ∈ text, Text.isBlank character = false) (undivided : mark ∉ text) :
    IsWordWithout mark (String.ofList text) where
  content := by simpa using content
  solid := by simpa using solid
  undivided := by simpa using undivided

/-- Leaving out a last "at" leaves words of the head. -/
theorem mem_of_mem_dropAt {words : List (List Char)} {word : List Char}
    (member : word ∈ dropAt words) : word ∈ words := by
  unfold dropAt at member
  split at member
  · split at member
    · exact List.dropLast_subset _ member
    · exact member
  · exact member

/-- The reference of an entry is a word without a colon, and words with content follow it. -/
theorem splitHead?_spec {head reference : List Char} {words : List (List Char)}
    (cut : splitHead? head = some (reference, words)) :
    IsWordWithout ':' (String.ofList reference) ∧ ∀ word ∈ words, word ≠ [] := by
  have ofHead : ∀ word ∈ dropAt (Text.words head),
      word ≠ [] ∧ ∀ character ∈ word, Text.isBlank character = false :=
    fun word member => Text.of_mem_words (mem_of_mem_dropAt member)
  unfold splitHead? at cut
  split at cut
  case h_1 => cases cut
  case h_2 first rest headWords =>
    rw [headWords] at ofHead
    obtain ⟨⟨firstContent, firstSolid⟩, ofRest⟩ := List.forall_mem_cons.mp ofHead
    cases colon : Text.cutAt? ':' first with
    | none =>
        simp only [colon, List.isEmpty_iff, if_neg firstContent, Option.some.injEq,
          Prod.mk.injEq] at cut
        obtain ⟨rfl, rfl⟩ := cut
        have undivided := Text.cutAt?_eq_none_iff.mp colon
        exact ⟨isWordWithout_ofList firstContent firstSolid undivided,
          fun word member => (ofRest word member).1⟩
    | some parts =>
        obtain ⟨before, attached⟩ := parts
        simp only [colon, List.isEmpty_iff, Option.ite_none_left_eq_some, Option.some.injEq,
          Prod.mk.injEq] at cut
        obtain ⟨content, rfl, rfl⟩ := cut
        have whole := Text.eq_append_of_cutAt? colon
        refine ⟨isWordWithout_ofList content ?_ (Text.not_mem_of_cutAt? colon), ?_⟩
        · intro character member
          exact firstSolid character (whole ▸ List.mem_append_left _ member)
        · intro word member
          split at member
          · exact (ofRest word member).1
          · next attachedContent =>
              rcases List.mem_cons.mp member with rfl | inRest
              · exact attachedContent
              · exact (ofRest word inRest).1

/-- A terminal that a text names is one. -/
theorem isDescribed_of_terminal? {text : List Char} {terminal : Terminal}
    (named : terminal? text = some terminal) : terminal.IsDescribed := by
  unfold terminal? at named
  have trimmedName : ∀ name : List Char, isEntityName name = true →
      name ≠ [] ∧ ∀ character ∈ name, Text.isBlank character = false := by
    intro name isName
    simpa [isEntityName] using isName
  cases dot : Text.cutAt? '.' (Text.trim text) with
  | none =>
      simp only [dot, Option.ite_none_right_eq_some, Option.some.injEq] at named
      obtain ⟨isName, rfl⟩ := named
      obtain ⟨content, solid⟩ := trimmedName _ isName
      have undotted := Text.cutAt?_eq_none_iff.mp dot
      exact ⟨isWordWithout_ofList content solid undotted, by simp⟩
  | some parts =>
      obtain ⟨before, after⟩ := parts
      simp only [dot, Option.ite_none_right_eq_some, Option.some.injEq] at named
      obtain ⟨isName, rfl⟩ := named
      obtain ⟨content, solid⟩ := trimmedName _ isName
      have undotted : '.' ∉ Text.trim before := fun member =>
        Text.not_mem_of_cutAt? dot ((Text.trim_sublist before).mem member)
      refine ⟨isWordWithout_ofList content solid undotted, ?_⟩
      intro name given
      simp only [List.isEmpty_iff, Option.ite_none_left_eq_some, Option.some.injEq] at given
      obtain ⟨pinContent, rfl⟩ := given
      refine ⟨by simpa using pinContent, ?_⟩
      rw [String.toList_ofList, Text.trim_trim]

theorem isDescribed_of_connection? {entry : List Char} {connection : Connection}
    (described : connection? entry = some connection) :
    connection.source.IsDescribed ∧ connection.target.IsDescribed := by
  simp only [connection?, Option.bind_eq_bind, Option.bind_eq_some_iff] at described
  obtain ⟨⟨first, second⟩, -, source, sourceNamed, target, targetNamed, made⟩ := described
  obtain rfl := Option.some.inj made
  exact ⟨isDescribed_of_terminal? sourceNamed, isDescribed_of_terminal? targetNamed⟩

variable [ScalarText K]

theorem isFinite_of_splitPosition? {entry head : List Char} {position : Point K}
    (cut : splitPosition? entry = some (head, position)) : position.isFinite = true := by
  simp only [splitPosition?, point?, Option.bind_eq_bind, Option.ite_none_right_eq_some,
    Option.bind_eq_some_iff, Option.some.injEq, Prod.mk.injEq] at cut
  obtain ⟨-, _, -, _, ⟨_, -, _, -, _, -, finite, rfl⟩, -, rfl⟩ := cut
  exact finite

theorem isDescribed_of_component? {entry : List Char} {component : Component K}
    (described : component? entry = some component) : (Entity.component component).IsDescribed := by
  have own := Sheet.hasOwnSymbol_of_component? described
  simp only [component?, Option.bind_eq_bind, Option.bind_eq_some_iff] at described
  obtain ⟨⟨head, position⟩, placed, ⟨reference, words⟩, cut, given⟩ := described
  cases words with
  | nil => cases given
  | cons tag value =>
      obtain rfl := Option.some.inj given
      exact
        { reference := (splitHead?_spec cut).1
          finite := isFinite_of_splitPosition? placed
          symbol := by
            rintro component ⟨⟩
            exact own
          rail := by simp }

theorem isDescribed_of_power? {entry : List Char} {power : PowerSymbol K}
    (described : power? entry = some power) : (Entity.power power).IsDescribed := by
  simp only [power?, Option.bind_eq_bind, Option.bind_eq_some_iff] at described
  obtain ⟨⟨head, position⟩, placed, ⟨reference, words⟩, cut, given⟩ := described
  obtain ⟨isReference, content⟩ := splitHead?_spec cut
  cases words with
  | nil => cases given
  | cons first others =>
      obtain rfl := Option.some.inj given
      exact
        { reference := isReference
          finite := isFinite_of_splitPosition? placed
          symbol := by simp
          rail := by
            rintro power ⟨⟩
            simpa using Text.unwords_cons_ne_nil (content first List.mem_cons_self) others }

end Description

/-! ## Circuits of entries -/

/-- An entity that can be described may join, since one whose reference is taken is left out. -/
theorem Circuit.IsDescribed.addEntity [Scalar K] {circuit : Circuit K} {entity : Entity K}
    (inOrder : circuit.IsDescribed) (described : entity.IsDescribed) :
    (circuit.addEntity entity).IsDescribed := by
  cases taken : circuit.isTaken entity.reference with
  | true => rwa [addEntity_of_taken taken]
  | false =>
      refine ⟨?_, ?_, ?_⟩
      · intro other member
        rcases List.mem_cons.mp ((entities_addEntity_perm taken).mem_iff.mp member) with rfl | before
        · exact described
        · exact inOrder.entities other before
      · have absent := isTaken_eq_false_iff.mp taken described.reference.content
        rw [(references_addEntity_perm taken).nodup_iff, List.nodup_cons]
        exact ⟨absent, inOrder.distinct⟩
      · rw [connections_addEntity]
        exact inOrder.connections

theorem Circuit.IsDescribed.addConnection [Scalar K] {circuit : Circuit K} {connection : Connection}
    (inOrder : circuit.IsDescribed)
    (described : connection.source.IsDescribed ∧ connection.target.IsDescribed) :
    (circuit.addConnection connection).IsDescribed where
  entities := inOrder.entities
  distinct := inOrder.distinct
  connections := by
    simp only [Circuit.addConnection, List.forall_mem_append, List.forall_mem_singleton]
    exact ⟨inOrder.connections, described⟩

namespace Description

variable [ScalarText K]

theorem kept_isDescribed : Kept fun circuit : Circuit K => circuit.IsDescribed where
  named name := ⟨by simp, by simp [Circuit.references], by simp [Circuit.named]⟩
  renamed circuit name inOrder := ⟨inOrder.entities, inOrder.distinct, inOrder.connections⟩
  entered := by
    intro circuit part entry inOrder
    cases part with
    | components =>
        cases described : component? (K := K) entry with
        | none => simpa [addEntry, described] using inOrder
        | some component =>
            rw [addEntry, described]
            exact inOrder.addEntity (isDescribed_of_component? described)
    | power =>
        cases described : power? (K := K) entry with
        | none => simpa [addEntry, described] using inOrder
        | some power =>
            rw [addEntry, described]
            exact inOrder.addEntity (isDescribed_of_power? described)
    | connections =>
        cases described : connection? entry with
        | none => simpa [addEntry, described] using inOrder
        | some connection =>
            rw [addEntry, described]
            exact inOrder.addConnection (isDescribed_of_connection? described)

/-- Every circuit that a text describes in any dialect, or that any YAML value describes, consists
of what entries can describe, and its references differ from one another. -/
theorem isDescribed_of_parse {circuit : Circuit K}
    (described : (∃ dialect text, parse dialect text = .ok circuit) ∨
      ∃ value, ofYaml value = .ok circuit) :
    circuit.IsDescribed := by
  rcases described with ⟨dialect, text, fromText⟩ | ⟨value, fromValue⟩
  · exact kept_isDescribed.parse fromText
  · exact kept_isDescribed.ofYaml fromValue

/-- Of these entries one is placed nowhere, one bears a reference that is taken, and one starts
nowhere. -/
def hostileText : List Char :=
  ("circuit: x\ncomponents:\nR1:led  red AT (20, 30)\nR2 led (inf, 1)\npower:\nR1 GND (5, 5)\n" ++
    "G1 my GND (10, 20)\nconnections:\nR1 . A -> G1.\n. -> R1\n").toList

/-- What remains of these entries. -/
def hostileCircuit : Circuit Float where
  name := "x"
  components := [Component.ofKind "R1" .led "red" ⟨20, 30⟩]
  powers := [⟨"G1", "my GND", ⟨10, 20⟩⟩]
  connections := [⟨⟨"R1", some "A"⟩, ⟨"G1", none⟩⟩]

theorem isDescribed_of_parse_hostile :
    parse (.fixed .line) hostileText = .ok hostileCircuit ∧ hostileCircuit.IsDescribed := by
  have described : parse (.fixed .line) hostileText = .ok hostileCircuit := by
    decide +kernel
  exact ⟨described, isDescribed_of_parse (.inl ⟨_, _, described⟩)⟩

end Description
end CircuitSheet
