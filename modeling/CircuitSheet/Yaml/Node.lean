import CircuitSheet.Yaml.Lexer

/-!
# YAML nodes

Tokens make up nodes: scalars, sequences, mappings, and aliases for other nodes. Where a node
may be missing, an empty scalar stands in its place.
-/

namespace CircuitSheet
namespace Yaml

/-- The name and the tag of a node. -/
structure NodeProperties where
  anchor : Option (List Char)
  tag : Option Tag
  deriving DecidableEq, Repr

/-- A node has neither name nor tag. -/
def NodeProperties.none : NodeProperties := ⟨Option.none, Option.none⟩

/-- A node of a document. Aliases tell in some way or other what they stand for. -/
inductive Node (α : Type)
  | alias (target : α)
  | scalar (properties : NodeProperties) (text : List Char) (plain : Bool)
  | sequence (properties : NodeProperties) (items : List (Node α))
  | mapping (properties : NodeProperties) (entries : List (Node α × Node α))
  deriving Repr, Inhabited

/-- A node as it is written, with aliases by name. -/
abbrev WrittenNode := Node (List Char)

namespace Node

/-- The scalar in place of a missing node. -/
def missing {α : Type} : Node α := .scalar NodeProperties.none [] true

section

variable {α : Type}

mutual
/-- How many parts the node is written in: each scalar and alias is one, and each collection
has a start and an end. -/
def partCount : Node α → Nat
  | sequence _ items => 2 + itemsPartCount items
  | mapping _ entries => 2 + entriesPartCount entries
  | _ => 1
/-- The number of parts of some nodes. -/
def itemsPartCount : List (Node α) → Nat
  | [] => 0
  | item :: rest => item.partCount + itemsPartCount rest
/-- The number of parts of some entries. -/
def entriesPartCount : List (Node α × Node α) → Nat
  | [] => 0
  | (key, value) :: rest => key.partCount + value.partCount + entriesPartCount rest
end

end

/-- Where a node stands: within brackets only nodes in brackets may follow, and below a key the
items of a sequence may be indented no further than the key. -/
inductive Place
  | inFlow
  | inBlock
  | belowKey
  deriving DecidableEq, Repr

/-- Abbreviations for tags, with what they stand for. -/
abbrev Handles := List (List Char × Tag)

/-- The tag that an abbreviation and a suffix make. -/
def expandTag? (handles : Handles) (handle : List Char) (suffix : Tag) : Option Tag :=
  if handle = [] then some suffix
  else (handles.find? (·.1 == handle)).map fun (_, expansion) => expansion ++ suffix

/-- The name and the tag at the start of some tokens, in either order. -/
def properties? (handles : Handles) : List Token → Option (NodeProperties × List Token)
  | .anchor name :: .tag handle suffix :: rest =>
      (expandTag? handles handle suffix).map fun tag => (⟨some name, some tag⟩, rest)
  | .tag handle suffix :: .anchor name :: rest =>
      (expandTag? handles handle suffix).map fun tag => (⟨some name, some tag⟩, rest)
  | .anchor name :: rest => some (⟨some name, none⟩, rest)
  | .tag handle suffix :: rest =>
      (expandTag? handles handle suffix).map fun tag => (⟨none, some tag⟩, rest)
  | tokens => some (NodeProperties.none, tokens)

/-- Nothing follows the indicator of a key, a value or an item in a block. -/
def lacksNode : List Token → Bool
  | .key :: _ => true
  | .value :: _ => true
  | .blockEnd :: _ => true
  | _ => false

/-- Nothing follows the dash of an item. -/
def lacksItem : List Token → Bool
  | .blockEntry :: _ => true
  | .blockEnd :: _ => true
  | _ => false

/-- An item of a sequence in brackets ends here. -/
def endsPair : List Token → Bool
  | .flowEntry :: _ => true
  | .flowSequenceEnd :: _ => true
  | _ => false

/-- An entry of a mapping in brackets ends here. -/
def endsMember : List Token → Bool
  | .flowEntry :: _ => true
  | .flowMappingEnd :: _ => true
  | _ => false

/-- The value of an entry starts here. -/
def startsValue : List Token → Bool
  | .value :: _ => true
  | _ => false

mutual
/-- Read a node from the start of some tokens. The number bounds the steps. -/
def read? (handles : Handles) (place : Place) : Nat → List Token → Option (WrittenNode × List Token)
  | 0, _ => none
  | more + 1, tokens =>
      match tokens with
      | .alias name :: rest => some (.alias name, rest)
      | _ =>
          match properties? handles tokens with
          | none => none
          | some (properties, rest) => content? handles place properties more rest
/-- Read the content of a node behind its properties. -/
def content? (handles : Handles) (place : Place) (properties : NodeProperties) :
    Nat → List Token → Option (WrittenNode × List Token)
  | 0, _ => none
  | more + 1, tokens =>
      match tokens, place with
      | .blockEntry :: _, .belowKey =>
          (looseItems? handles more tokens).map fun (items, rest) =>
            (.sequence properties items, rest)
      | .scalar text plain :: rest, _ => some (.scalar properties text plain, rest)
      | .flowSequenceStart :: rest, _ =>
          (flowItems? handles true more rest).map fun (items, rest) =>
            (.sequence properties items, rest)
      | .flowMappingStart :: rest, _ =>
          (flowEntries? handles true more rest).map fun (entries, rest) =>
            (.mapping properties entries, rest)
      | _, .inFlow => emptyContent? properties tokens
      | .blockSequenceStart :: rest, _ =>
          (blockItems? handles more rest).map fun (items, rest) =>
            (.sequence properties items, rest)
      | .blockMappingStart :: rest, _ =>
          (blockEntries? handles more rest).map fun (entries, rest) =>
            (.mapping properties entries, rest)
      | _, _ => emptyContent? properties tokens
/-- The empty scalar of a node that has nothing but properties. -/
def emptyContent? (properties : NodeProperties) (tokens : List Token) :
    Option (WrittenNode × List Token) :=
  if properties = NodeProperties.none then none else some (.scalar properties [] true, tokens)
/-- Read the items of a sequence in a block, up to its end. -/
def blockItems? (handles : Handles) : Nat → List Token → Option (List WrittenNode × List Token)
  | 0, _ => none
  | more + 1, tokens =>
      match tokens with
      | .blockEntry :: rest =>
          let item :=
            if lacksItem rest then some (missing, rest) else read? handles .inBlock more rest
          match item with
          | none => none
          | some (node, after) =>
              (blockItems? handles more after).map fun (others, rest) => (node :: others, rest)
      | .blockEnd :: rest => some ([], rest)
      | _ => none
/-- Read the items of a sequence that is indented no further than the key above it. -/
def looseItems? (handles : Handles) : Nat → List Token → Option (List WrittenNode × List Token)
  | 0, _ => none
  | more + 1, tokens =>
      match tokens with
      | .blockEntry :: rest =>
          let item :=
            if lacksItem rest || lacksNode rest then some (missing, rest)
            else read? handles .inBlock more rest
          match item with
          | none => none
          | some (node, after) =>
              (looseItems? handles more after).map fun (others, rest) => (node :: others, rest)
      | _ => some ([], tokens)
/-- Read the entries of a mapping in a block, up to its end. -/
def blockEntries? (handles : Handles) :
    Nat → List Token → Option (List (WrittenNode × WrittenNode) × List Token)
  | 0, _ => none
  | more + 1, tokens =>
      match tokens with
      | .blockEnd :: rest => some ([], rest)
      | .key :: rest =>
          let key :=
            if lacksNode rest then some (missing, rest) else read? handles .belowKey more rest
          match key with
          | none => none
          | some (keyNode, afterKey) => blockValue? handles keyNode more afterKey
      | _ => none
/-- Read the value of a key and the entries after it. -/
def blockValue? (handles : Handles) (key : WrittenNode) :
    Nat → List Token → Option (List (WrittenNode × WrittenNode) × List Token)
  | 0, _ => none
  | more + 1, tokens =>
      let value :=
        match tokens with
        | .value :: rest =>
            if lacksNode rest then some (missing, rest) else read? handles .belowKey more rest
        | _ => some (missing, tokens)
      match value with
      | none => none
      | some (node, after) =>
          (blockEntries? handles more after).map fun (others, rest) =>
            ((key, node) :: others, rest)
/-- Read the items of a sequence in brackets, up to its end. A comma stands in front of every
item but the first. -/
def flowItems? (handles : Handles) (isFirst : Bool) :
    Nat → List Token → Option (List WrittenNode × List Token)
  | 0, _ => none
  | more + 1, tokens =>
      match tokens with
      | .flowSequenceEnd :: rest => some ([], rest)
      | _ =>
          let entry :=
            match isFirst, tokens with
            | true, _ => some tokens
            | false, .flowEntry :: rest => some rest
            | false, _ => none
          match entry with
          | none => none
          | some (.flowSequenceEnd :: rest) => some ([], rest)
          | some start =>
              let item :=
                match start with
                | .key :: rest => pair? handles more rest
                | _ => read? handles .inFlow more start
              match item with
              | none => none
              | some (node, after) =>
                  (flowItems? handles false more after).map fun (others, rest) =>
                    (node :: others, rest)
/-- Read the only entry of a mapping without brackets of its own. Where nothing follows the
question mark, the token behind it is passed over. -/
def pair? (handles : Handles) : Nat → List Token → Option (WrittenNode × List Token)
  | 0, _ => none
  | more + 1, tokens =>
      let key :=
        if startsValue tokens || endsPair tokens then some (missing, tokens.drop 1)
        else read? handles .inFlow more tokens
      match key with
      | none => none
      | some (keyNode, afterKey) =>
          let value :=
            match afterKey with
            | .value :: rest =>
                if endsPair rest then some (missing, rest) else read? handles .inFlow more rest
            | _ => some (missing, afterKey)
          value.map fun (node, after) => (.mapping NodeProperties.none [(keyNode, node)], after)
/-- Read the entries of a mapping in brackets, up to its end. -/
def flowEntries? (handles : Handles) (isFirst : Bool) :
    Nat → List Token → Option (List (WrittenNode × WrittenNode) × List Token)
  | 0, _ => none
  | more + 1, tokens =>
      match tokens with
      | .flowMappingEnd :: rest => some ([], rest)
      | _ =>
          let entry :=
            match isFirst, tokens with
            | true, _ => some tokens
            | false, .flowEntry :: rest => some rest
            | false, _ => none
          match entry with
          | none => none
          | some (.flowMappingEnd :: rest) => some ([], rest)
          | some (.key :: start) =>
              let key :=
                if startsValue start || endsMember start then some (missing, start)
                else read? handles .inFlow more start
              match key with
              | none => none
              | some (keyNode, afterKey) => flowValue? handles keyNode more afterKey
          | some start =>
              match read? handles .inFlow more start with
              | none => none
              | some (keyNode, after) =>
                  (flowEntries? handles false more after).map fun (others, rest) =>
                    ((keyNode, missing) :: others, rest)
/-- Read the value of a key in brackets and the entries after it. -/
def flowValue? (handles : Handles) (key : WrittenNode) :
    Nat → List Token → Option (List (WrittenNode × WrittenNode) × List Token)
  | 0, _ => none
  | more + 1, tokens =>
      let value :=
        match tokens with
        | .value :: rest =>
            if endsMember rest then some (missing, rest) else read? handles .inFlow more rest
        | _ => some (missing, tokens)
      match value with
      | none => none
      | some (node, after) =>
          (flowEntries? handles false more after).map fun (others, rest) =>
            ((key, node) :: others, rest)
end

/-- The abbreviations that need no directive. -/
def standardHandles : Handles :=
  [(['!'], Tag.bare), (['!', '!'], Tag.ofText "tag:yaml.org,2002:".toList)]

/-- Read the directives at the start of some tokens: at most one version, which has to be known,
and abbreviations with different names. -/
def directives? (hasVersion : Bool) (handles : Handles) :
    List Token → Option (Handles × List Token)
  | .version major minor :: rest =>
      if hasVersion || major != 1 || !(minor == 1 || minor == 2) then none
      else directives? true handles rest
  | .handle name expansion :: rest =>
      if handles.any (·.1 == name) then none
      else directives? hasVersion ((name, expansion) :: handles) rest
  | tokens => some (handles ++ standardHandles, tokens)

/-- No node follows the start of a document. -/
def lacksDocument : List Token → Bool
  | [] => true
  | .version _ _ :: _ => true
  | .handle _ _ :: _ => true
  | .documentStart :: _ => true
  | .documentEnd :: _ => true
  | _ => false

/-- Read the root of the first document and what follows it. -/
def root? (tokens : List Token) : Option (WrittenNode × List Token) := do
  let (handles, afterDirectives) ← directives? false [] tokens
  let bound := 4 * tokens.length + 4
  match afterDirectives with
  | .documentStart :: rest =>
      if lacksDocument rest then some (missing, rest) else read? handles .inBlock bound rest
  | rest =>
      if rest.length < tokens.length then none else read? handles .inBlock bound rest

/-- The root of the only document that some tokens make up; there is none without tokens. -/
def ofTokens? (tokens : List Token) : Option (Option WrittenNode) :=
  if tokens.isEmpty then some none
  else
    match root? tokens with
    | some (node, rest) => if rest.all (· == .documentEnd) then some (some node) else none
    | none => none

end Node
end Yaml
end CircuitSheet
