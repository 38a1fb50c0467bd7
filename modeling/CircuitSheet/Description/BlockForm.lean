import CircuitSheet.Description.Section
import CircuitSheet.Yaml.Value

/-!
# The block form

A description in block form is a YAML document: a mapping from the circuit's header to a
mapping from section headers to lists of entries. Entries are texts, or mappings of one text
to another. Only the first header of the document counts.
-/

namespace CircuitSheet
namespace Description

variable {K : Type}

/-- The text of an entry: a scalar, or a mapping of one scalar to another. -/
def entryText? : Yaml.Value → Option String
  | .mapping [(key, value)] => do
      some ((← key.scalarText?) ++ ": " ++ (← value.scalarText?))
  | .mapping _ => none
  | value => value.scalarText?

/-- Add what an item of a section describes; an item that is no text describes nothing. -/
def addItem [ScalarText K] (opened : Section) (circuit : Circuit K) (item : Yaml.Value) :
    Circuit K :=
  match entryText? item with
  | some entry => addEntry circuit opened entry.toList
  | none => circuit

/-- Add what the items of a section describe; a section that is unknown or whose content is
no list is left out. -/
def addSection [ScalarText K] (circuit : Circuit K) (entry : Yaml.Value × Yaml.Value) :
    Circuit K :=
  match (entry.1.scalarText?).bind (fun header => Section.ofHeader? header.toList), entry.2 with
  | some opened, .sequence items => items.foldl (addItem opened) circuit
  | _, _ => circuit

/-- The circuit that a YAML value describes. -/
def ofYaml [ScalarText K] : Yaml.Value → Except Error (Circuit K)
  | .null => .error .empty
  | .mapping [] => .error .empty
  | .mapping ((header, body) :: _) =>
      let circuit : Circuit K := Circuit.named (circuitName (header.scalarText?.getD "").toList)
      match body with
      | .null => .ok circuit
      | .mapping sections => .ok (sections.foldl addSection circuit)
      | _ =>
          .error (.structure ("body of '" ++ circuit.name ++ "' must be a mapping of sections"))
  | _ => .error (.structure "top level must be a mapping with a circuit header")

end Description
end CircuitSheet
