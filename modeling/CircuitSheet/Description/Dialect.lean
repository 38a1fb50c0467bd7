import CircuitSheet.Description.BlockForm
import CircuitSheet.Description.LineForm
import CircuitSheet.Yaml.Document

/-!
# Dialects of descriptions

A description is written in block form or in line form. Unless the dialect is told, a header
that names the circuit on the first line with content tells the line form.
-/

namespace CircuitSheet
namespace Description

/-- The form of a description. -/
inductive Form
  | block
  | line
  deriving DecidableEq, Repr

/-- The form of a description, or that its text tells it. -/
inductive Dialect
  | auto
  | fixed (form : Form)
  deriving DecidableEq, Repr

/-- The name of a form. -/
def Form.name : Form → String
  | .block => "block"
  | .line => "line"

/-- The name of a dialect. -/
def Dialect.name : Dialect → String
  | .auto => "auto"
  | .fixed form => form.name

/-- The dialect with a name in any case, or a message about the name. -/
def Dialect.ofName (text : String) : Except String Dialect :=
  let lowered := Text.lowerString text
  match lowered with
  | "auto" => .ok .auto
  | "block" => .ok (.fixed .block)
  | "yaml" => .ok (.fixed .block)
  | "line" => .ok (.fixed .line)
  | "simple" => .ok (.fixed .line)
  | _ => .error ("unknown dialect '" ++ lowered ++ "'")

/-- The form that a text tells by its first line with content. -/
def Form.detect (text : List Char) : Form :=
  match (Text.lines text).find? (!isIdle ·) with
  | some first => if (circuitHeader? (Text.trim first)).isSome then .line else .block
  | none => .block

/-- The form that a dialect means for a text. -/
def Dialect.form (dialect : Dialect) (text : List Char) : Form :=
  match dialect with
  | .auto => Form.detect text
  | .fixed form => form

variable {K : Type} [ScalarText K]

/-- The circuit that a text in block form describes. -/
def parseBlock (text : List Char) : Except Error (Circuit K) :=
  if isEmptyText text then .error .empty
  else
    match Yaml.Value.parse? text with
    | some value => ofYaml value
    | none => .error .malformed

/-- The circuit that a text describes. -/
def parse (dialect : Dialect) (text : List Char) : Except Error (Circuit K) :=
  match dialect.form text with
  | .block => parseBlock text
  | .line => parseLines text

end Description
end CircuitSheet
