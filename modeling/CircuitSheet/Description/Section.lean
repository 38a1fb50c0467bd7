import CircuitSheet.Description.Entry

/-!
# Sections of a description

Entries stand in sections of components, power symbols and connections. An entry that is
malformed or whose reference is taken adds nothing. The header of a description names the
circuit.
-/

namespace CircuitSheet
namespace Description

/-- What the entries of a section describe. -/
inductive Section
  | components
  | power
  | connections
  deriving DecidableEq, Repr

/-- The text without trailing characters that satisfy a test. -/
def dropTrailing (test : Char → Bool) (text : List Char) : List Char :=
  (text.reverse.dropWhile test).reverse

/-- The section that a header opens; the header may end with colons. -/
def Section.ofHeader? (header : List Char) : Option Section :=
  let name := Text.lower (Text.trim (dropTrailing (· == ':') (Text.trim header)))
  if name = "components".toList then some .components
  else if name = "power".toList then some .power
  else if name = "connections".toList then some .connections
  else none

/-- The name of a circuit whose header gives none. -/
def untitled : String := "Untitled Circuit"

/-- What follows the word "circuit" at the start of a header, if it stands alone there. -/
def afterCircuitWord (header : List Char) : List Char :=
  let rest := header.drop 7
  let standsAlone :=
    match rest with
    | [] => true
    | character :: _ => Text.isBlank character || character == '"'
  if Text.sameLetters (header.take 7) "circuit".toList && standsAlone then rest else header

/-- A quote that may surround the name of a circuit. -/
def isQuote (character : Char) : Bool :=
  character == '"' || character == '\''

/-- The name that a header gives to a circuit. -/
def circuitName (header : List Char) : String :=
  let rest := Text.trim (afterCircuitWord (Text.trim header))
  let name := Text.trim (dropTrailing isQuote (rest.dropWhile isQuote))
  if name.isEmpty then untitled else String.ofList name

/-- Add what an entry of a section describes. -/
def addEntry {K : Type} [ScalarText K] (circuit : Circuit K) (part : Section)
    (entry : List Char) : Circuit K :=
  match part with
  | .components => ((component? entry).map circuit.addComponent).getD circuit
  | .power => ((power? entry).map circuit.addPower).getD circuit
  | .connections => ((connection? entry).map circuit.addConnection).getD circuit

/-- Why a description gives no circuit. -/
inductive Error
  | malformed
  | empty
  | structure (message : String)
  deriving DecidableEq, Repr

/-- The message for a description that gives no circuit. -/
def Error.message : Error → String
  | .malformed => "Malformed block description"
  | .empty => "Circuit description is empty"
  | .structure message => "Invalid circuit structure: " ++ message

/-- A line without content: blank, or a comment. -/
def isIdle (line : List Char) : Bool :=
  match Text.trim line with
  | [] => true
  | first :: _ => first == '#'

/-- A text without content. -/
def isEmptyText (text : List Char) : Bool :=
  (Text.lines text).all isIdle

end Description
end CircuitSheet
