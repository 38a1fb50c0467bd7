import CircuitSheet.Scalar
import CircuitSheet.SExpr.Basic
import CircuitSheet.Text.Blank

/-!
# Tokens of symbolic expressions

Which characters delimit a bare token, which tokens are numbers, and which texts have to be
quoted to be read back as text.
-/

namespace CircuitSheet
namespace SExpr

/-- A character that ends a bare token. -/
def isDelimiter (character : Char) : Bool :=
  Text.isBlank character || character == '(' || character == ')' || character == '"'

/-- The token starts with a digit, or with a sign or point before a digit or point. -/
def startsNumeric : List Char → Bool
  | [] => false
  | first :: rest =>
      if first.isDigit then true
      else if first == '-' || first == '+' || first == '.' then
        match rest with
        | [] => false
        | second :: _ => second.isDigit || second == '.'
      else false

section

variable (N : Type) [ScalarText N]

/-- The number that a token is read as. -/
def tokenNumber? (token : List Char) : Option N :=
  if startsNumeric token then ScalarText.read? token else none

/-- The token would be read back as a number. -/
def isNumeral (token : List Char) : Bool :=
  (tokenNumber? N token).isSome

/-- The text cannot stand as a bare token and be read back as the same symbol. -/
def needsQuotes (text : List Char) : Bool :=
  text.isEmpty || text.any (fun character => isDelimiter character || character == '\\') ||
    isNumeral N text

end

/-- The atom for a text: a bare symbol where that is possible and a string elsewhere. -/
def text {N : Type} [ScalarText N] (content : String) : SExpr N :=
  if needsQuotes N content.toList then .string content else .symbol content

end SExpr
end CircuitSheet
