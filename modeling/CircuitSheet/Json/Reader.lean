import CircuitSheet.Json.Basic
import CircuitSheet.Json.Number

/-!
# Reading JSON

The reader accepts exactly one value with blanks around it.
-/

namespace CircuitSheet
namespace Json

/-- A character between the tokens of JSON. -/
def isSpace (character : Char) : Bool :=
  character == ' ' || character == '\n' || character == '\t' || character == '\r'

/-- The text without spaces at its start. -/
def skipSpaces (text : List Char) : List Char :=
  text.dropWhile isSpace

/-- The value of a hexadecimal digit. -/
def hexDigit? (digit : Char) : Option Nat :=
  if digit.isDigit then some (digit.toNat - '0'.toNat)
  else if 'a' ≤ digit ∧ digit ≤ 'f' then some (digit.toNat - 'a'.toNat + 10)
  else if 'A' ≤ digit ∧ digit ≤ 'F' then some (digit.toNat - 'A'.toNat + 10)
  else none

/-- The number that four hexadecimal digits at the start of a text name. -/
def hexUnit? : List Char → Option (Nat × List Char)
  | first :: second :: third :: fourth :: rest => do
      let number :=
        ((← hexDigit? first) * 16 + (← hexDigit? second)) * 256 +
          ((← hexDigit? third) * 16 + (← hexDigit? fourth))
      some (number, rest)
  | _ => none

/-- A piece of a string: a character, or one of the halves of a surrogate pair. -/
inductive Piece
  | character (value : Char)
  | unit (code : Nat)

/-- The piece that a backslash and what follows it stand for. -/
def escapePiece? : List Char → Option (Piece × List Char)
  | 'u' :: rest =>
      match hexUnit? rest with
      | some (code, after) =>
          if 0xD800 ≤ code ∧ code ≤ 0xDFFF then some (.unit code, after)
          else some (.character (Char.ofNat code), after)
      | none => none
  | letter :: rest =>
      match letter with
      | '"' => some (.character '"', rest)
      | '\\' => some (.character '\\', rest)
      | '/' => some (.character '/', rest)
      | 'b' => some (.character '\x08', rest)
      | 'f' => some (.character '\x0c', rest)
      | 'n' => some (.character '\n', rest)
      | 'r' => some (.character '\r', rest)
      | 't' => some (.character '\t', rest)
      | _ => none
  | [] => none

/-- The pieces of a string up to its closing quote. -/
def pieces? : Nat → List Char → Option (List Piece × List Char)
  | 0, _ => none
  | _ + 1, [] => none
  | fuel + 1, character :: rest =>
      if character = '"' then some ([], rest)
      else if character = '\\' then
        match escapePiece? rest with
        | some (piece, after) =>
            (pieces? fuel after).map fun (others, end_) => (piece :: others, end_)
        | none => none
      else if character.toNat < 0x20 then none
      else
        (pieces? fuel rest).map fun (others, end_) => (.character character :: others, end_)

/-- Put pieces together; two halves of a pair that follow each other are one character. -/
def joinPieces? : List Piece → Option (List Char)
  | [] => some []
  | .character value :: rest => (joinPieces? rest).map (value :: ·)
  | .unit high :: .unit low :: rest =>
      if high < 0xDC00 ∧ 0xDC00 ≤ low then
        (joinPieces? rest).map
          (Char.ofNat (0x10000 + (high - 0xD800) * 0x400 + (low - 0xDC00)) :: ·)
      else none
  | .unit _ :: _ => none

/-- The string after an opening quote; the inner result is absent for half of a pair. -/
def stringBody? (text : List Char) : Option (Option String × List Char) :=
  (pieces? (text.length + 1) text).map fun (pieces, rest) =>
    ((joinPieces? pieces).map String.ofList, rest)

/-- Drop a word from the start of a text. -/
def word? (word : List Char) (value : Json) (text : List Char) : Option (Json × List Char) :=
  if word.isPrefixOf text then some (value, text.drop word.length) else none

mutual
/-- The value at the start of a text. The number bounds the recursion; each step takes at
least one character. -/
def value? : Nat → List Char → Option (Json × List Char)
  | 0, _ => none
  | fuel + 1, text =>
      match skipSpaces text with
      | [] => none
      | '"' :: rest =>
          (stringBody? rest).map fun (content, after) =>
            ((content.map Json.string).getD .unpaired, after)
      | '[' :: rest =>
          match skipSpaces rest with
          | ']' :: after => some (.array [], after)
          | _ => (items? fuel rest).map fun (items, after) => (.array items, after)
      | '\x7b' :: rest =>
          match skipSpaces rest with
          | '\x7d' :: after => some (.object [], after)
          | _ => (members? fuel rest).map fun (members, after) =>
              ((members.map Json.object).getD .unpaired, after)
      | 'n' :: rest => word? ['u', 'l', 'l'] .null rest
      | 't' :: rest => word? ['r', 'u', 'e'] (.bool true) rest
      | 'f' :: rest => word? ['a', 'l', 's', 'e'] (.bool false) rest
      | trimmed =>
          (splitNumber? trimmed).map fun (_, after) =>
            (.number (trimmed.take (trimmed.length - after.length)), after)
/-- The items of an array up to its closing bracket. -/
def items? : Nat → List Char → Option (List Json × List Char)
  | 0, _ => none
  | fuel + 1, text =>
      match value? fuel text with
      | none => none
      | some (item, after) =>
          match skipSpaces after with
          | ',' :: rest => (items? fuel rest).map fun (others, end_) => (item :: others, end_)
          | ']' :: rest => some ([item], rest)
          | _ => none
/-- The members of an object up to its closing brace; the inner result is absent when a key has
half of a pair. -/
def members? : Nat → List Char → Option (Option (List (String × Json)) × List Char)
  | 0, _ => none
  | fuel + 1, text =>
      match skipSpaces text with
      | '"' :: afterQuote =>
          match stringBody? afterQuote with
          | some (key, afterKey) =>
              match skipSpaces afterKey with
              | ':' :: afterColon =>
                  match value? fuel afterColon with
                  | none => none
                  | some (value, after) =>
                      let member := key.map fun name => (name, value)
                      match skipSpaces after with
                      | ',' :: rest =>
                          (members? fuel rest).map fun (others, end_) =>
                            (member.bind fun first => others.map (first :: ·), end_)
                      | '\x7d' :: rest => some (member.map ([·]), rest)
                      | _ => none
              | _ => none
          | none => none
      | _ => none
end

/-- The value that a whole text is. -/
def parse? (text : List Char) : Option Json :=
  match value? (2 * text.length + 2) text with
  | some (value, rest) => if (skipSpaces rest).isEmpty then some value else none
  | none => none

end Json
end CircuitSheet
