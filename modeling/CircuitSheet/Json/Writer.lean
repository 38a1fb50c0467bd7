import CircuitSheet.Json.Basic

/-!
# Writing JSON

Values are written on one line, or spread over lines with two spaces for each level.
-/

namespace CircuitSheet
namespace Json

/-- A digit of a hexadecimal number below sixteen. -/
def hexDigits (number : Nat) : List Char :=
  Decimal.padZeros 4 (Nat.toDigits 16 number)

/-- A character within a string. -/
def escapeChar (character : Char) : List Char :=
  match character with
  | '"' => ['\\', '"']
  | '\\' => ['\\', '\\']
  | '\x08' => ['\\', 'b']
  | '\x0c' => ['\\', 'f']
  | '\n' => ['\\', 'n']
  | '\r' => ['\\', 'r']
  | '\t' => ['\\', 't']
  | other => if other.toNat < 0x20 then '\\' :: 'u' :: hexDigits other.toNat else [other]

/-- A string with its quotes. -/
def stringText (text : String) : List Char :=
  '"' :: text.toList.flatMap escapeChar ++ ['"']

mutual
/-- A value on one line. -/
def line : Json → List Char
  | .null => ['n', 'u', 'l', 'l']
  | .bool true => ['t', 'r', 'u', 'e']
  | .bool false => ['f', 'a', 'l', 's', 'e']
  | .number digits => digits
  | .string text => stringText text
  | .unpaired => ['"', '"']
  | .array items => '[' :: lineItems items ++ [']']
  | .object members => '\x7b' :: lineMembers members ++ ['\x7d']
/-- The items of an array with commas between them. -/
def lineItems : List Json → List Char
  | [] => []
  | [item] => item.line
  | item :: rest => item.line ++ ',' :: lineItems rest
/-- The members of an object with commas between them. -/
def lineMembers : List (String × Json) → List Char
  | [] => []
  | [(key, value)] => stringText key ++ ':' :: value.line
  | (key, value) :: rest => stringText key ++ ':' :: value.line ++ ',' :: lineMembers rest
end

/-- A line break and the spaces of a level. -/
def lineBreak (level : Nat) : List Char :=
  '\n' :: List.replicate (2 * level) ' '

mutual
/-- A value spread over lines, at a level of indentation. -/
def pretty (level : Nat) : Json → List Char
  | .array [] => ['[', ']']
  | .array (first :: rest) =>
      '[' :: prettyItems (level + 1) (first :: rest) ++ lineBreak level ++ [']']
  | .object [] => ['\x7b', '\x7d']
  | .object (first :: rest) =>
      '\x7b' :: prettyMembers (level + 1) (first :: rest) ++ lineBreak level ++ ['\x7d']
  | .null => ['n', 'u', 'l', 'l']
  | .bool true => ['t', 'r', 'u', 'e']
  | .bool false => ['f', 'a', 'l', 's', 'e']
  | .number digits => digits
  | .string text => stringText text
  | .unpaired => ['"', '"']
/-- Items of an array on lines of their own. -/
def prettyItems (level : Nat) : List Json → List Char
  | [] => []
  | [item] => lineBreak level ++ pretty level item
  | item :: rest => lineBreak level ++ pretty level item ++ ',' :: prettyItems level rest
/-- Members of an object on lines of their own. -/
def prettyMembers (level : Nat) : List (String × Json) → List Char
  | [] => []
  | [(key, value)] => lineBreak level ++ stringText key ++ [':', ' '] ++ pretty level value
  | (key, value) :: rest =>
      lineBreak level ++ stringText key ++ [':', ' '] ++ pretty level value ++
        ',' :: prettyMembers level rest
end

end Json
end CircuitSheet
