/-!
# Capital letters A to Z

Rail names are compared with names made of the letters A to Z after changing them to upper
case. Besides the small letters only a few characters have one of these capitals in their
upper case; all other characters stay what they are, since they can match none of the names
either way.
-/

namespace CircuitSheet
namespace Text

/-- The upper case of a character, as far as it holds letters A to Z. -/
def capitals (character : Char) : List Char :=
  match character with
  | 'ß' => ['S', 'S']
  | 'ı' => ['I']
  | 'ŉ' => ['ʼ', 'N']
  | 'ſ' => ['S']
  | 'ǰ' => ['J', '\u030c']
  | 'ẖ' => ['H', '\u0331']
  | 'ẗ' => ['T', '\u0308']
  | 'ẘ' => ['W', '\u030a']
  | 'ẙ' => ['Y', '\u030a']
  | 'ẚ' => ['A', 'ʾ']
  | 'ﬀ' => ['F', 'F']
  | 'ﬁ' => ['F', 'I']
  | 'ﬂ' => ['F', 'L']
  | 'ﬃ' => ['F', 'F', 'I']
  | 'ﬄ' => ['F', 'F', 'L']
  | 'ﬅ' => ['S', 'T']
  | 'ﬆ' => ['S', 'T']
  | other => [other.toUpper]

/-- A text with its letters capitalised. -/
def capitalise (text : List Char) : List Char :=
  text.flatMap capitals

end Text
end CircuitSheet
