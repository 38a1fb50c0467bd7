/-!
# Ranges of characters

Properties of characters are given by lists of ranges of code points.
-/

namespace CircuitSheet
namespace Text

/-- The code point of a character lies in one of the ranges, whose ends are included. -/
def inRanges (ranges : List (Nat × Nat)) (character : Char) : Bool :=
  ranges.any fun range =>
    decide (range.1 ≤ character.toNat) && decide (character.toNat ≤ range.2)

end Text
end CircuitSheet
