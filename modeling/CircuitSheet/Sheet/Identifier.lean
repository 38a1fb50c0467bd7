import CircuitSheet.Decimal.Digits

/-!
# Identifiers

Everything on a sheet bears a universally unique identifier. Identifiers are numbered. When
the numbers are consecutive, a sheet comes out the same every time it is drawn.
-/

namespace CircuitSheet
namespace Identifier

/-- The number of different identifiers. -/
def count : Nat := Nat.pow 2 128

/-- The thirty-two hexadecimal digits of a number. -/
def digits (number : Nat) : List Char :=
  Decimal.padZeros 32 (Nat.toDigits 16 (number % count))

/-- Put hyphens after the eighth, twelfth, sixteenth and twentieth digit. -/
def hyphenate (digits : List Char) : List Char :=
  digits.take 8 ++ '-' :: (digits.drop 8).take 4 ++ '-' :: (digits.drop 12).take 4 ++
    '-' :: (digits.drop 16).take 4 ++ '-' :: digits.drop 20

/-- The identifier with a number. -/
def text (number : Nat) : String :=
  String.ofList (hyphenate (digits number))

/-- The numbering that counts on from a number. -/
def consecutive (first : Nat) (place : Nat) : Nat :=
  first + place

end Identifier
end CircuitSheet
