import CircuitSheet.Decimal.Reading
import CircuitSheet.Yaml.QuotedScalar
import CircuitSheet.Yaml.Tag
import CircuitSheet.Yaml.Value

/-!
# What plain scalars say

A plain scalar is a null, a boolean, a number or a text, whichever it looks like. Whole numbers
have a limited range. A tag can demand one sort of value, or mark the value with a tag of the
document's own.
-/

namespace CircuitSheet
namespace Yaml
namespace Resolution

/-- The text is a null. -/
def isNull (text : List Char) : Bool :=
  ["null", "Null", "NULL", "~"].any (·.toList == text)

/-- The boolean that a text names. -/
def bool? (text : List Char) : Option Bool :=
  if ["true", "True", "TRUE"].any (·.toList == text) then some true
  else if ["false", "False", "FALSE"].any (·.toList == text) then some false
  else none

/-- The text without one leading sign. -/
def dropSign : List Char → List Char
  | '+' :: rest => rest
  | '-' :: rest => rest
  | text => text

/-- Digits with a superfluous zero in front are no number. -/
def hasExtraZero (text : List Char) : Bool :=
  let digits := dropSign text
  digits.length > 1 && digits.head? == some '0' && digits.all Char.isDigit

/-- The number that digits of a base name. -/
def digitsValue? (base : Nat) (digits : List Char) : Option Nat :=
  if digits.isEmpty then none
  else
    digits.foldlM
      (fun number digit => do
        let value ← QuotedScalar.hexValue? digit
        if value < base then some (base * number + value) else none)
      0

/-- The number that digits name, with a mark of their base or in base ten. -/
def natural? : List Char → Option Nat
  | '0' :: 'x' :: digits => digitsValue? 16 digits
  | '0' :: 'o' :: digits => digitsValue? 8 digits
  | '0' :: 'b' :: digits => digitsValue? 2 digits
  | digits => digitsValue? 10 digits

/-- The whole number that a text names. -/
def whole? (text : List Char) : Option Int :=
  if hasExtraZero text then none
  else
    match text with
    | '-' :: rest => (natural? rest).map fun size => -(size : Int)
    | _ => (natural? (dropSign text)).map Int.ofNat

/-- The whole number is one of at most 128 bits. -/
def isRecognised (number : Int) : Bool :=
  decide (-Int.ofNat (Nat.pow 2 127) ≤ number ∧ number < Int.ofNat (Nat.pow 2 128))

/-- The whole number is one of at most 64 bits. -/
def isSupported (number : Int) : Bool :=
  decide (-Int.ofNat (Nat.pow 2 63) ≤ number ∧ number < Int.ofNat (Nat.pow 2 64))

/-- The whole number that a text is taken for, whether or not it is supported. -/
def recognisedWhole? (text : List Char) : Option Int :=
  (whole? text).filter isRecognised

/-- The value of a whole number; numbers of more than 64 bits are an error. -/
def wholeValue? (number : Int) : Option Value :=
  if isSupported number then some (.number (.whole number)) else none

/-- The text behind a plus sign, unless another sign follows. -/
def dropPlus? : List Char → Option (List Char)
  | '+' :: '+' :: _ => none
  | '+' :: '-' :: _ => none
  | '+' :: rest => some rest
  | text => some text

/-- The floating-point number that a text names. -/
def real? (text : List Char) : Option Float := do
  let unsigned ← dropPlus? text
  if [".inf", ".Inf", ".INF"].any (·.toList == unsigned) then some (1.0 / 0.0)
  else if ["-.inf", "-.Inf", "-.INF"].any (·.toList == text) then some (-1.0 / 0.0)
  else if [".nan", ".NaN", ".NAN"].any (·.toList == text) then some (0.0 / 0.0)
  else (Decimal.read? unsigned).filter Float.isFinite

/-- The value of a plain scalar. -/
def plain? (text : List Char) : Option Value :=
  if text.isEmpty || isNull text then some .null
  else
    match bool? text, recognisedWhole? text with
    | some value, _ => some (.bool value)
    | none, some number => wholeValue? number
    | none, none =>
        match if hasExtraZero text then none else real? text with
        | some value => some (.number (.real value))
        | none => some (.string (String.ofList text))

/-- The value of a scalar without a tag. -/
def untagged? (text : List Char) (plain : Bool) : Option Value :=
  if plain then plain? text else some (.string (String.ofList text))

/-- The tag of a sort of values that every document knows. -/
def sortTag (name : String) : Tag :=
  Tag.ofText ("tag:yaml.org,2002:" ++ name).toList

/-- The value of a scalar whose tag does not name a sort of the document's own. A tag that only
starts like one does not change what a scalar says. -/
def typed? (tag : Tag) (text : List Char) (plain : Bool) : Option Value :=
  if tag == sortTag "bool" then (bool? text).map Value.bool
  else if tag == sortTag "int" then (recognisedWhole? text).bind wholeValue?
  else if tag == sortTag "float" then (real? text).map fun value => .number (.real value)
  else if tag == sortTag "null" then if isNull text then some .null else none
  else untagged? text (plain && tag.isOwn)

/-- The value of a scalar. -/
def scalar? (tag : Option Tag) (text : List Char) (plain : Bool) : Option Value :=
  match tag with
  | none => untagged? text plain
  | some tag =>
      match tag.ownName? with
      | some name => (untagged? text plain).map (.tagged name)
      | none => typed? tag text plain

/-- A plain scalar that looks like no other sort of value is a text. -/
theorem scalar?_eq_string {text : List Char} (content : (text.isEmpty || isNull text) = false)
    (noBool : (bool? text).isNone = true) (noWhole : (recognisedWhole? text).isNone = true)
    (noReal : (real? text).isNone = true) :
    scalar? none text true = some (.string (String.ofList text)) := by
  rw [Option.isNone_iff_eq_none] at noBool noWhole noReal
  simp only [scalar?, untagged?, plain?, content, noBool, noWhole, noReal, Bool.false_eq_true,
    if_false, ite_self]

end Resolution
end Yaml
end CircuitSheet
