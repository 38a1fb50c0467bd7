import CircuitSheet.Decimal.Shortest

/-!
# JSON values

Options files and reports are JSON. Numbers keep the text they are written with, and objects
keep the order and the repetitions of their keys.
-/

namespace CircuitSheet

/-- A JSON value. A string with half of a surrogate pair is well formed but is no text; an object
with such a key has no names to look up. Both are unpaired. -/
inductive Json
  | null
  | bool (value : Bool)
  | number (digits : List Char)
  | string (text : String)
  | unpaired
  | array (items : List Json)
  | object (members : List (String × Json))
  deriving Repr, Inhabited

namespace Json

/-- A count. -/
def ofNat (number : Nat) : Json :=
  .number (Decimal.natDigits number)

/-- A floating-point number; what is not finite becomes null. -/
def ofFloat (value : Float) : Json :=
  match Decimal.compact? .plus value with
  | some digits => .number digits
  | none => .null

/-- A value that may be absent. -/
def ofOption {α : Type} (encode : α → Json) : Option α → Json
  | some value => encode value
  | none => .null

/-- A list of values. -/
def ofList {α : Type} (encode : α → Json) (values : List α) : Json :=
  .array (values.map encode)

end Json
end CircuitSheet
