import CircuitSheet.Json.Number
import CircuitSheet.Json.Basic

/-!
# Values from JSON

A record is an object with known members, or an array of its fields in order. Members that are
not known are passed over; a known one may stand only once. A choice is the name of one of its
cases, or an object from that name to what belongs to the case.
-/

namespace CircuitSheet
namespace Json

/-- A text. -/
def toText? : Json → Option String
  | .string text => some text
  | _ => none

/-- A truth value. -/
def toBool? : Json → Option Bool
  | .bool value => some value
  | _ => none

/-- A floating-point number. -/
def toFloat? : Json → Option Float
  | .number digits => numberValue? digits
  | _ => none

/-- A list of values. -/
def toList? {α : Type} (decode : Json → Option α) : Json → Option (List α)
  | .array items => items.mapM decode
  | _ => none

/-- A value that may be null. -/
def toOption? {α : Type} (decode : Json → Option α) : Json → Option (Option α)
  | .null => some none
  | value => (decode value).map some

/-- The only member with a name, or none where there is no such member. Two are an error. -/
def uniqueMember? (members : List (String × Json)) (name : String) : Option (Option Json) :=
  match members.filter (·.1 == name) with
  | [] => some none
  | [(_, value)] => some (some value)
  | _ => none

/-- The fields of a record that may lack some of them; an array may lack the last ones. -/
def partialRecord? (names : List String) : Json → Option (List (Option Json))
  | .array items =>
      if items.length ≤ names.length then
        some (names.mapIdx fun index _ => items[index]?)
      else none
  | .object members => names.mapM (uniqueMember? members)
  | _ => none

/-- The fields of a record; an array has all of them. -/
def record? (names : List String) (value : Json) : Option (List (Option Json)) :=
  match value with
  | .array items => if items.length = names.length then partialRecord? names value else none
  | _ => partialRecord? names value

/-- A field that has to be there. -/
def required {α : Type} (decode : Json → Option α) (field : Option Json) : Option α :=
  field.bind decode

/-- A field with a default. -/
def withDefault {α : Type} (fallback : α) (decode : Json → Option α) (field : Option Json) :
    Option α :=
  match field with
  | some value => decode value
  | none => some fallback

/-- The name of a case and what belongs to it. -/
def case? : Json → Option (String × Json)
  | .string name => some (name, .null)
  | .object [(name, content)] => some (name, content)
  | _ => none

/-- A choice between cases that nothing belongs to. -/
def oneOf? {α : Type} (cases : List (String × α)) (value : Json) : Option α :=
  match case? value with
  | some (name, .null) => (cases.find? (·.1 == name)).map (·.2)
  | _ => none

mutual
/-- The value with the members of all objects in the order of their names. -/
def sorted : Json → Json
  | .array items => .array (sortedItems items)
  | .object members =>
      .object ((sortedMembers members).mergeSort fun first second => decide (first.1 ≤ second.1))
  | value => value
/-- Some values with sorted members. -/
def sortedItems : List Json → List Json
  | [] => []
  | item :: rest => item.sorted :: sortedItems rest
/-- Some members with sorted values. -/
def sortedMembers : List (String × Json) → List (String × Json)
  | [] => []
  | (name, value) :: rest => (name, value.sorted) :: sortedMembers rest
end

end Json
end CircuitSheet
