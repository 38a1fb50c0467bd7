import CircuitSheet.Decimal.Shortest

/-!
# YAML values

What a YAML document says: plain scalars have been resolved to nulls, booleans, numbers and
texts, and aliases have been replaced by what they stand for.
-/

namespace CircuitSheet
namespace Yaml

/-- A number: whole numbers and floating-point numbers are never the same. -/
inductive Number
  | whole (value : Int)
  | real (value : Float)
  deriving Repr

/-- The text of a number. -/
def Number.text : Number → List Char
  | .whole value => (toString value).toList
  | .real value =>
      match Binary64.parts value with
      | .undefined => ['.', 'n', 'a', 'n']
      | .infinite negative => Decimal.signed negative ['.', 'i', 'n', 'f']
      | .finite .. => (Decimal.compact? .unmarked value).getD []

/-- Numbers are the same when they are of one sort and equal, or both undefined. -/
def Number.same : Number → Number → Bool
  | .whole first, .whole second => first == second
  | .real first, .real second => (first.isNaN && second.isNaN) || first == second
  | _, _ => false

/-- A node of a document, with its content. -/
inductive Value
  | null
  | bool (value : Bool)
  | number (value : Number)
  | string (text : String)
  | sequence (items : List Value)
  | mapping (entries : List (Value × Value))
  | tagged (tag : String) (value : Value)
  deriving Repr, Inhabited

namespace Value

/-- The text of a scalar without a tag of its own. -/
def scalarText? : Value → Option String
  | string text => some text
  | number value => some (String.ofList value.text)
  | bool value => some (if value then "true" else "false")
  | _ => none

mutual
/-- The number of nodes of a value. -/
def nodeCount : Value → Nat
  | sequence items => 1 + itemsNodeCount items
  | mapping entries => 1 + entriesNodeCount entries
  | tagged _ value => 1 + value.nodeCount
  | _ => 1
/-- The number of nodes of some values. -/
def itemsNodeCount : List Value → Nat
  | [] => 0
  | item :: rest => item.nodeCount + itemsNodeCount rest
/-- The number of nodes of some entries. -/
def entriesNodeCount : List (Value × Value) → Nat
  | [] => 0
  | (key, value) :: rest => key.nodeCount + value.nodeCount + entriesNodeCount rest
end

mutual
/-- Values are the same; the order of the entries of a mapping does not matter. The number
bounds the depth to which they are compared. -/
def sameWithin : Nat → Value → Value → Bool
  | 0, _, _ => false
  | _ + 1, null, null => true
  | _ + 1, bool first, bool second => first == second
  | _ + 1, number first, number second => first.same second
  | _ + 1, string first, string second => first == second
  | depth + 1, sequence first, sequence second => sameItems depth first second
  | depth + 1, mapping first, mapping second =>
      first.length == second.length && entriesIncluded depth first second
  | depth + 1, tagged firstTag first, tagged secondTag second =>
      firstTag == secondTag && sameWithin depth first second
  | _, _, _ => false
/-- Lists of values are the same item by item. -/
def sameItems : Nat → List Value → List Value → Bool
  | _, [], [] => true
  | 0, _, _ => false
  | depth + 1, first :: others, second :: rest =>
      sameWithin depth first second && sameItems depth others rest
  | _, _, _ => false
/-- Every entry of the first list has one with the same key and value in the second. -/
def entriesIncluded : Nat → List (Value × Value) → List (Value × Value) → Bool
  | _, [], _ => true
  | 0, _, _ => false
  | depth + 1, (key, value) :: rest, entries =>
      entryIncluded depth key value entries && entriesIncluded depth rest entries
/-- An entry with the same key and value is in the list. -/
def entryIncluded : Nat → Value → Value → List (Value × Value) → Bool
  | _, _, _, [] => false
  | 0, _, _, _ => false
  | depth + 1, key, value, (otherKey, otherValue) :: rest =>
      (sameWithin depth key otherKey && sameWithin depth value otherValue) ||
        entryIncluded depth key value rest
end

/-- Values are the same. -/
def same (first second : Value) : Bool :=
  sameWithin (2 * (first.nodeCount + second.nodeCount) + 2) first second

end Value
end Yaml
end CircuitSheet
