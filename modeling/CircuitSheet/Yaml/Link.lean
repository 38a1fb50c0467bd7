import CircuitSheet.Yaml.Node

/-!
# What aliases stand for

An anchored node gets the number of different names used before it. An alias gets the number
that its name has where the alias stands. A number used more than once stands for the node that
starts last.
-/

namespace CircuitSheet
namespace Yaml

/-- A node with aliases by number. -/
abbrev LinkedNode := Node Nat

/-- A node with an anchor: its place among the anchored nodes, its number and its content. -/
structure Anchored where
  order : Nat
  number : Nat
  node : LinkedNode

/-- The numbers of names, how many anchored nodes have started, and those that have ended. -/
structure Links where
  numbers : List (List Char × Nat)
  started : Nat
  ended : List Anchored

namespace Links

/-- No names yet. -/
def none : Links := ⟨[], 0, []⟩

/-- The number of a name. -/
def number? (links : Links) (name : List Char) : Option Nat :=
  (links.numbers.find? (·.1 == name)).map (·.2)

/-- Start an anchored node. -/
def start (links : Links) (name : List Char) : Links :=
  let number := links.numbers.length
  { links with
    numbers := (name, number) :: links.numbers.filter (·.1 != name)
    started := links.started + 1 }

/-- Start a node that may be anchored. -/
def startAny (links : Links) (anchor : Option (List Char)) : Links :=
  match anchor with
  | some name => links.start name
  | Option.none => links

/-- End a node that was started after some links. -/
def finish (links : Links) (before : Links) (anchor : Option (List Char)) (node : LinkedNode) :
    Links :=
  match anchor with
  | some _ => { links with ended := ⟨before.started, before.numbers.length, node⟩ :: links.ended }
  | Option.none => links

/-- The node that a number stands for. -/
def node? (links : Links) (number : Nat) : Option LinkedNode :=
  let candidates := links.ended.filter (·.number == number)
  (candidates.find? fun first => candidates.all fun other => decide (other.order ≤ first.order)).map
    (·.node)

mutual
/-- Number the aliases of a node; there is none for an alias without an anchor before it. -/
def link? (links : Links) : WrittenNode → Option (LinkedNode × Links)
  | .alias name => (links.number? name).map fun number => (.alias number, links)
  | .scalar properties text plain =>
      let node : LinkedNode := .scalar properties text plain
      some (node, (links.startAny properties.anchor).finish links properties.anchor node)
  | .sequence properties items =>
      match linkItems? (links.startAny properties.anchor) items with
      | some (linked, after) =>
          let node : LinkedNode := .sequence properties linked
          some (node, after.finish links properties.anchor node)
      | Option.none => Option.none
  | .mapping properties entries =>
      match linkEntries? (links.startAny properties.anchor) entries with
      | some (linked, after) =>
          let node : LinkedNode := .mapping properties linked
          some (node, after.finish links properties.anchor node)
      | Option.none => Option.none
/-- Number the aliases of some nodes, one after the other. -/
def linkItems? (links : Links) : List WrittenNode → Option (List LinkedNode × Links)
  | [] => some ([], links)
  | item :: rest =>
      match link? links item with
      | some (first, after) =>
          (linkItems? after rest).map fun (others, last) => (first :: others, last)
      | Option.none => Option.none
/-- Number the aliases of some entries, one after the other and keys before values. -/
def linkEntries? (links : Links) :
    List (WrittenNode × WrittenNode) → Option (List (LinkedNode × LinkedNode) × Links)
  | [] => some ([], links)
  | (key, value) :: rest =>
      match link? links key with
      | some (linkedKey, afterKey) =>
          match link? afterKey value with
          | some (linkedValue, afterValue) =>
              (linkEntries? afterValue rest).map fun (others, last) =>
                ((linkedKey, linkedValue) :: others, last)
          | Option.none => Option.none
      | Option.none => Option.none
end

end Links
end Yaml
end CircuitSheet
