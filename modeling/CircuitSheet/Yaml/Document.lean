import CircuitSheet.Yaml.Link
import CircuitSheet.Yaml.Resolution

/-!
# YAML documents

A text is read as the value of its only document. Keys of a mapping have to differ, nodes may
be nested only so deep, and aliases may be followed only so many times.
-/

namespace CircuitSheet
namespace Yaml

/-- The greatest depth of nested collections. -/
def maxDepth : Nat := 128

/-- How many times aliases may be followed for every part of the document. -/
def maxJumpsPerPart : Nat := 100

/-- Building a value with a number of jumps that are left. -/
abbrev Build := StateT Nat Option

/-- The node that a node stands for; following an alias takes a jump. -/
def target (links : Links) (node : LinkedNode) : Build LinkedNode := do
  match node with
  | .alias number =>
      let left ← get
      if left = 0 then failure
      else
        set (left - 1)
        links.node? number
  | _ => pure node

/-- Mark a value with a tag of the document's own. -/
def markWith (tag : Option Tag) (value : Value) : Value :=
  match tag.bind Tag.ownName? with
  | some name => .tagged name value
  | none => value

/-- No two entries have the same key. -/
def keysDiffer : List (Value × Value) → Bool
  | [] => true
  | (key, _) :: rest => !rest.any (fun entry => key.same entry.1) && keysDiffer rest

/-- The value of a node with a number of levels that are left. Scalars take no level. -/
def build (links : Links) : Nat → LinkedNode → Build Value
  | 0, node => do
      match ← target links node with
      | .scalar properties text plain => Resolution.scalar? properties.tag text plain
      | _ => failure
  | deeper + 1, node => do
      match ← target links node with
      | .alias _ => failure
      | .scalar properties text plain => Resolution.scalar? properties.tag text plain
      | .sequence properties items =>
          let values ← items.mapM (build links deeper)
          pure (markWith properties.tag (.sequence values))
      | .mapping properties entries =>
          let values ← entries.mapM fun (key, value) => do
            pure (← build links deeper key, ← build links deeper value)
          if keysDiffer values then pure (markWith properties.tag (.mapping values)) else failure

section Building

variable (links : Links) (depth : Nat) (properties : NodeProperties)

theorem build_scalar (text : List Char) (plain : Bool) :
    build links depth (.scalar properties text plain) =
      liftM (Resolution.scalar? properties.tag text plain) := by
  cases depth <;> rfl

theorem build_sequence (items : List LinkedNode) :
    build links (depth + 1) (.sequence properties items) = (do
      let values ← items.mapM (build links depth)
      pure (markWith properties.tag (.sequence values))) :=
  rfl

theorem build_mapping (entries : List (LinkedNode × LinkedNode)) :
    build links (depth + 1) (.mapping properties entries) = (do
      let values ← entries.mapM fun (key, value) => do
        pure (← build links depth key, ← build links depth value)
      if keysDiffer values then pure (markWith properties.tag (.mapping values)) else failure) :=
  rfl

end Building

/-- The value of a document's root. -/
def Value.ofRoot? (root : WrittenNode) : Option Value := do
  let (linked, links) ← Links.none.link? root
  let (value, _) ← (build links maxDepth linked).run (maxJumpsPerPart * root.partCount)
  some value

/-- The value of a text; a text without a document is null. -/
def Value.parse? (text : List Char) : Option Value := do
  let tokens ← Token.ofText? text
  match ← Node.ofTokens? tokens with
  | none => some .null
  | some root => Value.ofRoot? root

end Yaml
end CircuitSheet
