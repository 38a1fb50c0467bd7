import CircuitSheet.Yaml.Tag

/-!
# YAML tokens

The marks and scalars that a YAML text consists of. Starts and ends of blocks, which only
indentation tells, are tokens as well.
-/

namespace CircuitSheet
namespace Yaml

/-- A token of a YAML text. -/
inductive Token
  | version (major minor : Nat)
  | handle (name : List Char) (expansion : Tag)
  | documentStart
  | documentEnd
  | blockSequenceStart
  | blockMappingStart
  | blockEnd
  | flowSequenceStart
  | flowSequenceEnd
  | flowMappingStart
  | flowMappingEnd
  | blockEntry
  | flowEntry
  | key
  | value
  | alias (name : List Char)
  | anchor (name : List Char)
  | tag (handle : List Char) (suffix : Tag)
  | scalar (text : List Char) (plain : Bool)
  deriving DecidableEq, Repr

end Yaml
end CircuitSheet
