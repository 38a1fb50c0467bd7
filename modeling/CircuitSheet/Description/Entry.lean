import CircuitSheet.Circuit.Basic

/-!
# Entries of a description

Components and power symbols are described by a reference, some words and a position in
parentheses; connections by two terminals with an arrow between them. An entry that is not
of its form describes nothing.
-/

namespace CircuitSheet
namespace Description

variable {K : Type}

/-- The finite point whose coordinates are written with a comma between them. -/
def point? [ScalarText K] (text : List Char) : Option (Point K) := do
  let (first, second) ← Text.cutAt? ',' text
  let x ← ScalarText.read? (Text.trim first)
  let y ← ScalarText.read? (Text.trim second)
  let point : Point K := ⟨x, y⟩
  if point.isFinite then some point else none

/-- Cut an entry at the last opening parenthesis into its head and its position. -/
def splitPosition? [ScalarText K] (entry : List Char) : Option (List Char × Point K) := do
  let trimmed := Text.trim entry
  if trimmed.getLast? = some ')' then
    let (head, coordinates) ← Text.cutAtLast? '(' trimmed.dropLast
    let point ← point? coordinates
    some (head, point)
  else none

/-- The words without a last word "at". -/
def dropAt (words : List (List Char)) : List (List Char) :=
  match words.getLast? with
  | some last => if Text.sameLetters last ['a', 't'] then words.dropLast else words
  | none => words

/-- Cut the head of an entry into the reference and the other words. A colon may follow the
reference, and a word may follow the colon at once. -/
def splitHead? (head : List Char) : Option (List Char × List (List Char)) :=
  match dropAt (Text.words head) with
  | [] => none
  | first :: rest =>
      let (reference, words) :=
        match Text.cutAt? ':' first with
        | some (reference, attached) =>
            (reference, if attached.isEmpty then rest else attached :: rest)
        | none => (first, rest)
      if reference.isEmpty then none else some (reference, words)

/-- The component that an entry describes: a reference, the tag of a kind, and a value. -/
def component? [ScalarText K] (entry : List Char) : Option (Component K) := do
  let (head, position) ← splitPosition? entry
  let (reference, words) ← splitHead? head
  match words with
  | [] => none
  | tag :: value =>
      some (Component.ofKind (String.ofList reference) (Kind.ofTag (String.ofList tag))
        (String.ofList (Text.unwords value)) position)

/-- The power symbol that an entry describes: a reference and the name of a rail. -/
def power? [ScalarText K] (entry : List Char) : Option (PowerSymbol K) := do
  let (head, position) ← splitPosition? entry
  let (reference, words) ← splitHead? head
  if words.isEmpty then none
  else some ⟨String.ofList reference, String.ofList (Text.unwords words), position⟩

/-- A name of an entity as it may stand in a connection. -/
def isEntityName (name : List Char) : Bool :=
  !name.isEmpty && !name.any Text.isBlank

/-- The terminal that a text names: an entity, or an entity and a pin with a point between. -/
def terminal? (text : List Char) : Option Terminal :=
  let trimmed := Text.trim text
  let (name, pin) :=
    match Text.cutAt? '.' trimmed with
    | some (name, pin) =>
        let pin := Text.trim pin
        (Text.trim name, if pin.isEmpty then none else some (String.ofList pin))
    | none => (trimmed, none)
  if isEntityName name then some ⟨String.ofList name, pin⟩ else none

/-- The arrows of connections, in the order in which they are looked for. -/
def arrows : List (List Char) := [['→'], ['-', '>'], ['—']]

/-- The connection that an entry describes: two terminals around an arrow. -/
def connection? (entry : List Char) : Option Connection := do
  let (first, second) ← arrows.findSome? fun arrow => Text.cutAtText? arrow entry
  let source ← terminal? first
  let target ← terminal? second
  some ⟨source, target⟩

end Description
end CircuitSheet
