import CircuitSheet.SExpr.Token
import CircuitSheet.Text.Quoted

/-!
# Writing symbolic expressions

A tree is written on one line where it is shallow and short enough, and otherwise with every
child from the first nested list on indented on a line of its own. Trees that would not be
read back as they are get refused.
-/

namespace CircuitSheet
namespace SExpr

variable {N : Type} [ScalarText N]

/-- A character within quotes. -/
def escapeChar (character : Char) : List Char :=
  match character with
  | '"' => ['\\', '"']
  | '\\' => ['\\', '\\']
  | '\n' => ['\\', 'n']
  | '\t' => ['\\', 't']
  | '\r' => ['\\', 'r']
  | other => [other]

/-- The text of a number. Zero has no sign. -/
def numberText (value : N) : List Char :=
  if Scalar.same value 0.0 then ['0'] else ScalarText.shortest value

mutual
/-- A tree on one line. -/
def inline : SExpr N → List Char
  | .symbol text => text.toList
  | .string text => '"' :: text.toList.flatMap escapeChar ++ ['"']
  | .number value => numberText value
  | .list items => '(' :: inlineFirst items ++ [')']
/-- The items of a list with single spaces between them. -/
def inlineFirst : List (SExpr N) → List Char
  | [] => []
  | item :: rest => item.inline ++ inlineRest rest
/-- Items with a space in front of each. -/
def inlineRest : List (SExpr N) → List Char
  | [] => []
  | item :: rest => ' ' :: item.inline ++ inlineRest rest
end

/-- The greatest number of bytes of a line that holds a whole list. -/
def lineWidth : Nat := 100

/-- The number of bytes of a text. -/
def byteLength (text : List Char) : Nat :=
  text.foldl (fun total character => total + character.utf8Size) 0

/-- Two spaces for every level. -/
def indentation (level : Nat) : List Char :=
  List.replicate (2 * level) ' '

/-- The tree is written on one line at a level. -/
def fitsLine (level : Nat) (tree : SExpr N) : Bool :=
  decide (tree.depth ≤ 2) && decide (byteLength tree.inline + 2 * level ≤ lineWidth)

/-- A line break and the indentation of a level, followed by more. -/
def newLine (level : Nat) (after : List Char) : List Char :=
  '\n' :: (indentation level ++ after)

mutual
/-- A tree at a level of indentation, without the indentation of its first line, followed by
more. -/
def layout (level : Nat) : SExpr N → List Char → List Char
  | .symbol text, after => (symbol text : SExpr N).inline ++ after
  | .string text, after => (string text : SExpr N).inline ++ after
  | .number value, after => numberText value ++ after
  | .list items, after =>
      if fitsLine level (.list items) then (list items).inline ++ after
      else '(' :: layoutFirst level items (newLine level (')' :: after))
/-- The items of a list that is spread over lines. -/
def layoutFirst (level : Nat) : List (SExpr N) → List Char → List Char
  | [], after => after
  | .list inner :: rest, after =>
      newLine (level + 1) (layout (level + 1) (.list inner) (layoutRows level rest after))
  | .symbol text :: rest, after =>
      (symbol text : SExpr N).inline ++ layoutAtoms level rest after
  | .string text :: rest, after =>
      (string text : SExpr N).inline ++ layoutAtoms level rest after
  | .number value :: rest, after => numberText value ++ layoutAtoms level rest after
/-- Items after an atom at the start of the list. -/
def layoutAtoms (level : Nat) : List (SExpr N) → List Char → List Char
  | [], after => after
  | .list inner :: rest, after =>
      newLine (level + 1) (layout (level + 1) (.list inner) (layoutRows level rest after))
  | .symbol text :: rest, after =>
      ' ' :: ((symbol text : SExpr N).inline ++ layoutAtoms level rest after)
  | .string text :: rest, after =>
      ' ' :: ((string text : SExpr N).inline ++ layoutAtoms level rest after)
  | .number value :: rest, after => ' ' :: (numberText value ++ layoutAtoms level rest after)
/-- Items with a line each. -/
def layoutRows (level : Nat) : List (SExpr N) → List Char → List Char
  | [], after => after
  | item :: rest, after =>
      newLine (level + 1) (layout (level + 1) item (layoutRows level rest after))
end

/-- Why a tree is not written. -/
inductive Refusal (N : Type)
  | notBare (name : String)
  | notFinite (value : N)
  | notFlag (key : String) (found : Option (SExpr N))
  deriving Repr

/-- Keys whose list holds a bare yes or no after the key. -/
def flagKeys : List String := ["exclude_from_sim", "in_bom", "on_board", "dnp"]

/-- The tree is a bare yes or no. -/
def isFlag : SExpr N → Bool
  | .symbol text => text == "yes" || text == "no"
  | _ => false

/-- What is wrong with a list by itself: a flag without its value. -/
def flagRefusal? (items : List (SExpr N)) : Option (Refusal N) :=
  match (list items).head? with
  | some key =>
      if flagKeys.contains key && !(items[1]?.any isFlag) then some (.notFlag key items[1]?)
      else none
  | none => none

mutual
/-- The first reason not to write a tree, parents before their items. -/
def refusal? : SExpr N → Option (Refusal N)
  | .symbol text => if needsQuotes N text.toList then some (.notBare text) else none
  | .string _ => none
  | .number value => if Scalar.isFinite value then none else some (.notFinite value)
  | .list items => (flagRefusal? items).or (itemsRefusal? items)
/-- The first reason not to write one of some trees. -/
def itemsRefusal? : List (SExpr N) → Option (Refusal N)
  | [] => none
  | item :: rest => item.refusal?.or (itemsRefusal? rest)
end

/-- The text of a tree, ended by a line break. -/
def write (tree : SExpr N) : Except (Refusal N) (List Char) :=
  match tree.refusal? with
  | some reason => .error reason
  | none => .ok (tree.layout 0 ['\n'])

/-- The message for a tree that is not written. -/
def Refusal.message : Refusal N → String
  | .notBare name =>
      "Serialization invariant violated: symbol " ++ String.ofList (Text.quoted name.toList) ++
        " cannot be written bare"
  | .notFinite value =>
      "Serialization invariant violated: non-finite number " ++
        String.ofList (ScalarText.shortest value)
  | .notFlag key found =>
      "Serialization invariant violated: (" ++ key ++ " ...) must hold a bare yes/no, found " ++
        String.ofList ((found.map inline).getD [])

end SExpr
end CircuitSheet
