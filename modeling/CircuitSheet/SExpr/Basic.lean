import CircuitSheet.Table

/-!
# Symbolic expressions

Sheets are stored as nested lists of atoms. Atoms keep their lexical class: bare symbols,
quoted strings and numbers are distinct, so a word that must stay bare cannot turn into a
quoted text by accident. The type of the numbers is a parameter.
-/

namespace CircuitSheet

/-- A tree of atoms and lists. -/
inductive SExpr (N : Type)
  | symbol (text : String)
  | string (text : String)
  | number (value : N)
  | list (items : List (SExpr N))
  deriving Repr, Inhabited

namespace SExpr

variable {N : Type}

/-- The bare word for a choice. -/
def yesNo (flag : Bool) : SExpr N :=
  .symbol (if flag then "yes" else "no")

/-- A list that starts with a key. -/
def keyed (key : String) (children : List (SExpr N)) : SExpr N :=
  .list (.symbol key :: children)

/-- The name of a symbol. -/
def symbol? : SExpr N → Option String
  | .symbol text => some text
  | _ => none

/-- The text of a symbol or a string. -/
def text? : SExpr N → Option String
  | .symbol text => some text
  | .string text => some text
  | _ => none

/-- The value of a number. -/
def number? : SExpr N → Option N
  | .number value => some value
  | _ => none

/-- The items of a list. -/
def items? : SExpr N → Option (List (SExpr N))
  | .list items => some items
  | _ => none

/-- The items of a list; an atom has none. -/
def items (tree : SExpr N) : List (SExpr N) :=
  tree.items?.getD []

/-- The symbol at the start of a list. -/
def head? : SExpr N → Option String
  | .list (first :: _) => first.symbol?
  | _ => none

/-- An item of a list, the first one being number zero. -/
def arg? (tree : SExpr N) (index : Nat) : Option (SExpr N) :=
  tree.items[index]?

/-- The first item that is a list with a given key. -/
def find? (tree : SExpr N) (key : String) : Option (SExpr N) :=
  tree.items.find? (·.head? == some key)

/-- All items that are lists with a given key, in order. -/
def findAll (tree : SExpr N) (key : String) : List (SExpr N) :=
  tree.items.filter (·.head? == some key)

/-- What follows the key in the first list with that key. -/
def valueOf? (tree : SExpr N) (key : String) : Option (SExpr N) :=
  (tree.find? key).bind (·.arg? 1)

/-- The items that are lists with a key, grouped by key and in order within a group. -/
def groups (tree : SExpr N) : Table (List (SExpr N)) :=
  tree.items.foldl
    (fun table item =>
      match item.head? with
      | some key => table.alter key fun earlier => earlier.getD [] ++ [item]
      | none => table)
    Table.empty

mutual
/-- How deep lists are nested; atoms have depth zero. -/
def depth : SExpr N → Nat
  | .list items => 1 + itemsDepth items
  | _ => 0
/-- The greatest depth of some trees. -/
def itemsDepth : List (SExpr N) → Nat
  | [] => 0
  | item :: rest => max item.depth (itemsDepth rest)
end

@[simp] theorem head?_keyed (key : String) (children : List (SExpr N)) :
    (keyed key children).head? = some key := rfl

@[simp] theorem items_list (items : List (SExpr N)) : (list items).items = items := rfl

@[simp] theorem items_keyed (key : String) (children : List (SExpr N)) :
    (keyed key children).items = .symbol key :: children := rfl

mutual
/-- Trees are alike when they differ at most in numbers that compare equal. -/
def alike (same : N → N → Bool) : SExpr N → SExpr N → Bool
  | .symbol first, .symbol second => first == second
  | .string first, .string second => first == second
  | .number first, .number second => same first second
  | .list first, .list second => itemsAlike same first second
  | _, _ => false
/-- Lists of trees are alike item by item. -/
def itemsAlike (same : N → N → Bool) : List (SExpr N) → List (SExpr N) → Bool
  | [], [] => true
  | first :: others, second :: rest => first.alike same second && itemsAlike same others rest
  | _, _ => false
end

end SExpr
end CircuitSheet
