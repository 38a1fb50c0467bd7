import CircuitSheet.Text.Pieces

/-!
# Paths of files

A path names a file by the folders it lies in and a name of its own. The extension of a name is
what follows its last point, unless the point comes first.
-/

namespace CircuitSheet
namespace FileName

/-- The parts of a path between slashes. Empty parts and single points lead nowhere. -/
def parts (path : List Char) : List (List Char) :=
  (Text.splitWhere (· == '/') path).filter fun part => part != [] && part != ['.']

/-- A path without slashes and points at its end that lead nowhere; the path is given from its
end, and so is the result. -/
def trimReversed : List Char → List Char
  | '/' :: rest => trimReversed rest
  | '.' :: '/' :: rest => trimReversed rest
  | path => path

/-- Cut a path into what comes before its name, and the name. -/
def splitName (path : List Char) : List Char × List Char :=
  let trimmed := (trimReversed path.reverse).reverse
  match Text.cutAtLast? '/' trimmed with
  | some (folder, name) => (folder ++ ['/'], name)
  | none => ([], trimmed)

/-- A name without its extension. -/
def stem (name : List Char) : List Char :=
  match Text.cutAtLast? '.' name with
  | some ([], _) => name
  | some (before, _) => before
  | none => name

/-- The path with another extension. A path without a name of its own stays as it is. -/
def withExtension (path extension : List Char) : List Char :=
  let (folder, name) := splitName path
  if name = [] ∨ name = ['.'] ∨ name = ['.', '.'] then path
  else folder ++ stem name ++ '.' :: extension

end FileName
end CircuitSheet
