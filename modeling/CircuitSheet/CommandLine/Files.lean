import CircuitSheet.CommandLine.FileName

/-!
# Access to files

The program reads and writes whole text files. What it does with them is stated over any means
of access; a folder of texts in memory is one.
-/

namespace CircuitSheet

/-- A way to read and write text files, with the reasons why that may fail. -/
structure FileAccess (m : Type → Type) where
  read : String → m (Except String (List Char))
  write : String → List Char → m (Except String Unit)

/-- Texts by their paths within a folder. -/
structure Folder where
  files : List (String × List Char)
  deriving Repr

namespace Folder

/-- The reason why a file that is not there is not read. -/
def notFound : String := "No such file or directory (os error 2)"

/-- The reason why nothing is found below a file. -/
def notAFolder : String := "Not a directory (os error 20)"

/-- The reason why a folder is not read or written. -/
def isAFolder : String := "Is a directory (os error 21)"

/-- A path with nothing in it that leads nowhere. -/
def normal (parts : List (List Char)) : String :=
  String.ofList (['/'].intercalate parts)

/-- The text with a path. -/
def text? (folder : Folder) (path : String) : Option (List Char) :=
  (folder.files.find? (·.1 == path)).map (·.2)

/-- Some file lies below the parts of a path. -/
def holdsFolder (folder : Folder) (parts : List (List Char)) : Bool :=
  folder.files.any fun (name, _) =>
    let others := FileName.parts name.toList
    parts.isPrefixOf others && parts.length < others.length

/-- What is wrong with the folders that a path leads through. -/
def wrongFolder? (folder : Folder) (parts : List (List Char)) : Option String :=
  let outer := parts.dropLast
  let throughText := (List.range outer.length).any fun index =>
    (folder.text? (normal (outer.take (index + 1)))).isSome
  if throughText then some notAFolder
  else if outer.isEmpty || folder.holdsFolder outer then none
  else some notFound

/-- The path says that it names a folder. -/
def namesFolder (path : String) : Bool :=
  FileName.trimReversed path.toList.reverse != path.toList.reverse

/-- Read a text. -/
def read (folder : Folder) (path : String) : Except String (List Char) :=
  let parts := FileName.parts path.toList
  if path.isEmpty || path.toList.head? == some '/' then .error notFound
  else if parts.all (· == ['.', '.']) then .error isAFolder
  else
    match folder.wrongFolder? parts, folder.text? (normal parts) with
    | some reason, _ => .error reason
    | none, some text => if namesFolder path then .error notAFolder else .ok text
    | none, none => .error (if folder.holdsFolder parts then isAFolder else notFound)

/-- Write a text in place of any earlier one. -/
def write (folder : Folder) (path : String) (text : List Char) :
    Except String Unit × Folder :=
  let parts := FileName.parts path.toList
  if path.isEmpty || path.toList.head? == some '/' then (.error notFound, folder)
  else if parts.all (· == ['.', '.']) || folder.holdsFolder parts then (.error isAFolder, folder)
  else
    match folder.wrongFolder? parts with
    | some reason => (.error reason, folder)
    | none =>
        if namesFolder path then (.error isAFolder, folder)
        else
          (.ok (), ⟨(normal parts, text) :: folder.files.filter (·.1 != normal parts)⟩)

/-- Access to a folder in memory. -/
def access : FileAccess (StateM Folder) where
  read path := do return (← get).read path
  write path text := do
    let (result, folder) := (← get).write path text
    set folder
    return result

end Folder
end CircuitSheet
