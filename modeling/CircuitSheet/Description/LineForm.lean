import CircuitSheet.Description.Section

/-!
# The line form

A description in line form is a flat list of lines: a header that names the circuit, section
headers, and entries. Every line is read on its own, given the section that is open.
-/

namespace CircuitSheet
namespace Description

variable {K : Type}

/-- What a line with content says. -/
inductive Line
  | circuitHeader (rest : List Char)
  | sectionHeader (opened : Section)
  | entry (text : List Char)
  deriving DecidableEq, Repr

/-- What follows the colon of a header that names the circuit. -/
def circuitHeader? (line : List Char) : Option (List Char) :=
  match Text.cutAt? ':' line with
  | some (key, rest) =>
      if Text.sameLetters (Text.trim key) "circuit".toList then some rest else none
  | none => none

/-- The section that a line opens: its name with a colon at the end. -/
def sectionHeader? (line : List Char) : Option Section :=
  if line.getLast? = some ':' then Section.ofHeader? line else none

/-- A line without a dash that marks it as an item. -/
def dropDash (line : List Char) : List Char :=
  (Text.dropLeading? ['-', ' '] line).getD line

/-- What a trimmed line with content says. -/
def Line.of (line : List Char) : Line :=
  match circuitHeader? line with
  | some rest => .circuitHeader rest
  | none =>
      match sectionHeader? line with
      | some opened => .sectionHeader opened
      | none => .entry (dropDash line)

/-- The circuit so far and the section that is open. -/
structure Reading (K : Type) where
  circuit : Circuit K
  opened : Option Section

/-- Read a line with content. -/
def Reading.line [ScalarText K] (reading : Reading K) : Line → Reading K
  | .circuitHeader rest =>
      { reading with circuit := { reading.circuit with name := circuitName rest } }
  | .sectionHeader opened => { reading with opened := some opened }
  | .entry text =>
      match reading.opened with
      | some opened => { reading with circuit := addEntry reading.circuit opened text }
      | none => reading

/-- Read a line; one without content changes nothing. -/
def Reading.next [ScalarText K] (reading : Reading K) (line : List Char) : Reading K :=
  if isIdle line then reading else reading.line (Line.of (Text.trim line))

/-- The circuit that a text in line form describes. -/
def parseLines [ScalarText K] (text : List Char) : Except Error (Circuit K) :=
  if isEmptyText text then .error .empty
  else
    .ok ((Text.lines text).foldl Reading.next ⟨Circuit.named untitled, none⟩).circuit

end Description
end CircuitSheet
