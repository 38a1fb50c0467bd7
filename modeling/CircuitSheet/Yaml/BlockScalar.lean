import CircuitSheet.Yaml.Cursor

/-!
# Block scalars

A block scalar is a run of indented lines. Literal ones keep their line breaks, folded ones
turn single line breaks into spaces. A header tells how they are indented and what becomes of
the line breaks at their end.
-/

namespace CircuitSheet
namespace Yaml
namespace BlockScalar

/-- What becomes of the line breaks at the end: all are dropped, one stays, or all stay. -/
inductive Chomping
  | strip
  | clip
  | keep
  deriving DecidableEq, Repr

/-- What the header of a block scalar says. -/
structure Header where
  chomping : Chomping
  increment : Option Nat
  deriving Repr

/-- The chomping that an indicator stands for. -/
def chompingOf? (indicator : Option Char) : Option Chomping :=
  match indicator with
  | some '+' => some .keep
  | some '-' => some .strip
  | _ => none

/-- The digit of an indentation indicator, which is not zero. -/
def incrementOf? (indicator : Option Char) : Option Nat :=
  match indicator with
  | some digit => if digit.isDigit then some (digit.toNat - '0'.toNat) else none
  | none => none

/-- Read the indicators of a header in either order. -/
def header (cursor : Cursor) : Header × Cursor :=
  match chompingOf? cursor.next? with
  | some chomping =>
      let after := cursor.skip 1
      match incrementOf? after.next? with
      | some increment => (⟨chomping, some increment⟩, after.skip 1)
      | none => (⟨chomping, none⟩, after)
  | none =>
      match incrementOf? cursor.next? with
      | some increment =>
          let after := cursor.skip 1
          match chompingOf? after.next? with
          | some chomping => (⟨chomping, some increment⟩, after.skip 1)
          | none => (⟨.clip, some increment⟩, after)
      | none => (⟨.clip, none⟩, cursor)

/-- Go to the line after the header; nothing but a comment may follow the indicators. -/
def headerEnd? (cursor : Cursor) : Option Cursor :=
  let after := (cursor.skipWhile isSpace).skipComment
  if !endsLine after.next? then none
  else
    match after.lineBreak? with
    | some (_, nextLine) => some nextLine
    | none => some after

/-- Pass over indentation and empty lines. Where the indentation is not known, all spaces count
and the widest indentation is returned. The number bounds the lines. -/
def emptyLines (indent : Option Nat) :
    Nat → Nat → List Char → Cursor → Option (List Char × Nat × Cursor)
  | 0, _, _, _ => none
  | more + 1, widest, breaks, cursor =>
      let spaces := (cursor.rest.takeWhile (· == ' ')).length
      let taken :=
        match indent with
        | some column => min spaces (column - cursor.column)
        | none => spaces
      let here := cursor.skip taken
      let wider := max widest here.column
      if indent.all (here.column < ·) && here.next? == some '\t' then none
      else
        match here.lineBreak? with
        | some (text, after) => emptyLines indent more wider (breaks ++ text) after
        | none => some (breaks, wider, here)

/-- The parts of a block scalar that have been read: the text, the break after the last line,
the breaks of empty lines after it, and whether the last line starts with a space. -/
structure Progress where
  text : List Char
  lineBreak : List Char
  emptyBreaks : List Char
  afterSpace : Bool

/-- Add a line, with the line breaks in front of it. A single line break between lines of a
folded scalar that do not start with a space becomes a space. -/
def Progress.addLine (progress : Progress) (literal : Bool) (line : List Char) : Progress :=
  let startsWithSpace := line.head?.any isSpace
  let folds := !literal && progress.lineBreak == ['\n'] && !progress.afterSpace &&
    !startsWithSpace
  let between :=
    if folds then (if progress.emptyBreaks = [] then [' '] else [])
    else progress.lineBreak
  { text := progress.text ++ between ++ progress.emptyBreaks ++ line
    lineBreak := []
    emptyBreaks := []
    afterSpace := startsWithSpace }

/-- Read the lines at a column. The number bounds the lines. -/
def lines (literal : Bool) (column : Nat) : Nat → Progress → Cursor → Option (Progress × Cursor)
  | 0, _, _ => none
  | more + 1, progress, cursor =>
      if cursor.column != column || cursor.rest.isEmpty then some (progress, cursor)
      else
        let (line, lineEnd) := cursor.span fun character => !isBreak character
        let longer := progress.addLine literal line
        let (lineBreak, after) := lineEnd.lineBreak?.getD ([], lineEnd)
        match emptyLines (some column) (after.rest.length + 1) 0 [] after with
        | none => none
        | some (breaks, _, next) =>
            lines literal column more { longer with lineBreak, emptyBreaks := breaks } next

/-- The text with the line breaks at its end that the header keeps. -/
def Progress.chomp (progress : Progress) : Chomping → List Char
  | .strip => progress.text
  | .clip => progress.text ++ progress.lineBreak
  | .keep => progress.text ++ progress.lineBreak ++ progress.emptyBreaks

/-- Read the block scalar whose indicator stands at a cursor, within a block that is indented
to a column. -/
def read (literal : Bool) (outer : Int) (cursor : Cursor) : Option (List Char × Cursor) := do
  let (found, afterHeader) := header (cursor.skip 1)
  if found.increment == some 0 then none
  else
    let first ← headerEnd? afterHeader
    let known := found.increment.map fun increment => outer.toNat + increment
    let (breaks, widest, here) ← emptyLines known (first.rest.length + 1) 0 [] first
    let column := known.getD (max widest (max 1 (outer + 1).toNat))
    let (progress, after) ←
      lines literal column (here.rest.length + 1) ⟨[], [], breaks, false⟩ here
    some (progress.chomp found.chomping, after)

end BlockScalar
end Yaml
end CircuitSheet
