/-!
# Places in a YAML text

Tokens are read at a cursor, which knows the rest of the text and where in the text it stands.
Indentation is told by the column.
-/

namespace CircuitSheet
namespace Yaml

/-- A character that may stand in a document at all. -/
def isPrintable (character : Char) : Bool :=
  let code := character.toNat
  code == 0x09 || code == 0x0A || code == 0x0D || (0x20 ≤ code && code ≤ 0x7E) ||
    code == 0x85 || (0xA0 ≤ code && code ≤ 0xFFFD) || 0x10000 ≤ code

/-- A space or a tab. -/
def isSpace (character : Char) : Bool :=
  character == ' ' || character == '\t'

/-- A character that ends a line. -/
def isBreak (character : Char) : Bool :=
  character == '\n' || character == '\r' || character == '\u0085' || character == '\u2028' ||
    character == '\u2029'

/-- A character of the names of anchors, handles and directives. -/
def isNameChar (character : Char) : Bool :=
  character.isAlphanum || character == '_' || character == '-'

/-- The text ends here, or a space or a line break follows. -/
def endsWord (next : Option Char) : Bool :=
  next.all fun character => isSpace character || isBreak character

/-- The text or the line ends here. -/
def endsLine (next : Option Char) : Bool :=
  next.all isBreak

/-- The rest of a text, with the number of octets in front of it, its line and its column. -/
structure Cursor where
  rest : List Char
  index : Nat
  line : Nat
  column : Nat
  deriving Repr

namespace Cursor

/-- The start of a text. -/
def start (text : List Char) : Cursor := ⟨text, 0, 0, 0⟩

/-- The next character. -/
def next? (cursor : Cursor) : Option Char :=
  cursor.rest.head?

/-- The character at a distance. -/
def at? (cursor : Cursor) (distance : Nat) : Option Char :=
  cursor.rest[distance]?

/-- The number of octets of some characters at the cursor. -/
def width (cursor : Cursor) (count : Nat) : Nat :=
  (cursor.rest.take count).foldl (fun total character => total + character.utf8Size) 0

/-- Go on by some characters of the same line. -/
def skip (cursor : Cursor) (count : Nat) : Cursor :=
  { cursor with
    rest := cursor.rest.drop count
    index := cursor.index + cursor.width count
    column := cursor.column + count }

/-- The longest run of characters of a class, and the cursor behind it. -/
def span (cursor : Cursor) (test : Char → Bool) : List Char × Cursor :=
  let run := cursor.rest.takeWhile test
  (run, cursor.skip run.length)

/-- Pass over characters of a class. -/
def skipWhile (cursor : Cursor) (test : Char → Bool) : Cursor :=
  (cursor.span test).2

/-- Pass over a given number of characters onto the next line. -/
def nextLine (cursor : Cursor) (count : Nat) : Cursor where
  rest := cursor.rest.drop count
  index := cursor.index + cursor.width count
  line := cursor.line + 1
  column := 0

/-- The text of the line break at the cursor, and the cursor behind it. Most line breaks count
as a line feed; the separators of lines and of paragraphs count as themselves. -/
def lineBreak? (cursor : Cursor) : Option (List Char × Cursor) :=
  match cursor.rest with
  | [] => none
  | character :: rest =>
      if character == '\r' && rest.head? == some '\n' then some (['\n'], cursor.nextLine 2)
      else if !isBreak character then none
      else if character == '\u2028' || character == '\u2029' then
        some ([character], cursor.nextLine 1)
      else some (['\n'], cursor.nextLine 1)

/-- Pass over a comment up to the end of its line. -/
def skipComment (cursor : Cursor) : Cursor :=
  if cursor.next? == some '#' then cursor.skipWhile fun character => !isBreak character
  else cursor

/-- Three equal characters stand alone at the start of the line. -/
def isMarker (cursor : Cursor) (mark : Char) : Bool :=
  cursor.column == 0 && cursor.rest.take 3 == [mark, mark, mark] && endsWord (cursor.at? 3)

/-- A marker of the start or the end of a document stands here. -/
def isDocumentMarker (cursor : Cursor) : Bool :=
  cursor.isMarker '-' || cursor.isMarker '.'

end Cursor

/-- What stands between two parts of a scalar: spaces, or a first line break, later ones, and
spaces that do not count. -/
structure Gap where
  spaces : List Char
  firstBreak : Option (List Char)
  laterBreaks : List Char
  deriving Repr

namespace Gap

/-- Nothing at all. -/
def none : Gap := ⟨[], Option.none, []⟩

/-- What a gap counts as. A single line feed is folded into a space. -/
def text (gap : Gap) : List Char :=
  match gap.firstBreak with
  | Option.none => gap.spaces
  | some first =>
      if first = ['\n'] then (if gap.laterBreaks = [] then [' '] else gap.laterBreaks)
      else first ++ gap.laterBreaks

/-- Add a space; after a line break spaces do not count. -/
def addSpace (gap : Gap) (character : Char) : Gap :=
  if gap.firstBreak.isSome then gap else { gap with spaces := gap.spaces ++ [character] }

/-- Add a line break; spaces in front of it do not count. -/
def addBreak (gap : Gap) (text : List Char) : Gap :=
  match gap.firstBreak with
  | Option.none => { gap with spaces := [], firstBreak := some text }
  | some _ => { gap with laterBreaks := gap.laterBreaks ++ text }

/-- Read on through a gap. At the start of a line no tab may stand in front of a given column.
The number bounds the characters read. -/
def readOn (least : Int) : Nat → Gap → Cursor → Option (Gap × Cursor)
  | 0, gap, cursor => some (gap, cursor)
  | more + 1, gap, cursor =>
      match cursor.lineBreak? with
      | some (text, after) => readOn least more (gap.addBreak text) after
      | Option.none =>
          match cursor.next? with
          | Option.none => some (gap, cursor)
          | some character =>
              if !isSpace character then some (gap, cursor)
              else if character == '\t' && gap.firstBreak.isSome && cursor.column < least then
                Option.none
              else readOn least more (gap.addSpace character) (cursor.skip 1)

/-- Read a gap at a cursor. -/
def read (least : Int) (cursor : Cursor) : Option (Gap × Cursor) :=
  readOn least cursor.rest.length none cursor

end Gap
end Yaml
end CircuitSheet
