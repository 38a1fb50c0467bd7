/-!
# Tags

A tag says what a node is. It is a sequence of octets, since escapes may write octets that are
no text. Tags that start with an exclamation mark are the document's own.
-/

namespace CircuitSheet
namespace Yaml

/-- The octets of a tag. -/
abbrev Tag := List UInt8

namespace Tag

/-- The octets of a text. -/
def ofText (text : List Char) : Tag :=
  text.flatMap String.utf8EncodeChar

/-- A zero octet ends a tag. -/
def endAtZero (octets : Tag) : Tag :=
  octets.takeWhile (· != 0)

/-- The exclamation mark. -/
def mark : UInt8 := 0x21

/-- The tag that is an exclamation mark and nothing else. -/
def bare : Tag := [mark]

/-- The tag starts with an exclamation mark. -/
def isOwn (tag : Tag) : Bool :=
  tag.head? == some mark

/-- The octets behind an exclamation mark, if there are any. -/
def dropMark : Tag → Tag
  | first :: second :: rest => if first = mark then second :: rest else first :: second :: rest
  | octets => octets

/-- The name of a tag of the document's own, if it is a text. Exclamation marks in front do not
count, up to two of them. -/
def ownName? (tag : Tag) : Option String :=
  if tag.isOwn then String.fromUTF8? ⟨tag.dropMark.dropMark.toArray⟩ else none

end Tag
end Yaml
end CircuitSheet
