import CircuitSheet.Yaml.QuotedScalar
import CircuitSheet.Yaml.Token

/-!
# Anchors, tags and directives

Nodes may have a name, and a tag that says what they are. Directives in front of a document
name the version of YAML and abbreviations for tags.
-/

namespace CircuitSheet
namespace Yaml
namespace Property

/-- A character that may follow the name of an anchor. -/
def endsAnchor (next : Option Char) : Bool :=
  endsWord next || next.any "?:,]\x7d%@`".toList.contains

/-- Read the name behind the indicator of an anchor or an alias. -/
def name? (cursor : Cursor) : Option (List Char × Cursor) :=
  let (name, after) := (cursor.skip 1).span isNameChar
  if name.isEmpty || !endsAnchor after.next? then none else some (name, after)

/-- A character of a tag's address; brackets and commas count only in verbatim tags. -/
def isAddressChar (verbatim : Bool) (character : Char) : Bool :=
  isNameChar character || ";/?:@&=+$.%!~*'()".toList.contains character ||
    (verbatim && ",[]".toList.contains character)

/-- The value of the two hexadecimal digits behind a percent sign. -/
def octet? : List Char → Option (UInt8 × List Char)
  | '%' :: high :: low :: rest =>
      (QuotedScalar.hexNumber? [high, low]).map fun value => (value.toUInt8, rest)
  | _ => none

/-- The number of octets that have to follow the first one of a character. -/
def continuationCount? (octet : UInt8) : Option Nat :=
  if octet < 0x80 then some 0
  else if 0xC0 ≤ octet ∧ octet < 0xE0 then some 1
  else if 0xE0 ≤ octet ∧ octet < 0xF0 then some 2
  else if 0xF0 ≤ octet ∧ octet < 0xF8 then some 3
  else none

/-- Read the octets that continue a character. -/
def continuation? : Nat → List Char → Option (List UInt8 × List Char)
  | 0, text => some ([], text)
  | more + 1, text =>
      match octet? text with
      | some (octet, rest) =>
          if 0x80 ≤ octet ∧ octet < 0xC0 then
            (continuation? more rest).map fun (others, after) => (octet :: others, after)
          else none
      | none => none

/-- Read as many octets in hexadecimal as the first one calls for. They need not be those of a
character. -/
def octets? (text : List Char) : Option (List UInt8 × List Char) := do
  let (octet, rest) ← octet? text
  let (others, after) ← continuation? (← continuationCount? octet) rest
  some (octet :: others, after)

/-- Read an address. The number bounds the characters. -/
def addressFrom? (verbatim : Bool) : Nat → Cursor → Option (List UInt8 × Cursor)
  | 0, cursor => some ([], cursor)
  | more + 1, cursor =>
      match cursor.next? with
      | none => some ([], cursor)
      | some character =>
          if character == '%' then
            match octets? cursor.rest with
            | none => none
            | some (decoded, rest) =>
                (addressFrom? verbatim more (cursor.skip (cursor.rest.length - rest.length))).map
                  fun (others, after) => (decoded ++ others, after)
          else if isAddressChar verbatim character then
            (addressFrom? verbatim more (cursor.skip 1)).map fun (others, after) =>
              (String.utf8EncodeChar character ++ others, after)
          else some ([], cursor)

/-- Read an address at a cursor. -/
def address? (verbatim : Bool) (cursor : Cursor) : Option (List UInt8 × Cursor) :=
  addressFrom? verbatim cursor.rest.length cursor

/-- Read an exclamation mark, a name and, if there is one, another exclamation mark. -/
def handle? (cursor : Cursor) : Option (List Char × Cursor) :=
  if cursor.next? != some '!' then none
  else
    let (name, after) := (cursor.skip 1).span isNameChar
    if after.next? == some '!' then some ('!' :: name ++ ['!'], after.skip 1)
    else some ('!' :: name, after)

/-- The text is a handle with an exclamation mark at either end. -/
def isFullHandle (text : List Char) : Bool :=
  text.length ≥ 2 && text.getLast? == some '!'

/-- Read a tag in angle brackets, given without a handle. -/
def verbatimTag? (cursor : Cursor) : Option (Token × Cursor) := do
  let (address, after) ← address? true (cursor.skip 2)
  if address.isEmpty || after.next? != some '>' then none
  else some (.tag [] (Tag.endAtZero address), after.skip 1)

/-- Read a tag that starts with a handle. The tag of a lone exclamation mark has no handle. -/
def shortTag? (cursor : Cursor) : Option (Token × Cursor) := do
  let (handle, after) ← handle? cursor
  let (suffix, finish) ← address? false after
  if isFullHandle handle then
    if suffix.isEmpty then none else some (.tag handle (Tag.endAtZero suffix), finish)
  else
    let name := Tag.endAtZero (Tag.ofText (handle.drop 1) ++ suffix)
    some (if name.isEmpty then .tag [] Tag.bare else .tag ['!'] name, finish)

/-- Read a tag. A space, a line break or, within brackets, a comma has to follow it. -/
def tag? (inFlow : Bool) (cursor : Cursor) : Option (Token × Cursor) := do
  let (tag, after) ← if cursor.at? 1 == some '<' then verbatimTag? cursor else shortTag? cursor
  if endsWord after.next? || (inFlow && after.next? == some ',') then some (tag, after) else none

/-- Read a number of at most nine digits. -/
def versionNumber? (cursor : Cursor) : Option (Nat × Cursor) :=
  let (digits, after) := cursor.span Char.isDigit
  if digits.isEmpty || digits.length > 9 then none
  else some (digits.foldl (fun number digit => 10 * number + (digit.toNat - '0'.toNat)) 0, after)

/-- Read the two numbers of a version. -/
def version? (cursor : Cursor) : Option (Token × Cursor) := do
  let (major, afterMajor) ← versionNumber? (cursor.skipWhile isSpace)
  if afterMajor.next? != some '.' then none
  else
    let (minor, after) ← versionNumber? (afterMajor.skip 1)
    some (.version major minor, after)

/-- Read a handle and the address that it stands for. -/
def tagHandle? (cursor : Cursor) : Option (Token × Cursor) := do
  let (handle, afterHandle) ← handle? (cursor.skipWhile isSpace)
  if !(isFullHandle handle || handle == ['!']) || !afterHandle.next?.any isSpace then none
  else
    let (address, after) ← address? true (afterHandle.skipWhile isSpace)
    if address.isEmpty || !endsWord after.next? then none
    else some (.handle handle (Tag.endAtZero address), after)

/-- Read a directive up to the end of its line. -/
def directive? (cursor : Cursor) : Option (Token × Cursor) := do
  let (name, afterName) := (cursor.skip 1).span isNameChar
  if !endsWord afterName.next? then none
  else
    let (token, after) ←
      if name == "YAML".toList then version? afterName
      else if name == "TAG".toList then tagHandle? afterName
      else none
    let finish := (after.skipWhile isSpace).skipComment
    if !endsLine finish.next? then none
    else
      match finish.lineBreak? with
      | some (_, nextLine) => some (token, nextLine)
      | none => some (token, finish)

end Property
end Yaml
end CircuitSheet
