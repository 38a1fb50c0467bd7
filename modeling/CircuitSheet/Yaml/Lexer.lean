import CircuitSheet.Yaml.BlockScalar
import CircuitSheet.Yaml.PlainScalar
import CircuitSheet.Yaml.Property

/-!
# Reading YAML tokens

Indentation opens and closes blocks. Whether a token is a key is only known when a colon
follows it, so the place of a possible key is remembered, one for every open bracket; the
tokens that mark the key are put in front of it later.
-/

namespace CircuitSheet
namespace Yaml

/-- A token that may turn out to be a key: its number and where it stands. A key is required
where a token stands at the very indentation of a block. -/
structure KeyPlace where
  tokenCount : Nat
  index : Nat
  line : Nat
  column : Nat
  isRequired : Bool
  deriving Repr

/-- What has been read of a text. The tokens have the last one first. -/
structure Lexer where
  cursor : Cursor
  reversed : List Token
  tokenCount : Nat
  indent : Int
  outerIndents : List Int
  possibleKey : Option KeyPlace
  outerKeys : List (Option KeyPlace)
  allowsKey : Bool

namespace Lexer

/-- Nothing has been read yet. -/
def start (text : List Char) : Lexer where
  cursor := Cursor.start text
  reversed := []
  tokenCount := 0
  indent := -1
  outerIndents := []
  possibleKey := none
  outerKeys := []
  allowsKey := true

/-- Some bracket is open. -/
def inFlow (lexer : Lexer) : Bool :=
  !lexer.outerKeys.isEmpty

/-- Add a token at the end. -/
def push (lexer : Lexer) (token : Token) : Lexer :=
  { lexer with reversed := token :: lexer.reversed, tokenCount := lexer.tokenCount + 1 }

/-- Put a token behind the first ones. -/
def insertAt (lexer : Lexer) (count : Nat) (token : Token) : Lexer :=
  { lexer with
    reversed := lexer.reversed.insertIdx (lexer.tokenCount - count) token
    tokenCount := lexer.tokenCount + 1 }

/-- Open a block at a column beyond the indentation; its token goes behind the first ones. -/
def openBlock (lexer : Lexer) (column count : Nat) (token : Token) : Lexer :=
  if !lexer.inFlow && lexer.indent < column then
    { lexer.insertAt count token with
      indent := column
      outerIndents := lexer.indent :: lexer.outerIndents }
  else lexer

/-- Close the blocks that are indented beyond a column. -/
def closeBlocksFrom (column : Int) (lexer : Lexer) : List Int → Lexer
  | [] => lexer
  | outer :: others =>
      if lexer.indent > column then
        closeBlocksFrom column { lexer.push .blockEnd with indent := outer, outerIndents := others }
          others
      else lexer

/-- Close the blocks that are indented beyond a column; within brackets indentation does not
count. -/
def closeBlocks (lexer : Lexer) (column : Int) : Lexer :=
  if lexer.inFlow then lexer else closeBlocksFrom column lexer lexer.outerIndents

/-- The possible key turns out not to be one; a required one is missed. -/
def forgetKey? (lexer : Lexer) : Option Lexer :=
  if lexer.possibleKey.any (·.isRequired) then none else some { lexer with possibleKey := none }

/-- The greatest number of octets from the start of a key to its colon. -/
def maxKeyLength : Nat := 1024

/-- A key has to be on the line of its colon and not too far in front of it. -/
def isStale (lexer : Lexer) (key : KeyPlace) : Bool :=
  key.line < lexer.cursor.line || key.index + maxKeyLength < lexer.cursor.index

/-- Forget a key that is too far back; a required one is missed. -/
def freshKey? (lexer : Lexer) (key : Option KeyPlace) : Option (Option KeyPlace) :=
  match key with
  | some place =>
      if lexer.isStale place then (if place.isRequired then none else some none) else some key
  | none => some none

/-- Forget all keys that are too far back. -/
def dropStaleKeys? (lexer : Lexer) : Option Lexer := do
  let possibleKey ← lexer.freshKey? lexer.possibleKey
  let outerKeys ← lexer.outerKeys.mapM lexer.freshKey?
  some { lexer with possibleKey, outerKeys }

/-- Remember that a key may start at the cursor, where one is allowed. -/
def rememberKey? (lexer : Lexer) : Option Lexer :=
  if lexer.allowsKey then do
    let cleared ← lexer.forgetKey?
    let place : KeyPlace :=
      { tokenCount := lexer.tokenCount
        index := lexer.cursor.index
        line := lexer.cursor.line
        column := lexer.cursor.column
        isRequired := !lexer.inFlow && lexer.indent == lexer.cursor.column }
    some { cleared with possibleKey := some place }
  else some lexer

/-- Add an indicator of some characters. -/
def pushIndicator (lexer : Lexer) (token : Token) (width : Nat) (allowsKey : Bool) : Lexer :=
  { lexer.push token with cursor := lexer.cursor.skip width, allowsKey }

/-- Go to the start of the next token. Tabs do not count as spaces where a key may start in a
block. The number bounds the lines. -/
def skipBlanks : Nat → Lexer → Lexer
  | 0, lexer => lexer
  | more + 1, lexer =>
      let marked :=
        if lexer.cursor.column == 0 && lexer.cursor.next? == some '\uFEFF' then
          lexer.cursor.skip 1
        else lexer.cursor
      let counts (character : Char) : Bool :=
        character == ' ' || ((lexer.inFlow || !lexer.allowsKey) && character == '\t')
      let here := (marked.skipWhile counts).skipComment
      match here.lineBreak? with
      | some (_, nextLine) =>
          skipBlanks more
            { lexer with cursor := nextLine, allowsKey := lexer.allowsKey || !lexer.inFlow }
      | none => { lexer with cursor := here }

/-- End everything that is open in front of a marker or a directive. -/
def endDocument? (lexer : Lexer) : Option Lexer := do
  let cleared ← (lexer.closeBlocks (-1)).forgetKey?
  some { cleared with allowsKey := false }

/-- Read a marker between documents. -/
def marker? (lexer : Lexer) (token : Token) : Option Lexer := do
  let ended ← lexer.endDocument?
  some (ended.pushIndicator token 3 false)

/-- Read a directive. -/
def directive? (lexer : Lexer) : Option Lexer := do
  let ended ← lexer.endDocument?
  let (token, after) ← Property.directive? lexer.cursor
  some { ended.push token with cursor := after }

/-- Read an opening bracket. -/
def openFlow? (lexer : Lexer) (token : Token) : Option Lexer := do
  let saved ← lexer.rememberKey?
  some
    { saved.pushIndicator token 1 true with
      possibleKey := none
      outerKeys := saved.possibleKey :: saved.outerKeys }

/-- Read a closing bracket. -/
def closeFlow? (lexer : Lexer) (token : Token) : Option Lexer := do
  let cleared ← lexer.forgetKey?
  let closed :=
    match cleared.outerKeys with
    | [] => cleared
    | key :: others => { cleared with possibleKey := key, outerKeys := others }
  some (closed.pushIndicator token 1 false)

/-- Read a comma. -/
def flowEntry? (lexer : Lexer) : Option Lexer := do
  let cleared ← lexer.forgetKey?
  some (cleared.pushIndicator .flowEntry 1 true)

/-- Open a block at the cursor, where an item may start. -/
def openBlockHere? (lexer : Lexer) (token : Token) : Option Lexer :=
  if lexer.inFlow then some lexer
  else if !lexer.allowsKey then none
  else some (lexer.openBlock lexer.cursor.column lexer.tokenCount token)

/-- Read the dash of an item. -/
def blockEntry? (lexer : Lexer) : Option Lexer := do
  let opened ← lexer.openBlockHere? .blockSequenceStart
  let cleared ← opened.forgetKey?
  some (cleared.pushIndicator .blockEntry 1 true)

/-- Read the question mark of a key. -/
def key? (lexer : Lexer) : Option Lexer := do
  let opened ← lexer.openBlockHere? .blockMappingStart
  let cleared ← opened.forgetKey?
  some (cleared.pushIndicator .key 1 (!lexer.inFlow))

/-- Read the colon of a value. What may be a key in front of it becomes one. -/
def value? (lexer : Lexer) : Option Lexer :=
  match lexer.possibleKey with
  | some place =>
      let keyed := lexer.insertAt place.tokenCount .key
      let opened := keyed.openBlock place.column place.tokenCount .blockMappingStart
      some ({ opened with possibleKey := none }.pushIndicator .value 1 false)
  | none => do
      let opened ← lexer.openBlockHere? .blockMappingStart
      some (opened.pushIndicator .value 1 (!lexer.inFlow))

/-- Add a token that may be a key or belong to one. -/
def pushKeyable? (lexer : Lexer) (token : Token) (after : Cursor) (allowsKey : Bool) :
    Option Lexer := do
  let saved ← lexer.rememberKey?
  some { saved.push token with cursor := after, allowsKey }

/-- Read an anchor or an alias. -/
def name? (lexer : Lexer) (token : List Char → Token) : Option Lexer := do
  let (name, after) ← Property.name? lexer.cursor
  lexer.pushKeyable? (token name) after false

/-- Read a tag. -/
def tag? (lexer : Lexer) : Option Lexer := do
  let (token, after) ← Property.tag? lexer.inFlow lexer.cursor
  lexer.pushKeyable? token after false

/-- Read a quoted scalar. -/
def quoted? (lexer : Lexer) (quote : Char) : Option Lexer := do
  let (text, after) ← QuotedScalar.read quote lexer.cursor
  lexer.pushKeyable? (.scalar text false) after false

/-- Read a plain scalar. -/
def plain? (lexer : Lexer) : Option Lexer := do
  let result ← PlainScalar.read lexer.inFlow (lexer.indent + 1) lexer.cursor
  lexer.pushKeyable? (.scalar result.text true) result.cursor result.endsLine

/-- Read a block scalar. -/
def blockScalar? (lexer : Lexer) (literal : Bool) : Option Lexer := do
  let cleared ← lexer.forgetKey?
  let (text, after) ← BlockScalar.read literal lexer.indent lexer.cursor
  some { cleared.push (.scalar text false) with cursor := after, allowsKey := true }

/-- A character that may start a plain scalar whatever follows it. -/
def startsPlain (character : Char) : Bool :=
  !(isSpace character || isBreak character ||
    "-?:,[]\x7b\x7d#&*!|>'\"%@`".toList.contains character)

/-- Read the token that starts with a character. -/
def token? (lexer : Lexer) (first : Char) : Option Lexer :=
  let next := lexer.cursor.at? 1
  let isAlone := endsWord next
  if lexer.cursor.column == 0 && first == '%' then lexer.directive?
  else if lexer.cursor.isMarker '-' then lexer.marker? .documentStart
  else if lexer.cursor.isMarker '.' then lexer.marker? .documentEnd
  else if first == '[' then lexer.openFlow? .flowSequenceStart
  else if first == '\x7b' then lexer.openFlow? .flowMappingStart
  else if first == ']' then lexer.closeFlow? .flowSequenceEnd
  else if first == '\x7d' then lexer.closeFlow? .flowMappingEnd
  else if first == ',' then lexer.flowEntry?
  else if first == '-' && isAlone then lexer.blockEntry?
  else if first == '?' && (lexer.inFlow || isAlone) then lexer.key?
  else if first == ':' && (lexer.inFlow || isAlone) then lexer.value?
  else if first == '*' then lexer.name? .alias
  else if first == '&' then lexer.name? .anchor
  else if first == '!' then lexer.tag?
  else if first == '|' && !lexer.inFlow then lexer.blockScalar? true
  else if first == '>' && !lexer.inFlow then lexer.blockScalar? false
  else if first == '\'' || first == '"' then lexer.quoted? first
  else if startsPlain first || first == '-' || first == '?' || first == ':' then lexer.plain?
  else none

/-- Read the next token; there is no lexer behind the last one. -/
def step? (lexer : Lexer) : Option (Lexer × Bool) := do
  let here := lexer.skipBlanks (lexer.cursor.rest.length + 1)
  let fresh ← here.dropStaleKeys?
  let closed := fresh.closeBlocks fresh.cursor.column
  match closed.cursor.next? with
  | some first => (closed.token? first).map (·, false)
  | none =>
      let last ← closed.endDocument?
      some (last, true)

/-- Read all tokens. The number bounds how many there are. -/
def run : Nat → Lexer → Option (List Token)
  | 0, _ => none
  | more + 1, lexer =>
      match lexer.step? with
      | none => none
      | some (last, true) => some last.reversed.reverse
      | some (next, false) => run more next

end Lexer

/-- The tokens of a text. -/
def Token.ofText? (text : List Char) : Option (List Token) :=
  if text.all isPrintable then Lexer.run (text.length + 2) (Lexer.start text) else none

end Yaml
end CircuitSheet
