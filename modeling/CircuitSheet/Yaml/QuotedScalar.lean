import CircuitSheet.Decimal.Digits
import CircuitSheet.Yaml.Cursor

/-!
# Quoted scalars

A scalar in single quotes knows one escape, a quote written twice. A scalar in double quotes
has escapes with a backslash, also for line breaks. Lines are folded in both.
-/

namespace CircuitSheet
namespace Yaml
namespace QuotedScalar

/-- The value of a hexadecimal digit. -/
def hexValue? (digit : Char) : Option Nat :=
  if digit.isDigit then some (digit.toNat - '0'.toNat)
  else if 'a' ≤ digit ∧ digit ≤ 'f' then some (digit.toNat - 'a'.toNat + 10)
  else if 'A' ≤ digit ∧ digit ≤ 'F' then some (digit.toNat - 'A'.toNat + 10)
  else none

/-- The number that hexadecimal digits name. -/
def hexNumber? (digits : List Char) : Option Nat :=
  digits.foldlM (fun number digit => (hexValue? digit).map (16 * number + ·)) 0

/-- The character whose code some hexadecimal digits at the start of a text give. -/
def codeEscape? (width : Nat) (text : List Char) : Option (Char × Nat) := do
  let digits := text.take width
  if digits.length < width then none
  else
    let code ← hexNumber? digits
    if code.isValidChar then some (Char.ofNat code, width) else none

/-- The character that a letter after a backslash stands for by itself. -/
def letterEscape? (letter : Char) : Option Char :=
  match letter with
  | '0' => some '\x00'
  | 'a' => some '\x07'
  | 'b' => some '\x08'
  | 't' => some '\t'
  | '\t' => some '\t'
  | 'n' => some '\n'
  | 'v' => some '\x0b'
  | 'f' => some '\x0c'
  | 'r' => some '\r'
  | 'e' => some '\x1b'
  | ' ' => some ' '
  | '"' => some '"'
  | '/' => some '/'
  | '\\' => some '\\'
  | 'N' => some '\u0085'
  | '_' => some '\u00a0'
  | 'L' => some '\u2028'
  | 'P' => some '\u2029'
  | _ => none

/-- The character that an escape stands for, given what follows the backslash, and the number
of characters that follow it. -/
def escape? : List Char → Option (Char × Nat)
  | [] => none
  | letter :: rest =>
      let coded :=
        if letter == 'x' then codeEscape? 2 rest
        else if letter == 'u' then codeEscape? 4 rest
        else if letter == 'U' then codeEscape? 8 rest
        else (letterEscape? letter).map (·, 0)
      coded.map fun (character, width) => (character, width + 1)

/-- What stands at a cursor within quotes. -/
inductive Piece
  | closing
  | characters (text : List Char) (width : Nat)
  | gap
  | escapedBreak
  deriving Repr

/-- Look at the start of a text within quotes. -/
def piece? (quote : Char) : List Char → Option Piece
  | [] => none
  | character :: rest =>
      if isSpace character || isBreak character then some .gap
      else if character == quote then
        if quote == '\'' && rest.head? == some quote then some (.characters [quote] 2)
        else some .closing
      else if quote == '"' && character == '\\' then
        if rest.head?.any isBreak then some .escapedBreak
        else (escape? rest).map fun (escaped, width) => .characters [escaped] (width + 1)
      else some (.characters [character] 1)

/-- Read on within quotes up to the closing one; the text so far has its last character first.
The number bounds the pieces. -/
def readOn (quote : Char) : Nat → List Char → Cursor → Option (List Char × Cursor)
  | 0, _, _ => none
  | more + 1, reversed, cursor =>
      if cursor.isDocumentMarker then none
      else
        match piece? quote cursor.rest with
        | none => none
        | some .closing => some (reversed.reverse, cursor.skip 1)
        | some (.characters text width) =>
            readOn quote more (text.reverse ++ reversed) (cursor.skip width)
        | some .gap =>
            match Gap.read 0 cursor with
            | none => none
            | some (gap, after) => readOn quote more (gap.text.reverse ++ reversed) after
        | some .escapedBreak =>
            match (cursor.skip 1).lineBreak? with
            | none => none
            | some (_, nextLine) =>
                match Gap.readOn 0 nextLine.rest.length (Gap.none.addBreak []) nextLine with
                | none => none
                | some (gap, after) => readOn quote more (gap.text.reverse ++ reversed) after

/-- Read the scalar whose opening quote stands at a cursor. -/
def read (quote : Char) (cursor : Cursor) : Option (List Char × Cursor) :=
  readOn quote (cursor.rest.length + 1) [] (cursor.skip 1)

end QuotedScalar
end Yaml
end CircuitSheet
