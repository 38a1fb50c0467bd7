import CircuitSheet.SExpr.Token
import CircuitSheet.Text.Pieces

/-!
# Reading symbolic expressions

The reader goes through the text once, character by character. Its state holds the lists
that are still open and the atom that is being read, so what has been read of a text and
what may still follow are separate.
-/

namespace CircuitSheet
namespace SExpr

variable {N : Type} [ScalarText N]

/-- The atom that is being read, last character first. -/
inductive Pending
  | nothing
  | bare (characters : List Char)
  | quoted (characters : List Char)
  | escaped (characters : List Char)
  deriving DecidableEq, Repr

/-- The open lists, innermost first and each with its last item first, and the atom that is
being read. -/
structure Progress (N : Type) where
  lists : List (List (SExpr N))
  pending : Pending
  deriving Repr

/-- Nothing has been read yet. -/
def Progress.start : Progress N := ⟨[], .nothing⟩

/-- What reading one character leads to: more to read, a tree that ends with the character or
before it, or a parenthesis that closes nothing. -/
inductive Advance (N : Type)
  | reading (progress : Progress N)
  | endsWith (tree : SExpr N)
  | endsBefore (tree : SExpr N)
  | stray
  deriving Repr

/-- The atom for a bare token. -/
def ofToken (token : List Char) : SExpr N :=
  match tokenNumber? N token with
  | some value => .number value
  | none => .symbol (String.ofList token)

/-- A finished tree goes into the innermost open list, or is the result. -/
def deliver (lists : List (List (SExpr N))) (tree : SExpr N) : Advance N :=
  match lists with
  | [] => .endsWith tree
  | innermost :: outer => .reading ⟨(tree :: innermost) :: outer, .nothing⟩

/-- Read a character between atoms. -/
def advanceBetween (lists : List (List (SExpr N))) (character : Char) : Advance N :=
  if Text.isBlank character then .reading ⟨lists, .nothing⟩
  else if character = '(' then .reading ⟨[] :: lists, .nothing⟩
  else if character = ')' then
    match lists with
    | [] => .stray
    | innermost :: outer => deliver outer (.list innermost.reverse)
  else if character = '"' then .reading ⟨lists, .quoted []⟩
  else .reading ⟨lists, .bare [character]⟩

/-- The character that an escaped character stands for. -/
def unescape (character : Char) : Char :=
  if character = 'n' then '\n'
  else if character = 't' then '\t'
  else if character = 'r' then '\r'
  else character

/-- Read one character. -/
def Progress.advance (progress : Progress N) (character : Char) : Advance N :=
  match progress.pending with
  | .nothing => advanceBetween progress.lists character
  | .bare characters =>
      if isDelimiter character then
        let atom := ofToken characters.reverse
        match progress.lists with
        | [] => .endsBefore atom
        | innermost :: outer => advanceBetween ((atom :: innermost) :: outer) character
      else .reading ⟨progress.lists, .bare (character :: characters)⟩
  | .quoted characters =>
      if character = '"' then
        deliver progress.lists (.string (String.ofList characters.reverse))
      else if character = '\\' then .reading ⟨progress.lists, .escaped characters⟩
      else .reading ⟨progress.lists, .quoted (character :: characters)⟩
  | .escaped characters =>
      .reading ⟨progress.lists, .quoted (unescape character :: characters)⟩

/-- Why no tree could be read; a stray parenthesis is given with the text it starts. -/
inductive Failure
  | endOfText
  | strayClose (rest : List Char)
  deriving DecidableEq, Repr

/-- Read one tree from a text and return what follows it. -/
def Progress.read (progress : Progress N) : List Char → Except Failure (SExpr N × List Char)
  | [] =>
      match progress.lists, progress.pending with
      | [], .bare characters => .ok (ofToken characters.reverse, [])
      | _, _ => .error .endOfText
  | character :: rest =>
      match progress.advance character with
      | .reading next => next.read rest
      | .endsWith tree => .ok (tree, rest)
      | .endsBefore tree => .ok (tree, character :: rest)
      | .stray => .error (.strayClose (character :: rest))

/-- Read the first tree of a text. -/
def readFirst (text : List Char) : Except Failure (SExpr N × List Char) :=
  Progress.start.read text

/-- Why a text is not one tree. Positions count characters. -/
inductive SyntaxError
  | endOfText
  | strayClose (position : Nat)
  | trailing (position : Nat)
  deriving DecidableEq, Repr

/-- The place of a failure within the whole text. -/
def Failure.locate (whole : List Char) : Failure → SyntaxError
  | .endOfText => .endOfText
  | .strayClose rest => .strayClose (whole.length - rest.length)

/-- The tree that a whole text is. -/
def parse (text : List Char) : Except SyntaxError (SExpr N) :=
  match readFirst text with
  | .error failure => .error (failure.locate text)
  | .ok (tree, rest) =>
      let after := Text.trimStart rest
      if after.isEmpty then .ok tree else .error (.trailing (text.length - after.length))

/-- Read trees one after the other until one cannot be read. The number bounds how many are
read; every tree takes at least one character. -/
def readMany (whole : List Char) : Nat → List Char → List (SExpr N) × Option SyntaxError
  | 0, _ => ([], none)
  | more + 1, text =>
      match readFirst text with
      | .error failure => ([], some (failure.locate whole))
      | .ok (tree, rest) =>
          let (trees, failure) := readMany whole more rest
          (tree :: trees, failure)

/-- All trees of a text, and the failure that ends them. -/
def readAll (text : List Char) : List (SExpr N) × Option SyntaxError :=
  readMany text (text.length + 1) text

/-- The message for a text that is not a tree. -/
def SyntaxError.message : SyntaxError → String
  | .endOfText => "Unexpected end of input"
  | .strayClose position => "Unexpected token: ')' at position " ++ toString position
  | .trailing position => "Trailing input at position " ++ toString position

end SExpr
end CircuitSheet
