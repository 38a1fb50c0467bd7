import CircuitSheet.Yaml.Cursor

/-!
# Plain scalars

A plain scalar is a text without quotes. It may run over several lines, which are folded.
-/

namespace CircuitSheet
namespace Yaml
namespace PlainScalar

/-- An indicator that ends a plain scalar within brackets. -/
def isFlowIndicator (character : Char) : Bool :=
  character == ',' || character == '[' || character == ']' || character == '\x7b' ||
    character == '\x7d'

/-- The characters up to a space, a line break, or an indicator that ends the scalar. A colon in
front of an indicator is not allowed within brackets. -/
def run (inFlow : Bool) : List Char → Option (List Char)
  | [] => some []
  | character :: rest =>
      let next := rest.head?
      if isSpace character || isBreak character then some []
      else if character == ':' && inFlow &&
          next.any (fun follower => isFlowIndicator follower || follower == '?') then none
      else if character == ':' && endsWord next then some []
      else if inFlow && isFlowIndicator character then some []
      else (run inFlow rest).map (character :: ·)

/-- A plain scalar that has been read: its text, whether line breaks follow it, and the cursor
behind them. -/
structure Result where
  text : List Char
  endsLine : Bool
  cursor : Cursor

/-- Read on after a part of a scalar and a gap. The number bounds the parts. -/
def readOn (inFlow : Bool) (least : Int) : Nat → List Char → Gap → Cursor → Option Result
  | 0, _, _, _ => none
  | more + 1, text, gap, cursor =>
      let ended : Result := ⟨text, gap.firstBreak.isSome, cursor⟩
      if cursor.isDocumentMarker || cursor.next? == some '#' then some ended
      else
        match run inFlow cursor.rest with
        | none => none
        | some [] => some ended
        | some part =>
            match Gap.read least (cursor.skip part.length) with
            | none => none
            | some (nextGap, after) =>
                let longer := text ++ gap.text ++ part
                if !inFlow && nextGap.firstBreak.isSome && after.column < least then
                  some ⟨longer, true, after⟩
                else readOn inFlow least more longer nextGap after

/-- Read the plain scalar at a cursor. Further lines have to be indented to a column at least,
except within brackets. -/
def read (inFlow : Bool) (least : Int) (cursor : Cursor) : Option Result :=
  readOn inFlow least (cursor.rest.length + 1) [] Gap.none cursor

end PlainScalar
end Yaml
end CircuitSheet
