import CircuitSheet.Text.Blank

/-!
# Cutting text

Texts are cut at blanks, at a character or at a separator. A cut loses nothing but what it
cuts at.
-/

namespace CircuitSheet
namespace Text

/-- The text without blanks at its start. -/
def trimStart (text : List Char) : List Char :=
  text.dropWhile isBlank

/-- The text without blanks at its end. -/
def trimEnd (text : List Char) : List Char :=
  (text.reverse.dropWhile isBlank).reverse

/-- The text without blanks at either end. -/
def trim (text : List Char) : List Char :=
  trimEnd (trimStart text)

@[simp] theorem trim_nil : trim [] = [] := rfl

/-- Add a character to the first of some pieces. -/
def consFirst (character : Char) : List (List Char) → List (List Char)
  | [] => [[character]]
  | first :: others => (character :: first) :: others

/-- The pieces between the characters that satisfy a test; there is always at least one. -/
def splitWhere (test : Char → Bool) : List Char → List (List Char)
  | [] => [[]]
  | character :: rest =>
      if test character then [] :: splitWhere test rest
      else consFirst character (splitWhere test rest)

/-- The words of a text: its longest pieces without blanks. -/
def words (text : List Char) : List (List Char) :=
  (splitWhere isBlank text).filter fun piece => !piece.isEmpty

/-- The lines of a text. -/
def lines (text : List Char) : List (List Char) :=
  splitWhere (· == '\n') text

/-- Cut a text at the first character that equals `mark`. -/
def cutAt? (mark : Char) : List Char → Option (List Char × List Char)
  | [] => none
  | character :: rest =>
      if character = mark then some ([], rest)
      else (cutAt? mark rest).map fun (before, after) => (character :: before, after)

/-- Cut a text at the last character that equals `mark`. -/
def cutAtLast? (mark : Char) (text : List Char) : Option (List Char × List Char) :=
  (cutAt? mark text.reverse).map fun (after, before) => (before.reverse, after.reverse)

/-- The rest of a text after a leading part. -/
def dropLeading? : List Char → List Char → Option (List Char)
  | [], text => some text
  | _ :: _, [] => none
  | wanted :: others, character :: rest =>
      if character = wanted then dropLeading? others rest else none

/-- Cut a text at the first place where a separator stands. -/
def cutAtText? (separator : List Char) : List Char → Option (List Char × List Char)
  | [] => if separator.isEmpty then some ([], []) else none
  | character :: rest =>
      match dropLeading? separator (character :: rest) with
      | some after => some ([], after)
      | none => (cutAtText? separator rest).map fun (before, after) => (character :: before, after)

/-- Words joined by single spaces. -/
def unwords (pieces : List (List Char)) : List Char :=
  [' '].intercalate pieces

/-- A cut at a character puts together again. -/
theorem eq_append_of_cutAt? {mark : Char} {text before after : List Char}
    (cut : cutAt? mark text = some (before, after)) : text = before ++ mark :: after := by
  induction text generalizing before with
  | nil => cases cut
  | cons character rest inductionHypothesis =>
      unfold cutAt? at cut
      split at cut
      · next equal => cases cut; simp [equal]
      · obtain ⟨⟨start, finish⟩, inner, equal⟩ := Option.map_eq_some_iff.mp cut
        cases equal
        simp [inductionHypothesis inner]

/-- The part before a cut does not hold the mark. -/
theorem not_mem_of_cutAt? {mark : Char} {text before after : List Char}
    (cut : cutAt? mark text = some (before, after)) : mark ∉ before := by
  induction text generalizing before with
  | nil => cases cut
  | cons character rest inductionHypothesis =>
      unfold cutAt? at cut
      split at cut
      · cases cut; simp
      · next different =>
          obtain ⟨⟨start, finish⟩, inner, equal⟩ := Option.map_eq_some_iff.mp cut
          cases equal
          simp [inductionHypothesis inner, Ne.symm different]

/-- A text can be cut at a character exactly when it holds it. -/
theorem cutAt?_eq_none_iff {mark : Char} {text : List Char} :
    cutAt? mark text = none ↔ mark ∉ text := by
  induction text with
  | nil => simp [cutAt?]
  | cons character rest inductionHypothesis =>
      unfold cutAt?
      split
      · next equal => simp [equal]
      · next different => simp [inductionHypothesis, Ne.symm different]

/-- A text is cut at a character that does not stand before. -/
theorem cutAt?_append {mark : Char} {before : List Char} (absent : mark ∉ before)
    (after : List Char) : cutAt? mark (before ++ mark :: after) = some (before, after) := by
  induction before with
  | nil => simp [cutAt?]
  | cons character rest inductionHypothesis =>
      rw [List.mem_cons, not_or] at absent
      simp [cutAt?, Ne.symm absent.1, inductionHypothesis absent.2]

/-- Dropping a leading part leaves the rest. -/
theorem dropLeading?_eq_some_iff {leading text rest : List Char} :
    dropLeading? leading text = some rest ↔ text = leading ++ rest := by
  induction leading generalizing text with
  | nil => simp [dropLeading?]
  | cons wanted others inductionHypothesis =>
      cases text with
      | nil => simp [dropLeading?]
      | cons character remaining =>
          unfold dropLeading?
          split
          · next equal => simp [equal, inductionHypothesis]
          · next different => simp [different]

/-- The text without any number of repetitions of a leading part. -/
def dropRepeated (leading : List Char) (text : List Char) : List Char :=
  if leading = [] then text
  else
    match _split : dropLeading? leading text with
    | some shorter => dropRepeated leading shorter
    | none => text
termination_by text.length
decreasing_by
  have positive : 0 < leading.length := List.length_pos_iff.mpr (by assumption)
  rw [dropLeading?_eq_some_iff.mp _split, List.length_append]
  omega

end Text
end CircuitSheet
