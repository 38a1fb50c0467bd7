import CircuitSheet.Text.LowerCase
import CircuitSheet.Text.Pieces
import Mathlib.Data.List.DropRight

/-!
# Blanks and lines

Blanks at the end of a text are lost when it is trimmed, and no cut at a separator without blanks
falls among them. Texts that hold no line break are the lines of the text that they make up.
-/

namespace CircuitSheet
namespace Text

/-! ## Trimming -/

theorem solid_of_all {text : List Char} (all : text.all (!isBlank ·) = true) :
    ∀ character ∈ text, isBlank character = false := by
  simpa using all

/-- What is dropped at the end of a text does not reach past a character that is kept. -/
theorem rdropWhile_cons_of_not {test : Char → Bool} {character : Char}
    (kept : test character = false) (rest : List Char) :
    (character :: rest).rdropWhile test = character :: rest.rdropWhile test := by
  induction rest using List.reverseRecOn with
  | nil => simp [List.rdropWhile_singleton, kept]
  | append_singleton rest last inductionHypothesis =>
      rw [← List.cons_append, List.rdropWhile_concat, List.rdropWhile_concat, inductionHypothesis]
      split <;> rfl

/-- A first part without blanks is kept when the end of a text is trimmed. -/
theorem trimEnd_append_of_solid {first : List Char}
    (solid : ∀ character ∈ first, isBlank character = false) (rest : List Char) :
    trimEnd (first ++ rest) = first ++ trimEnd rest := by
  induction first with
  | nil => rfl
  | cons character first inductionHypothesis =>
      obtain ⟨solidHere, solidLater⟩ := List.forall_mem_cons.mp solid
      rw [List.cons_append, List.cons_append, ← inductionHypothesis solidLater]
      exact rdropWhile_cons_of_not solidHere _

theorem trim_append_of_solid {first : List Char}
    (solid : ∀ character ∈ first, isBlank character = false) (content : first ≠ [])
    (rest : List Char) : trim (first ++ rest) = first ++ trimEnd rest := by
  rw [← trimEnd_append_of_solid solid, trim, trimStart]
  cases first with
  | nil => exact absurd rfl content
  | cons character first =>
      have solidHere := solid character (List.mem_cons_self ..)
      rw [List.cons_append, List.dropWhile_cons_of_neg (by simp [solidHere])]

theorem trim_cons {character : Char} (solid : isBlank character = false) (rest : List Char) :
    trim (character :: rest) = character :: trimEnd rest :=
  trim_append_of_solid (List.forall_mem_singleton.mpr solid) (List.cons_ne_nil _ _) rest

/-- A text without blanks is trimmed. -/
theorem trim_eq_self {text : List Char} (solid : ∀ character ∈ text, isBlank character = false) :
    trim text = text := by
  cases text with
  | nil => rfl
  | cons character rest =>
      have trimmed := trim_append_of_solid solid (List.cons_ne_nil _ _) []
      simpa [trimEnd] using trimmed

/-- The end of a trimmed text is trimmed. -/
theorem trimEnd_eq_self {text : List Char} (trimmed : trim text = text) : trimEnd text = text := by
  have again : trimEnd (trim text) = trim text := List.rdropWhile_idempotent ..
  rwa [trimmed] at again

/-- A text ends with the blanks that are trimmed there. -/
theorem exists_append_blanks (text : List Char) :
    ∃ blanks, (∀ character ∈ blanks, isBlank character = true) ∧ text = trimEnd text ++ blanks :=
  ⟨text.rtakeWhile isBlank, fun _ => List.mem_rtakeWhile_imp,
    (List.rdropWhile_append_rtakeWhile ..).symm⟩

section Blanks

variable {blanks : List Char} (blank : ∀ character ∈ blanks, isBlank character = true)
include blank

theorem trimEnd_append_blanks (text : List Char) : trimEnd (text ++ blanks) = trimEnd text := by
  induction blanks using List.reverseRecOn with
  | nil => rw [List.append_nil]
  | append_singleton blanks last inductionHypothesis =>
      rw [List.forall_mem_append, List.forall_mem_singleton] at blank
      rw [← List.append_assoc, ← inductionHypothesis blank.1]
      exact List.rdropWhile_concat_pos _ _ _ blank.2

theorem trim_append_blanks (text : List Char) : trim (text ++ blanks) = trim text := by
  unfold trim trimStart
  rw [List.dropWhile_append]
  split
  · next nothing =>
      rw [List.isEmpty_iff.mp nothing, List.dropWhile_eq_nil_iff.mpr blank]
  · exact trimEnd_append_blanks blank _

omit blank in
/-- Blanks around a text are trimmed. -/
theorem trim_between_blanks {before after : List Char}
    (blankBefore : ∀ character ∈ before, isBlank character = true)
    (blankAfter : ∀ character ∈ after, isBlank character = true) (text : List Char) :
    trim (before ++ (text ++ after)) = trim text := by
  rw [trim, trimStart, List.dropWhile_append_of_pos blankBefore, ← trimStart, ← trim,
    trim_append_blanks blankAfter]

/-- A leading part without blanks does not reach into blanks at the end. -/
theorem dropLeading?_append_blanks {leading : List Char}
    (solid : ∀ character ∈ leading, isBlank character = false) (text : List Char) :
    dropLeading? leading (text ++ blanks) = (dropLeading? leading text).map (· ++ blanks) := by
  induction leading generalizing text with
  | nil => rfl
  | cons wanted others inductionHypothesis =>
      obtain ⟨solidWanted, solidOthers⟩ := List.forall_mem_cons.mp solid
      cases text with
      | nil =>
          cases blanks with
          | nil => rfl
          | cons first rest =>
              have different : first ≠ wanted := by
                rintro rfl
                simp [blank first] at solidWanted
              simp [dropLeading?, different]
      | cons character rest =>
          simp only [List.cons_append, dropLeading?]
          split
          · exact inductionHypothesis solidOthers rest
          · rfl

/-- A separator without blanks does not stand among blanks. -/
theorem cutAtText?_blanks {separator : List Char} (content : separator ≠ [])
    (solid : ∀ character ∈ separator, isBlank character = false) :
    cutAtText? separator blanks = none := by
  have never : dropLeading? separator [] = none := by
    cases separator with
    | nil => exact absurd rfl content
    | cons _ _ => rfl
  induction blanks with
  | nil => simp [cutAtText?, content]
  | cons first rest inductionHypothesis =>
      have nowhere := dropLeading?_append_blanks blank solid []
      rw [List.nil_append, never] at nowhere
      rw [cutAtText?, nowhere, Option.map_none,
        inductionHypothesis (List.forall_mem_cons.mp blank).2]
      rfl

/-- A text is cut at a separator without blanks as it is without the blanks at its end. -/
theorem cutAtText?_append_blanks {separator : List Char} (content : separator ≠ [])
    (solid : ∀ character ∈ separator, isBlank character = false) (text : List Char) :
    cutAtText? separator (text ++ blanks) =
      (cutAtText? separator text).map fun (before, after) => (before, after ++ blanks) := by
  induction text with
  | nil =>
      have nowhere : cutAtText? separator [] = none :=
        cutAtText?_blanks (List.forall_mem_nil _) content solid
      rw [List.nil_append, nowhere, cutAtText?_blanks blank content solid]
      rfl
  | cons character rest inductionHypothesis =>
      have leading := dropLeading?_append_blanks blank solid (character :: rest)
      rw [List.cons_append] at leading ⊢
      rw [cutAtText?, cutAtText?, leading]
      cases dropLeading? separator (character :: rest) with
      | some after => rfl
      | none =>
          simp only [Option.map_none, inductionHypothesis, Option.map_map]
          rfl

end Blanks

/-! ## Lines -/

/-- A piece ends where the first character stands that a text is split at. -/
theorem splitWhere_append {test : Char → Bool} {piece : List Char}
    (unmarked : ∀ character ∈ piece, test character = false) {mark : Char}
    (marked : test mark = true) (rest : List Char) :
    splitWhere test (piece ++ mark :: rest) = piece :: splitWhere test rest := by
  induction piece with
  | nil => rw [List.nil_append, splitWhere, if_pos marked]
  | cons character piece inductionHypothesis =>
      obtain ⟨unmarkedHere, unmarkedLater⟩ := List.forall_mem_cons.mp unmarked
      rw [List.cons_append, splitWhere, unmarkedHere, if_neg Bool.false_ne_true]
      exact congrArg (consFirst character) (inductionHypothesis unmarkedLater)

/-- A line ends where the first line break stands. -/
theorem lines_append {line : List Char} (single : '\n' ∉ line) (rest : List Char) :
    lines (line ++ '\n' :: rest) = line :: lines rest := by
  have unmarked : ∀ character ∈ line, (character == '\n') = false := fun character member =>
    beq_false_of_ne fun isBreak => single (isBreak ▸ member)
  exact splitWhere_append unmarked rfl rest

/-- Lines with a line break behind each of them, one after the other. -/
def joinLines (parts : List (List Char)) : List Char :=
  parts.flatMap (· ++ ['\n'])

/-- The lines are found again, with an empty one at the end. -/
theorem lines_joinLines {parts : List (List Char)} (single : ∀ line ∈ parts, '\n' ∉ line) :
    lines (joinLines parts) = parts ++ [[]] := by
  induction parts with
  | nil => rfl
  | cons line parts inductionHypothesis =>
      obtain ⟨singleHere, singleLater⟩ := List.forall_mem_cons.mp single
      have first : joinLines (line :: parts) = line ++ '\n' :: joinLines parts := by
        simp [joinLines]
      rw [first, lines_append singleHere, inductionHypothesis singleLater, List.cons_append]

/-! ## Letters -/

/-- The codes of the letters of the alphabet. -/
theorem toNat_of_isAlpha {character : Char} (letter : character.isAlpha = true) :
    65 ≤ character.toNat ∧ character.toNat ≤ 90 ∨ 97 ≤ character.toNat ∧ character.toNat ≤ 122 := by
  rcases Bool.or_eq_true_iff.mp letter with upper | lower
  · obtain ⟨least, greatest⟩ := of_decide_eq_true upper
    have codes := And.intro (UInt32.le_iff_toNat_le.mp least) (UInt32.le_iff_toNat_le.mp greatest)
    exact .inl codes
  · obtain ⟨least, greatest⟩ := Bool.and_eq_true_iff.mp lower
    have codes := And.intro (UInt32.le_iff_toNat_le.mp (of_decide_eq_true least))
      (UInt32.le_iff_toNat_le.mp (of_decide_eq_true greatest))
    exact .inr codes

theorem isBlank_eq_false_of_isAlpha {character : Char} (letter : character.isAlpha = true) :
    isBlank character = false := by
  have code := toNat_of_isAlpha letter
  simp only [isBlank]
  simp
  omega

/-- The lower case of letters of the alphabet is that of each of them. -/
theorem lower_of_isAlpha {text : List Char}
    (letters : ∀ character ∈ text, character.isAlpha = true) :
    lower text = text.map Char.toLower := by
  unfold lower
  generalize [] = before
  induction text generalizing before with
  | nil => rfl
  | cons character rest inductionHypothesis =>
      obtain ⟨letter, laterLetters⟩ := List.forall_mem_cons.mp letters
      have code := toNat_of_isAlpha letter
      have notSigma : character ≠ '\u03A3' := by
        rintro rfl
        revert letter
        decide
      have notDotted : character ≠ '\u0130' := by
        rintro rfl
        revert letter
        decide
      have lowered : lowerChar character = character.toLower := by
        rw [lowerChar, if_pos (by omega)]
      simp only [lowerAfter, notSigma, notDotted, if_false, lowered,
        inductionHypothesis laterLetters, List.map_cons]
      rfl

theorem isAlpha_of_isAlpha_toLower {character : Char}
    (letter : character.toLower.isAlpha = true) : character.isAlpha = true := by
  unfold Char.toLower at letter
  split at letter
  · next upper => exact Bool.or_eq_true_iff.mpr (.inl (decide_eq_true upper))
  · exact letter

/-- A text that equals letters of the alphabet up to case consists of such letters. -/
theorem isAlpha_of_sameLetters {text letters : List Char} (same : sameLetters text letters = true)
    (alphabet : (letters.map Char.toLower).all Char.isAlpha = true) :
    ∀ character ∈ text, character.isAlpha = true := by
  intro character member
  have lowerMember : character.toLower ∈ letters.map Char.toLower :=
    eq_of_beq same ▸ List.mem_map.mpr ⟨character, member, rfl⟩
  exact isAlpha_of_isAlpha_toLower (List.all_eq_true.mp alphabet _ lowerMember)

end Text
end CircuitSheet
