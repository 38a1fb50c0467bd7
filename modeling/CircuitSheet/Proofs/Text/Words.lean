import CircuitSheet.Proofs.Text.Trimming

/-!
# Words

A text that is split has no piece with a character that it is split at, so words have content and
no blanks. Words that are written with blanks between them are found again, however many the blanks
are. What is left of a text that is trimmed is a part of it, and there is nothing more to trim.
-/

namespace CircuitSheet
namespace Text

/-- No piece holds a character that the text is split at. -/
theorem not_of_mem_splitWhere {test : Char → Bool} {text piece : List Char}
    (member : piece ∈ splitWhere test text) : ∀ character ∈ piece, test character = false := by
  induction text generalizing piece with
  | nil =>
      obtain rfl := List.mem_singleton.mp member
      exact List.forall_mem_nil _
  | cons first rest inductionHypothesis =>
      unfold splitWhere at member
      split at member
      case isTrue marked =>
        rcases List.mem_cons.mp member with rfl | inRest
        · exact List.forall_mem_nil _
        · exact inductionHypothesis inRest
      case isFalse unmarked =>
        have kept : test first = false := eq_false_of_ne_true unmarked
        cases pieces : splitWhere test rest with
        | nil =>
            rw [pieces] at member
            obtain rfl := List.mem_singleton.mp member
            exact List.forall_mem_singleton.mpr kept
        | cons head others =>
            rw [pieces] at member
            rcases List.mem_cons.mp member with rfl | inOthers
            · refine List.forall_mem_cons.mpr ⟨kept, inductionHypothesis ?_⟩
              rw [pieces]
              exact List.mem_cons_self
            · refine inductionHypothesis ?_
              rw [pieces]
              exact List.mem_cons_of_mem _ inOthers

/-- A text that is split at none of its characters is one piece. -/
theorem splitWhere_eq_singleton {test : Char → Bool} {piece : List Char}
    (unmarked : ∀ character ∈ piece, test character = false) : splitWhere test piece = [piece] := by
  induction piece with
  | nil => rfl
  | cons character piece inductionHypothesis =>
      obtain ⟨unmarkedHere, unmarkedLater⟩ := List.forall_mem_cons.mp unmarked
      rw [splitWhere, unmarkedHere, if_neg Bool.false_ne_true, inductionHypothesis unmarkedLater]
      rfl

/-- A word has content and no blanks. -/
theorem of_mem_words {text word : List Char} (member : word ∈ words text) :
    word ≠ [] ∧ ∀ character ∈ word, isBlank character = false := by
  obtain ⟨piece, content⟩ := List.mem_filter.mp member
  exact ⟨by simpa using content, not_of_mem_splitWhere piece⟩

/-- Words that are joined have content if the first one does. -/
theorem unwords_cons_ne_nil {word : List Char} (content : word ≠ []) (others : List (List Char)) :
    unwords (word :: others) ≠ [] := by
  cases others with
  | nil => simpa [unwords] using content
  | cons next rest => simp [unwords, content]

/-! ## Words with blanks between them -/

/-- Some characters without blanks. -/
structure IsWord (word : List Char) : Prop where
  content : word ≠ []
  solid : ∀ character ∈ word, isBlank character = false

/-- Words with blanks in front of each of them, and with any blanks behind them. -/
inductive Spaced : List Char → List (List Char) → Prop
  | blanks {blanks : List Char} (blank : ∀ character ∈ blanks, isBlank character = true) :
      Spaced blanks []
  | word {blanks word rest : List Char} {others : List (List Char)}
      (blank : ∀ character ∈ blanks, isBlank character = true) (apart : blanks ≠ [])
      (isWord : IsWord word) (spaced : Spaced rest others) :
      Spaced (blanks ++ (word ++ rest)) (word :: others)

/-- Blanks in front of a text hold no word. -/
theorem words_blanks_append {blanks : List Char}
    (blank : ∀ character ∈ blanks, isBlank character = true) (text : List Char) :
    words (blanks ++ text) = words text := by
  induction blanks with
  | nil => rfl
  | cons character blanks inductionHypothesis =>
      obtain ⟨blankHere, blankLater⟩ := List.forall_mem_cons.mp blank
      rw [← inductionHypothesis blankLater, words, List.cons_append, splitWhere, if_pos blankHere]
      rfl

/-- A word in front of a text is the first of its words if the text starts with a blank. -/
theorem IsWord.words_append {word text : List Char} (isWord : IsWord word)
    (ends : ∀ character ∈ text.head?, isBlank character = true) :
    words (word ++ text) = word :: words text := by
  have kept : (!word.isEmpty) = true := by simpa using isWord.content
  cases text with
  | nil =>
      rw [List.append_nil, words, splitWhere_eq_singleton isWord.solid, List.filter_cons,
        if_pos kept]
      rfl
  | cons character rest =>
      have blank : isBlank character = true := ends character rfl
      rw [words, splitWhere_append isWord.solid blank, List.filter_cons, if_pos kept, words,
        splitWhere, if_pos blank]
      rfl

theorem Spaced.isBlank_of_mem_head? {text : List Char} {others : List (List Char)}
    (spaced : Spaced text others) : ∀ character ∈ text.head?, isBlank character = true := by
  intro character isHead
  cases spaced with
  | blanks blank => exact blank character (List.mem_of_mem_head? isHead)
  | @word blanks _ _ _ blank apart =>
      refine blank character (List.mem_of_mem_head? ?_)
      rwa [List.head?_append_of_ne_nil _ apart] at isHead

/-- The words are found again. -/
theorem Spaced.words_eq {text : List Char} {others : List (List Char)}
    (spaced : Spaced text others) : words text = others := by
  induction spaced with
  | @blanks blanks blank =>
      rw [← List.append_nil blanks, words_blanks_append blank]
      rfl
  | word blank _ isWord spaced inductionHypothesis =>
      rw [words_blanks_append blank, isWord.words_append spaced.isBlank_of_mem_head?,
        inductionHypothesis]

/-! ## Trimmed texts -/

theorem trim_sublist (text : List Char) : (trim text).Sublist text := by
  have atEnd : (trimEnd (trimStart text)).Sublist (trimStart text) :=
    (List.rdropWhile_prefix ..).sublist
  exact atEnd.trans (List.dropWhile_sublist _)

/-- There is nothing to trim from a text that has been trimmed. -/
theorem trim_trim (text : List Char) : trim (trim text) = trim text := by
  have first := List.head?_dropWhile_not isBlank text
  have fromStart : trim text = trimEnd (trimStart text) := rfl
  rw [← trimStart] at first
  rw [fromStart]
  cases start : trimStart text with
  | nil => rfl
  | cons character rest =>
      rw [start] at first
      have solid : isBlank character = false := first
      have again : trimEnd (trimEnd rest) = trimEnd rest := List.rdropWhile_idempotent ..
      have trimmed : trimEnd (character :: rest) = character :: trimEnd rest :=
        rdropWhile_cons_of_not solid rest
      rw [trimmed, trim_cons solid, again]

end Text
end CircuitSheet
