import CircuitSheet.Proofs.SExpr.Grammar
import Mathlib.Order.Bounds.Basic

/-!
# What a failure says about a text

The three failures of the reader tell three kinds of text apart. A text ends too early exactly when
something that follows it makes it a document; a parenthesis is stray exactly when it is the first
character that is not blank; and in every other text a document comes first, of which the position
of the failure is the greatest length. Behind the first statement stands a text that completes every
state of the reader, behind all of them that the end of a tree does not depend on what follows it.

Trees may also be read one after the other. A call never leaves more of the text than it was given
and takes at least one character for a tree.
-/

namespace CircuitSheet
namespace SExpr

variable {N : Type} [ScalarText N]

/-! ## What is left of a text -/

omit [ScalarText N] in
/-- What a reading leaves: what follows the tree, nothing when the text ends too early, and the
text from a stray parenthesis on. -/
def leftBy : Except Failure (SExpr N × List Char) → List Char
  | .ok (_, rest) => rest
  | .error .endOfText => []
  | .error (.strayClose rest) => rest

/-- Reading goes through a text from its front. -/
theorem Progress.leftBy_read_suffix (progress : Progress N) (text : List Char) :
    leftBy (progress.read text) <:+ text := by
  induction text generalizing progress with
  | nil =>
      rw [Progress.read]
      split
      · exact List.suffix_rfl
      · exact List.suffix_rfl
  | cons character rest inductionHypothesis =>
      rw [Progress.read]
      cases progress.advance character with
      | reading next => exact (inductionHypothesis next).trans (List.suffix_cons character rest)
      | endsWith tree => exact List.suffix_cons character rest
      | endsBefore tree => exact List.suffix_rfl
      | stray => exact List.suffix_rfl

/-- A tree takes at least one character. -/
theorem length_lt_of_readFirst {text rest : List Char} {tree : SExpr N}
    (read : readFirst text = .ok (tree, rest)) : rest.length < text.length := by
  rcases readFirst_cases (N := N) text with
    ⟨before, expression, after, other, rfl, _, isExpression, readHere⟩ | ⟨_, _, _, readHere⟩ |
      readHere
  · obtain ⟨rfl, rfl⟩ := Prod.mk.inj (Except.ok.inj (readHere.symm.trans read))
    have positive := List.length_pos_iff.mpr isExpression.ne_nil
    simp only [List.length_append]
    omega
  · cases readHere.symm.trans read
  · cases readHere.symm.trans read

/-! ## What follows a text -/

/-- Where the reader stops within a text, it stops there whatever follows the text. -/
theorem Progress.read_append_of_after?_eq_none {progress : Progress N} {text : List Char}
    (stopped : progress.after? text = none) (more : List Char) :
    (∃ tree rest, progress.read text = .ok (tree, rest) ∧
        progress.read (text ++ more) = .ok (tree, rest ++ more)) ∨
      ∃ rest, progress.read text = .error (.strayClose rest) ∧
        progress.read (text ++ more) = .error (.strayClose (rest ++ more)) := by
  induction text generalizing progress with
  | nil => cases stopped
  | cons character rest inductionHypothesis =>
      rw [Progress.after?] at stopped
      rw [List.cons_append, Progress.read, Progress.read]
      cases advanced : progress.advance character with
      | reading next =>
          rw [advanced] at stopped
          exact inductionHypothesis stopped
      | endsWith tree => exact .inl ⟨tree, rest, rfl, rfl⟩
      | endsBefore tree => exact .inl ⟨tree, character :: rest, rfl, rfl⟩
      | stray => exact .inr ⟨character :: rest, rfl, rfl⟩

/-- Where the reader does not stop within a text, it has read an atom outside of all lists, or the
text ends too early. -/
theorem Progress.read_of_after?_eq_some {progress later : Progress N} {text : List Char}
    (reached : progress.after? text = some later) :
    (∃ tree, progress.read text = .ok (tree, [])) ∨ progress.read text = .error .endOfText := by
  have read := Progress.read_append reached []
  rw [List.append_nil] at read
  rw [read, Progress.read]
  split
  · exact .inl ⟨_, rfl⟩
  · exact .inr rfl

/-! ## Completing a text -/

/-- The characters that end the atom that is being read, or an atom where none is. -/
def Pending.ending : Pending → List Char
  | .nothing => ['a']
  | .bare _ => []
  | .quoted _ => ['"']
  | .escaped _ => ['a', '"']

omit [ScalarText N] in
/-- What makes the text that has been read a document: the end of its atom, and a parenthesis for
every open list. -/
def Progress.completion (progress : Progress N) : List Char :=
  progress.pending.ending ++ List.replicate progress.lists.length ')'

theorem endsToken_replicate_close (count : Nat) : EndsToken (List.replicate count ')') := by
  cases count with
  | zero => exact endsToken_nil
  | succ count => exact endsToken_close _

/-- A parenthesis for every open list completes the outermost one. -/
theorem exists_resume_closes (lists : List (List (SExpr N))) (tree : SExpr N) :
    ∃ whole, resume lists tree (List.replicate lists.length ')') = .ok (whole, []) := by
  induction lists generalizing tree with
  | nil => exact ⟨tree, rfl⟩
  | cons innermost outer inductionHypothesis =>
      rw [resume, List.length_cons, List.replicate_succ, readWithin_close]
      exact inductionHypothesis _

/-- The end of the atom leads to an atom, in every state of the reader. -/
theorem Progress.exists_read_ending (progress : Progress N) {rest : List Char}
    (ends : EndsToken rest) :
    ∃ atom, progress.read (progress.pending.ending ++ rest) = resume progress.lists atom rest := by
  obtain ⟨lists, pending⟩ := progress
  cases pending with
  | nothing =>
      have undelimited : ∀ character ∈ ['a'], isDelimiter character = false :=
        List.forall_mem_singleton.mpr rfl
      exact ⟨_, readWithin_token (List.cons_ne_nil _ _) undelimited lists ends⟩
  | bare characters =>
      exact ⟨_, read_bare lists characters [] rest (List.forall_mem_nil _) ends⟩
  | quoted characters => exact ⟨_, Spells.nil.read lists characters rest⟩
  | escaped characters => exact ⟨_, Spells.nil.read lists ('a' :: characters) rest⟩

/-- Every state of the reader can be completed. -/
theorem Progress.exists_read_completion (progress : Progress N) :
    ∃ whole, progress.read progress.completion = .ok (whole, []) := by
  obtain ⟨atom, read⟩ := progress.exists_read_ending (endsToken_replicate_close _)
  obtain ⟨whole, closes⟩ := exists_resume_closes progress.lists atom
  exact ⟨whole, read.trans closes⟩

/-! ## Whole texts -/

theorem parse_eq_error_of_readFirst {text : List Char} {failure : Failure}
    (read : (readFirst text : Except Failure (SExpr N × List Char)) = .error failure) :
    (parse text : Except SyntaxError (SExpr N)) = .error (failure.locate text) := by
  rw [parse, read]

theorem parse_eq_ok_of_readFirst {text rest : List Char} {tree : SExpr N}
    (read : readFirst text = .ok (tree, rest)) (nothing : IsBlankText rest) :
    parse text = .ok tree := by
  rw [parse, read]
  exact if_pos (List.isEmpty_iff.mpr (isBlankText_iff_trimStart.mp nothing))

/-- A text whose tree is followed by more than blanks is refused there, and for nothing else. -/
theorem trailing_of_parse_error {text rest : List Char} {tree : SExpr N} {failure : SyntaxError}
    (read : readFirst text = .ok (tree, rest))
    (failed : (parse text : Except SyntaxError (SExpr N)) = .error failure) :
    ¬IsBlankText rest ∧
      failure = .trailing (text.length - (Text.trimStart rest).length) := by
  rw [parse, read] at failed
  simp only at failed
  split at failed
  case isTrue => cases failed
  case isFalse goesOn =>
    rw [isBlankText_iff_trimStart, ← List.isEmpty_iff]
    exact ⟨goesOn, (Except.error.inj failed).symm⟩

/-- Only blanks follow the tree of a text that is read to its end. -/
theorem isBlankText_of_parse {text rest : List Char} {tree other : SExpr N}
    (read : readFirst text = .ok (tree, rest)) (parsed : parse text = .ok other) :
    IsBlankText rest := by
  rw [parse, read] at parsed
  simp only at parsed
  split at parsed
  case isTrue nothing => exact isBlankText_iff_trimStart.mpr (List.isEmpty_iff.mp nothing)
  case isFalse => cases parsed

/-- The text ends too early for a tree exactly when something completes it. -/
theorem endOfText_iff_exists_parse_append {text : List Char} {failure : SyntaxError}
    (failed : (parse text : Except SyntaxError (SExpr N)) = .error failure) :
    failure = .endOfText ↔ ∃ more, ∃ tree : SExpr N, parse (text ++ more) = .ok tree := by
  cases reached : (Progress.start : Progress N).after? text with
  | some later =>
      -- The reader is still within the text, and its state tells what completes it.
      rcases Progress.read_of_after?_eq_some reached with ⟨tree, read⟩ | read
      · exact absurd isBlankText_nil (trailing_of_parse_error read failed).1
      · have isEnd := Except.error.inj (failed.symm.trans (parse_eq_error_of_readFirst read))
        obtain ⟨tree, completed⟩ := later.exists_read_completion
        rw [← Progress.read_append reached] at completed
        exact iff_of_true isEnd
          ⟨later.completion, tree, parse_eq_ok_of_readFirst completed isBlankText_nil⟩
  | none =>
      -- The reader has stopped before the end, whatever follows.
      have stops := Progress.read_append_of_after?_eq_none reached
      refine iff_of_false ?_ ?_
      · rintro rfl
        rcases stops [] with ⟨tree, rest, read, -⟩ | ⟨rest, read, -⟩
        · cases (trailing_of_parse_error read failed).2
        · cases failed.symm.trans (parse_eq_error_of_readFirst read)
      · rintro ⟨more, other, parsed⟩
        rcases stops more with ⟨tree, rest, read, readMore⟩ | ⟨rest, -, readMore⟩
        · have blank := isBlankText_of_parse readMore parsed
          exact (trailing_of_parse_error read failed).1 (List.forall_mem_append.mp blank).1
        · cases parsed.symm.trans (parse_eq_error_of_readFirst readMore)

/-- Blanks at the start of a text are passed over. -/
theorem readFirst_eq_readWithin_trimStart (text : List Char) :
    readFirst text =
      (readWithin [] (Text.trimStart text) : Except Failure (SExpr N × List Char)) := by
  have blank : ∀ character ∈ text.takeWhile Text.isBlank, Text.isBlank character = true :=
    fun _ => List.mem_takeWhile_imp
  rw [← readWithin_blanks [] blank, Text.trimStart, List.takeWhile_append_dropWhile,
    readFirst_eq_readWithin]

/-- A parenthesis closes nothing when it is the first character of all, blanks aside. -/
theorem exists_strayClose_iff {text : List Char} {failure : SyntaxError}
    (failed : (parse text : Except SyntaxError (SExpr N)) = .error failure) :
    (∃ position, failure = .strayClose position) ↔
      (Text.trimStart text).head? = some ')' := by
  have read := readFirst_eq_readWithin_trimStart (N := N) text
  have solid := List.head?_dropWhile_not Text.isBlank text
  rw [← Text.trimStart] at solid
  generalize Text.trimStart text = content at read solid
  cases content with
  | nil =>
      have located := failed.symm.trans (parse_eq_error_of_readFirst read)
      simp [Except.error.inj located, Failure.locate]
  | cons character rest =>
      by_cases isClose : character = ')'
      · subst isClose
        have located := failed.symm.trans (parse_eq_error_of_readFirst read)
        exact iff_of_true ⟨_, Except.error.inj located⟩ rfl
      · refine iff_of_false ?_ (by simpa using isClose)
        rintro ⟨position, rfl⟩
        rcases expression_or_endOfText (N := N) character rest solid isClose with
          ⟨expression, after, tree, split, isExpression, maximal⟩ | endOfText
        · rw [split, isExpression.readWithin_eq [] maximal, resume] at read
          cases (trailing_of_parse_error read failed).2
        · cases failed.symm.trans (parse_eq_error_of_readFirst (read.trans (endOfText [])))

/-- The lengths of the documents that a text starts with. -/
def acceptedLengths (N : Type) [ScalarText N] (text : List Char) : Set ℕ :=
  {length | length ≤ text.length ∧ ∃ tree : SExpr N, parse (text.take length) = .ok tree}

/-- A document at the start of a text does not reach into what its tree leaves, blanks aside. -/
theorem length_trimStart_le {part suffix rest : List Char} {tree other : SExpr N}
    (accepted : parse part = .ok other) (read : readFirst (part ++ suffix) = .ok (tree, rest)) :
    (Text.trimStart rest).length ≤ suffix.length := by
  cases reached : (Progress.start : Progress N).after? part with
  | some later =>
      have left := Progress.leftBy_read_suffix later suffix
      rw [← Progress.read_append reached, ← readFirst, read] at left
      exact (List.dropWhile_suffix _).length_le.trans left.length_le
  | none =>
      rcases Progress.read_append_of_after?_eq_none reached suffix with
        ⟨first, between, readPart, readWhole⟩ | ⟨between, readPart, -⟩
      · obtain ⟨rfl, rfl⟩ := Prod.mk.inj (Except.ok.inj (read.symm.trans readWhole))
        have blank := isBlankText_of_parse readPart accepted
        rw [Text.trimStart, List.dropWhile_append_of_pos blank]
        exact (List.dropWhile_suffix _).length_le
      · cases accepted.symm.trans (parse_eq_error_of_readFirst readPart)

/-- The position at which a text goes on is the length of the longest document at its start. -/
theorem isGreatest_of_trailing {text : List Char} {position : ℕ}
    (failed : (parse text : Except SyntaxError (SExpr N)) = .error (.trailing position)) :
    IsGreatest (acceptedLengths N text) position := by
  rcases readFirst_cases (N := N) text with
    ⟨before, expression, after, tree, rfl, blankBefore, isExpression, read⟩ |
      ⟨before, after, rfl, read⟩ | read
  · obtain rfl := SyntaxError.trailing.inj (trailing_of_parse_error read failed).2
    constructor
    · -- The expression with all blanks around it is a document.
      have blankAfter : IsBlankText (after.takeWhile Text.isBlank) := fun _ =>
        List.mem_takeWhile_imp
      have whole : before ++ (expression ++ after) =
          before ++ (expression ++ after.takeWhile Text.isBlank) ++ Text.trimStart after := by
        simp [Text.trimStart]
      refine ⟨Nat.sub_le _ _, tree, IsDocument.parse_eq
        ⟨before, expression, _, ?_, blankBefore, isExpression, blankAfter⟩⟩
      rw [whole, List.length_append, Nat.add_sub_cancel, List.take_left]
    · rintro length ⟨within, other, accepted⟩
      have whole := List.take_append_drop length (before ++ (expression ++ after))
      have shorter := length_trimStart_le accepted (whole.symm ▸ read)
      rw [List.length_drop] at shorter
      omega
  · cases failed.symm.trans (parse_eq_error_of_readFirst read)
  · cases failed.symm.trans (parse_eq_error_of_readFirst read)

/-! ## One tree after the other -/

/-- The number of characters in front of a call's place in a text after the call. -/
def positionAfter (N : Type) [ScalarText N] (text : List Char) (position : ℕ) : ℕ :=
  text.length - (leftBy (readFirst (N := N) (text.drop position))).length

/-- Calls move on within the text, and past at least one character for a tree. -/
theorem le_positionAfter {text : List Char} {position : ℕ} (within : position ≤ text.length) :
    position ≤ positionAfter N text position ∧ positionAfter N text position ≤ text.length ∧
      ∀ tree rest, (readFirst (text.drop position) : Except Failure (SExpr N × List Char)) =
        .ok (tree, rest) → position < positionAfter N text position := by
  have left := (Progress.leftBy_read_suffix (Progress.start : Progress N)
    (text.drop position)).length_le
  rw [← readFirst, List.length_drop] at left
  refine ⟨by unfold positionAfter; omega, Nat.sub_le _ _, fun tree rest read => ?_⟩
  have shorter := length_lt_of_readFirst read
  rw [List.length_drop] at shorter
  rw [positionAfter, read, leftBy]
  omega

/-- The number of characters in front of a failure. -/
def SyntaxError.position (text : List Char) : SyntaxError → ℕ
  | .endOfText => text.length
  | .strayClose position => position
  | .trailing position => position

/-- Reading one tree after the other comes to a failure, after no more trees than characters. -/
theorem readMany_eq {whole : List Char} {readings : ℕ} {text : List Char}
    (part : text <:+ whole) (enough : text.length < readings) :
    ∃ (trees : List (SExpr N)) (failure : SyntaxError),
      readMany whole readings text = (trees, some failure) ∧
        (whole.length - text.length) + trees.length ≤ failure.position whole ∧
        failure.position whole ≤ whole.length := by
  induction readings generalizing text with
  | zero => omega
  | succ more inductionHypothesis =>
      have left := Progress.leftBy_read_suffix (Progress.start : Progress N) text
      rw [← readFirst] at left
      rw [readMany]
      cases read : (readFirst text : Except Failure (SExpr N × List Char)) with
      | error failure =>
          rw [read] at left
          refine ⟨[], failure.locate whole, rfl, ?_⟩
          have shorter := left.length_le
          cases failure with
          | endOfText => exact ⟨Nat.sub_le _ _, le_refl _⟩
          | strayClose rest =>
              simp only [leftBy] at shorter
              simp only [Failure.locate, SyntaxError.position, List.length_nil]
              omega
      | ok result =>
          obtain ⟨tree, rest⟩ := result
          rw [read, leftBy] at left
          have shorter := length_lt_of_readFirst read
          obtain ⟨trees, failure, readRest, few, within⟩ :=
            inductionHypothesis (left.trans part) (by omega)
          have inside := part.length_le
          refine ⟨tree :: trees, failure, ?_, ?_, within⟩
          · simp only
            rw [readRest]
          · rw [List.length_cons]
            omega

/-! ## Failures -/

/-- A text that is no document ends too early exactly when something that follows makes it one, and
has a stray parenthesis exactly when one is the first character after the blanks; otherwise the
position of the failure is the length of the longest document that it starts with. Calls for one
tree after the other stay within the text and move on, past at least one character for a tree, so
the trees before the first failure are no more than the characters before it. -/
theorem parse_failure_classifies (text : List Char) :
    (∀ failure, (parse text : Except SyntaxError (SExpr N)) = .error failure →
      (failure = .endOfText ↔ ∃ more, ∃ tree : SExpr N, parse (text ++ more) = .ok tree) ∧
      ((∃ position, failure = .strayClose position) ↔
        (Text.trimStart text).head? = some ')') ∧
      (failure ≠ .endOfText → (∀ position, failure ≠ .strayClose position) →
        ∃ position, failure = .trailing position ∧
          IsGreatest (acceptedLengths N text) position)) ∧
    (∀ position ≤ text.length,
      position ≤ positionAfter N text position ∧ positionAfter N text position ≤ text.length ∧
        ∀ tree rest, (readFirst (text.drop position) : Except Failure (SExpr N × List Char)) =
          .ok (tree, rest) → position < positionAfter N text position) ∧
    ∃ (trees : List (SExpr N)) (failure : SyntaxError), readAll text = (trees, some failure) ∧
      trees.length ≤ failure.position text ∧ failure.position text ≤ text.length := by
  refine ⟨fun failure failed => ⟨endOfText_iff_exists_parse_append failed,
    exists_strayClose_iff failed, ?_⟩, fun position => le_positionAfter, ?_⟩
  · intro notEnd notStray
    cases failure with
    | endOfText => exact absurd rfl notEnd
    | strayClose position => exact absurd rfl (notStray position)
    | trailing position => exact ⟨position, rfl, isGreatest_of_trailing failed⟩
  · obtain ⟨trees, failure, read, few, within⟩ :=
      readMany_eq (N := N) (List.suffix_refl text) (Nat.lt_succ_self _)
    exact ⟨trees, failure, read, by omega, within⟩

theorem parse_failure_classifies_sample :
    (∃ more, ∃ tree : SExpr Float, parse ("(a \"x\\".toList ++ more) = .ok tree) ∧
      (Text.trimStart " \t) a".toList).head? = some ')' ∧
      IsGreatest (acceptedLengths Float "(a)  b".toList) 5 ∧
      5 < positionAfter Float "(a)  b".toList 5 := by
  have unfinished : (parse "(a \"x\\".toList : Except SyntaxError (SExpr Float)) =
      .error .endOfText := by rfl
  have stray : (parse " \t) a".toList : Except SyntaxError (SExpr Float)) =
      .error (.strayClose 2) := by rfl
  have longer : (parse "(a)  b".toList : Except SyntaxError (SExpr Float)) =
      .error (.trailing 5) := by rfl
  have last : (readFirst ("(a)  b".toList.drop 5) :
      Except Failure (SExpr Float × List Char)) = .ok (.symbol "b", []) := by rfl
  obtain ⟨failures, calls, -⟩ := parse_failure_classifies (N := Float) "(a)  b".toList
  obtain ⟨position, isHere, greatest⟩ := (failures _ longer).2.2 nofun nofun
  obtain rfl := SyntaxError.trailing.inj isHere
  exact ⟨((parse_failure_classifies _).1 _ unfinished).1.mp rfl,
    ((parse_failure_classifies _).1 _ stray).2.1.mp ⟨2, rfl⟩, greatest,
    (calls 5 (by decide)).2.2 _ _ last⟩

end SExpr
end CircuitSheet
