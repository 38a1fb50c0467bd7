import CircuitSheet.Binary64
import CircuitSheet.Proofs.SExpr.Reading
import Mathlib.Data.List.TakeWhile

/-!
# The grammar of symbolic expressions

A document is one expression with blanks around it. An expression is a bare token, a quoted
text, or a sequence of expressions in parentheses, with blanks between them where one likes. The
grammar is stated on texts alone; the reader accepts exactly its documents and returns the trees
that they denote.
-/

namespace CircuitSheet
namespace SExpr

/-! ## Grammar -/

/-- Blanks only. -/
def IsBlankText (text : List Char) : Prop :=
  ∀ character ∈ text, Text.isBlank character = true

/-- Some characters of which none is a delimiter. -/
structure IsBare (token : List Char) : Prop where
  nonempty : token ≠ []
  undelimited : ∀ character ∈ token, isDelimiter character = false

/-- The character that a character after a backslash stands for. -/
inductive Escapes : Char → Char → Prop
  | lineFeed : Escapes 'n' '\n'
  | tab : Escapes 't' '\t'
  | carriageReturn : Escapes 'r' '\r'
  | itself {character : Char} (other : character ∉ ['n', 't', 'r']) :
      Escapes character character

/-- The characters between quotes and the text that they stand for. -/
inductive Spells : List Char → List Char → Prop
  | nil : Spells [] []
  | plain {character : Char} {body content : List Char} (notQuote : character ≠ '"')
      (notBackslash : character ≠ '\\') (more : Spells body content) :
      Spells (character :: body) (character :: content)
  | escape {character meant : Char} {body content : List Char}
      (escapes : Escapes character meant) (more : Spells body content) :
      Spells ('\\' :: character :: body) (meant :: content)

section

variable {N : Type} [ScalarText N]

mutual
/-- The text is an expression that denotes the tree. -/
inductive IsExpression : List Char → SExpr N → Prop
  | number {token : List Char} {value : N} (bare : IsBare token)
      (numeral : isNumeral N token = true) (named : ScalarText.read? token = some value) :
      IsExpression token (.number value)
  | symbol {token : List Char} (bare : IsBare token) (notNumeral : isNumeral N token = false) :
      IsExpression token (.symbol (String.ofList token))
  | string {body content : List Char} (spells : Spells body content) :
      IsExpression ('"' :: (body ++ ['"'])) (.string (String.ofList content))
  | list {inner : List Char} {items : List (SExpr N)} (sequence : IsSequence inner items) :
      IsExpression ('(' :: (inner ++ [')'])) (.list items)
/-- The text is a sequence of expressions that denote the items. A bare token takes as many
characters as it can: after it comes a delimiter or the end. -/
inductive IsSequence : List Char → List (SExpr N) → Prop
  | blank {blanks : List Char} (blank : IsBlankText blanks) : IsSequence blanks []
  | item {blanks expression rest : List Char} {tree : SExpr N} {items : List (SExpr N)}
      (blank : IsBlankText blanks) (first : IsExpression expression tree)
      (maximal : IsBare expression → EndsToken rest) (others : IsSequence rest items) :
      IsSequence (blanks ++ (expression ++ rest)) (tree :: items)
end

/-- The text is one expression with blanks around it. -/
def IsDocument (text : List Char) (tree : SExpr N) : Prop :=
  ∃ before expression after, text = before ++ (expression ++ after) ∧ IsBlankText before ∧
    IsExpression expression tree ∧ IsBlankText after

end

/-! ## Characters and tokens -/

@[simp] theorem isBlankText_nil : IsBlankText [] := by
  simp [IsBlankText]

theorem isBlankText_cons {character : Char} {rest : List Char} :
    IsBlankText (character :: rest) ↔ Text.isBlank character = true ∧ IsBlankText rest :=
  List.forall_mem_cons

theorem isDelimiter_of_isBlank {character : Char} (blank : Text.isBlank character = true) :
    isDelimiter character = true := by
  simp [isDelimiter, blank]

theorem IsBlankText.endsToken {blanks : List Char} (blank : IsBlankText blanks) :
    EndsToken blanks := by
  cases blanks with
  | nil => exact endsToken_nil
  | cons character rest =>
      exact endsToken_cons.mpr (isDelimiter_of_isBlank (isBlankText_cons.mp blank).1)

theorem isBlankText_iff_trimStart {text : List Char} :
    IsBlankText text ↔ Text.trimStart text = [] := by
  rw [Text.trimStart, List.dropWhile_eq_nil_iff]
  rfl

theorem escapes_iff {character meant : Char} :
    Escapes character meant ↔ unescape character = meant := by
  constructor
  · rintro (_ | _ | _ | other)
    · rfl
    · rfl
    · rfl
    · simp only [List.mem_cons, List.not_mem_nil, or_false, not_or] at other
      simp [unescape, other.1, other.2.1, other.2.2]
  · rintro rfl
    unfold unescape
    split
    · next isN => exact isN ▸ .lineFeed
    · split
      · next isT => exact isT ▸ .tab
      · split
        · next isR => exact isR ▸ .carriageReturn
        · next notN notT notR => exact .itself (by simp [notN, notT, notR])

/-- Quotes and parentheses belong to no bare token. -/
theorem not_isBare_cons {character : Char} {rest : List Char}
    (delimits : isDelimiter character = true) : ¬IsBare (character :: rest) := by
  intro bare
  have undelimited := bare.undelimited character (List.mem_cons_self ..)
  rw [delimits] at undelimited
  cases undelimited

/-- A text that starts with no delimiter starts with a bare token, and the token ends where the
next delimiter stands. -/
theorem exists_isBare_append {character : Char} (bare : isDelimiter character = false)
    (rest : List Char) :
    ∃ token after, character :: rest = token ++ after ∧ IsBare token ∧ EndsToken after := by
  refine ⟨character :: rest.takeWhile (!isDelimiter ·), rest.dropWhile (!isDelimiter ·), ?_,
    ⟨List.cons_ne_nil _ _, ?_⟩, ?_⟩
  · rw [List.cons_append, List.takeWhile_append_dropWhile]
  · refine List.forall_mem_cons.mpr ⟨bare, fun other member => ?_⟩
    simpa using List.mem_takeWhile_imp member
  · intro other isHead
    have stops := List.head?_dropWhile_not (!isDelimiter ·) rest
    rw [Option.mem_def.mp isHead] at stops
    simpa using stops

section

variable {N : Type} [ScalarText N]

/-- The atom for a bare token is denoted by it. -/
theorem IsBare.isExpression {token : List Char} (bare : IsBare token) :
    IsExpression token (ofToken token : SExpr N) := by
  unfold ofToken
  split
  case h_1 value numeral =>
    refine .number bare (by simp [isNumeral, numeral]) ?_
    unfold tokenNumber? at numeral
    split at numeral
    · exact numeral
    · cases numeral
  case h_2 noNumeral => exact .symbol bare (by simp [isNumeral, noNumeral])

/-- A bare token denotes one atom. -/
theorem ofToken_of_number {token : List Char} {value : N} (numeral : isNumeral N token = true)
    (named : ScalarText.read? token = some value) : ofToken token = .number value := by
  have starts : startsNumeric token = true := by
    cases starts : startsNumeric token with
    | true => rfl
    | false => simp [isNumeral, tokenNumber?, starts] at numeral
  simp [ofToken, tokenNumber?, starts, named]

theorem ofToken_of_symbol {token : List Char} (notNumeral : isNumeral N token = false) :
    (ofToken token : SExpr N) = .symbol (String.ofList token) := by
  rw [isNumeral, Option.isSome_eq_false_iff, Option.isNone_iff_eq_none] at notNumeral
  rw [ofToken, notNumeral]

/-- An expression takes at least one character. -/
theorem IsExpression.ne_nil {text : List Char} {tree : SExpr N}
    (expression : IsExpression text tree) : text ≠ [] := by
  cases expression with
  | number bare | symbol bare => exact bare.nonempty
  | string | list => exact List.cons_ne_nil _ _

/-- A blank may stand in front of a sequence. -/
theorem IsSequence.cons_blank {character : Char} {text : List Char} {items : List (SExpr N)}
    (blank : Text.isBlank character = true) (sequence : IsSequence text items) :
    IsSequence (character :: text) items := by
  cases sequence with
  | blank others => exact .blank (isBlankText_cons.mpr ⟨blank, others⟩)
  | item others first maximal rest =>
      exact .item (isBlankText_cons.mpr ⟨blank, others⟩) first maximal rest

/-! ## What the grammar allows is read -/

/-- The characters between quotes are read as the text that they stand for. -/
theorem Spells.read {body content : List Char} (spells : Spells body content)
    (lists : List (List (SExpr N))) (characters rest : List Char) :
    (⟨lists, .quoted characters⟩ : Progress N).read (body ++ '"' :: rest) =
      resume lists (.string (String.ofList (characters.reverse ++ content))) rest := by
  induction spells generalizing characters with
  | nil =>
      rw [List.append_nil]
      cases lists <;> rfl
  | plain notQuote notBackslash _ inductionHypothesis =>
      rw [List.cons_append, Progress.read]
      simp only [Progress.advance, notQuote, notBackslash, if_false]
      rw [inductionHypothesis, List.reverse_cons, List.append_assoc, List.singleton_append]
  | escape escapes _ inductionHypothesis =>
      obtain rfl := escapes_iff.mp escapes
      rw [List.cons_append, List.cons_append, Progress.read]
      simp only [Progress.advance, Progress.read]
      simp only [Char.reduceEq, if_false, if_true]
      rw [inductionHypothesis, List.reverse_cons, List.append_assoc, List.singleton_append]

theorem readWithin_quote (lists : List (List (SExpr N))) (rest : List Char) :
    readWithin lists ('"' :: rest) = (⟨lists, .quoted []⟩ : Progress N).read rest := by
  have starts : advanceBetween lists '"' = .reading ⟨lists, .quoted []⟩ := by
    simp [advanceBetween, Text.isBlank]
  rw [readWithin, Progress.read]
  simp only [Progress.advance, starts]

mutual
/-- An expression is read as the tree that it denotes. -/
theorem IsExpression.readWithin_eq {text : List Char} {tree : SExpr N}
    (expression : IsExpression text tree) (lists : List (List (SExpr N))) {rest : List Char}
    (maximal : IsBare text → EndsToken rest) :
    readWithin lists (text ++ rest) = resume lists tree rest := by
  match expression with
  | .number bare numeral named =>
      rw [readWithin_token bare.nonempty bare.undelimited lists (maximal bare),
        ofToken_of_number numeral named]
  | .symbol bare notNumeral =>
      rw [readWithin_token bare.nonempty bare.undelimited lists (maximal bare),
        ofToken_of_symbol notNumeral]
  | .string spells =>
      rw [List.cons_append, List.append_assoc, List.singleton_append, readWithin_quote,
        spells.read lists [] rest]
      simp
  | .list sequence =>
      rw [List.cons_append, List.append_assoc, List.singleton_append, readWithin_open,
        sequence.readWithin_eq [] lists (endsToken_close rest), readWithin_close]
      simp
/-- A sequence is read into the innermost list. -/
theorem IsSequence.readWithin_eq {text : List Char} {items : List (SExpr N)}
    (sequence : IsSequence text items) (innermost : List (SExpr N))
    (outer : List (List (SExpr N))) {after : List Char} (ends : EndsToken after) :
    readWithin (innermost :: outer) (text ++ after) =
      readWithin ((items.reverse ++ innermost) :: outer) after := by
  match sequence with
  | .blank blank => exact readWithin_blanks _ blank after
  | @IsSequence.item _ _ _ expression rest _ _ blank first maximal others =>
      have ended : IsBare expression → EndsToken (rest ++ after) := by
        intro bare
        cases rest with
        | nil => exact ends
        | cons character rest => exact endsToken_cons.mpr (endsToken_cons.mp (maximal bare))
      rw [List.append_assoc, List.append_assoc, readWithin_blanks _ blank,
        first.readWithin_eq _ ended, resume, others.readWithin_eq _ _ ends]
      simp
end

/-! ## What is read is allowed by the grammar -/

/-- Either a closing quote ends a quoted text, or the text ends too early. -/
theorem spells_or_endOfText (text : List Char) :
    (∃ body content rest, text = body ++ '"' :: rest ∧ Spells body content) ∨
      ∀ (lists : List (List (SExpr N))) characters,
        (⟨lists, .quoted characters⟩ : Progress N).read text = .error .endOfText := by
  match text with
  | [] => exact .inr fun lists _ => by cases lists <;> rfl
  | character :: rest =>
      by_cases isQuote : character = '"'
      · exact .inl ⟨[], [], rest, by simp [isQuote], .nil⟩
      by_cases isBackslash : character = '\\'
      · subst isBackslash
        match rest with
        | [] => exact .inr fun lists _ => by cases lists <;> rfl
        | escaped :: rest =>
            rcases spells_or_endOfText rest with ⟨body, content, after, rfl, spells⟩ | endOfText
            · exact .inl ⟨_, _, after, rfl, .escape (escapes_iff.mpr rfl) spells⟩
            · right
              intro lists characters
              rw [Progress.read, Progress.advance]
              simp only [Char.reduceEq, if_false, if_true]
              rw [Progress.read, Progress.advance]
              exact endOfText lists _
      · rcases spells_or_endOfText rest with ⟨body, content, after, rfl, spells⟩ | endOfText
        · exact .inl ⟨_, _, after, rfl, .plain isQuote isBackslash spells⟩
        · right
          intro lists characters
          rw [Progress.read, Progress.advance]
          simp only [isQuote, isBackslash, if_false]
          exact endOfText lists _

mutual
/-- A text that starts with no blank and no closing parenthesis starts with an expression, or it
ends too early. -/
theorem expression_or_endOfText (character : Char) (rest : List Char)
    (notBlank : Text.isBlank character = false) (notClose : character ≠ ')') :
    (∃ expression after, ∃ tree : SExpr N, character :: rest = expression ++ after ∧
        IsExpression expression tree ∧ (IsBare expression → EndsToken after)) ∨
      ∀ lists : List (List (SExpr N)),
        readWithin lists (character :: rest) = .error .endOfText := by
  by_cases isQuote : character = '"'
  · subst isQuote
    rcases spells_or_endOfText (N := N) rest with ⟨body, content, after, rfl, spells⟩ | endOfText
    · exact .inl ⟨_, after, _, by simp, .string spells,
        fun bare => absurd bare (not_isBare_cons rfl)⟩
    · exact .inr fun lists => (readWithin_quote lists rest).trans (endOfText lists [])
  by_cases isOpen : character = '('
  · subst isOpen
    rcases sequence_or_endOfText rest with ⟨inner, after, items, rfl, sequence⟩ | endOfText
    · exact .inl ⟨_, after, _, by simp, .list sequence,
        fun bare => absurd bare (not_isBare_cons rfl)⟩
    · exact .inr fun lists => (readWithin_open lists rest).trans (endOfText [] lists)
  · have undelimited : isDelimiter character = false := by
      simp [isDelimiter, notBlank, notClose, isQuote, isOpen]
    obtain ⟨token, after, split, bare, ends⟩ := exists_isBare_append undelimited rest
    exact .inl ⟨token, after, _, split, bare.isExpression, fun _ => ends⟩
termination_by (rest.length, 1)
/-- Either a closing parenthesis ends a sequence, or the text ends too early. -/
theorem sequence_or_endOfText (text : List Char) :
    (∃ inner after, ∃ items : List (SExpr N), text = inner ++ ')' :: after ∧
        IsSequence inner items) ∨
      ∀ (innermost : List (SExpr N)) (outer : List (List (SExpr N))),
        readWithin (innermost :: outer) text = .error .endOfText := by
  match text with
  | [] => exact .inr fun _ _ => rfl
  | character :: rest =>
      by_cases isClose : character = ')'
      · exact .inl ⟨[], rest, [], by simp [isClose], .blank isBlankText_nil⟩
      cases blank : Text.isBlank character with
      | true =>
          rcases sequence_or_endOfText rest with ⟨inner, after, items, rfl, sequence⟩ | endOfText
          · exact .inl ⟨_, after, items, rfl, sequence.cons_blank blank⟩
          · exact .inr fun innermost outer =>
              (readWithin_blank blank rest).trans (endOfText innermost outer)
      | false =>
          rcases expression_or_endOfText character rest blank isClose with
            ⟨expression, after, tree, split, first, maximal⟩ | endOfText
          · have shorter : after.length < rest.length + 1 := by
              have positive := List.length_pos_iff.mpr first.ne_nil
              have lengths := congrArg List.length split
              rw [List.length_cons, List.length_append] at lengths
              omega
            rcases sequence_or_endOfText after with ⟨inner, last, items, rfl, sequence⟩ | endOfText
            · refine .inl ⟨[] ++ (expression ++ inner), last, tree :: items, by simp [split],
                .item isBlankText_nil first (fun bare => ?_) sequence⟩
              cases inner with
              | nil => exact endsToken_nil
              | cons other inner => exact endsToken_cons.mpr (endsToken_cons.mp (maximal bare))
            · right
              intro innermost outer
              rw [split, first.readWithin_eq _ maximal]
              exact endOfText (tree :: innermost) outer
          · exact .inr fun _ _ => endOfText _
termination_by (text.length, 0)
end

/-! ## Whole texts -/

/-- After some blanks a text starts with an expression and that is read, or with a parenthesis that
closes nothing, or it ends too early. -/
theorem readFirst_cases (text : List Char) :
    (∃ before expression after, ∃ tree : SExpr N, text = before ++ (expression ++ after) ∧
        IsBlankText before ∧ IsExpression expression tree ∧ readFirst text = .ok (tree, after)) ∨
      (∃ before after, text = before ++ ')' :: after ∧
        (readFirst text : Except Failure (SExpr N × List Char)) =
          .error (.strayClose (')' :: after))) ∨
      (readFirst text : Except Failure (SExpr N × List Char)) = .error .endOfText := by
  induction text with
  | nil => exact .inr (.inr rfl)
  | cons character rest inductionHypothesis =>
      cases blank : Text.isBlank character with
      | true =>
          rw [readFirst_eq_readWithin, readWithin_blank blank, ← readFirst_eq_readWithin]
          rcases inductionHypothesis with
            ⟨before, expression, after, tree, rfl, blanks, isExpression, read⟩ |
              ⟨before, after, rfl, read⟩ | read
          · exact .inl ⟨character :: before, expression, after, tree, rfl,
              isBlankText_cons.mpr ⟨blank, blanks⟩, isExpression, read⟩
          · exact .inr (.inl ⟨character :: before, after, rfl, read⟩)
          · exact .inr (.inr read)
      | false =>
          by_cases isClose : character = ')'
          · subst isClose
            exact .inr (.inl ⟨[], rest, rfl, by rfl⟩)
          rcases expression_or_endOfText (N := N) character rest blank isClose with
            ⟨expression, after, tree, split, isExpression, maximal⟩ | endOfText
          · refine .inl ⟨[], expression, after, tree, split, isBlankText_nil, isExpression, ?_⟩
            rw [readFirst_eq_readWithin, split, isExpression.readWithin_eq [] maximal, resume]
          · exact .inr (.inr (endOfText []))

/-- A document is read to its end. -/
theorem IsDocument.parse_eq {text : List Char} {tree : SExpr N} (document : IsDocument text tree) :
    parse text = .ok tree := by
  obtain ⟨before, expression, after, rfl, blankBefore, isExpression, blankAfter⟩ := document
  have read := isExpression.readWithin_eq [] fun _ => blankAfter.endsToken
  rw [parse, readFirst_eq_readWithin, readWithin_blanks [] blankBefore, read]
  simp [resume, isBlankText_iff_trimStart.mp blankAfter]

/-- A text that is read to its end is a document. -/
theorem isDocument_of_parse {text : List Char} {tree : SExpr N} (parsed : parse text = .ok tree) :
    IsDocument text tree := by
  rcases readFirst_cases (N := N) text with
    ⟨before, expression, after, first, split, blankBefore, isExpression, read⟩ |
      ⟨_, _, _, read⟩ | read
  · simp only [parse, read] at parsed
    split at parsed
    case isTrue nothing =>
      obtain rfl := Except.ok.inj parsed
      have blankAfter := isBlankText_iff_trimStart.mpr (List.isEmpty_iff.mp nothing)
      exact ⟨before, expression, after, split, blankBefore, isExpression, blankAfter⟩
    case isFalse => cases parsed
  · simp only [parse, read, reduceCtorEq] at parsed
  · simp only [parse, read, reduceCtorEq] at parsed

/-- A text that is not read ends too early, or has a parenthesis that closes nothing, or goes on
after an expression. -/
theorem parse_error_cases {text : List Char} {failure : SyntaxError}
    (failed : (parse text : Except SyntaxError (SExpr N)) = .error failure) :
    failure = .endOfText ∨
      (∃ position, text[position]? = some ')' ∧ failure = .strayClose position) ∨
      ∃ position, failure = .trailing position := by
  rcases readFirst_cases (N := N) text with
    ⟨before, expression, after, first, split, blankBefore, isExpression, read⟩ |
      ⟨before, after, rfl, read⟩ | read
  · simp only [parse, read] at failed
    split at failed
    case isTrue => cases failed
    case isFalse => exact .inr (.inr ⟨_, (Except.error.inj failed).symm⟩)
  · simp only [parse, read] at failed
    refine .inr (.inl ⟨before.length, by simp, ?_⟩)
    rw [← Except.error.inj failed, Failure.locate, List.length_append, Nat.add_sub_cancel]
  · simp only [parse, read] at failed
    exact .inl (Except.error.inj failed).symm

/-! ## States of the reader -/

/-- The state after a part of a text, if no tree is complete by then. -/
def Progress.after? (progress : Progress N) : List Char → Option (Progress N)
  | [] => some progress
  | character :: rest =>
      match progress.advance character with
      | .reading next => next.after? rest
      | _ => none

/-- Reading goes on from the state after the part that has been read. -/
theorem Progress.read_append {progress later : Progress N} {part : List Char}
    (reached : progress.after? part = some later) (rest : List Char) :
    progress.read (part ++ rest) = later.read rest := by
  induction part generalizing progress with
  | nil => rw [List.nil_append, Option.some.inj reached]
  | cons character part inductionHypothesis =>
      rw [Progress.after?] at reached
      rw [List.cons_append, Progress.read]
      split at reached
      case h_1 next advanced =>
        rw [advanced]
        exact inductionHypothesis reached
      case h_2 => cases reached

omit [ScalarText N] in
/-- A tree that is delivered leaves no bare token behind. -/
theorem pending_ne_of_deliver {lists : List (List (SExpr N))} {tree : SExpr N}
    {next : Progress N} (delivered : deliver lists tree = .reading next) :
    next.pending ≠ .bare [] := by
  cases lists with
  | nil => cases delivered
  | cons innermost outer =>
      cases delivered
      nofun

omit [ScalarText N] in
/-- A bare token starts with a character. -/
theorem pending_ne_of_advanceBetween {lists : List (List (SExpr N))} {character : Char}
    {next : Progress N} (advanced : advanceBetween lists character = .reading next) :
    next.pending ≠ .bare [] := by
  unfold advanceBetween at advanced
  split at advanced
  · cases advanced; nofun
  split at advanced
  · cases advanced; nofun
  split at advanced
  · cases lists with
    | nil => cases advanced
    | cons innermost outer => exact pending_ne_of_deliver advanced
  split at advanced
  · cases advanced; nofun
  · cases advanced; nofun

/-- A bare token that is being read has a character. -/
theorem Progress.pending_ne_of_advance {progress next : Progress N} {character : Char}
    (advanced : progress.advance character = .reading next) : next.pending ≠ .bare [] := by
  obtain ⟨lists, pending⟩ := progress
  cases pending with
  | nothing => exact pending_ne_of_advanceBetween advanced
  | bare characters =>
      simp only [Progress.advance] at advanced
      split at advanced
      · cases lists with
        | nil => cases advanced
        | cons innermost outer => exact pending_ne_of_advanceBetween advanced
      · cases advanced; nofun
  | quoted characters =>
      simp only [Progress.advance] at advanced
      split at advanced
      · exact pending_ne_of_deliver advanced
      · split at advanced <;> (cases advanced; nofun)
  | escaped characters => cases advanced; nofun

/-- So it has in every state that is reached. -/
theorem Progress.pending_ne_of_after? {progress later : Progress N} {part : List Char}
    (before : progress.pending ≠ .bare []) (reached : progress.after? part = some later) :
    later.pending ≠ .bare [] := by
  induction part generalizing progress with
  | nil => exact Option.some.inj reached ▸ before
  | cons character part inductionHypothesis =>
      rw [Progress.after?] at reached
      split at reached
      case h_1 next advanced =>
        exact inductionHypothesis (Progress.pending_ne_of_advance advanced) reached
      case h_2 => cases reached

/-! ## The reader accepts the grammar -/

/-- The reader accepts exactly the documents of the grammar, for the trees that they denote, and a
document denotes one tree. A text is refused only because it ends too early, or for a parenthesis
that stands where it closes nothing, or for what follows its expression; so no refusal is about an
empty token or about some other character that was expected. Indeed no token that is being read is
empty, whatever part of the text has been read. -/
theorem parse_eq_ok_iff_isDocument (text : List Char) :
    (∀ tree : SExpr N, parse text = .ok tree ↔ IsDocument text tree) ∧
    (∀ one other : SExpr N, IsDocument text one → IsDocument text other → one = other) ∧
    (∀ failure : SyntaxError, (parse text : Except SyntaxError (SExpr N)) = .error failure →
      failure.message = "Unexpected end of input" ∨
      (∃ position : Nat, text[position]? = some ')' ∧
        failure.message = "Unexpected token: ')' at position " ++ toString position) ∨
      ∃ position : Nat, failure.message = "Trailing input at position " ++ toString position) ∧
    ∀ part rest, ∀ reached : Progress N, text = part ++ rest →
      (Progress.start : Progress N).after? part = some reached →
        readFirst text = reached.read rest ∧ reached.pending ≠ .bare [] := by
  refine ⟨fun tree => ⟨isDocument_of_parse, IsDocument.parse_eq⟩, ?_, ?_, ?_⟩
  · intro one other oneDocument otherDocument
    exact Except.ok.inj (oneDocument.parse_eq.symm.trans otherDocument.parse_eq)
  · intro failure failed
    rcases parse_error_cases failed with rfl | ⟨position, isClose, rfl⟩ | ⟨position, rfl⟩
    · exact .inl rfl
    · exact .inr (.inl ⟨position, isClose, rfl⟩)
    · exact .inr (.inr ⟨position, rfl⟩)
  · rintro part rest reached rfl isReached
    have atStart : (Progress.start : Progress N).pending ≠ .bare [] := by simp [Progress.start]
    exact ⟨Progress.read_append isReached rest, Progress.pending_ne_of_after? atStart isReached⟩

end

/-- Items without blanks between them, a number with a sign and a text with an escape. -/
def sampleDocument : List Char := " (a\"b\\n\"(+1.5))\n".toList

/-- The tree that the sample denotes. -/
def sampleTree : SExpr Float := .list [.symbol "a", .string "b\n", .list [.number 1.5]]

theorem parse_eq_ok_iff_isDocument_sample :
    IsDocument sampleDocument sampleTree ∧
      (∀ other : SExpr Float, IsDocument sampleDocument other → other = sampleTree) ∧
      ∃ reached : Progress Float, Progress.start.after? "(a\"b".toList = some reached ∧
        readFirst "(a\"b\")".toList = reached.read "\")".toList := by
  have parsed : parse sampleDocument = .ok sampleTree := by rfl
  obtain ⟨accepts, unique, -, -⟩ := parse_eq_ok_iff_isDocument (N := Float) sampleDocument
  have document := (accepts sampleTree).mp parsed
  refine ⟨document, fun other isOther => unique other sampleTree isOther document, ?_⟩
  obtain ⟨-, -, -, states⟩ := parse_eq_ok_iff_isDocument (N := Float) "(a\"b\")".toList
  exact ⟨_, rfl, (states "(a\"b".toList "\")".toList _ rfl rfl).1⟩

end SExpr
end CircuitSheet
