import CircuitSheet.SExpr.Reader
import CircuitSheet.SExpr.Writer

/-!
# What the reader does with pieces of text

The reader takes one character at a time. This module says what whole pieces of text lead
to: blanks, parentheses and a bare token. Each statement leaves the text that follows open,
so that pieces can be put together.
-/

namespace CircuitSheet
namespace SExpr

variable {N : Type} [ScalarText N]

/-- Read on between atoms, with some lists still open. -/
def readWithin (lists : List (List (SExpr N))) (text : List Char) :
    Except Failure (SExpr N × List Char) :=
  (⟨lists, .nothing⟩ : Progress N).read text

/-- Go on when a tree is complete: it is the result outside of all lists, and otherwise an item
of the innermost one. -/
def resume (lists : List (List (SExpr N))) (tree : SExpr N) (rest : List Char) :
    Except Failure (SExpr N × List Char) :=
  match lists with
  | [] => .ok (tree, rest)
  | innermost :: outer => readWithin ((tree :: innermost) :: outer) rest

/-- A text at which a bare token ends. -/
def EndsToken (rest : List Char) : Prop :=
  ∀ character ∈ rest.head?, isDelimiter character = true

@[simp] theorem endsToken_nil : EndsToken [] := by
  simp [EndsToken]

theorem endsToken_cons {character : Char} {rest : List Char} :
    EndsToken (character :: rest) ↔ isDelimiter character = true := by
  simp [EndsToken]

@[simp] theorem endsToken_space (rest : List Char) : EndsToken (' ' :: rest) :=
  endsToken_cons.mpr rfl

@[simp] theorem endsToken_close (rest : List Char) : EndsToken (')' :: rest) :=
  endsToken_cons.mpr rfl

@[simp] theorem endsToken_lineBreak (rest : List Char) : EndsToken ('\n' :: rest) :=
  endsToken_cons.mpr rfl

@[simp] theorem endsToken_newLine (level : Nat) (after : List Char) :
    EndsToken (newLine level after) :=
  endsToken_lineBreak _

@[simp] theorem readFirst_eq_readWithin (text : List Char) :
    readFirst text = (readWithin [] text : Except Failure (SExpr N × List Char)) := rfl

/-! ## Blanks and parentheses -/

/-- Blanks between atoms do not count. -/
theorem readWithin_blank {lists : List (List (SExpr N))} {character : Char}
    (blank : Text.isBlank character = true) (rest : List Char) :
    readWithin lists (character :: rest) = readWithin lists rest := by
  simp [readWithin, Progress.read, Progress.advance, advanceBetween, blank]

@[simp] theorem readWithin_space (lists : List (List (SExpr N))) (rest : List Char) :
    readWithin lists (' ' :: rest) = readWithin lists rest :=
  readWithin_blank rfl rest

@[simp] theorem readWithin_lineBreak (lists : List (List (SExpr N))) (rest : List Char) :
    readWithin lists ('\n' :: rest) = readWithin lists rest :=
  readWithin_blank rfl rest

/-- Any number of blanks does not count. -/
theorem readWithin_blanks (lists : List (List (SExpr N))) {blanks : List Char}
    (blank : ∀ character ∈ blanks, Text.isBlank character = true) (rest : List Char) :
    readWithin lists (blanks ++ rest) = readWithin lists rest := by
  induction blanks with
  | nil => rfl
  | cons character others inductionHypothesis =>
      obtain ⟨first, remaining⟩ := List.forall_mem_cons.mp blank
      rw [List.cons_append, readWithin_blank first, inductionHypothesis remaining]

@[simp] theorem readWithin_newLine (lists : List (List (SExpr N))) (level : Nat)
    (after : List Char) :
    readWithin lists (newLine level after) = readWithin lists after := by
  rw [newLine, readWithin_lineBreak, readWithin_blanks]
  intro character member
  rw [List.eq_of_mem_replicate member]
  rfl

@[simp] theorem readWithin_open (lists : List (List (SExpr N))) (rest : List Char) :
    readWithin lists ('(' :: rest) = readWithin ([] :: lists) rest := by
  simp [readWithin, Progress.read, Progress.advance, advanceBetween, Text.isBlank]

/-- A closing parenthesis completes the innermost list. -/
@[simp] theorem readWithin_close (innermost : List (SExpr N)) (outer : List (List (SExpr N)))
    (rest : List Char) :
    readWithin (innermost :: outer) (')' :: rest) =
      resume outer (.list innermost.reverse) rest := by
  cases outer <;> rfl

/-! ## Bare tokens -/

/-- A token that is being read goes on to the next delimiter. -/
theorem read_bare (lists : List (List (SExpr N))) (characters more rest : List Char)
    (bare : ∀ character ∈ more, isDelimiter character = false) (ends : EndsToken rest) :
    (⟨lists, .bare characters⟩ : Progress N).read (more ++ rest) =
      resume lists (ofToken (characters.reverse ++ more)) rest := by
  induction more generalizing characters with
  | nil =>
      rw [List.nil_append, List.append_nil]
      cases rest with
      | nil => cases lists <;> rfl
      | cons character rest =>
          have delimits : isDelimiter character = true := endsToken_cons.mp ends
          cases lists with
          | nil => simp [Progress.read, Progress.advance, delimits, resume]
          | cons innermost outer =>
              simp only [Progress.read, Progress.advance, delimits, if_true, resume, readWithin]
  | cons character more inductionHypothesis =>
      have continues : isDelimiter character = false := bare character (List.mem_cons_self ..)
      have step := inductionHypothesis (character :: characters)
        fun other member => bare other (List.mem_cons_of_mem _ member)
      rw [List.cons_append]
      simp only [Progress.read, Progress.advance, continues, Bool.false_eq_true, if_false]
      rw [step, List.reverse_cons, List.append_assoc, List.singleton_append]

omit [ScalarText N] in
/-- A character that is no delimiter starts a bare token. -/
theorem advanceBetween_bare {character : Char} (bare : isDelimiter character = false)
    (lists : List (List (SExpr N))) :
    advanceBetween lists character = .reading ⟨lists, .bare [character]⟩ := by
  simp only [isDelimiter, Bool.or_eq_false_iff, beq_eq_false_iff_ne] at bare
  obtain ⟨⟨⟨notBlank, notOpen⟩, notClose⟩, notQuote⟩ := bare
  simp [advanceBetween, notBlank, notOpen, notClose, notQuote]

/-- A bare token is read as the atom that it stands for. -/
theorem readWithin_token {token : List Char} (nonempty : token ≠ [])
    (bare : ∀ character ∈ token, isDelimiter character = false)
    (lists : List (List (SExpr N))) {rest : List Char} (ends : EndsToken rest) :
    readWithin lists (token ++ rest) = resume lists (ofToken token) rest := by
  cases token with
  | nil => exact absurd rfl nonempty
  | cons character more =>
      have starts := advanceBetween_bare (bare character (List.mem_cons_self ..)) lists
      have goesOn := read_bare lists [character] more rest
        (fun other member => bare other (List.mem_cons_of_mem _ member)) ends
      rw [List.cons_append, readWithin, Progress.read]
      simp only [Progress.advance, starts]
      simpa using goesOn

end SExpr
end CircuitSheet
