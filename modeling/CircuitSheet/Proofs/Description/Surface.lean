import CircuitSheet.Binary64
import CircuitSheet.Proofs.Description.Entries
import CircuitSheet.Proofs.Text.Words

/-!
# The ways to write an entry

An entry is a reference, the tag of a kind, the words of a value and a position. A colon may follow
the reference, the tag may be attached to the colon, the word "at" may stand in front of the
position, and blanks are free wherever they do not part a word. The position is looked for from the
end, the reference from the start and the word "at" from the end of what lies between them, so no
word of the value is mistaken for any of them, whatever characters it holds. All the ways to write
an entry describe the same component, and the same power symbol.
-/

namespace CircuitSheet

/-! ## Cuts -/

/-- A text is cut at the last character that equals the mark. -/
theorem Text.cutAtLast?_append {mark : Char} {after : List Char} (absent : mark ∉ after)
    (before : List Char) :
    Text.cutAtLast? mark (before ++ mark :: after) = some (before, after) := by
  have reversed : (before ++ mark :: after).reverse = after.reverse ++ mark :: before.reverse := by
    simp
  rw [Text.cutAtLast?, reversed, Text.cutAt?_append (by simpa using absent)]
  simp

/-- A text that starts with a word and ends with no blank is what remains of it among blanks. -/
theorem Text.trim_blanks_append {before word after : List Char} {last : Char}
    (blankBefore : ∀ character ∈ before, Text.isBlank character = true)
    (isWord : Text.IsWord word) (rest : List Char) (solid : Text.isBlank last = false)
    (blankAfter : ∀ character ∈ after, Text.isBlank character = true) :
    Text.trim (before ++ (word ++ (rest ++ last :: after))) = word ++ (rest ++ [last]) := by
  have kept : Text.trimEnd (rest ++ [last]) = rest ++ [last] :=
    List.rdropWhile_concat_neg _ _ _ (by simp [solid])
  have core : word ++ (rest ++ last :: after) = word ++ (rest ++ [last]) ++ after := by simp
  rw [core, Text.trim_between_blanks blankBefore blankAfter,
    Text.trim_append_of_solid isWord.solid isWord.content, kept]

namespace Description

/-! ## Entries as they are written -/

/-- The reference with the tag behind it, and the other words. A colon may follow the reference, and
the tag may follow the colon without a blank. -/
inductive Opens (reference tag : List Char) : List Char → List (List Char) → Prop
  | colon {text : List Char} {others : List (List Char)}
      (spaced : Text.Spaced text (tag :: others)) :
      Opens reference tag (reference ++ ':' :: text) others
  | plain {text : List Char} {others : List (List Char)}
      (spaced : Text.Spaced text (tag :: others)) :
      Opens reference tag (reference ++ text) others
  | attached {text : List Char} {others : List (List Char)} (isWord : Text.IsWord tag)
      (spaced : Text.Spaced text others) :
      Opens reference tag (reference ++ ':' :: (tag ++ text)) others

/-- The word "at", in any case of its letters. -/
def isAt (word : List Char) : Bool :=
  Text.sameLetters word ['a', 't']

/-- The word "at" may stand behind the value. Without it no other such word stands there. -/
inductive MayEndWithAt (tag : List Char) (values : List (List Char)) : List (List Char) → Prop
  | word {word : List Char} (last : isAt word = true) : MayEndWithAt tag values (values ++ [word])
  | bare (other : ∀ word ∈ (tag :: values).getLast?, isAt word = false) :
      MayEndWithAt tag values values

variable {K : Type} [ScalarText K]

/-- The text names the coordinate, with any blanks around it. -/
structure IsCoordinate (text : List Char) (coordinate : K) : Prop where
  undivided : ',' ∉ text
  unopened : '(' ∉ text
  named : ScalarText.read? (Text.trim text) = some coordinate

/-- The text is an entry with the reference, the tag, the value and the position. -/
inductive IsEntry (reference tag : List Char) (values : List (List Char)) (position : Point K) :
    List Char → Prop
  | intro {before opening first second after : List Char} {others : List (List Char)}
      (blankBefore : ∀ character ∈ before, Text.isBlank character = true)
      (opens : Opens reference tag opening others) (ends : MayEndWithAt tag values others)
      (x : IsCoordinate first position.x) (y : IsCoordinate second position.y)
      (blankAfter : ∀ character ∈ after, Text.isBlank character = true) :
      IsEntry reference tag values position
        (before ++ (opening ++ '(' :: (first ++ ',' :: (second ++ ')' :: after))))

/-! ## Parts of an entry -/

/-- The coordinates are read as the position. -/
theorem point?_of_isCoordinate {first second : List Char} {position : Point K}
    (x : IsCoordinate first position.x) (y : IsCoordinate second position.y)
    (finite : position.isFinite = true) :
    point? (first ++ ',' :: second) = some position := by
  simp [point?, Text.cutAt?_append x.undivided, x.named, y.named, finite]

/-- The head of an entry starts with its reference. -/
theorem Opens.exists_append {reference tag opening : List Char} {others : List (List Char)}
    (opens : Opens reference tag opening others) : ∃ rest, opening = reference ++ rest := by
  cases opens with
  | colon | plain | attached => exact ⟨_, rfl⟩

/-- The position is found at the end of an entry. -/
theorem splitPosition?_of_isEntry {reference tag entry : List Char} {values : List (List Char)}
    {position : Point K} (isReference : Text.IsWord reference) (finite : position.isFinite = true)
    (isEntry : IsEntry reference tag values position entry) :
    ∃ opening others, Opens reference tag opening others ∧ MayEndWithAt tag values others ∧
      splitPosition? entry = some (opening, position) := by
  obtain ⟨blankBefore, opens, ends, x, y, blankAfter⟩ := isEntry
  rename_i before opening first second after others
  refine ⟨opening, others, opens, ends, ?_⟩
  obtain ⟨rest, rfl⟩ := opens.exists_append
  have unopened : '(' ∉ first ++ ',' :: second := by
    simp [x.unopened, y.unopened]
  have trimmed : Text.trim (before ++
      (reference ++ rest ++ '(' :: (first ++ ',' :: (second ++ ')' :: after)))) =
        reference ++ rest ++ '(' :: (first ++ ',' :: second) ++ [')'] := by
    have solid : Text.isBlank ')' = false := rfl
    have core := Text.trim_blanks_append blankBefore isReference
      (rest ++ '(' :: (first ++ ',' :: second)) solid blankAfter
    simpa using core
  simp only [splitPosition?, trimmed, List.getLast?_concat, if_true, List.dropLast_concat,
    Text.cutAtLast?_append unopened, Option.bind_eq_bind, Option.bind_some,
    point?_of_isCoordinate x y finite]

omit [ScalarText K] in
/-- A last "at" is left out of the words, and nothing else. -/
theorem dropAt_append {tag last : List Char} {values others : List (List Char)}
    (ends : MayEndWithAt tag values others) (alike : isAt last = true → isAt tag = true)
    (leading : List (List Char)) :
    dropAt (leading ++ last :: others) = leading ++ last :: values := by
  cases ends with
  | @word word isLast =>
      have words : leading ++ last :: (values ++ [word]) = leading ++ last :: values ++ [word] := by
        simp
      rw [words, dropAt, List.getLast?_concat, List.dropLast_concat]
      exact if_pos isLast
  | bare other =>
      have otherLast : ∀ word ∈ (leading ++ last :: values).getLast?, isAt word = false := by
        intro word isLast
        rw [List.getLast?_append, List.getLast?_cons] at isLast
        cases values with
        | nil =>
            cases isLast
            exact eq_false_of_ne_true fun same => by simp [alike same] at other
        | cons value values =>
            refine other word ?_
            simpa [List.getLast?_cons] using isLast
      unfold dropAt
      split
      case h_1 word isLast =>
        exact if_neg (ne_true_of_eq_false (otherLast word isLast))
      case h_2 => rfl

/-- A word with a colon in it is no "at". -/
theorem isAt_eq_false_of_colon (before after : List Char) :
    isAt (before ++ ':' :: after) = false := by
  refine eq_false_of_ne_true fun same => ?_
  have letter := Text.isAlpha_of_sameLetters same rfl ':' (by simp)
  cases letter

omit [ScalarText K] in
/-- The reference and the words are found in the head of an entry. -/
theorem splitHead?_of_opens {reference tag opening : List Char} {values others : List (List Char)}
    (isReference : Text.IsWord reference) (undivided : ':' ∉ reference)
    (opens : Opens reference tag opening others) (ends : MayEndWithAt tag values others) :
    splitHead? opening = some (reference, tag :: values) := by
  have content : reference.isEmpty = false := by simpa using isReference.content
  cases opens with
  | @colon text _ spaced =>
      have isWord : Text.IsWord (reference ++ [':']) :=
        ⟨by simp, List.forall_mem_append.mpr ⟨isReference.solid, by simp; rfl⟩⟩
      have head : Text.words (reference ++ ':' :: text) =
          (reference ++ [':']) :: tag :: others := by
        have words := isWord.words_append spaced.isBlank_of_mem_head?
        simpa [spaced.words_eq] using words
      have kept := dropAt_append ends id [reference ++ [':']]
      rw [List.singleton_append, List.singleton_append] at kept
      simp [splitHead?, head, kept, Text.cutAt?_append undivided, content]
  | @plain text _ spaced =>
      have head : Text.words (reference ++ text) = reference :: tag :: others := by
        rw [isReference.words_append spaced.isBlank_of_mem_head?, spaced.words_eq]
      have kept := dropAt_append ends id [reference]
      rw [List.singleton_append, List.singleton_append] at kept
      simp [splitHead?, head, kept, Text.cutAt?_eq_none_iff.mpr undivided, content]
  | @attached text _ isTag spaced =>
      have isWord : Text.IsWord (reference ++ ':' :: tag) :=
        ⟨by simp, List.forall_mem_append.mpr
          ⟨isReference.solid, List.forall_mem_cons.mpr ⟨rfl, isTag.solid⟩⟩⟩
      have head : Text.words (reference ++ ':' :: (tag ++ text)) =
          (reference ++ ':' :: tag) :: others := by
        have words := isWord.words_append spaced.isBlank_of_mem_head?
        simpa [spaced.words_eq] using words
      have notAt : isAt (reference ++ ':' :: tag) = true → isAt tag = true := by
        simp [isAt_eq_false_of_colon]
      have kept := dropAt_append ends notAt []
      rw [List.nil_append, List.nil_append] at kept
      simp [splitHead?, head, kept, Text.cutAt?_append undivided, content, isTag.content]

/-! ## Whole entries -/

/-- However an entry is written, it describes the component with its reference, the kind of its tag,
its value and its position, and the power symbol whose rail has the tag for its first word. The
words of the value are joined by single spaces. -/
theorem described_of_isEntry {reference tag entry : List Char} {values : List (List Char)}
    {position : Point K} (isReference : Text.IsWord reference) (undivided : ':' ∉ reference)
    (finite : position.isFinite = true) (isEntry : IsEntry reference tag values position entry) :
    component? entry =
        some (Component.ofKind (String.ofList reference) (Kind.ofTag (String.ofList tag))
          (String.ofList (Text.unwords values)) position) ∧
      power? entry =
        some ⟨String.ofList reference, String.ofList (Text.unwords (tag :: values)), position⟩ := by
  obtain ⟨opening, others, opens, ends, atEnd⟩ :=
    splitPosition?_of_isEntry isReference finite isEntry
  have head := splitHead?_of_opens isReference undivided opens ends
  constructor
  · simp only [component?, atEnd, head, Option.bind_eq_bind, Option.bind_some]
  · simp [power?, atEnd, head]

/-- An entry whose value holds everything that the parts of an entry are found by. -/
def hostileEntry : List Char :=
  " U1:IC :(a,b)→ at At( 1.5 ,\n-2) ".toList

/-- The words of the value. -/
def hostileValues : List (List Char) :=
  [":(a,b)→".toList, "at".toList]

theorem described_of_isEntry_hostile :
    IsEntry "U1".toList "IC".toList hostileValues (⟨1.5, -2.0⟩ : Point Float) hostileEntry ∧
      component? hostileEntry =
        some (Component.ofKind "U1" .integratedCircuit ":(a,b)→ at" (⟨1.5, -2.0⟩ : Point Float)) ∧
      power? hostileEntry = some (⟨"U1", "IC :(a,b)→ at", ⟨1.5, -2.0⟩⟩ : PowerSymbol Float) := by
  have blank : ∀ character ∈ [' '], Text.isBlank character = true :=
    List.forall_mem_singleton.mpr rfl
  have isWord (word : List Char) (content : word ≠ [])
      (all : word.all (!Text.isBlank ·) = true) : Text.IsWord word :=
    ⟨content, Text.solid_of_all all⟩
  have spaced : Text.Spaced ([' '] ++ (":(a,b)→".toList ++ ([' '] ++ ("at".toList ++
      ([' '] ++ ("At".toList ++ [])))))) (hostileValues ++ ["At".toList]) :=
    .word blank (by decide) (isWord _ (by decide) rfl)
      (.word blank (by decide) (isWord _ (by decide) rfl)
        (.word blank (by decide) (isWord _ (by decide) rfl) (.blanks (List.forall_mem_nil _))))
  have isTag := isWord "IC".toList (by decide) rfl
  have x : IsCoordinate " 1.5 ".toList (1.5 : Float) := ⟨by decide, by decide, by decide +kernel⟩
  have y : IsCoordinate "\n-2".toList (-2.0 : Float) := ⟨by decide, by decide, by decide +kernel⟩
  have isEntry : IsEntry "U1".toList "IC".toList hostileValues (⟨1.5, -2.0⟩ : Point Float)
      hostileEntry := by
    have whole : hostileEntry = [' '] ++ ("U1".toList ++ ':' :: ("IC".toList ++ ([' '] ++
        (":(a,b)→".toList ++ ([' '] ++ ("at".toList ++ ([' '] ++ ("At".toList ++ []))))))) ++
        '(' :: (" 1.5 ".toList ++ ',' :: ("\n-2".toList ++ ')' :: [' ']))) := by decide
    rw [whole]
    exact .intro blank (.attached isTag spaced) (.word rfl) x y blank
  have kind : Kind.ofTag (String.ofList "IC".toList) = .integratedCircuit := by decide +kernel
  have value : String.ofList (Text.unwords hostileValues) = ":(a,b)→ at" := by decide +kernel
  have rail : String.ofList (Text.unwords ("IC".toList :: hostileValues)) = "IC :(a,b)→ at" := by
    decide +kernel
  have described := described_of_isEntry (isWord "U1".toList (by decide) rfl) (by decide)
    (by decide +kernel) isEntry
  rw [kind, value, rail, String.ofList_toList] at described
  exact ⟨isEntry, described⟩

end Description
end CircuitSheet
