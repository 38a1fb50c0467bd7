import CircuitSheet.Proofs.Description.Entries
import Mathlib.Data.List.Infix

/-!
# Connections as they are written

A connection is written as its two terminals with an arrow between them. Three arrows are looked
for one after the other in the whole text, so it matters that none of them comes about elsewhere:
not in a name or a pin, and not where a dash at the end of one part meets what follows it.
-/

namespace CircuitSheet

/-! ## Cuts at a separator -/

namespace Text

/-- A text in which a separator does not stand is not cut. -/
theorem cutAtText?_eq_none {separator text : List Char} (absent : ¬separator <:+: text) :
    cutAtText? separator text = none := by
  induction text with
  | nil =>
      have content : separator.isEmpty = false := by
        rw [List.isEmpty_eq_false_iff]
        rintro rfl
        exact absent (List.nil_infix)
      rw [cutAtText?, content, if_neg Bool.false_ne_true]
  | cons character rest inductionHypothesis =>
      rw [List.infix_cons_iff, not_or] at absent
      rw [cutAtText?]
      cases leading : dropLeading? separator (character :: rest) with
      | some after => exact absurd ⟨after, (dropLeading?_eq_some_iff.mp leading).symm⟩ absent.1
      | none => rw [inductionHypothesis absent.2, Option.map_none]

/-- A text is cut at a separator that does not stand, or begin, any earlier. -/
theorem cutAtText?_append {separator before : List Char} (content : separator ≠ [])
    (first : ¬separator <:+: before ++ separator.dropLast) (after : List Char) :
    cutAtText? separator (before ++ (separator ++ after)) = some (before, after) := by
  induction before with
  | nil =>
      have leading : dropLeading? separator (separator ++ after) = some after :=
        dropLeading?_eq_some_iff.mpr rfl
      cases separator with
      | nil => exact absurd rfl content
      | cons character others =>
          rw [List.nil_append, List.cons_append, cutAtText?, ← List.cons_append, leading]
  | cons character before inductionHypothesis =>
      rw [List.cons_append, List.infix_cons_iff, not_or] at first
      rw [List.cons_append, cutAtText?]
      cases leading : dropLeading? separator (character :: (before ++ (separator ++ after))) with
      | none => rw [inductionHypothesis first.2, Option.map_some]
      | some rest =>
          -- A separator at the start of the text would end before the one that it is cut at.
          have whole := dropLeading?_eq_some_iff.mp leading
          have shorter : character :: (before ++ separator.dropLast) <+:
              character :: (before ++ (separator ++ after)) := by
            refine List.prefix_cons_inj character |>.mpr
              ((List.prefix_append_right_inj before).mpr ?_)
            exact (List.dropLast_prefix separator).trans (List.prefix_append separator after)
          refine absurd (List.prefix_of_prefix_length_le ⟨rest, whole.symm⟩ shorter ?_) first.1
          have positive := List.length_pos_iff.mpr content
          simp only [List.length_cons, List.length_append, List.length_dropLast]
          omega

end Text

namespace Description

/-! ## Texts without arrows -/

/-- An arrow stands in two texts together only if it stands in one of them, or if the first ends
with a dash and the second starts with the tip of an arrow. -/
theorem not_infix_append {arrow first second : List Char} (member : arrow ∈ arrows)
    (notFirst : ¬arrow <:+: first) (notSecond : ¬arrow <:+: second)
    (apart : first.getLast? = some '-' → second.head? ≠ some '>') :
    ¬arrow <:+: first ++ second := by
  rw [List.infix_append_iff]
  rintro (inFirst | inSecond | ⟨start, finish, rfl, isSuffix, isPrefix⟩)
  · exact notFirst inFirst
  · exact notSecond inSecond
  · rcases List.eq_nil_or_concat start with rfl | ⟨start, last, rfl⟩
    · exact notSecond isPrefix.isInfix
    cases finish with
    | nil =>
        rw [List.append_nil] at notFirst
        exact notFirst isSuffix.isInfix
    | cons head finish =>
        -- Only the arrow of two characters can be parted.
        have parted : last = '-' ∧ head = '>' := by
          simp only [arrows, List.mem_cons, List.not_mem_nil, or_false] at member
          rcases member with single | pair | single
          · simp [List.append_eq_singleton_iff] at single
          · cases start with
            | nil =>
                have letters : last = '-' ∧ head = '>' ∧ finish = [] := by simpa using pair
                exact ⟨letters.1, letters.2.1⟩
            | cons other start =>
                have length := congrArg List.length pair
                simp at length
                omega
          · simp [List.append_eq_singleton_iff] at single
        obtain ⟨rfl, rfl⟩ := parted
        obtain ⟨before, rfl⟩ := isSuffix
        obtain ⟨after, rfl⟩ := isPrefix
        exact apart (by simp) rfl

/-- No arrow stands in the text. -/
def NoArrow (text : List Char) : Prop :=
  ∀ arrow ∈ arrows, ¬arrow <:+: text

instance (text : List Char) : Decidable (NoArrow text) :=
  inferInstanceAs (Decidable (∀ arrow ∈ arrows, ¬arrow <:+: text))

theorem NoArrow.append {first second : List Char} (noFirst : NoArrow first)
    (noSecond : NoArrow second) (apart : first.getLast? = some '-' → second.head? ≠ some '>') :
    NoArrow (first ++ second) := fun arrow member =>
  not_infix_append member (noFirst arrow member) (noSecond arrow member) apart

/-- A text without any of the characters that arrows end with holds no arrow. -/
theorem noArrow_of_forall_ne {text : List Char}
    (other : ∀ character ∈ text, character ≠ '→' ∧ character ≠ '>' ∧ character ≠ '—') :
    NoArrow text := by
  intro arrow member inText
  simp only [arrows, List.mem_cons, List.not_mem_nil, or_false] at member
  rcases member with rfl | rfl | rfl
  · exact (other '→' (inText.subset (by simp))).1 rfl
  · exact (other '>' (inText.subset (by simp))).2.1 rfl
  · exact (other '—' (inText.subset (by simp))).2.2 rfl

theorem noArrow_of_blank {blanks : List Char}
    (blank : ∀ character ∈ blanks, Text.isBlank character = true) : NoArrow blanks := by
  apply noArrow_of_forall_ne
  intro character member
  have isBlank := blank character member
  refine ⟨?_, ?_, ?_⟩ <;> rintro rfl <;> exact absurd isBlank (by decide)

/-- Blanks around a text bring no arrow about. -/
theorem NoArrow.between_blanks {before text after : List Char} (noArrow : NoArrow text)
    (blankBefore : ∀ character ∈ before, Text.isBlank character = true)
    (blankAfter : ∀ character ∈ after, Text.isBlank character = true) :
    NoArrow (before ++ (text ++ after)) := by
  refine (noArrow_of_blank blankBefore).append (noArrow.append (noArrow_of_blank blankAfter) ?_) ?_
  · intro _ tip
    exact absurd (blankAfter _ (List.mem_of_mem_head? tip)) (by decide)
  · intro dash _
    exact absurd (blankBefore _ (List.mem_of_getLast? dash)) (by decide)

/-! ## The cut at the arrow -/

/-- No arrow starts with the tip of another one, ends with a dash, or stands in another one. -/
theorem arrows_apart : ∀ arrow ∈ arrows, arrow.head? ≠ some '>' ∧ arrow.dropLast.head? ≠ some '>' ∧
    arrow.getLast? ≠ some '-' ∧ ∀ other ∈ arrows, other ≠ arrow → ¬other <:+: arrow := by
  decide

section OneArrow

variable {before after arrow : List Char} (noBefore : NoArrow before) (member : arrow ∈ arrows)
include noBefore member

/-- Where there is one arrow there is no other. -/
theorem not_infix_of_ne (noAfter : NoArrow after) {other : List Char} (isArrow : other ∈ arrows)
    (different : other ≠ arrow) : ¬other <:+: before ++ (arrow ++ after) := by
  obtain ⟨noTip, -, noDash, others⟩ := arrows_apart arrow member
  have behind : ¬other <:+: arrow ++ after :=
    not_infix_append isArrow (others other isArrow different) (noAfter other isArrow)
      fun dash => absurd dash noDash
  refine not_infix_append isArrow (noBefore other isArrow) behind fun _ => ?_
  cases arrow with
  | nil => exact absurd member (by decide)
  | cons first rest => exact noTip

/-- The one arrow does not begin before its place. -/
theorem not_infix_dropLast : ¬arrow <:+: before ++ arrow.dropLast := by
  obtain ⟨-, noTip, -, -⟩ := arrows_apart arrow member
  have shorter : ¬arrow <:+: arrow.dropLast := by
    intro inside
    have content : arrow ≠ [] := by
      rintro rfl
      exact absurd member (by decide)
    have positive := List.length_pos_iff.mpr content
    have length := inside.length_le
    rw [List.length_dropLast] at length
    omega
  exact not_infix_append member (noBefore arrow member) shorter fun _ => noTip

/-- An entry with one arrow is cut there, whichever arrow it is. -/
theorem findSome?_arrows (noAfter : NoArrow after) :
    (arrows.findSome? fun separator => Text.cutAtText? separator (before ++ (arrow ++ after))) =
      some (before, after) := by
  obtain ⟨earlier, later, order⟩ := List.append_of_mem member
  have content : arrow ≠ [] := by
    rintro rfl
    exact absurd member (by decide)
  refine List.findSome?_eq_some_iff.mpr ⟨earlier, arrow, later, order,
    Text.cutAtText?_append content (not_infix_dropLast noBefore member) after, ?_⟩
  intro other isEarlier
  have distinct : arrows.Nodup := by decide
  have different : other ≠ arrow := by
    rintro rfl
    rw [order] at distinct
    exact (List.nodup_append.mp distinct).2.2 other isEarlier other List.mem_cons_self rfl
  have isArrow : other ∈ arrows := order ▸ List.mem_append_left _ isEarlier
  exact Text.cutAtText?_eq_none (not_infix_of_ne noBefore member noAfter isArrow different)

end OneArrow

end Description

/-! ## Terminals and connections -/

open Description (NoArrow)

/-- The terminal can be described, and neither of its texts holds an arrow. -/
structure Terminal.IsPlain (terminal : Terminal) : Prop extends terminal.IsDescribed where
  entityNoArrow : NoArrow terminal.entity.toList
  pinNoArrow : ∀ name, terminal.pin = some name → NoArrow name.toList

/-- The text is the connection in writing: its two terminals around any of the arrows, with any
blanks beside each of them. -/
def Connection.IsWritten (connection : Connection) (text : List Char) : Prop :=
  ∃ start before arrow after finish, arrow ∈ Description.arrows ∧
    (∀ character ∈ start ++ before ++ after ++ finish, Text.isBlank character = true) ∧
    text = (start ++ (connection.source.describe.toList ++ before)) ++
      (arrow ++ (after ++ (connection.target.describe.toList ++ finish)))

/-- A connection as it is described is written with an arrow of two characters and two spaces. -/
theorem Connection.isWritten_describe (connection : Connection) :
    connection.IsWritten connection.describe.toList :=
  ⟨[], [' '], ['-', '>'], [' '], [], by decide, by simp [Text.isBlank], by simp [describe]⟩

theorem Terminal.toList_describe (terminal : Terminal) : terminal.describe.toList =
    terminal.entity.toList ++ (terminal.pin.elim [] fun pin => '.' :: pin.toList) := by
  cases pin : terminal.pin <;> simp [describe, pin]

namespace Description

variable {terminal : Terminal}

/-- Neither the point before a pin nor what is on either side of it makes an arrow. -/
theorem noArrow_describe (plain : terminal.IsPlain) : NoArrow terminal.describe.toList := by
  rw [Terminal.toList_describe]
  cases pin : terminal.pin with
  | none => simpa using plain.entityNoArrow
  | some name =>
      have point : NoArrow ['.'] := noArrow_of_forall_ne (by simp)
      have behind : NoArrow (['.'] ++ name.toList) :=
        point.append (plain.pinNoArrow name pin) (by simp)
      exact plain.entityNoArrow.append behind (by simp)

/-- A terminal that can be described is named by its description, whatever blanks are around it. -/
theorem terminal?_describe (described : terminal.IsDescribed) {before after : List Char}
    (blankBefore : ∀ character ∈ before, Text.isBlank character = true)
    (blankAfter : ∀ character ∈ after, Text.isBlank character = true) :
    terminal? (before ++ (terminal.describe.toList ++ after)) = some terminal := by
  obtain ⟨content, solid, undivided⟩ := described.entity
  have notEmpty : terminal.entity.toList ≠ [] := by simpa using content
  have isName : isEntityName terminal.entity.toList = true := by
    simpa [isEntityName, content] using solid
  rw [terminal?, Text.trim_between_blanks blankBefore blankAfter, Terminal.toList_describe,
    Text.trim_append_of_solid solid notEmpty]
  obtain ⟨entity, pin⟩ := terminal
  cases pin with
  | none =>
      simp only [Option.elim_none, Text.trimEnd, List.reverse_nil, List.dropWhile_nil,
        List.append_nil, Text.cutAt?_eq_none_iff.mpr undivided, isName, if_true,
        String.ofList_toList]
  | some name =>
      obtain ⟨nameContent, trimmed⟩ := described.pin name rfl
      have ending : Text.trimEnd ('.' :: name.toList) = '.' :: name.toList := by
        have kept : Text.trimEnd (['.'] ++ name.toList) = ['.'] ++ Text.trimEnd name.toList :=
          Text.trimEnd_append_of_solid (Text.solid_of_all rfl) name.toList
        rwa [Text.trimEnd_eq_self trimmed] at kept
      have nonempty : name.toList.isEmpty = false := by simpa using nameContent
      simp only [Option.elim_some, ending, Text.cutAt?_append undivided, Text.trim_eq_self solid,
        trimmed, nonempty, isName, if_true, Bool.false_eq_true, if_false, String.ofList_toList]

/-- A connection whose texts hold no arrow is found in its description, and in every text that
has the same two terminals around any of the arrows, with any blanks beside them. -/
theorem connection?_of_isWritten {connection : Connection} (source : connection.source.IsPlain)
    (target : connection.target.IsPlain) :
    connection? connection.describe.toList = some connection ∧
      ∀ text, connection.IsWritten text → connection? text = some connection := by
  have found : ∀ text, connection.IsWritten text → connection? text = some connection := by
    rintro text ⟨start, before, arrow, after, finish, member, blank, rfl⟩
    simp only [List.forall_mem_append] at blank
    obtain ⟨⟨⟨blankStart, blankBefore⟩, blankAfter⟩, blankFinish⟩ := blank
    have noSource := (noArrow_describe source).between_blanks blankStart blankBefore
    have noTarget := (noArrow_describe target).between_blanks blankAfter blankFinish
    rw [connection?, findSome?_arrows noSource member noTarget]
    simp only [Option.bind_eq_bind, Option.bind_some,
      terminal?_describe source.toIsDescribed blankStart blankBefore,
      terminal?_describe target.toIsDescribed blankAfter blankFinish]
  exact ⟨found _ connection.isWritten_describe, found⟩

/-- A connection whose pins look like parts of arrows and of other terminals. -/
def dashedConnection : Connection := ⟨⟨">", some "1 .-"⟩, ⟨"U1-", some ">.+"⟩⟩

theorem connection?_of_isWritten_dashed :
    dashedConnection.source.IsPlain ∧ dashedConnection.target.IsPlain ∧
      connection? "\t>.1 .-->U1-.>.+ ".toList = some dashedConnection := by
  have source : dashedConnection.source.IsPlain :=
    { entity := ⟨by decide, Text.solid_of_all rfl, by decide⟩
      pin := by rintro name ⟨⟩; exact ⟨by decide, rfl⟩
      entityNoArrow := by decide
      pinNoArrow := by rintro name ⟨⟩; decide +kernel }
  have target : dashedConnection.target.IsPlain :=
    { entity := ⟨by decide, Text.solid_of_all rfl, by decide⟩
      pin := by rintro name ⟨⟩; exact ⟨by decide, rfl⟩
      entityNoArrow := by decide
      pinNoArrow := by rintro name ⟨⟩; decide +kernel }
  have written : dashedConnection.IsWritten "\t>.1 .-->U1-.>.+ ".toList :=
    ⟨['\t'], [], ['-', '>'], [], [' '], by decide, by simp [Text.isBlank], rfl⟩
  exact ⟨source, target, (connection?_of_isWritten source target).2 _ written⟩

end Description
end CircuitSheet
