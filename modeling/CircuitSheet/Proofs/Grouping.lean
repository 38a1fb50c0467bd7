import CircuitSheet.Grouping
import Mathlib.Data.List.Perm.Basic

/-!
# Groups in order of appearance

The groups of a list belong to its labels, each taken once and in the order in which they first
appear; a group holds all items of its label in their order. So nothing is lost or repeated.
-/

namespace CircuitSheet

variable {α β γ : Type} [DecidableEq β] [DecidableEq γ]

/-- The items without repetitions, in the order in which they first appear. -/
def withoutRepeats (items : List β) : List β :=
  distinctBy id items

@[simp] theorem withoutRepeats_nil : withoutRepeats ([] : List β) = [] := rfl

theorem withoutRepeats_cons (first : β) (rest : List β) :
    withoutRepeats (first :: rest) = first :: (withoutRepeats rest).filter (· ≠ first) := rfl

@[simp] theorem mem_withoutRepeats {item : β} {items : List β} :
    item ∈ withoutRepeats items ↔ item ∈ items := by
  have listed : item ∈ (distinctBy id items).map id ↔ item ∈ items.map id := mem_map_distinctBy
  simpa [withoutRepeats] using listed

/-- Nothing is repeated. -/
theorem nodup_withoutRepeats (items : List β) : (withoutRepeats items).Nodup := by
  induction items with
  | nil => exact List.nodup_nil
  | cons first rest inductionHypothesis =>
      rw [withoutRepeats_cons]
      exact List.nodup_cons.mpr ⟨by simp, inductionHypothesis.filter _⟩

/-- The distinct items keep their order. -/
theorem distinctBy_sublist (key : α → β) (items : List α) :
    (distinctBy key items).Sublist items := by
  induction items with
  | nil => exact List.nil_sublist _
  | cons first rest inductionHypothesis =>
      exact (List.filter_sublist.trans inductionHypothesis).cons_cons first

/-- What is found first in a list does not depend on repetitions, if items with one key are alike. -/
theorem findSome?_distinctBy {δ : Type} {key : α → β} {find : α → Option δ} {items : List α}
    (alike : ∀ one ∈ items, ∀ other ∈ items, key one = key other → find one = find other) :
    (distinctBy key items).findSome? find = items.findSome? find := by
  induction items with
  | nil => rfl
  | cons first rest inductionHypothesis =>
      have alikeRest : ∀ one ∈ rest, ∀ other ∈ rest, key one = key other → find one = find other :=
        fun one inRest other otherInRest =>
          alike one (List.mem_cons_of_mem _ inRest) other (List.mem_cons_of_mem _ otherInRest)
      rw [distinctBy, List.findSome?_cons, List.findSome?_cons]
      cases found : find first with
      | some value => rfl
      | none =>
          -- Only items like the first one are left out, and nothing is found at those.
          dsimp only
          rw [← inductionHypothesis alikeRest, ← List.head?_filterMap, ← List.head?_filterMap,
            List.filterMap_filter]
          apply congrArg List.head?
          apply List.filterMap_congr
          intro item member
          by_cases same : key item = key first
          · have inRest := (distinctBy_sublist key rest).mem member
            have nothing := alike item (List.mem_cons_of_mem _ inRest) first List.mem_cons_self same
            simp [same, nothing, found]
          · simp [same]

/-- The keys of the distinct items are the keys without repetitions. -/
theorem map_distinctBy (key : α → β) (items : List α) :
    (distinctBy key items).map key = withoutRepeats (items.map key) := by
  induction items with
  | nil => rfl
  | cons first rest inductionHypothesis =>
      rw [distinctBy, List.map_cons, List.map_cons, withoutRepeats_cons, ← inductionHypothesis,
        List.filter_map]
      rfl

/-- Items may be left out before or after repetitions are. -/
theorem filter_withoutRepeats (test : β → Bool) (items : List β) :
    (withoutRepeats items).filter test = withoutRepeats (items.filter test) := by
  induction items with
  | nil => rfl
  | cons first rest inductionHypothesis =>
      by_cases kept : test first = true
      · rw [withoutRepeats_cons, List.filter_cons_of_pos kept, List.filter_cons_of_pos kept,
          withoutRepeats_cons, ← inductionHypothesis, List.filter_filter, List.filter_filter]
        simp only [Bool.and_comm]
      · have others :
            (withoutRepeats rest).filter (fun item => test item && decide (item ≠ first)) =
              (withoutRepeats rest).filter test := by
          apply List.filter_congr
          intro item _
          by_cases same : item = first
          · simp [same, kept]
          · simp [same]
        rw [withoutRepeats_cons, List.filter_cons_of_neg kept, List.filter_cons_of_neg kept,
          List.filter_filter, others, inductionHypothesis]

/-- Items that are relabelled may lose their repetitions before as well. -/
theorem withoutRepeats_map_withoutRepeats (relabel : β → γ) (items : List β) :
    withoutRepeats ((withoutRepeats items).map relabel) = withoutRepeats (items.map relabel) := by
  induction items with
  | nil => rfl
  | cons first rest inductionHypothesis =>
      -- Items that differ in their labels differ, so the inner filter does nothing.
      have others :
          (((withoutRepeats rest).filter (· ≠ first)).map relabel).filter (· ≠ relabel first) =
            ((withoutRepeats rest).map relabel).filter (· ≠ relabel first) := by
        rw [List.filter_map, List.filter_map, List.filter_filter]
        apply congrArg (List.map relabel)
        apply List.filter_congr
        intro item _
        by_cases same : item = first
        · simp [same]
        · simp [same]
      rw [withoutRepeats_cons, List.map_cons, List.map_cons, withoutRepeats_cons,
        withoutRepeats_cons, filter_withoutRepeats, others, ← filter_withoutRepeats,
        inductionHypothesis]

/-- A repetition next to its original does not count. -/
theorem withoutRepeats_flatMap_pair (label : α → β) (items : List α) :
    withoutRepeats (items.flatMap fun item => [label item, label item]) =
      withoutRepeats (items.map label) := by
  induction items with
  | nil => rfl
  | cons first rest inductionHypothesis =>
      rw [List.flatMap_cons, List.map_cons, List.cons_append, List.cons_append, List.nil_append,
        withoutRepeats_cons, withoutRepeats_cons, withoutRepeats_cons, inductionHypothesis,
        List.filter_cons_of_neg (by simp), List.filter_filter]
      simp only [Bool.and_self]

/-- Items without repetitions stand in the order in which they first appear. -/
theorem pairwise_idxOf_withoutRepeats (items : List β) :
    (withoutRepeats items).Pairwise fun earlier later =>
      items.idxOf earlier < items.idxOf later := by
  induction items with
  | nil => exact List.Pairwise.nil
  | cons first rest inductionHypothesis =>
      rw [withoutRepeats_cons]
      refine List.pairwise_cons.mpr ⟨?_, ?_⟩
      · intro later member
        have different : later ≠ first := by simpa using (List.mem_filter.mp member).2
        rw [List.idxOf_cons_self, List.idxOf_cons_ne _ (Ne.symm different)]
        exact Nat.succ_pos _
      · refine (inductionHypothesis.filter _).imp_of_mem ?_
        intro earlier later inEarlier inLater before
        have earlierDiffers : earlier ≠ first := by simpa using (List.mem_filter.mp inEarlier).2
        have laterDiffers : later ≠ first := by simpa using (List.mem_filter.mp inLater).2
        rw [List.idxOf_cons_ne _ (Ne.symm earlierDiffers),
          List.idxOf_cons_ne _ (Ne.symm laterDiffers)]
        exact Nat.succ_lt_succ before

theorem groupBy_cons (label : α → β) (first : α) (rest : List α) :
    groupBy label (first :: rest) =
      (first :: rest.filter fun item => label item = label first) ::
        groupBy label (rest.filter fun item => label item ≠ label first) := by
  rw [groupBy]

/-- There is a group for every label, with all items of that label. -/
theorem groupBy_eq (label : α → β) (items : List α) :
    groupBy label items =
      (withoutRepeats (items.map label)).map fun value =>
        items.filter fun item => label item = value := by
  match items with
  | [] => simp
  | first :: rest =>
      have inductionHypothesis :=
        groupBy_eq label (rest.filter fun item => label item ≠ label first)
      have labels : (withoutRepeats (rest.map label)).filter (· ≠ label first) =
          withoutRepeats ((rest.filter fun item => label item ≠ label first).map label) := by
        rw [filter_withoutRepeats, List.filter_map]
        rfl
      rw [groupBy_cons, inductionHypothesis, List.map_cons, withoutRepeats_cons, labels,
        List.map_cons, List.filter_cons_of_pos (by simp)]
      apply congrArg
      apply List.map_congr_left
      intro value member
      have different : label first ≠ value := by
        rintro rfl
        rw [← labels] at member
        simp at member
      rw [List.filter_cons_of_neg (by simpa using different), List.filter_filter]
      apply List.filter_congr
      intro item _
      by_cases same : label item = value
      · simp [same, Ne.symm different]
      · simp [same]
termination_by items.length
decreasing_by
  rw [List.length_cons]
  exact Nat.lt_succ_of_le (List.length_filter_le ..)

/-- The groups together hold every item once. -/
theorem flatten_groupBy_perm (label : α → β) (items : List α) :
    (groupBy label items).flatten.Perm items := by
  match items with
  | [] => simp
  | first :: rest =>
      have inductionHypothesis :=
        flatten_groupBy_perm label (rest.filter fun item => label item ≠ label first)
      have parts := List.filter_append_perm (fun item => decide (label item = label first)) rest
      rw [groupBy_cons, List.flatten_cons, List.cons_append]
      refine List.Perm.cons first ((inductionHypothesis.append_left _).trans ?_)
      simpa using parts
termination_by items.length
decreasing_by
  rw [List.length_cons]
  exact Nat.lt_succ_of_le (List.length_filter_le ..)

/-- Items may be renamed before or after they are grouped. -/
theorem groupBy_map {δ : Type} (label : δ → β) (rename : α → δ) (items : List α) :
    groupBy label (items.map rename) =
      (groupBy (fun item => label (rename item)) items).map (List.map rename) := by
  rw [groupBy_eq, groupBy_eq, List.map_map, List.map_map]
  apply List.map_congr_left
  intro value _
  rw [List.filter_map]
  rfl

theorem mem_groupBy_iff {label : α → β} {items group : List α} :
    group ∈ groupBy label items ↔
      ∃ item ∈ items, (items.filter fun other => label other = label item) = group := by
  simp [groupBy_eq]

/-- A group keeps the order of its items. -/
theorem sublist_of_mem_groupBy {label : α → β} {items group : List α}
    (member : group ∈ groupBy label items) : group.Sublist items := by
  obtain ⟨item, _, rfl⟩ := mem_groupBy_iff.mp member
  exact List.filter_sublist

/-- No group is empty. -/
theorem ne_nil_of_mem_groupBy {label : α → β} {items group : List α}
    (member : group ∈ groupBy label items) : group ≠ [] := by
  obtain ⟨item, inItems, rfl⟩ := mem_groupBy_iff.mp member
  exact List.ne_nil_of_mem (List.mem_filter.mpr ⟨inItems, by simp⟩)

/-- Items share a group exactly when they share a label. -/
theorem exists_mem_groupBy_iff {label : α → β} {items : List α} {one other : α} :
    (∃ group ∈ groupBy label items, one ∈ group ∧ other ∈ group) ↔
      one ∈ items ∧ other ∈ items ∧ label one = label other := by
  constructor
  · rintro ⟨group, member, oneMember, otherMember⟩
    obtain ⟨item, _, rfl⟩ := mem_groupBy_iff.mp member
    obtain ⟨oneListed, oneLabel⟩ := List.mem_filter.mp oneMember
    obtain ⟨otherListed, otherLabel⟩ := List.mem_filter.mp otherMember
    exact ⟨oneListed, otherListed,
      (of_decide_eq_true oneLabel).trans (of_decide_eq_true otherLabel).symm⟩
  · rintro ⟨oneListed, otherListed, same⟩
    exact ⟨_, mem_groupBy_iff.mpr ⟨one, oneListed, rfl⟩, List.mem_filter.mpr ⟨oneListed, by simp⟩,
      List.mem_filter.mpr ⟨otherListed, by simp [same]⟩⟩

/-- Groups depend only on which items share a label, not on the labels themselves. -/
theorem groupBy_congr {label : α → β} {other : α → γ} {items : List α}
    (same : ∀ one ∈ items, ∀ two ∈ items, label one = label two ↔ other one = other two) :
    groupBy label items = groupBy other items := by
  match items with
  | [] => simp
  | first :: rest =>
      have sameAsFirst : ∀ item ∈ rest, label item = label first ↔ other item = other first := by
        intro item member
        exact same item (List.mem_cons_of_mem _ member) first (List.mem_cons_self ..)
      have kept : (rest.filter fun item => label item = label first) =
          rest.filter fun item => other item = other first := by
        apply List.filter_congr
        intro item member
        rw [decide_eq_decide]
        exact sameAsFirst item member
      have left : (rest.filter fun item => label item ≠ label first) =
          rest.filter fun item => other item ≠ other first := by
        apply List.filter_congr
        intro item member
        rw [decide_eq_decide]
        exact not_congr (sameAsFirst item member)
      have inductionHypothesis : groupBy label (rest.filter fun item => label item ≠ label first) =
          groupBy other (rest.filter fun item => label item ≠ label first) := by
        apply groupBy_congr
        intro one oneMember two twoMember
        exact same one (List.mem_cons_of_mem _ (List.mem_filter.mp oneMember).1)
          two (List.mem_cons_of_mem _ (List.mem_filter.mp twoMember).1)
      rw [groupBy_cons, groupBy_cons, kept, inductionHypothesis, left]
termination_by items.length
decreasing_by
  rw [List.length_cons]
  exact Nat.lt_succ_of_le (List.length_filter_le ..)

end CircuitSheet
