/-!
# Rising sequences of floating-point numbers end

The strict order of floating-point numbers is irreflexive and transitive, and there are only
finitely many of them, so no sequence of them rises for ever. The argument goes through the
bit patterns, of which there are `2 ^ 64`.
-/

namespace CircuitSheet
namespace Binary64

open Float.Model (UnpackedFloat)

/-- Comparing decoded numbers is irreflexive. -/
theorem unpacked_lt_irrefl (value : UnpackedFloat) : value.lt value = false := by
  cases value with
  | infinity sign => cases sign <;> rfl
  | notANumber => rfl
  | zero sign => rfl
  | finite sign mantissa exponent positive =>
      cases sign <;> dsimp only [UnpackedFloat.lt, UnpackedFloat.compare] <;> simp

/-- Comparing decoded numbers is transitive. -/
theorem unpacked_lt_trans {first second third : UnpackedFloat}
    (below : first.lt second = true) (above : second.lt third = true) :
    first.lt third = true := by
  rcases first with s | _ | s | ⟨s, m, e, _⟩ <;>
    rcases second with t | _ | t | ⟨t, n, f, _⟩ <;>
    rcases third with u | _ | u | ⟨u, k, g, _⟩ <;> try cases s
  all_goals try cases t
  all_goals try cases u
  all_goals dsimp only [UnpackedFloat.lt, UnpackedFloat.compare] at below above ⊢
  all_goals simp_all [Ordering.then_eq_lt, Ordering.swap_eq_lt, Ordering.then_eq_gt,
    Nat.compare_eq_lt, Nat.compare_eq_gt, Int.compare_eq_lt, Int.compare_eq_gt]
  all_goals first | rfl | omega

/-- The order of numbers is the order of what their bits say. -/
theorem lt_iff_unpacked (first second : Float) :
    first < second ↔ first.toModel.unpack.lt second.toModel.unpack = true := by
  constructor
  · intro below
    have decided : decide (first.toModel < second.toModel) = true := below
    exact of_decide_eq_true decided
  · intro below
    exact decide_eq_true below

/-- No number is below itself. -/
theorem lt_irrefl (value : Float) : ¬ value < value := by
  rw [lt_iff_unpacked, unpacked_lt_irrefl]
  exact Bool.false_ne_true

/-- Being below is transitive. -/
theorem lt_trans {first second third : Float}
    (below : first < second) (above : second < third) : first < third := by
  rw [lt_iff_unpacked] at *
  exact unpacked_lt_trans below above

/-- A number is known by its bits. -/
theorem eq_of_toBits {first second : Float}
    (equal : first.toBits.toNat = second.toBits.toNat) : first = second := by
  have equal := UInt64.toNat_inj.mp equal
  rcases first with ⟨⟨firstBits, _⟩⟩
  rcases second with ⟨⟨secondBits, _⟩⟩
  have sameBits : firstBits = secondBits := equal
  subst sameBits
  rfl

/-- Counting a smaller property that misses one item counts fewer items. -/
theorem countP_lt_countP {α : Type} {narrow wide : α → Bool} {items : List α} {missed : α}
    (implies : ∀ item ∈ items, narrow item = true → wide item = true)
    (member : missed ∈ items) (inWide : wide missed = true) (notNarrow : narrow missed = false) :
    items.countP narrow < items.countP wide := by
  induction items with
  | nil => cases member
  | cons head tail inductionHypothesis =>
      have tailImplies : ∀ item ∈ tail, narrow item = true → wide item = true :=
        fun item inTail => implies item (List.mem_cons_of_mem _ inTail)
      have tailBound : tail.countP narrow ≤ tail.countP wide :=
        List.countP_mono_left tailImplies
      rw [List.countP_cons, List.countP_cons]
      rcases List.mem_cons.mp member with rfl | inTail
      · simp [inWide, notNarrow]
        omega
      · have strict := inductionHypothesis tailImplies inTail
        by_cases inNarrow : narrow head = true
        · rw [if_pos inNarrow, if_pos (implies head (List.mem_cons_self ..) inNarrow)]
          exact Nat.succ_lt_succ strict
        · rw [if_neg inNarrow]
          exact Nat.lt_of_lt_of_le strict (Nat.le_add_right _ _)

/-- A strict order on a type with finitely many codes has no infinite ascent. -/
theorem ascent_wellFounded {α : Type} (below : α → α → Prop)
    (irrefl : ∀ value, ¬ below value value)
    (trans : ∀ {first second third}, below first second → below second third → below first third)
    (code : α → Nat) (injective : ∀ {first second}, code first = code second → first = second)
    (size : Nat) (code_lt : ∀ value, code value < size) :
    WellFounded fun higher lower => below lower higher := by
  classical
  let above : α → Nat → Bool := fun value number =>
    decide (∃ other, code other = number ∧ below value other)
  let weight : α → Nat := fun value => (List.range size).countP (above value)
  refine Subrelation.wf (r := InvImage (· < ·) weight) ?_ (InvImage.wf _ Nat.lt_wfRel.wf)
  intro higher lower rises
  have listed : code higher ∈ List.range size := List.mem_range.mpr (code_lt higher)
  refine countP_lt_countP ?_ listed ?_ ?_
  · intro number _ inHigher
    obtain ⟨other, coded, isAbove⟩ := of_decide_eq_true inHigher
    exact decide_eq_true ⟨other, coded, trans rises isAbove⟩
  · exact decide_eq_true ⟨higher, rfl, rises⟩
  · refine decide_eq_false ?_
    rintro ⟨other, coded, isAbove⟩
    cases injective coded
    exact irrefl _ isAbove

/-- No sequence of floating-point numbers rises for ever. -/
theorem rising_wellFounded : WellFounded fun higher lower : Float => lower < higher :=
  ascent_wellFounded (fun lower higher => lower < higher) lt_irrefl lt_trans
    (fun value => value.toBits.toNat) eq_of_toBits UInt64.size
    (fun value => value.toBits.toNat_lt_size)

end Binary64
end CircuitSheet
