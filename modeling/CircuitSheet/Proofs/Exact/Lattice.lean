import CircuitSheet.Proofs.Exact.Real
import CircuitSheet.Wire.Segment

/-!
# Points on a lattice

Where all coordinates are multiples of one unit, two points are equal as soon as they are less
than the unit apart. So on a lattice that is coarser than the tolerance of joints, the short
segments are those that lead nowhere. Points that are moved to the nearest place of a lattice come
to lie on it, and stay there when they are moved again.
-/

namespace CircuitSheet

attribute [ext] Point

namespace Exact

theorem distance_eq (first second : Point ℝ) :
    first.distance second = √((first.x - second.x) ^ 2 + (first.y - second.y) ^ 2) := by
  rw [sq, sq]
  rfl

theorem abs_sub_x_le_distance (first second : Point ℝ) :
    |first.x - second.x| ≤ first.distance second := by
  rw [distance_eq, ← Real.sqrt_sq_eq_abs]
  exact Real.sqrt_le_sqrt (le_add_of_nonneg_right (sq_nonneg _))

theorem abs_sub_y_le_distance (first second : Point ℝ) :
    |first.y - second.y| ≤ first.distance second := by
  rw [distance_eq, ← Real.sqrt_sq_eq_abs]
  exact Real.sqrt_le_sqrt (le_add_of_nonneg_left (sq_nonneg _))

/-- Multiples of a unit that differ by less than the unit are equal. -/
theorem eq_of_abs_sub_lt {unit first second : ℝ}
    (firstMultiple : first ∈ AddSubgroup.zmultiples unit)
    (secondMultiple : second ∈ AddSubgroup.zmultiples unit) (close : |first - second| < unit) :
    first = second := by
  obtain ⟨count, difference⟩ :=
    AddSubgroup.mem_zmultiples_iff.mp (sub_mem firstMultiple secondMultiple)
  have positive : 0 < unit := (abs_nonneg _).trans_lt close
  have none : count = 0 := by
    rw [← difference, zsmul_eq_mul, abs_mul, abs_of_pos positive, mul_lt_iff_lt_one_left positive]
      at close
    exact Int.abs_lt_one_iff.mp (by exact_mod_cast close)
  rw [none, zero_smul] at difference
  exact sub_eq_zero.mp difference.symm

theorem toMultiple_mem_zmultiples (unit value : ℝ) :
    Scalar.toMultiple unit value ∈ AddSubgroup.zmultiples unit :=
  AddSubgroup.mem_zmultiples_iff.mpr ⟨nearest (value / unit), zsmul_eq_mul _ _⟩

/-- The nearest multiple of a multiple is the multiple itself. -/
theorem toMultiple_of_mem_zmultiples {unit value : ℝ} (positive : 0 < unit)
    (multiple : value ∈ AddSubgroup.zmultiples unit) : Scalar.toMultiple unit value = value := by
  obtain ⟨count, rfl⟩ := AddSubgroup.mem_zmultiples_iff.mp multiple
  have quotient : (count • unit) / unit = count := by
    rw [zsmul_eq_mul, mul_div_cancel_right₀ _ positive.ne']
  change (nearest ((count • unit) / unit) : ℝ) * unit = count • unit
  rw [quotient, nearest_intCast, zsmul_eq_mul]

end Exact

/-- Both coordinates are multiples of a unit. -/
structure Point.OnLattice (unit : ℝ) (point : Point ℝ) : Prop where
  x : point.x ∈ AddSubgroup.zmultiples unit
  y : point.y ∈ AddSubgroup.zmultiples unit

namespace Point

theorem onLattice_toGrid (unit : ℝ) (point : Point ℝ) : (point.toGrid unit).OnLattice unit :=
  ⟨Exact.toMultiple_mem_zmultiples unit point.x, Exact.toMultiple_mem_zmultiples unit point.y⟩

/-- A point of a lattice stays where it is when it is moved to the nearest one. -/
theorem toGrid_of_onLattice {unit : ℝ} (positive : 0 < unit) {point : Point ℝ}
    (onLattice : point.OnLattice unit) : point.toGrid unit = point :=
  Point.ext (Exact.toMultiple_of_mem_zmultiples positive onLattice.x)
    (Exact.toMultiple_of_mem_zmultiples positive onLattice.y)

end Point

namespace WireSegment

/-- The segment keeps to its axis. -/
def IsStraight {K : Type} (segment : WireSegment K) : Prop :=
  match segment.orientation with
  | .horizontal => segment.start.y = segment.stop.y
  | .vertical => segment.start.x = segment.stop.x

theorem isStraight_of_horizontal {K : Type} {segment : WireSegment K}
    (axis : segment.orientation = .horizontal) :
    segment.IsStraight ↔ segment.start.y = segment.stop.y := by
  rw [IsStraight, axis]

theorem isStraight_of_vertical {K : Type} {segment : WireSegment K}
    (axis : segment.orientation = .vertical) :
    segment.IsStraight ↔ segment.start.x = segment.stop.x := by
  rw [IsStraight, axis]

/-- A segment that keeps to its axis between points of a lattice. -/
structure Fits (unit : ℝ) (segment : WireSegment ℝ) : Prop where
  straight : segment.IsStraight
  start : segment.start.OnLattice unit
  stop : segment.stop.OnLattice unit

/-- On a coarse lattice only a segment that leads nowhere is short. -/
theorem start_eq_stop_of_isShort {unit : ℝ} (coarse : joinTolerance < unit)
    {segment : WireSegment ℝ} (startOn : segment.start.OnLattice unit)
    (stopOn : segment.stop.OnLattice unit) (short : segment.isShort = true) :
    segment.start = segment.stop := by
  have close : segment.start.distance segment.stop < unit :=
    (decide_eq_true_iff.mp short).trans_lt coarse
  apply Point.ext
  · exact Exact.eq_of_abs_sub_lt startOn.x stopOn.x
      ((Exact.abs_sub_x_le_distance _ _).trans_lt close)
  · exact Exact.eq_of_abs_sub_lt startOn.y stopOn.y
      ((Exact.abs_sub_y_le_distance _ _).trans_lt close)

theorem Fits.start_eq_stop {unit : ℝ} (coarse : joinTolerance < unit) {segment : WireSegment ℝ}
    (fits : segment.Fits unit) (short : segment.isShort = true) :
    segment.start = segment.stop :=
  start_eq_stop_of_isShort coarse fits.start fits.stop short

end WireSegment
end CircuitSheet
