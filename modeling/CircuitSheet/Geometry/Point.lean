import CircuitSheet.Scalar

/-!
# Points

Points of the page are measured in millimetres from its top left corner. Sheets store tenths
of a millimetre with four decimals.
-/

namespace CircuitSheet

/-- A place on the page. -/
structure Point (K : Type) where
  x : K
  y : K
  deriving DecidableEq, Repr

namespace Point

variable {K : Type} [Scalar K]

/-- The top left corner of the page. -/
def origin : Point K := ⟨0.0, 0.0⟩

/-- Both coordinates are finite. -/
def isFinite (point : Point K) : Bool :=
  Scalar.isFinite point.x && Scalar.isFinite point.y

/-- The length of the straight line between two points. -/
def distance (first second : Point K) : K :=
  Scalar.sqrt (Scalar.square (first.x - second.x) + Scalar.square (first.y - second.y))

/-- The points agree on both axes up to a tolerance. -/
def near (tolerance : K) (first second : Point K) : Bool :=
  Scalar.within tolerance first.x second.x && Scalar.within tolerance first.y second.y

/-- The points have equal coordinates. -/
def same (first second : Point K) : Bool :=
  Scalar.same first.x second.x && Scalar.same first.y second.y

/-- The nearest point whose coordinates are multiples of a unit. -/
def toGrid (unit : K) (point : Point K) : Point K :=
  ⟨Scalar.toMultiple unit point.x, Scalar.toMultiple unit point.y⟩

/-- The point as it is shown in messages, with two decimals. -/
def describe {K : Type} [ScalarText K] (point : Point K) : String :=
  "(" ++ String.ofList (ScalarText.fixed 2 point.x) ++ ", " ++
    String.ofList (ScalarText.fixed 2 point.y) ++ ")"

end Point

/-- File units in a millimetre. -/
def fileUnitsPerMillimetre {K : Type} [Scalar K] : K := 10.0

/-- A length in file units, rounded to four decimals. -/
def toFileUnits {K : Type} [Scalar K] (millimetres : K) : K :=
  Scalar.roundTo 1e4 (millimetres * fileUnitsPerMillimetre)

/-- A length in millimetres from one in file units. -/
def fromFileUnits {K : Type} [Scalar K] (units : K) : K :=
  units / fileUnitsPerMillimetre

end CircuitSheet
