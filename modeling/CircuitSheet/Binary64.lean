import CircuitSheet.Scalar
import CircuitSheet.Binary64.Parts
import CircuitSheet.Binary64.Ascent
import CircuitSheet.Decimal.Shortest
import CircuitSheet.Decimal.Fixed
import CircuitSheet.Decimal.Reading

/-!
# Floating-point scalars

Double-precision numbers are the scalars that sheets are drawn with.
-/

namespace CircuitSheet

instance : Scalar Float where
  decideLT := Float.decLt
  decideLE := Float.decLe
  ofNat := Float.ofNat
  isFinite := Float.isFinite
  sqrt := Float.sqrt
  nearest := Binary64.nearest
  modulo := Binary64.modulo
  sin := Float.sin
  cos := Float.cos
  pi := 3.141592653589793
  climb_wellFounded _ _ _ :=
    Subrelation.wf (fun rises => rises.1) Binary64.rising_wellFounded

instance : ScalarText Float where
  shortest := Decimal.plain
  fixed := Decimal.fixed
  read? := Decimal.read?

end CircuitSheet
