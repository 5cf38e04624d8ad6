import Mathlib.Data.Rat.Defs
import Mathlib.Algebra.Order.Ring.Unbundled.Rat

-- The two state machines of an incident.
namespace Ignis

inductive HazardState where
  | clear | suspected | verifying | confirmed | visualSignatureLost | resolved | degraded
deriving DecidableEq, Repr

inductive ResponseState where
  | idle | awaitingResponse | cancelled | escalating
  | callRequested | callInitiated | callConnected | callCompleted | callFailed
deriving DecidableEq, Repr

-- The operations the engine performs on `double`, with none of their laws. What
-- is proved for every `Double` therefore holds of IEEE arithmetic, NaN included.
class Double (R : Type) extends Zero R, One R, Add R, Sub R, Mul R, Div R, NatCast R,
    OfScientific R, BEq R, LE R, LT R where
  decidableLE : DecidableLE R
  decidableLT : DecidableLT R
  isFinite : R → Bool

instance decidableLE_double [Double R] : DecidableLE R := Double.decidableLE
instance decidableLT_double [Double R] : DecidableLT R := Double.decidableLT

-- Exact arithmetic, where every number is finite.
instance : Double ℚ where
  toZero := Rat.addMonoid.toAddZeroClass.toAddZero.toZero
  toOne := Rat.monoid.toMulOneClass.toMulOne.toOne
  toBEq := @instBEqOfDecidableEq ℚ instDecidableEqRat
  decidableLE := Rat.instDecidableLe
  decidableLT := Rat.instDecidableLt
  isFinite _ := true

-- `std::max`, which keeps its first argument unless the second is above it.
def larger [Double R] (a b : R) : R := if a < b then b else a

theorem larger_grows [Double R] (a b : R) : larger a b = a ∨ a < larger a b := by
  unfold larger
  split
  · rename_i above; exact .inr above
  · exact .inl rfl

theorem larger_max (a b : ℚ) : larger a b = max a b := by
  unfold larger
  split
  · rename_i above
    exact (max_eq_right (le_of_lt above)).symm
  · rename_i below
    exact (max_eq_left (not_lt.mp below)).symm

end Ignis
