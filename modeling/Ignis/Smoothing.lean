import Mathlib.Algebra.Order.Field.Basic
import Mathlib.Data.List.Induction
import Mathlib.Tactic.Ring

-- Exponential smoothing of a series over an ordered field.
namespace Smoothing
variable {K : Type*} [Field K]

def mixed (weight recent value : K) : K := weight * value + (1 - weight) * recent

def smoothed (weight first : K) (rest : List K) : K := rest.foldl (mixed weight) first

variable {weight first value bound : K} {rest : List K}

@[simp] theorem smoothed_single : smoothed weight first [] = first := rfl

theorem smoothed_snoc : smoothed weight first (rest ++ [value]) = mixed weight (smoothed weight first rest) value := by
  simp [smoothed]

variable [LinearOrder K] [IsStrictOrderedRing K]

theorem mixed_le {recent : K} (least : 0 ≤ weight) (most : weight ≤ 1) (old : recent ≤ bound) (new : value ≤ bound) :
    mixed weight recent value ≤ bound := by
  have taken : weight * value ≤ weight * bound := mul_le_mul_of_nonneg_left new least
  have kept : (1 - weight) * recent ≤ (1 - weight) * bound := mul_le_mul_of_nonneg_left old (sub_nonneg.mpr most)
  calc mixed weight recent value ≤ weight * bound + (1 - weight) * bound := add_le_add taken kept
    _ = bound := by ring

theorem smoothed_le (least : 0 ≤ weight) (most : weight ≤ 1) (below : ∀ value ∈ first :: rest, value ≤ bound) :
    smoothed weight first rest ≤ bound := by
  induction rest using List.reverseRecOn with
  | nil => exact below first (List.mem_singleton_self first)
  | append_singleton rest value ih =>
    rw [smoothed_snoc]
    refine mixed_le least most (ih fun other member => below other ?_) (below value (by simp))
    rcases List.mem_cons.mp member with rfl | inside
    · exact List.mem_cons_self
    · exact List.mem_cons_of_mem _ (List.mem_append_left _ inside)

end Smoothing
