import Mathlib.Algebra.BigOperators.Ring.List
import Mathlib.Algebra.Order.BigOperators.Group.List
import Mathlib.Algebra.Order.Field.Basic

/-!
# Weighted means

The mean of the values of a list, each with its weight.  When the weights are positive and
there is a value at all, the mean lies between any bounds of the values.
-/

namespace ThermalGovernor.Lib

variable {α β K : Type} [Semifield K] [LinearOrder K] [IsStrictOrderedRing K] {f w w' : α → K}
  {list : List α} {bound : K}

/-- The weighted sum over the sum of the weights. -/
def weightedMean (f w : α → K) (list : List α) : K :=
  (list.map fun a => f a * w a).sum / (list.map w).sum

omit [LinearOrder K] [IsStrictOrderedRing K] in
theorem weightedMean_congr (hw : ∀ a ∈ list, w a = w' a) :
    weightedMean f w list = weightedMean f w' list := by
  have hsum : (list.map fun a => f a * w a) = list.map fun a => f a * w' a :=
    List.map_congr_left fun a ha => by rw [hw a ha]
  unfold weightedMean
  rw [hsum, List.map_congr_left hw]

omit [LinearOrder K] [IsStrictOrderedRing K] in
theorem weightedMean_map (g : β → α) (list : List β) :
    weightedMean f w (list.map g) = weightedMean (f ∘ g) (w ∘ g) list := by
  unfold weightedMean
  rw [List.map_map, List.map_map]
  rfl

theorem sum_weights_pos (hw : ∀ a ∈ list, 0 < w a) (hlist : list ≠ []) :
    0 < (list.map w).sum := by
  refine List.sum_pos _ (fun x hx => ?_) (by simpa using hlist)
  obtain ⟨a, ha, rfl⟩ := List.mem_map.mp hx
  exact hw a ha

theorem weightedMean_le (hw : ∀ a ∈ list, 0 < w a) (hlist : list ≠ [])
    (hf : ∀ a ∈ list, f a ≤ bound) : weightedMean f w list ≤ bound := by
  unfold weightedMean
  rw [div_le_iff₀ (sum_weights_pos hw hlist), ← List.sum_map_mul_left]
  exact List.sum_le_sum fun a ha => mul_le_mul_of_nonneg_right (hf a ha) (hw a ha).le

theorem le_weightedMean (hw : ∀ a ∈ list, 0 < w a) (hlist : list ≠ [])
    (hf : ∀ a ∈ list, bound ≤ f a) : bound ≤ weightedMean f w list := by
  unfold weightedMean
  rw [le_div_iff₀ (sum_weights_pos hw hlist), ← List.sum_map_mul_left]
  exact List.sum_le_sum fun a ha => mul_le_mul_of_nonneg_right (hf a ha) (hw a ha).le

end ThermalGovernor.Lib
