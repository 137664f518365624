import Mathlib.Algebra.BigOperators.Fin

/-! # Sums over the slots of a table

A table assigns a record to each slot. Replacing one record changes a sum over the slots by what it counts for.
-/
namespace CaptureTheFlag.Sums
set_option autoImplicit false

variable {ι α : Type} [Fintype ι] [DecidableEq ι]

theorem sum_update (weight : α → Int) (table : ι → α) (i : ι) (a : α) :
    ∑ j, weight (Function.update table i a j) = ∑ j, weight (table j) - weight (table i) + weight a := by
  have hRest : ∑ j ∈ Finset.univ.erase i, weight (Function.update table i a j) =
      ∑ j ∈ Finset.univ.erase i, weight (table j) := by
    apply Finset.sum_congr rfl
    intro j hj
    rw [Function.update_of_ne (Finset.ne_of_mem_erase hj)]
  rw [← Finset.sum_erase_add _ _ (Finset.mem_univ i), ← Finset.sum_erase_add _ _ (Finset.mem_univ i), hRest,
    Function.update_self, Int.add_sub_cancel]

end CaptureTheFlag.Sums
