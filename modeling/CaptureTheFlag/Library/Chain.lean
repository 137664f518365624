import Mathlib.Logic.Relation
import Mathlib.Tactic.Common

/-! # Chains of steps and loops over lists

The two induction rules by which an invariant of one step becomes an invariant of a loop.
-/
namespace CaptureTheFlag.Chain
set_option autoImplicit false
open Relation

variable {α ι : Type}

theorem invariant {r : α → α → Prop} {I : α → Prop} (hStep : ∀ s s', r s s' → I s → I s')
    {s s' : α} (h : ReflTransGen r s s') (hInit : I s) : I s' := by
  induction h with
  | refl => exact hInit
  | tail _ hLast ih => exact hStep _ _ hLast ih

theorem foldl {r : α → α → Prop} {turn : α → ι → α} (hTurn : ∀ s i, ReflTransGen r s (turn s i))
    (is : List ι) (s : α) : ReflTransGen r s (is.foldl turn s) := by
  induction is generalizing s with
  | nil => exact .refl
  | cons i is ih => exact (hTurn s i).trans (ih _)

theorem foldl_invariant {I : α → Prop} {turn : α → ι → α} (hTurn : ∀ s i, I s → I (turn s i))
    (is : List ι) (s : α) (hInit : I s) : I (is.foldl turn s) := by
  induction is generalizing s with
  | nil => exact hInit
  | cons i is ih => exact ih _ (hTurn s i hInit)

end CaptureTheFlag.Chain
