import Mathlib.Data.Nat.Find
import Mathlib.Logic.Function.Iterate
import Mathlib.Order.WellFounded

/-! # Runs that lower a rank

A deterministic machine that lowers a well-founded rank as long as it is off its goal reaches the goal, and comes
through no state twice on the way.
-/
namespace CaptureTheFlag.Ranking
set_option autoImplicit false

variable {α β : Type} [Preorder β] {f : α → α} {goal inv : α → Prop} {rank : α → β}

/-- Off the goal a step keeps the invariant and lowers the rank. -/
def Lowers (f : α → α) (goal inv : α → Prop) (rank : α → β) : Prop :=
  ∀ a, inv a → ¬ goal a → inv (f a) ∧ rank (f a) < rank a

section Run

variable (h : Lowers f goal inv rank) {a : α} (hInv : inv a)
include h hInv

theorem Lowers.arrives [WellFoundedLT β] : ∃ n, goal (f^[n] a) := by
  induction hRank : rank a using WellFoundedLT.induction generalizing a with
  | ind r ih =>
    by_cases hGoal : goal a
    · exact ⟨0, hGoal⟩
    · obtain ⟨hNext, hLower⟩ := h a hInv hGoal
      obtain ⟨n, hn⟩ := ih (rank (f a)) (hRank ▸ hLower) hNext rfl
      refine ⟨n + 1, ?_⟩
      rw [Function.iterate_succ_apply]
      exact hn

theorem Lowers.inv_iterate {n : Nat} (hOff : ∀ i < n, ¬ goal (f^[i] a)) : inv (f^[n] a) := by
  induction n with
  | zero => exact hInv
  | succ n ih =>
    rw [Function.iterate_succ_apply']
    exact (h _ (ih (fun i hi => hOff i (Nat.lt_succ_of_lt hi))) (hOff n (Nat.lt_succ_self n))).1

theorem Lowers.rank_lt {n i : Nat} (hOff : ∀ i < n, ¬ goal (f^[i] a)) (hi : i < n) :
    rank (f^[n] a) < rank (f^[i] a) := by
  induction n with
  | zero => cases hi
  | succ n ih =>
    have hBefore : ∀ i < n, ¬ goal (f^[i] a) := fun i hi => hOff i (Nat.lt_succ_of_lt hi)
    have hStep := (h _ (h.inv_iterate hInv hBefore) (hOff n (Nat.lt_succ_self n))).2
    rw [Function.iterate_succ_apply']
    rcases Nat.lt_succ_iff_lt_or_eq.mp hi with hEarlier | rfl
    · exact hStep.trans (ih hBefore hEarlier)
    · exact hStep

/-- The run to the first goal state lowers the rank all the way. -/
theorem Lowers.reaches [WellFoundedLT β] :
    ∃ n, goal (f^[n] a) ∧ (∀ i < n, ¬ goal (f^[i] a)) ∧
      ∀ i j, i < j → j ≤ n → rank (f^[j] a) < rank (f^[i] a) := by
  classical
  have hArrives := h.arrives hInv
  refine ⟨Nat.find hArrives, Nat.find_spec hArrives, fun i hi => Nat.find_min hArrives hi, ?_⟩
  intro i j hij hj
  exact h.rank_lt hInv (fun k hk => Nat.find_min hArrives (hk.trans_le hj)) hij

end Run

end CaptureTheFlag.Ranking
