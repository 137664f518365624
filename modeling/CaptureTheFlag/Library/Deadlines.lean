import Mathlib.Data.List.Chain
import Mathlib.Tactic.Ring

/-! # Deadlines that never bunch up

A sequence of beats, each with the time it was due and the time it came. A deadline lies at least a step behind the one
before, and at most a slack before the time at which the beat before it came.
-/
namespace CaptureTheFlag.Deadlines
set_option autoImplicit false

variable {α : Type} {due woke : α → Int} {step slack : Int} {beats : List α}

structure Follows (due woke : α → Int) (step slack : Int) (a b : α) : Prop where
  spaced : due a + step ≤ due b
  fresh : woke a - slack ≤ due b

theorem due_le (hChain : beats.IsChain (Follows due woke step slack)) (i k : Nat) (h : i + k < beats.length) :
    due beats[i] + k * step ≤ due beats[i + k] := by
  induction k with
  | zero => simp
  | succ k ih =>
    have hBefore := ih (by omega)
    have hLast := (hChain.getElem (i + k) h).spaced
    calc due beats[i] + (k + 1 : Nat) * step = due beats[i] + k * step + step := by push_cast; ring
      _ ≤ due beats[i + k] + step := Int.add_le_add_right hBefore step
      _ ≤ due beats[i + (k + 1)] := hLast

/-- However late a beat comes, those behind it are spaced but for the slack. -/
theorem woke_le (hChain : beats.IsChain (Follows due woke step slack)) (hLate : ∀ b ∈ beats, due b ≤ woke b) (i k : Nat)
    (h : i + 1 + k < beats.length) : woke beats[i] - slack + k * step ≤ woke beats[i + 1 + k] := by
  have hFirst := (hChain.getElem i (by omega)).fresh
  calc woke beats[i] - slack + k * step ≤ due beats[i + 1] + k * step := Int.add_le_add_right hFirst _
    _ ≤ due beats[i + 1 + k] := due_le hChain (i + 1) k h
    _ ≤ woke beats[i + 1 + k] := hLate _ (List.getElem_mem h)

end CaptureTheFlag.Deadlines
