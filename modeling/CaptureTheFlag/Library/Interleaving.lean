import Mathlib.Data.List.Basic
import Mathlib.Tactic.Common

/-! # Interleavings of several streams

A machine is fed one list of inputs, each owned by some party. When inputs of different owners commute, only
the order within each owner's stream matters.
-/
namespace CaptureTheFlag.Interleaving
set_option autoImplicit false

variable {σ α κ : Type} [DecidableEq κ]

/-- Two lists that interleave the same streams: one is a permutation of the other that keeps, for each owner, the
order of its inputs. -/
def SameStreams (owner : α → κ) (xs ys : List α) : Prop :=
  ∀ k, xs.filter (fun x => owner x = k) = ys.filter (fun y => owner y = k)

theorem SameStreams.eq_nil {owner : α → κ} {ys : List α} (h : SameStreams owner [] ys) : ys = [] := by
  rw [List.eq_nil_iff_forall_not_mem]
  intro y hy
  have hEmpty := (h (owner y)).symm
  rw [List.filter_nil, List.filter_eq_nil_iff] at hEmpty
  exact hEmpty y hy (decide_eq_true rfl)

/-- The first input of one list stands in the other behind inputs of other owners only. -/
theorem SameStreams.split {owner : α → κ} {x : α} {xs ys : List α} (h : SameStreams owner (x :: xs) ys) :
    ∃ front back, ys = front ++ x :: back ∧ (∀ y ∈ front, owner y ≠ owner x) ∧
      SameStreams owner xs (front ++ back) := by
  have hOwn := (h (owner x)).symm
  have hx : decide (owner x = owner x) = true := decide_eq_true rfl
  rw [List.filter_cons, if_pos hx, List.filter_eq_cons_iff] at hOwn
  obtain ⟨front, back, rfl, hFront, -, -⟩ := hOwn
  have hOther : ∀ y ∈ front, owner y ≠ owner x := by
    intro y hy hEq
    exact hFront y hy (decide_eq_true hEq)
  refine ⟨front, back, rfl, hOther, ?_⟩
  intro k
  have hk := h k
  rw [List.filter_append] at hk ⊢
  by_cases hx : owner x = k
  · rw [List.filter_cons, if_pos (decide_eq_true hx), List.filter_cons, if_pos (decide_eq_true hx)] at hk
    -- Nothing in front belongs to the owner of `x`.
    have hNone : front.filter (fun y => owner y = k) = [] := by
      rw [List.filter_eq_nil_iff]
      intro y hy hEq
      exact hOther y hy ((of_decide_eq_true hEq).trans hx.symm)
    rw [hNone, List.nil_append] at hk ⊢
    exact (List.cons.inj hk).2
  · have hNot : ¬ decide (owner x = k) = true := by simpa using hx
    rw [List.filter_cons, if_neg hNot, List.filter_cons, if_neg hNot] at hk
    exact hk

section Machine

variable {owner : α → κ} {step : σ → α → σ} {I : σ → Prop} (hStep : ∀ s a, I s → I (step s a))
  (hComm : ∀ s a b, I s → owner a ≠ owner b → step (step s a) b = step (step s b) a)

include hStep hComm

omit [DecidableEq κ] in
/-- An input may be moved in front of inputs of other owners. -/
theorem foldl_front {x : α} (front back : List α) (hOther : ∀ y ∈ front, owner y ≠ owner x) {s : σ} (h : I s) :
    (front ++ x :: back).foldl step s = (x :: (front ++ back)).foldl step s := by
  induction front generalizing s with
  | nil => rfl
  | cons y front ih =>
    have hFront : ∀ z ∈ front, owner z ≠ owner x := fun z hz => hOther z (List.mem_cons_of_mem _ hz)
    have hSwap := hComm s y x h (hOther y List.mem_cons_self)
    rw [List.cons_append, List.foldl_cons, ih hFront (hStep s y h), List.foldl_cons, hSwap]
    rfl

/-- Two interleavings of the same streams lead to the same state. -/
theorem foldl_sameStreams {xs ys : List α} (hSame : SameStreams owner xs ys) {s : σ} (h : I s) :
    xs.foldl step s = ys.foldl step s := by
  induction xs generalizing ys s with
  | nil => rw [hSame.eq_nil]
  | cons x xs ih =>
    obtain ⟨front, back, rfl, hOther, hRest⟩ := hSame.split
    rw [foldl_front hStep hComm front back hOther h, List.foldl_cons, List.foldl_cons]
    exact ih hRest (hStep s x h)

end Machine
end CaptureTheFlag.Interleaving
