import Mathlib.Data.Option.Basic
import Mathlib.Logic.Relation

/-! # Two stateful computations side by side

Two computations over one state type are related when they leave the same state and their results are related.
-/
namespace CaptureTheFlag
set_option autoImplicit false

variable {σ α β γ δ : Type}

def StateRel (R : α → β → Prop) (x : StateM σ α) (y : StateM σ β) : Prop :=
  ∀ s, (x s).2 = (y s).2 ∧ R (x s).1 (y s).1

namespace StateRel

theorem refl (x : StateM σ α) : StateRel Eq x x := fun _ => ⟨rfl, rfl⟩

theorem pure {R : α → β → Prop} {a : α} {b : β} (h : R a b) : StateRel R (pure a : StateM σ α) (Pure.pure b) :=
  fun _ => ⟨rfl, h⟩

theorem bind {R : α → β → Prop} {S : γ → δ → Prop} {x : StateM σ α} {y : StateM σ β} {f : α → StateM σ γ}
    {g : β → StateM σ δ} (hx : StateRel R x y) (hf : ∀ a b, R a b → StateRel S (f a) (g b)) :
    StateRel S (x >>= f) (y >>= g) := by
  intro s
  obtain ⟨hState, hResult⟩ := hx s
  have hThen := hf _ _ hResult (x s).2
  rw [hState] at hThen
  change (f (x s).1 (x s).2).2 = (g (y s).1 (y s).2).2 ∧ S (f (x s).1 (x s).2).1 (g (y s).1 (y s).2).1
  rw [hState]
  exact hThen

theorem andThen {S : γ → δ → Prop} (x : StateM σ α) {f : α → StateM σ γ} {g : α → StateM σ δ}
    (hf : ∀ a, StateRel S (f a) (g a)) : StateRel S (x >>= f) (x >>= g) := by
  refine bind (refl x) fun a b hSame => ?_
  subst hSame
  exact hf a

theorem ite {R : α → β → Prop} {c : Prop} [Decidable c] {x x' : StateM σ α} {y y' : StateM σ β}
    (hThen : StateRel R x y) (hElse : StateRel R x' y') : StateRel R (if c then x else x') (if c then y else y') := by
  split
  · exact hThen
  · exact hElse

end StateRel
end CaptureTheFlag
