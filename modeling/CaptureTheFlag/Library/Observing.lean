import Mathlib.Data.Option.Basic

/-! # What is seen of a machine

A machine takes an action, shows something and goes on, or it gets stuck. Two states that a simulation relates show the
same to every sequence of actions.
-/
namespace CaptureTheFlag.Observing
set_option autoImplicit false

variable {σ α ω : Type} (next : σ → α → Option (ω × σ))

def observe : σ → List α → Option (List ω)
  | _, [] => some []
  | s, a :: actions => (next s a).bind fun out => (observe out.2 actions).map (out.1 :: ·)

def reach : σ → List α → Option σ
  | s, [] => some s
  | s, a :: actions => (next s a).bind fun out => reach out.2 actions

/-- Related states show the same and stay related. -/
def Simulation (R : σ → σ → Prop) : Prop :=
  ∀ s t a, R s t → Option.Rel (fun x y => x.1 = y.1 ∧ R x.2 y.2) (next s a) (next t a)

variable {next}

theorem Simulation.observe_eq {R : σ → σ → Prop} (h : Simulation next R) (actions : List α) {s t : σ} (hR : R s t) :
    observe next s actions = observe next t actions := by
  induction actions generalizing s t with
  | nil => rfl
  | cons a actions ih =>
    have hStep := h s t a hR
    rw [observe, observe]
    generalize next s a = x at hStep ⊢
    generalize next t a = y at hStep ⊢
    cases hStep with
    | none => rfl
    | some hPair =>
      obtain ⟨hSeen, hRest⟩ := hPair
      simp only [Option.bind_some, hSeen, ih hRest]

theorem rel_bind {β γ : Type} {R : β → β → Prop} {S : γ → γ → Prop} {x y : Option β} {f g : β → Option γ}
    (h : Option.Rel R x y) (hThen : ∀ a b, R a b → Option.Rel S (f a) (g b)) : Option.Rel S (x.bind f) (y.bind g) := by
  cases h with
  | none => exact .none
  | some hR => exact hThen _ _ hR

theorem rel_map {β γ : Type} {R : β → β → Prop} {S : γ → γ → Prop} {x y : Option β} {f g : β → γ} (h : Option.Rel R x y)
    (hThen : ∀ a b, R a b → S (f a) (g b)) : Option.Rel S (x.map f) (y.map g) := by
  cases h with
  | none => exact .none
  | some hR => exact .some (hThen _ _ hR)

theorem rel_foldlM {β γ : Type} {R : β → β → Prop} {f : β → γ → Option β}
    (hf : ∀ a b c, R a b → Option.Rel R (f a c) (f b c)) (l : List γ) {a b : β} (h : R a b) :
    Option.Rel R (l.foldlM f a) (l.foldlM f b) := by
  induction l generalizing a b with
  | nil => exact .some h
  | cons c l ih =>
    rw [List.foldlM_cons, List.foldlM_cons]
    exact rel_bind (hf a b c h) fun _ _ hNext => ih hNext

theorem foldlM_invariant {β γ : Type} {P : β → Prop} {f : β → γ → Option β}
    (hf : ∀ a c a', P a → f a c = some a' → P a') (l : List γ) {a b : β} (h : P a) (hRun : l.foldlM f a = some b) : P b := by
  induction l generalizing a with
  | nil =>
    cases hRun
    exact h
  | cons c l ih =>
    rw [List.foldlM_cons] at hRun
    obtain ⟨next, hNext, hRest⟩ := Option.bind_eq_some_iff.mp hRun
    exact ih (hf a c next h hNext) hRest

/-- An invariant that no action leaves, and under which no action gets stuck, holds wherever the machine gets to. -/
theorem reach_invariant {P : σ → Prop} (hStep : ∀ s a, P s → ∃ out, next s a = some out ∧ P out.2) (actions : List α)
    {s : σ} (h : P s) : ∃ t, reach next s actions = some t ∧ P t := by
  induction actions generalizing s with
  | nil => exact ⟨s, rfl, h⟩
  | cons a actions ih =>
    obtain ⟨out, hNext, hOut⟩ := hStep s a h
    rw [reach, hNext]
    exact ih hOut

end CaptureTheFlag.Observing
