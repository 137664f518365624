import Mathlib.Tactic.Common

/-! # Readers whose input may end early

A reader over a state that can fail for good, and whose input can be made longer at its end. `Stable` says that a run
that has not failed is the same on every longer input; `Vouches` says that a reader which hands over a value has not
failed.
-/
namespace CaptureTheFlag
set_option autoImplicit false

namespace Reading

variable {ρ ι α β : Type} (failed : ρ → Prop) (feed : ι → ρ → ρ)

structure Stable (d : StateM ρ α) : Prop where
  sticky : ∀ r, failed r → failed (d r).2
  longer : ∀ r, ¬ failed (d r).2 → ∀ more, d (feed more r) = ((d r).1, feed more (d r).2)

/-- Started where `P` holds, the reader has not failed if it returns a value. -/
def Vouches (P : ρ → Prop) (d : StateM ρ (Option α)) : Prop := ∀ r, P r → (d r).1.isSome = true → ¬ failed (d r).2

variable {failed feed}

theorem stable_pure (a : α) : Stable failed feed (pure a) where
  sticky _ h := h
  longer _ _ _ := rfl

theorem Stable.bind {d : StateM ρ α} {f : α → StateM ρ β} (hd : Stable failed feed d)
    (hf : ∀ a, Stable failed feed (f a)) : Stable failed feed (d >>= f) where
  sticky r h := (hf (d r).1).sticky _ (hd.sticky r h)
  longer r h more := by
    have hFirst : ¬ failed (d r).2 := fun hFailed => h ((hf (d r).1).sticky _ hFailed)
    have hRest := (hf (d r).1).longer (d r).2 h more
    change f (d (feed more r)).1 (d (feed more r)).2 = (_, feed more (f (d r).1 (d r).2).2)
    rw [hd.longer r hFirst more]
    exact hRest

theorem Stable.map {d : StateM ρ α} (hd : Stable failed feed d) (f : α → β) : Stable failed feed (f <$> d) :=
  hd.bind fun a => stable_pure (f a)

theorem stable_ite {c : Prop} [Decidable c] {d e : StateM ρ α} (hd : Stable failed feed d) (he : Stable failed feed e) :
    Stable failed feed (if c then d else e) := by
  split
  · exact hd
  · exact he

variable {P : ρ → Prop}

theorem vouches_none : Vouches failed P (pure (none : Option α)) := by
  intro r _ h
  cases h

theorem vouches_pure (o : Option α) (hP : ∀ r, P r → ¬ failed r) : Vouches failed P (pure o) := fun r h _ => hP r h

theorem vouches_bind {d : StateM ρ β} {f : β → StateM ρ (Option α)} (hf : ∀ b, Vouches failed (fun _ => True) (f b)) :
    Vouches failed P (d >>= f) := fun r _ h => hf (d r).1 (d r).2 trivial h

theorem vouches_ite {c : Prop} [Decidable c] {d e : StateM ρ (Option α)} (hd : Vouches failed P d)
    (he : Vouches failed P e) : Vouches failed P (if c then d else e) := by
  split
  · exact hd
  · exact he

theorem Vouches.map {d : StateM ρ (Option α)} (hd : Vouches failed P d) (f : α → β) :
    Vouches failed P (Option.map f <$> d) := by
  intro r hP h
  apply hd r hP
  change ((d r).1.map f).isSome = true at h
  rwa [Option.isSome_map] at h

/-- The second reader goes on only from the value of the first. -/
theorem Vouches.bind {d : StateM ρ (Option β)} {f : Option β → StateM ρ (Option α)} (hd : Vouches failed P d)
    (hNone : f none = pure none) (hSome : ∀ b, Vouches failed (fun r => ¬ failed r) (f (some b))) :
    Vouches failed P (d >>= f) := by
  intro r hP h
  change (f (d r).1 (d r).2).1.isSome = true at h
  change ¬ failed (f (d r).1 (d r).2).2
  have hFirst := hd r hP
  cases hValue : (d r).1 with
  | none =>
    rw [hValue, hNone] at h
    cases h
  | some b =>
    rw [hValue] at h hFirst
    exact hSome b _ (hFirst rfl) h

theorem accepts_longer {d : StateM ρ (Option α)} (hd : Stable failed feed d) (hVouches : Vouches failed P d) {r : ρ}
    (hP : P r) {a : α} (h : (d r).1 = some a) (more : ι) : d (feed more r) = (some a, feed more (d r).2) := by
  rw [hd.longer r (hVouches r hP (by rw [h]; rfl)) more, h]

end Reading
end CaptureTheFlag
