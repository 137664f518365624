import Mathlib.Algebra.GroupWithZero.Nat
import Mathlib.Tactic.Common

/-! # The longest prefix that fits

Items have a width and there is so much room. `fitting` takes items from the front as long as they fit; it is the
longest prefix whose widths add up to no more than the room.
-/
namespace CaptureTheFlag.Fitting
set_option autoImplicit false

variable {α : Type} (width : α → Nat)

def total (items : List α) : Nat := (items.map width).sum

structure Longest (room : Nat) (items kept : List α) : Prop where
  isPrefix : kept <+: items
  fits : total width kept ≤ room
  longest : ∀ other, other <+: items → total width other ≤ room → other <+: kept

def fitting : Nat → List α → List α
  | _, [] => []
  | room, item :: items => if width item ≤ room then item :: fitting (room - width item) items else []

@[simp] theorem total_cons (item : α) (items : List α) : total width (item :: items) = width item + total width items := by
  simp [total]

theorem fitting_longest (room : Nat) (items : List α) : Longest width room items (fitting width room items) := by
  induction items generalizing room with
  | nil => exact ⟨List.prefix_rfl, Nat.zero_le _, fun _ h _ => h⟩
  | cons item items ih =>
    rw [fitting]
    split
    · rename_i hFits
      obtain ⟨hPrefix, hTotal, hLongest⟩ := ih (room - width item)
      refine ⟨List.cons_prefix_cons.mpr ⟨rfl, hPrefix⟩, by rw [total_cons]; omega, ?_⟩
      intro other hOther hRoom
      cases other with
      | nil => exact List.nil_prefix
      | cons first other =>
        obtain ⟨rfl, hRest⟩ := List.cons_prefix_cons.mp hOther
        rw [total_cons] at hRoom
        exact List.cons_prefix_cons.mpr ⟨rfl, hLongest other hRest (by omega)⟩
    · refine ⟨List.nil_prefix, Nat.zero_le _, ?_⟩
      intro other hOther hRoom
      cases other with
      | nil => exact List.prefix_rfl
      | cons first other =>
        obtain ⟨rfl, -⟩ := List.cons_prefix_cons.mp hOther
        rw [total_cons] at hRoom
        omega

end CaptureTheFlag.Fitting
