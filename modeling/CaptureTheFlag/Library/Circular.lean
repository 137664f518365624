import Mathlib.Data.Nat.ModEq
import Mathlib.Tactic.Common

/-! # Circular windows

A window of `count` cells that starts at `head` in an array of `n` cells and wraps around. Writing the cell
after the window appends, dropping the head cell is `tail`.
-/
namespace CaptureTheFlag.Circular
set_option autoImplicit false

variable {α β : Type} {n : Nat} [NeZero n]

def slot (n : Nat) [NeZero n] (k : Nat) : Fin n := ⟨k % n, Nat.mod_lt _ (Nat.pos_of_neZero n)⟩

def window (cells : Fin n → α) (head count : Nat) : List α :=
  (List.range count).map fun i => cells (slot n (head + i))

@[simp] theorem window_zero (cells : Fin n → α) (head : Nat) : window cells head 0 = [] := rfl

@[simp] theorem length_window (cells : Fin n → α) (head count : Nat) :
    (window cells head count).length = count := by
  simp [window]

theorem slot_add_mod (head i : Nat) : slot n (head % n + i) = slot n (head + i) := by
  simp [slot]

theorem window_mod (cells : Fin n → α) (head count : Nat) :
    window cells (head % n) count = window cells head count := by
  simp only [window, slot_add_mod]

theorem window_succ (cells : Fin n → α) (head count : Nat) :
    window cells head (count + 1) = cells (slot n head) :: window cells (head + 1) count := by
  simp only [window, List.range_succ_eq_map, List.map_cons, List.map_map, Nat.add_zero]
  congr 1
  apply List.map_congr_left
  intro i _
  simp only [Function.comp_apply, Nat.succ_eq_add_one]
  congr 2
  omega

theorem window_tail (cells : Fin n → α) (head count : Nat) :
    window cells ((head + 1) % n) (count - 1) = (window cells head count).tail := by
  rw [window_mod]
  cases count with
  | zero => rfl
  | succ count => rw [window_succ]; rfl

theorem slot_ne {a b : Nat} (hLt : a < b) (hNear : b < a + n) : slot n a ≠ slot n b := by
  intro h
  have hMod : a % n = b % n := congrArg Fin.val h
  have hDvd : n ∣ b - a := (Nat.modEq_iff_dvd' (by omega)).mp hMod
  have := Nat.le_of_dvd (by omega) hDvd
  omega

/-- Writing just past the window leaves the cells inside it alone. -/
theorem window_push (cells : Fin n → α) (head count : Nat) (a : α) (hRoom : count < n) :
    window (Function.update cells (slot n (head + count)) a) head (count + 1) =
      window cells head count ++ [a] := by
  simp only [window, List.range_succ, List.map_append, List.map_cons, List.map_nil, Function.update_self]
  congr 1
  apply List.map_congr_left
  intro i hi
  have hLt := List.mem_range.mp hi
  exact Function.update_of_ne (slot_ne (by omega) (by omega)) _ _

theorem window_snoc (cells : Fin n → α) (head count : Nat) :
    window cells head (count + 1) = window cells head count ++ [cells (slot n (head + count))] := by
  simp [window, List.range_succ]

end CaptureTheFlag.Circular
