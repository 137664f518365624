import Mathlib.Algebra.Order.Ring.Abs
import Mathlib.Tactic.Positivity

/-! # Rounding to a number of bits

Natural numbers rounded to `p` significant bits, to nearest with ties to even. What is lost is at most one part in
`2 ^ p`.
-/
namespace CaptureTheFlag.Rounding
set_option autoImplicit false

/-- The weight of the last bit that is kept. -/
def unit (p n : Nat) : Nat := 2 ^ (n.log2 + 1 - p)

def round (p n : Nat) : Nat :=
  let u := unit p n
  if u < 2 * (n % u) ∨ (u = 2 * (n % u) ∧ n / u % 2 = 1) then (n / u + 1) * u else n / u * u

theorem round_near (p n : Nat) : 2 * round p n ≤ 2 * n + unit p n ∧ 2 * n ≤ 2 * round p n + unit p n := by
  have hSplit := Nat.div_add_mod n (unit p n)
  have hLess : n % unit p n < unit p n := Nat.mod_lt n (Nat.two_pow_pos _)
  have hUp : (n / unit p n + 1) * unit p n = n / unit p n * unit p n + unit p n := Nat.succ_mul ..
  rw [Nat.mul_comm] at hSplit
  rw [round]
  split
  · rw [hUp]
    omega
  · omega

theorem round_zero (p : Nat) : round p 0 = 0 := by
  have hUnit : unit p 0 ≠ 0 := Nat.ne_of_gt (Nat.two_pow_pos _)
  simp [round, hUnit]

/-- A number that needs no more than `p` bits is kept. -/
theorem round_short {p n : Nat} (h : n < 2 ^ p) : round p n = n := by
  by_cases hZero : n = 0
  · rw [hZero, round_zero]
  · have hBits : n.log2 < p := (Nat.log2_lt hZero).mpr h
    have hUnit : unit p n = 1 := by rw [unit, Nat.sub_eq_zero_of_le hBits, Nat.pow_zero]
    simp [round, hUnit, Nat.mod_one]

theorem unit_le {p n : Nat} (h : 2 ^ p ≤ n) : unit p n * 2 ^ p ≤ 2 * n := by
  have hZero : n ≠ 0 := fun h0 => absurd (Nat.two_pow_pos p) (Nat.not_lt.mpr (h0 ▸ h))
  have hBits : p ≤ n.log2 := (Nat.le_log2 hZero).mpr h
  have hPow : unit p n * 2 ^ p = 2 * 2 ^ n.log2 := by
    rw [unit, ← Nat.pow_add, Nat.sub_add_cancel (Nat.le_succ_of_le hBits), Nat.pow_succ']
  rw [hPow]
  exact Nat.mul_le_mul_left 2 (Nat.log2_self_le hZero)

/-- The rounded number is off by at most one part in `2 ^ p`. -/
theorem abs_round_sub (p n : Nat) : |(round p n : Int) - n| * 2 ^ p ≤ n := by
  rcases Nat.lt_or_ge n (2 ^ p) with hShort | hLong
  · rw [round_short hShort, Int.sub_self]
    simp
  · obtain ⟨hAbove, hBelow⟩ := round_near p n
    have hUnit := unit_le hLong
    have hHalf : 2 * |(round p n : Int) - n| ≤ unit p n := by
      rw [← abs_two, ← abs_mul, abs_le]
      omega
    have hScaled : 2 * (|(round p n : Int) - n| * 2 ^ p) ≤ 2 * n := by
      calc 2 * (|(round p n : Int) - n| * 2 ^ p) = 2 * |(round p n : Int) - n| * 2 ^ p := (Int.mul_assoc ..).symm
        _ ≤ unit p n * 2 ^ p := Int.mul_le_mul_of_nonneg_right hHalf (by positivity)
        _ ≤ 2 * n := by exact_mod_cast hUnit
    omega

end CaptureTheFlag.Rounding
