import Mathlib.Data.Rat.Floor
import Mathlib.Tactic.Linarith
import CaptureTheFlag.Client.Interpolation

/-! # Angles along the shorter arc

`lerp_angle` over exact rationals. What a value outside the range of `uint16_t` converts to is open, so nothing here
rests on it.
-/
namespace CaptureTheFlag
set_option autoImplicit false

namespace Double

/-- Toward zero. -/
def trunc (q : ℚ) : ℤ := if 0 ≤ q then ⌊q⌋ else ⌈q⌉

def lift (f : ℚ → ℚ → Double) : Double → Double → Double
  | finite a, finite b => f a b
  | _, _ => nan

def exactDiv (a b : ℚ) : Double := if b = 0 then nan else finite (a / b)

/-- The remainder has the sign of the dividend. -/
def exactFmod (a b : ℚ) : Double := if b = 0 then nan else finite (a - b * trunc (a / b))

/-- Halves go away from zero. -/
def exactLround (q : ℚ) : ℤ := if 0 ≤ q then ⌊q + 1 / 2⌋ else ⌈q - 1 / 2⌉

end Double

/-- Arithmetic that does not round. -/
def DoubleArithmetic.exact (outside : Double → U16) : DoubleArithmetic where
  add := Double.lift fun a b => .finite (a + b)
  sub := Double.lift fun a b => .finite (a - b)
  mul := Double.lift fun a b => .finite (a * b)
  div := Double.lift Double.exactDiv
  fmod := Double.lift Double.exactFmod
  literal := .finite
  lround
    | .finite q => Double.exactLround q
    | _ => 0
  toU16
    | .finite q => if -1 < q ∧ q < 65536 then BitVec.ofInt 16 (Double.trunc q) else outside (.finite q)
    | d => outside d

namespace Interpolation

/-- The remainder that is never negative. -/
def wrap (x : ℚ) : ℚ := x - 65536 * ⌊x / 65536⌋

theorem wrap_nonneg (x : ℚ) : 0 ≤ wrap x := by
  have hFloor := Int.floor_le (x / 65536)
  rw [le_div_iff₀ (by norm_num)] at hFloor
  rw [wrap]
  linarith

theorem wrap_of_mem {x : ℚ} {k : ℤ} (hLow : 65536 * (k : ℚ) ≤ x) (hHigh : x < 65536 * (k + 1)) :
    wrap x = x - 65536 * k := by
  have hFloor : ⌊x / 65536⌋ = k := by
    rw [Int.floor_eq_iff]
    constructor
    · rw [le_div_iff₀ (by norm_num)]
      linarith
    · rw [div_lt_iff₀ (by norm_num)]
      linarith
  rw [wrap, hFloor]

/-- The correction of a negative remainder. -/
theorem fmod_corrected (x : ℚ) :
    (if x - 65536 * (Double.trunc (x / 65536) : ℚ) < 0 then x - 65536 * (Double.trunc (x / 65536) : ℚ) + 65536
      else x - 65536 * (Double.trunc (x / 65536) : ℚ)) = wrap x := by
  by_cases hSign : 0 ≤ x / 65536
  · rw [Double.trunc, if_pos hSign]
    exact if_neg (not_lt.mpr (wrap_nonneg x))
  · rw [Double.trunc, if_neg hSign]
    have hCeil := Int.le_ceil (x / 65536)
    rw [div_le_iff₀ (by norm_num)] at hCeil
    rcases hCeil.lt_or_eq with hLess | hEven
    · have hFloor := Int.ceil_lt_add_one (x / 65536)
      rw [← sub_lt_iff_lt_add, lt_div_iff₀ (by norm_num)] at hFloor
      rw [if_pos (by linarith), wrap_of_mem (k := ⌈x / 65536⌉ - 1)]
      · push_cast
        ring
      · push_cast
        linarith
      · push_cast
        linarith
    · rw [if_neg (by linarith), wrap_of_mem (k := ⌈x / 65536⌉)]
      · linarith
      · linarith

/-- The signed 16-bit difference. -/
def delta (a b : U16) : ℤ := (b - a).toInt

/-- Where the render tick is on the arc, before it is wrapped. -/
def along (a b : U16) (t : ℚ) : ℚ := a.toNat + delta a b * t

theorem delta_bounds (a b : U16) : -32768 ≤ delta a b ∧ delta a b ≤ 32767 := by
  have hLow := BitVec.le_toInt (b - a)
  have hHigh := BitVec.toInt_lt (x := b - a)
  rw [delta]
  omega

theorem lerpAngleValue_exact (outside : Double → U16) (a b : U16) (t : ℚ) :
    lerpAngleValue (.exact outside) a b (.finite t) = .finite (wrap (along a b t) + 1 / 2) := by
  have hFmod : Double.exactFmod (along a b t) ((65536 : ℤ) : ℚ) =
      .finite (along a b t - 65536 * (Double.trunc (along a b t / 65536) : ℚ)) := by
    rw [Double.exactFmod, if_neg (by norm_num)]
    norm_num
  have hSum : (((a.toNat : ℤ) : ℚ) + ((b - a).toInt : ℚ) * t) = along a b t := by
    rw [along, delta]
    norm_num
  rw [← fmod_corrected]
  simp only [lerpAngleValue, DoubleArithmetic.exact, Double.ofInt, Double.lift, hSum, hFmod]
  by_cases hNeg : along a b t - 65536 * (Double.trunc (along a b t / 65536) : ℚ) < 0
  · simp [Double.lt, hNeg]
  · simp [Double.lt, hNeg]

theorem toU16_exact (outside : Double → U16) {v : ℚ} (hLow : 0 ≤ v) (hHigh : v < 65536) :
    (DoubleArithmetic.exact outside).toU16 (.finite v) = BitVec.ofInt 16 ⌊v⌋ := by
  simp only [DoubleArithmetic.exact]
  rw [if_pos ⟨by linarith, hHigh⟩, Double.trunc, if_pos hLow]

/-- Rounding the way along the arc commutes with wrapping it. -/
theorem floor_wrap (a b : U16) (t : ℚ) :
    BitVec.ofInt 16 ⌊wrap (along a b t) + 1 / 2⌋ = a + BitVec.ofInt 16 ⌊delta a b * t + 1 / 2⌋ := by
  have hSplit : wrap (along a b t) + 1 / 2 =
      delta a b * t + 1 / 2 + ((a.toNat - 65536 * ⌊along a b t / 65536⌋ : ℤ) : ℚ) := by
    rw [wrap, along]
    push_cast
    ring
  have hTurns : BitVec.ofInt 16 (a.toNat - 65536 * ⌊along a b t / 65536⌋) = a := by
    apply BitVec.eq_of_toNat_eq
    rw [BitVec.toNat_ofInt]
    have hLt := a.isLt
    omega
  rw [hSplit, Int.floor_add_intCast, BitVec.ofInt_add, hTurns, BitVec.add_comm]

/-- `result` is the rounded way of `t` along the arc from `a` to `b`, so it is on the arc. -/
def OnShortArc (a b : U16) (t : ℚ) (result : U16) : Prop :=
  ∃ s : ℤ, result = a + BitVec.ofInt 16 s ∧ |(s : ℚ) - t * delta a b| ≤ 1 / 2 ∧
    min 0 (delta a b) ≤ s ∧ s ≤ max 0 (delta a b)

/-- The way to go is between none and all of the difference. -/
theorem delta_mul_mem (d : ℤ) {t : ℚ} (hLow : 0 ≤ t) (hHigh : t ≤ 1) :
    ((min 0 d : ℤ) : ℚ) ≤ d * t ∧ (d : ℚ) * t ≤ ((max 0 d : ℤ) : ℚ) := by
  rcases le_total 0 d with hSign | hSign
  · have hCast : (0 : ℚ) ≤ d := by exact_mod_cast hSign
    rw [min_eq_left hSign, max_eq_right hSign, Int.cast_zero]
    exact ⟨mul_nonneg hCast hLow, mul_le_of_le_one_right hCast hHigh⟩
  · have hCast : (d : ℚ) ≤ 0 := by exact_mod_cast hSign
    rw [min_eq_right hSign, max_eq_left hSign, Int.cast_zero]
    exact ⟨le_mul_of_le_one_right hCast hHigh, mul_nonpos_of_nonpos_of_nonneg hCast hLow⟩

theorem onShortArc_floor (a b : U16) {t : ℚ} (hLow : 0 ≤ t) (hHigh : t ≤ 1) :
    OnShortArc a b t (a + BitVec.ofInt 16 ⌊delta a b * t + 1 / 2⌋) := by
  obtain ⟨hMin, hMax⟩ := delta_mul_mem (delta a b) hLow hHigh
  refine ⟨⌊delta a b * t + 1 / 2⌋, rfl, ?_, ?_, ?_⟩
  · have hFloor := Int.floor_le ((delta a b : ℚ) * t + 1 / 2)
    have hNext := Int.lt_floor_add_one ((delta a b : ℚ) * t + 1 / 2)
    rw [abs_le]
    constructor
    · linarith
    · linarith
  · rw [Int.le_floor]
    linarith
  · rw [← Int.lt_add_one_iff, Int.floor_lt]
    push_cast at hMax ⊢
    linarith

/-- Where rounding after the wrap ends at a full turn. -/
def RoundsToFullTurn (x : ℚ) : Prop := (-(1 / 2) ≤ x ∧ x < 0) ∨ (65535 + 1 / 2 ≤ x ∧ x < 65536)

theorem along_bounds (a b : U16) {t : ℚ} (hLow : 0 ≤ t) (hHigh : t ≤ 1) :
    -65536 ≤ along a b t ∧ along a b t < 131071 := by
  obtain ⟨hMin, hMax⟩ := delta_mul_mem (delta a b) hLow hHigh
  obtain ⟨hDeltaLow, hDeltaHigh⟩ := delta_bounds a b
  have hStart : (a.toNat : ℚ) ≤ 65535 := by
    have hLt := a.isLt
    exact_mod_cast Nat.le_of_lt_succ hLt
  have hFrom : ((-32768 : ℤ) : ℚ) ≤ ((min 0 (delta a b) : ℤ) : ℚ) := by
    exact_mod_cast le_min (by decide) hDeltaLow
  have hTo : ((max 0 (delta a b) : ℤ) : ℚ) ≤ ((32767 : ℤ) : ℚ) := by
    exact_mod_cast max_le (by decide) hDeltaHigh
  have hNat : (0 : ℚ) ≤ a.toNat := Nat.cast_nonneg _
  rw [along]
  push_cast at hFrom hTo hMin hMax
  constructor
  · linarith
  · linarith

theorem wrap_rounds_iff {x : ℚ} (hLow : -65536 ≤ x) (hHigh : x < 131071) :
    wrap x + 1 / 2 < 65536 ↔ ¬ RoundsToFullTurn x := by
  rcases lt_or_ge x 0 with hNeg | hNonneg
  · have hWrap : wrap x = x + 65536 := by
      rw [wrap_of_mem (k := -1) (by push_cast; linarith) (by push_cast; linarith)]
      push_cast
      ring
    rw [hWrap, RoundsToFullTurn]
    constructor
    · rintro hLess (⟨hNear, -⟩ | ⟨hNear, -⟩)
      · linarith
      · linarith
    · intro hFar
      by_contra hFull
      exact hFar (Or.inl ⟨by linarith, hNeg⟩)
  · rcases lt_or_ge x 65536 with hTurn | hOver
    · have hWrap : wrap x = x := by
        rw [wrap_of_mem (k := 0) (by push_cast; linarith) (by push_cast; linarith)]
        push_cast
        ring
      rw [hWrap, RoundsToFullTurn]
      constructor
      · rintro hLess (⟨-, hNeg⟩ | ⟨hNear, -⟩)
        · linarith
        · linarith
      · intro hFar
        by_contra hFull
        exact hFar (Or.inr ⟨by linarith, hTurn⟩)
    · have hWrap : wrap x = x - 65536 := by
        rw [wrap_of_mem (k := 1) (by push_cast; linarith) (by push_cast; linarith)]
        push_cast
        ring
      rw [hWrap, RoundsToFullTurn]
      constructor
      · rintro - (⟨-, hNeg⟩ | ⟨-, hTurn⟩)
        · linarith
        · linarith
      · intro _
        linarith

/-- The conversion is defined and the result on the shorter arc, unless rounding ends at a full turn. -/
theorem lerpAngle_short_arc_iff (outside : Double → U16) (a b : U16) {t : ℚ} (ht : 0 ≤ t ∧ t ≤ 1) :
    (∃ value : ℚ, lerpAngleValue (.exact outside) a b (.finite t) = .finite value ∧ 0 ≤ value ∧ value < 65536 ∧
      OnShortArc a b t (lerpAngle (.exact outside) a b (.finite t))) ↔
      ¬ RoundsToFullTurn (a.toNat + delta a b * t) := by
  obtain ⟨hLow, hHigh⟩ := along_bounds a b ht.1 ht.2
  have hValue := lerpAngleValue_exact outside a b t
  have hNonneg := wrap_nonneg (along a b t)
  rw [← along, ← wrap_rounds_iff hLow hHigh, hValue]
  constructor
  · rintro ⟨value, hSame, -, hLess, -⟩
    obtain rfl := Double.finite.inj hSame
    exact hLess
  · intro hLess
    refine ⟨_, rfl, by linarith, hLess, ?_⟩
    rw [lerpAngle, hValue, toU16_exact outside (by linarith) hLess, floor_wrap]
    exact onShortArc_floor a b ht.1 ht.2

/-- Half the way from 65000 to 500. -/
theorem lerpAngle_short_arc_half :
    OnShortArc 65000 500 (1 / 2) (lerpAngle (.exact fun _ => 0) 65000 500 (.finite (1 / 2))) := by
  have hIff := lerpAngle_short_arc_iff (fun _ => 0) 65000 500 (t := 1 / 2) (by norm_num)
  have hDelta : delta 65000 500 = 1036 := by decide
  have hStart : (65000 : U16).toNat = 65000 := by decide
  obtain ⟨-, -, -, -, hArc⟩ := hIff.mpr (by
    rw [hDelta, hStart, RoundsToFullTurn]
    norm_num)
  exact hArc

/-- Three quarters of the way from 65535 to 0. -/
theorem lerpAngle_undefined :
    ¬ ∀ (a b : U16) (t : ℚ), 0 ≤ t → t ≤ 1 → ∃ value : ℚ,
      lerpAngleValue (.exact fun _ => 0) a b (.finite t) = .finite value ∧ 0 ≤ value ∧ value < 65536 := by
  intro hAll
  obtain ⟨value, hSame, -, hLess⟩ := hAll 65535 0 (3 / 4) (by norm_num) (by norm_num)
  have hDelta : delta 65535 0 = 1 := by decide
  have hStart : (65535 : U16).toNat = 65535 := by decide
  have hAlong : along 65535 0 (3 / 4) = 65535 + 3 / 4 := by
    rw [along, hDelta, hStart]
    norm_num
  rw [lerpAngleValue_exact, hAlong, wrap_of_mem (k := 0) (by norm_num) (by norm_num)] at hSame
  obtain rfl := Double.finite.inj hSame
  norm_num at hLess

end Interpolation
end CaptureTheFlag
