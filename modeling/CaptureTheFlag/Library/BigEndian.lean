import Mathlib.Algebra.Group.Nat.Defs
import Mathlib.Tactic.Common

/-! # Big-endian words

Two and four byte words as byte lists, most significant byte first, with the reassembly by shifts.
-/
namespace CaptureTheFlag.BigEndian
set_option autoImplicit false

def split16 (v : BitVec 16) : List (BitVec 8) := [(v >>> 8).setWidth 8, v.setWidth 8]

def split32 (v : BitVec 32) : List (BitVec 8) :=
  [(v >>> 24).setWidth 8, (v >>> 16).setWidth 8, (v >>> 8).setWidth 8, v.setWidth 8]

def join16 (hi lo : BitVec 8) : BitVec 16 := hi.setWidth 16 <<< 8 ||| lo.setWidth 16

def join32 (b0 b1 b2 b3 : BitVec 8) : BitVec 32 :=
  b0.setWidth 32 <<< 24 ||| b1.setWidth 32 <<< 16 ||| b2.setWidth 32 <<< 8 ||| b3.setWidth 32

@[simp] theorem length_split16 (v : BitVec 16) : (split16 v).length = 2 := rfl

@[simp] theorem length_split32 (v : BitVec 32) : (split32 v).length = 4 := rfl

theorem join16_split16 (v : BitVec 16) : join16 ((v >>> 8).setWidth 8) (v.setWidth 8) = v := by
  ext i hi
  by_cases h : i < 8
  · simp [join16, h, BitVec.getLsbD_eq_getElem hi]
  · have hSum : 8 + (i - 8) = i := by omega
    simp [join16, h, hi, hSum, show i - 8 < 8 by omega, BitVec.getLsbD_eq_getElem]

theorem join32_split32 (v : BitVec 32) :
    join32 ((v >>> 24).setWidth 8) ((v >>> 16).setWidth 8) ((v >>> 8).setWidth 8) (v.setWidth 8) = v := by
  ext i hi
  have hByte : i < 8 ∨ (8 ≤ i ∧ i < 16) ∨ (16 ≤ i ∧ i < 24) ∨ 24 ≤ i := by omega
  rcases hByte with h | ⟨h, h'⟩ | ⟨h, h'⟩ | h
  · simp [join32, h, show i < 16 by omega, show i < 24 by omega, BitVec.getLsbD_eq_getElem hi]
  · have hSum : 8 + (i - 8) = i := by omega
    simp [join32, h', hSum, show ¬ i < 8 by omega, show i < 24 by omega,
      show i - 8 < 8 by omega, BitVec.getLsbD_eq_getElem hi]
  · have hSum : 16 + (i - 16) = i := by omega
    simp [join32, h', hSum, show ¬ i < 8 by omega, show ¬ i < 16 by omega, show ¬ i - 8 < 8 by omega,
      show i - 16 < 8 by omega, BitVec.getLsbD_eq_getElem hi]
  · have hSum : 24 + (i - 24) = i := by omega
    simp [join32, hSum, show ¬ i < 8 by omega, show ¬ i < 16 by omega, show ¬ i < 24 by omega,
      show ¬ i - 8 < 8 by omega, show ¬ i - 16 < 8 by omega, show i - 24 < 8 by omega,
      BitVec.getLsbD_eq_getElem hi]

theorem split16_join16 (hi lo : BitVec 8) : split16 (join16 hi lo) = [hi, lo] := by
  have hHi : (join16 hi lo >>> 8).setWidth 8 = hi := by
    ext i hLt
    simp [join16, show ¬ 8 + i < 8 by omega, show 8 + i < 16 by omega, show i < 16 by omega, hLt]
  have hLo : (join16 hi lo).setWidth 8 = lo := by
    ext i hLt
    simp [join16]
  rw [split16, hHi, hLo]

theorem split32_join32 (b0 b1 b2 b3 : BitVec 8) : split32 (join32 b0 b1 b2 b3) = [b0, b1, b2, b3] := by
  have hBeyond : ∀ (b : BitVec 8) (i : Nat), 8 ≤ i → b.getLsbD i = false := BitVec.getLsbD_of_ge
  have h0 : (join32 b0 b1 b2 b3 >>> 24).setWidth 8 = b0 := by
    ext i hLt
    simp [join32, hLt, show ¬ 24 + i < 8 by omega, show ¬ 24 + i < 16 by omega, show 24 + i < 32 by omega,
      hBeyond b1 (24 + i - 16) (by omega), hBeyond b2 (24 + i - 8) (by omega), hBeyond b3 (24 + i) (by omega)]
  have h1 : (join32 b0 b1 b2 b3 >>> 16).setWidth 8 = b1 := by
    ext i hLt
    simp [join32, hLt, show ¬ 16 + i < 8 by omega, show 16 + i < 24 by omega, show 16 + i < 32 by omega,
      hBeyond b2 (16 + i - 8) (by omega), hBeyond b3 (16 + i) (by omega)]
  have h2 : (join32 b0 b1 b2 b3 >>> 8).setWidth 8 = b2 := by
    ext i hLt
    simp [join32, hLt, show 8 + i < 16 by omega, show 8 + i < 24 by omega, show 8 + i < 32 by omega]
  have h3 : (join32 b0 b1 b2 b3).setWidth 8 = b3 := by
    ext i hLt
    simp [join32]
  rw [split32, h0, h1, h2, h3]

end CaptureTheFlag.BigEndian
