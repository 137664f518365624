import Mathlib.Algebra.Order.Ring.Int
import Mathlib.Tactic.NormNum

/-! # Checked signed arithmetic

Arithmetic on two's complement words of `w` bits that fails where the exact result does not fit. A program runs without
overflow if its checked version gives what the exact one does.
-/
namespace CaptureTheFlag.Checked
set_option autoImplicit false

/-- The value of a signed word of `w` bits. -/
def Fits (w : Nat) (a : Int) : Prop := -2 ^ (w - 1) ≤ a ∧ a < 2 ^ (w - 1)

instance (w : Nat) (a : Int) : Decidable (Fits w a) := inferInstanceAs (Decidable (_ ∧ _))

/-- A conversion that must keep the value. -/
def fit (w : Nat) (a : Int) : Option Int := if Fits w a then some a else none

def add (w : Nat) (a b : Int) : Option Int := fit w (a + b)

def sub (w : Nat) (a b : Int) : Option Int := fit w (a - b)

def mul (w : Nat) (a b : Int) : Option Int := fit w (a * b)

/-- Division towards zero; the most negative word has no quotient by -1. -/
def div (w : Nat) (a b : Int) : Option Int := if b = 0 then none else fit w (a.tdiv b)

/-- The remainder that goes with `div`. -/
def mod (w : Nat) (a b : Int) : Option Int := if b = 0 then none else fit w (a.tmod b)

/-- A conversion to an unsigned word that must keep the value. -/
def toWord (w : Nat) (a : Int) : Option (BitVec w) := if 0 ≤ a ∧ a < 2 ^ w then some (BitVec.ofInt w a) else none

/-- The index of a cell in an array of `n`. -/
def toIndex (n : Nat) (a : Int) : Option (Fin n) :=
  if h : 0 ≤ a ∧ a.toNat < n then some ⟨a.toNat, h.2⟩ else none

variable {w : Nat} {a b : Int}

theorem fits_32 : Fits 32 a ↔ -2147483648 ≤ a ∧ a < 2147483648 := Iff.rfl

theorem fits_64 : Fits 64 a ↔ -9223372036854775808 ≤ a ∧ a < 9223372036854775808 := Iff.rfl

theorem fit_eq (h : Fits w a) : fit w a = some a := if_pos h

theorem add_eq (h : Fits w (a + b)) : add w a b = some (a + b) := fit_eq h

theorem sub_eq (h : Fits w (a - b)) : sub w a b = some (a - b) := fit_eq h

theorem mul_eq (h : Fits w (a * b)) : mul w a b = some (a * b) := fit_eq h

theorem div_eq (hNonzero : b ≠ 0) (h : Fits w (a.tdiv b)) : div w a b = some (a.tdiv b) :=
  (if_neg hNonzero).trans (fit_eq h)

theorem mod_eq (hNonzero : b ≠ 0) (h : Fits w (a.tmod b)) : mod w a b = some (a.tmod b) :=
  (if_neg hNonzero).trans (fit_eq h)

theorem toWord_eq (h : 0 ≤ a ∧ a < 2 ^ w) : toWord w a = some (BitVec.ofInt w a) := if_pos h

theorem toIndex_eq {n k : Nat} (h : k < n) : toIndex n (k : Int) = some ⟨k, h⟩ :=
  dif_pos ⟨Int.natCast_nonneg k, h⟩

section Naturals

variable {m n : Nat}

theorem add_nat (h : Fits w (m + n : Nat)) : add w m n = some ((m + n : Nat) : Int) := by
  rw [Nat.cast_add] at h ⊢
  exact add_eq h

theorem sub_nat (hLe : n ≤ m) (h : Fits w (m - n : Nat)) : sub w m n = some ((m - n : Nat) : Int) := by
  rw [Nat.cast_sub hLe] at h ⊢
  exact sub_eq h

theorem mod_nat (hPos : 0 < n) (h : Fits w (m % n : Nat)) : mod w m n = some ((m % n : Nat) : Int) := by
  rw [Int.ofNat_tmod] at h ⊢
  apply mod_eq
  · exact_mod_cast hPos.ne'
  · exact h

theorem toNat?_nat : (m : Int).toNat? = some m := Int.mem_toNat?.mpr rfl

end Naturals

section Loops

variable {σ ι : Type}

/-- A loop succeeds if every iteration does where the invariant holds. -/
theorem foldlM_eq {I : σ → Prop} {step : σ → ι → σ} {checked : σ → ι → Option σ}
    (hStep : ∀ s i, I s → checked s i = some (step s i)) (hKeeps : ∀ s i, I s → I (step s i))
    (is : List ι) {s : σ}
    (h : I s) : is.foldlM checked s = some (is.foldl step s) := by
  induction is generalizing s with
  | nil => rfl
  | cons i is ih =>
    rw [List.foldlM_cons, hStep s i h]
    exact ih (hKeeps s i h)

theorem mapM_eq {α : Type} {f : ι → α} {checked : ι → Option α} (is : List ι) (h : ∀ i, checked i = some (f i)) :
    is.mapM checked = some (is.map f) := by
  have hSame : checked = fun i => some (f i) := funext h
  rw [hSame]
  exact List.mapM_pure

theorem findM?_eq {test : ι → Bool} {checked : ι → Option Bool} (is : List ι)
    (hTest : ∀ i ∈ is, checked i = some (test i)) : is.findM? checked = some (is.find? test) := by
  induction is with
  | nil => rfl
  | cons i is ih =>
    rw [List.findM?, hTest i List.mem_cons_self, List.find?_cons]
    cases test i with
    | true => rfl
    | false => exact ih fun j hMem => hTest j (List.mem_cons_of_mem i hMem)

end Loops

end CaptureTheFlag.Checked
