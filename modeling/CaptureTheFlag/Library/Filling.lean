import Mathlib.Tactic.Common

/-! # Filling in a record while reading

A computation that reads from an input and writes into a record as it goes. It can give up, and it can step out of an
array; either way what it wrote stays written. `Sat` says that it never steps out of an array and what holds of the
record when it succeeds; `Mirrors` compares it with a reader that builds a value instead.
-/
namespace CaptureTheFlag
set_option autoImplicit false

/-- How a computation ends before its end. -/
inductive Exit where
  | rejected
  | outOfBounds
deriving DecidableEq, Repr

abbrev Filling (ρ σ : Type) := ExceptT Exit (StateM (σ × ρ))

namespace Filling

variable {ρ σ α β : Type}

def read (d : StateM ρ α) : Filling ρ σ α := ExceptT.mk fun s => (.ok (d s.2).1, (s.1, (d s.2).2))

def write (f : σ → σ) : Filling ρ σ Unit := ExceptT.mk fun s => (.ok (), (f s.1, s.2))

def record : Filling ρ σ σ := ExceptT.mk fun s => (.ok s.1, s)

def store (d : StateM ρ α) (put : α → σ → σ) : Filling ρ σ Unit := read d >>= fun a => write (put a)

/-- `if (!c) return false`. -/
def require (c : Bool) : Filling ρ σ Unit := if c then pure () else throw .rejected

def when (c : Prop) [Decidable c] (d : Filling ρ σ Unit) : Filling ρ σ Unit := if c then d else pure ()

/-- A loop over indices into an array of length `n`. -/
def forIndices {n : Nat} (body : Fin n → Filling ρ σ Unit) : List Nat → Filling ρ σ Unit
  | [] => pure ()
  | i :: is => (if h : i < n then body ⟨i, h⟩ else throw .outOfBounds) >>= fun _ => forIndices body is

def commit (old : σ) : Except Exit Unit × (σ × ρ) → Except Exit Unit × (σ × ρ)
  | (.ok (), s) => (.ok (), s)
  | (.error e, s) => (.error e, (old, s.2))

/-- Run on a copy of the record, which is written back only on success. -/
def onCopy (d : Filling ρ σ Unit) : Filling ρ σ Unit := ExceptT.mk fun s => commit s.1 (d s)

theorem bind_run (d : Filling ρ σ α) (f : α → Filling ρ σ β) (s : σ × ρ) :
    (d >>= f) s = match d s with
      | (.ok a, s') => f a s'
      | (.error e, s') => (.error e, s') := by
  change (ExceptT.bindCont f (d s).1) (d s).2 = _
  rcases hRun : d s with ⟨_ | a, s'⟩ <;> rfl

def Ends (Q : α → σ → Prop) : Except Exit α × (σ × ρ) → Prop
  | (.ok a, s) => Q a s.1
  | (.error .rejected, _) => True
  | (.error .outOfBounds, _) => False

def Sat (P : σ → Prop) (d : Filling ρ σ α) (Q : α → σ → Prop) : Prop := ∀ x r, P x → Ends Q (d (x, r))

section rules

variable {P : σ → Prop} {Q : α → σ → Prop} {I : σ → Prop}

theorem sat_pure {a : α} (h : ∀ x, P x → Q a x) : Sat P (pure a : Filling ρ σ α) Q := fun x _ hP => h x hP

theorem sat_bind {R : β → σ → Prop} {d : Filling ρ σ β} {f : β → Filling ρ σ α} (hd : Sat P d R)
    (hf : ∀ b, Sat (R b) (f b) Q) : Sat P (d >>= f) Q := by
  intro x r hP
  have hFirst := hd x r hP
  rw [bind_run]
  generalize d (x, r) = result at hFirst ⊢
  rcases result with ⟨e | b, s⟩
  · cases e with
    | rejected => trivial
    | outOfBounds => exact hFirst
  · exact hf b s.1 s.2 hFirst

theorem sat_pre (P' : σ → Prop) {d : Filling ρ σ α} (hP : ∀ x, P x → P' x) (hd : Sat P' d Q) : Sat P d Q :=
  fun x r h => hd x r (hP x h)

theorem sat_write {Q : Unit → σ → Prop} {f : σ → σ} (h : ∀ x, P x → Q () (f x)) : Sat P (write f : Filling ρ σ Unit) Q :=
  fun x _ hP => h x hP

theorem sat_read {d : StateM ρ β} {f : β → Filling ρ σ α} (hf : ∀ b, Sat P (f b) Q) : Sat P (read d >>= f) Q :=
  fun x r hP => hf (d r).1 x (d r).2 hP

theorem sat_record {f : σ → Filling ρ σ α} (hf : ∀ out, Sat (fun x => x = out ∧ P x) (f out) Q) :
    Sat P (record >>= f) Q :=
  fun x r hP => hf x x r ⟨rfl, hP⟩

theorem sat_require {c : Bool} {d : Filling ρ σ α} (hd : c = true → Sat P d Q) :
    Sat P (require c >>= fun _ => d) Q := by
  cases c with
  | true => exact hd rfl
  | false => exact fun _ _ _ => trivial

theorem sat_require_last {c : Bool} (h : c = true → ∀ x, P x → I x) :
    Sat P (require c : Filling ρ σ Unit) (fun _ => I) := by
  cases c with
  | true => exact sat_pure (h rfl)
  | false => exact fun _ _ _ => trivial

theorem sat_store {d : StateM ρ α} {put : α → σ → σ} (h : ∀ a x, I x → I (put a x)) :
    Sat I (store d put) (fun _ => I) :=
  sat_read fun a => sat_write (h a)

theorem sat_when {c : Prop} [Decidable c] {d : Filling ρ σ Unit} (hd : c → Sat I d (fun _ => I)) :
    Sat I (when c d) (fun _ => I) := by
  rw [when]
  split
  · rename_i hc
    exact hd hc
  · exact sat_pure fun _ hI => hI

theorem sat_forIndices {n : Nat} {body : Fin n → Filling ρ σ Unit} (hBody : ∀ i, Sat I (body i) (fun _ => I))
    {is : List Nat} (hInside : ∀ i ∈ is, i < n) : Sat I (forIndices body is) (fun _ => I) := by
  induction is with
  | nil => exact sat_pure fun _ hI => hI
  | cons i is ih =>
    obtain ⟨hi, hInside⟩ := List.forall_mem_cons.mp hInside
    rw [forIndices, dif_pos hi]
    exact sat_bind (hBody ⟨i, hi⟩) fun _ => ih hInside

theorem sat_onCopy {Q : Unit → σ → Prop} {d : Filling ρ σ Unit} (hd : Sat P d Q) : Sat P (onCopy d) Q := by
  intro x r hP
  have hRun := hd x r hP
  change Ends Q (commit x (d (x, r)))
  generalize d (x, r) = result at hRun ⊢
  rcases result with ⟨e | a, s⟩
  · cases e with
    | rejected => trivial
    | outOfBounds => exact hRun
  · exact hRun

end rules

theorem onCopy_unchanged (d : Filling ρ σ Unit) (s : σ × ρ) (hFailed : (onCopy d s).1 ≠ .ok ()) :
    (onCopy d s).2.1 = s.1 := by
  change (commit s.1 (d s)).1 ≠ .ok () at hFailed
  change (commit s.1 (d s)).2.1 = s.1
  generalize d s = result at hFailed ⊢
  rcases result with ⟨e | a, s'⟩
  · rfl
  · exact absurd rfl hFailed

theorem onCopy_rejected {d : Filling ρ σ Unit} {s : σ × ρ} (h : (onCopy d s).1 = .error .rejected) :
    ∃ r, onCopy d s = (.error .rejected, (s.1, r)) := by
  have hKept := onCopy_unchanged d s (by rw [h]; exact fun hOk => by cases hOk)
  exact ⟨(onCopy d s).2.2, Prod.ext h (Prod.ext hKept rfl)⟩

/-- Both runs give up at the same place of the input, or both succeed there with the same result. -/
def Agree (embed : β → σ) : Except Exit Unit × (σ × ρ) → Option β × ρ → Prop
  | (.ok (), s), (some b, r) => s = (embed b, r)
  | (.error .rejected, s), (none, r) => s.2 = r
  | _, _ => False

theorem Agree.rejected {embed : β → σ} {result : Except Exit Unit × (σ × ρ)} {built : Option β × ρ}
    (h : Agree embed result built) (hNone : built.1 = none) : result.1 = .error .rejected := by
  obtain ⟨value, r⟩ := built
  obtain ⟨_ | _, s⟩ := result
  · rename_i e
    cases e with
    | rejected => rfl
    | outOfBounds => exact absurd h (by simp [Agree])
  · dsimp only at hNone
    subst hNone
    exact absurd h (by simp [Agree])

def Mirrors (embed : β → σ) (d : Filling ρ σ Unit) (x : σ) (e : StateM ρ (Option β)) : Prop :=
  ∀ r, Agree embed (d (x, r)) (e r)

/-- The same for runs that never give up. -/
def Fills (embed : β → σ) (d : Filling ρ σ Unit) (x : σ) (e : StateM ρ β) : Prop :=
  ∀ r, d (x, r) = (.ok (), (embed (e r).1, (e r).2))

section mirrors

variable {γ τ : Type} {embed : β → σ} {x : σ}

theorem mirrors_done {b : β} (h : x = embed b) : Mirrors embed (pure () : Filling ρ σ Unit) x (pure (some b)) :=
  fun r => by rw [h]; exact rfl

theorem mirrors_read {d : StateM ρ α} {f : α → Filling ρ σ Unit} {g : α → StateM ρ (Option β)}
    (h : ∀ a, Mirrors embed (f a) x (g a)) : Mirrors embed (read d >>= f) x (d >>= g) :=
  fun r => h (d r).1 (d r).2

theorem mirrors_write {f : σ → σ} {d : Filling ρ σ Unit} {e : StateM ρ (Option β)} (h : Mirrors embed d (f x) e) :
    Mirrors embed (write f >>= fun _ => d) x e :=
  fun r => h r

theorem mirrors_store {d : StateM ρ α} {put : α → σ → σ} {f : Filling ρ σ Unit} {g : α → StateM ρ (Option β)}
    (h : ∀ a, Mirrors embed f (put a x) (g a)) : Mirrors embed (store d put >>= fun _ => f) x (d >>= g) :=
  fun r => h (d r).1 (d r).2

theorem mirrors_record {f : σ → Filling ρ σ Unit} {e : StateM ρ (Option β)} (h : Mirrors embed (f x) x e) :
    Mirrors embed (record >>= f) x e :=
  fun r => h r

theorem mirrors_require {p : Prop} {_ : Decidable p} {c : Bool} (hc : c = true ↔ ¬ p) {d : Filling ρ σ Unit}
    {e : StateM ρ (Option β)} (h : ¬ p → Mirrors embed d x e) :
    Mirrors embed (require c >>= fun _ => d) x (if p then pure none else e) := by
  by_cases hp : p
  · have hFalse : c = false := Bool.eq_false_iff.mpr fun hTrue => hc.mp hTrue hp
    rw [if_pos hp, hFalse]
    exact fun r => rfl
  · rw [if_neg hp, hc.mpr hp]
    exact h hp

theorem mirrors_require_last {p : Prop} {_ : Decidable p} {c : Bool} (hc : c = true ↔ ¬ p) {b : β} (hx : x = embed b) :
    Mirrors embed (require c : Filling ρ σ Unit) x (if p then pure none else pure (some b)) := by
  by_cases hp : p
  · have hFalse : c = false := Bool.eq_false_iff.mpr fun hTrue => hc.mp hTrue hp
    rw [if_pos hp, hFalse]
    exact fun r => rfl
  · rw [if_neg hp, hc.mpr hp]
    exact mirrors_done hx

theorem mirrors_bind {d : Filling ρ σ Unit} {e : StateM ρ (Option β)} (hd : Mirrors embed d x e) {embed' : γ → σ}
    {f : Filling ρ σ Unit} {k : Option β → StateM ρ (Option γ)} (hNone : k none = pure none)
    (hSome : ∀ b, Mirrors embed' f (embed b) (k (some b))) : Mirrors embed' (d >>= fun _ => f) x (e >>= k) := by
  intro r
  have hFirst := hd r
  rw [bind_run]
  change Agree embed' _ (k (e r).1 (e r).2)
  generalize d (x, r) = result at hFirst ⊢
  generalize e r = other at hFirst ⊢
  rcases result with ⟨(_ | _) | _, s⟩ <;> rcases other with ⟨_ | b, r'⟩
  · rw [hNone]
    exact hFirst
  · exact hFirst.elim
  · exact hFirst.elim
  · exact hFirst.elim
  · exact hFirst.elim
  · have hState : s = (embed b, r') := hFirst
    rw [hState]
    exact hSome b r'

theorem mirrors_fills {d : Filling ρ σ Unit} {e : StateM ρ β} (hd : Fills embed d x e) {embed' : γ → σ}
    {f : Filling ρ σ Unit} {k : β → StateM ρ (Option γ)} (h : ∀ b, Mirrors embed' f (embed b) (k b)) :
    Mirrors embed' (d >>= fun _ => f) x (e >>= k) := by
  intro r
  rw [bind_run, hd r]
  exact h (e r).1 (e r).2

theorem mirrors_when {c : Prop} {_ : Decidable c} {d : Filling ρ σ Unit} {e : StateM ρ (Option β)} {b : β}
    (hx : x = embed b) (h : Mirrors embed d x e) : Mirrors embed (when c d) x (if c then e else pure (some b)) := by
  by_cases hc : c
  · rw [when, if_pos hc, if_pos hc]
    exact h
  · rw [when, if_neg hc, if_neg hc]
    exact mirrors_done hx

theorem mirrors_when_then {c : Prop} {_ : Decidable c} {d f : Filling ρ σ Unit} {e e' : StateM ρ (Option β)}
    (hThen : Mirrors embed (d >>= fun _ => f) x e) (hElse : Mirrors embed f x e') :
    Mirrors embed (when c d >>= fun _ => f) x (if c then e else e') := by
  by_cases hc : c
  · rw [when, if_pos hc, if_pos hc]
    exact hThen
  · rw [when, if_neg hc, if_neg hc]
    exact hElse

theorem mirrors_onCopy {d : Filling ρ σ Unit} {e : StateM ρ (Option β)} (h : Mirrors embed d x e) :
    Mirrors embed (onCopy d) x e := by
  intro r
  have hRun := h r
  change Agree embed (commit x (d (x, r))) (e r)
  generalize d (x, r) = result at hRun ⊢
  generalize e r = other at hRun ⊢
  rcases result with ⟨(_ | _) | _, s⟩ <;> rcases other with ⟨_ | b, r'⟩ <;> exact hRun

theorem fills_pure {b : β} (h : x = embed b) : Fills embed (pure () : Filling ρ σ Unit) x (pure b) :=
  fun r => by rw [h]; exact rfl

theorem fills_store {d : StateM ρ α} {put : α → σ → σ} {g : α → β} (h : ∀ a, put a x = embed (g a)) :
    Fills embed (store d put) x (d >>= fun a => pure (g a)) :=
  fun r => congrArg (fun s => (Except.ok (), (s, (d r).2))) (h (d r).1)

theorem fills_store_then {d : StateM ρ α} {put : α → σ → σ} {f : Filling ρ σ Unit} {g : α → StateM ρ β}
    (h : ∀ a, Fills embed f (put a x) (g a)) : Fills embed (store d put >>= fun _ => f) x (d >>= g) :=
  fun r => h (d r).1 (d r).2

theorem fills_write_then {f : σ → σ} {d : Filling ρ σ Unit} {e : StateM ρ β} (h : Fills embed d (f x) e) :
    Fills embed (write f >>= fun _ => d) x e :=
  fun r => h r

theorem fills_bind {d : Filling ρ σ Unit} {e : StateM ρ β} (hd : Fills embed d x e) {embed' : γ → σ}
    {f : Filling ρ σ Unit} {k : β → StateM ρ γ} (h : ∀ b, Fills embed' f (embed b) (k b)) :
    Fills embed' (d >>= fun _ => f) x (e >>= k) := by
  intro r
  rw [bind_run, hd r]
  exact h (e r).1 (e r).2

theorem fills_when {c : Prop} {_ : Decidable c} {d : Filling ρ σ Unit} {e : StateM ρ β} {b : β} (hx : x = embed b)
    (h : Fills embed d x e) : Fills embed (when c d) x (if c then e else pure b) := by
  by_cases hc : c
  · rw [when, if_pos hc, if_pos hc]
    exact h
  · rw [when, if_neg hc, if_neg hc]
    exact fills_pure hx

theorem fills_when_then {c : Prop} {_ : Decidable c} {d : Filling ρ σ Unit} {e : StateM ρ β} {b : β}
    (hx : x = embed b) (hd : Fills embed d x e) {embed' : γ → σ} {f : Filling ρ σ Unit} {k : β → StateM ρ γ}
    (h : ∀ b, Fills embed' f (embed b) (k b)) :
    Fills embed' (when c d >>= fun _ => f) x (if c then e >>= k else pure b >>= k) := by
  by_cases hc : c
  · rw [when, if_pos hc, if_pos hc]
    exact fills_bind hd h
  · rw [when, if_neg hc, if_neg hc]
    exact fills_bind (fills_pure hx) h

end mirrors

end Filling
end CaptureTheFlag
