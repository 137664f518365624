import CaptureTheFlag.Library.BigEndian
import CaptureTheFlag.Shared.GameTypes

/-! # Cursor-based reads and writes over a byte buffer

A writer keeps the bytes written so far and its capacity; a reader keeps the bytes not read yet. Each
operation checks its full width first, and a failed writer or reader refuses everything after.
-/
namespace CaptureTheFlag
set_option autoImplicit false
open BigEndian

structure ByteWriter where
  cap : Nat
  buf : List U8 := []
  overflow : Bool := false

namespace ByteWriter

def put (w : ByteWriter) (bytes : List U8) : ByteWriter :=
  if w.overflow ∨ w.buf.length + bytes.length > w.cap then { w with overflow := true }
  else { w with buf := w.buf ++ bytes }

def u8 (w : ByteWriter) (v : U8) : ByteWriter := w.put [v]
def u16 (w : ByteWriter) (v : U16) : ByteWriter := w.put (split16 v)
def u32 (w : ByteWriter) (v : U32) : ByteWriter := w.put (split32 v)
def i16 (w : ByteWriter) (v : U16) : ByteWriter := w.u16 v

def ok (w : ByteWriter) : Bool := !w.overflow
def size (w : ByteWriter) : Nat := w.buf.length

/-- With enough room, `f` appends exactly `bytes`. -/
def Emits (f : ByteWriter → ByteWriter) (bytes : List U8) : Prop :=
  ∀ w : ByteWriter, w.overflow = false → w.buf.length + bytes.length ≤ w.cap →
    f w = { w with buf := w.buf ++ bytes }

theorem emits_put (bytes : List U8) : Emits (fun w => w.put bytes) bytes := by
  intro w hOk hFits
  simp [put, hOk, hFits]

theorem emits_u8 (v : U8) : Emits (fun w => w.u8 v) [v] := emits_put _
theorem emits_u16 (v : U16) : Emits (fun w => w.u16 v) (split16 v) := emits_put _
theorem emits_u32 (v : U32) : Emits (fun w => w.u32 v) (split32 v) := emits_put _
theorem emits_i16 (v : U16) : Emits (fun w => w.i16 v) (split16 v) := emits_put _

theorem emits_nothing : Emits (fun w => w) [] := by
  intro w _ _
  simp

theorem Emits.of_eq {f : ByteWriter → ByteWriter} {a b : List U8} (hf : Emits f a) (h : a = b) : Emits f b :=
  h ▸ hf

theorem Emits.andThen {f g : ByteWriter → ByteWriter} {a b : List U8} (hf : Emits f a) (hg : Emits g b) :
    Emits (fun w => g (f w)) (a ++ b) := by
  intro w hOk hFits
  simp only [List.length_append] at hFits
  have hFirst := hf w hOk (by omega)
  have hSecond := hg { w with buf := w.buf ++ a } hOk (by simp only [List.length_append]; omega)
  simp only [hFirst, hSecond, List.append_assoc]

theorem emits_if (c : Prop) [Decidable c] {f : ByteWriter → ByteWriter} {a : List U8} (hf : Emits f a) :
    Emits (fun w => if c then f w else w) (if c then a else []) := by
  by_cases h : c
  · simpa only [h, if_true] using hf
  · simpa only [h, if_false] using emits_nothing

theorem emits_foldl {α : Type} (l : List α) {f : α → ByteWriter → ByteWriter} {bytes : α → List U8}
    (hf : ∀ a, Emits (f a) (bytes a)) :
    Emits (fun w => l.foldl (fun w a => f a w) w) (l.flatMap bytes) := by
  induction l with
  | nil => exact emits_nothing
  | cons a l ih => exact (hf a).andThen ih

theorem Emits.fresh {f : ByteWriter → ByteWriter} {bytes : List U8} (hf : Emits f bytes) (cap : Nat)
    (hFits : bytes.length ≤ cap) : f { cap := cap } = { cap := cap, buf := bytes } := by
  simpa using hf { cap := cap } rfl (by simpa using hFits)

/-- Whatever `f` writes stays inside the buffer. -/
def Bounded (f : ByteWriter → ByteWriter) : Prop :=
  ∀ w : ByteWriter, w.buf.length ≤ w.cap → (f w).buf.length ≤ (f w).cap ∧ (f w).cap = w.cap

theorem bounded_put (bytes : List U8) : Bounded (fun w => w.put bytes) := by
  intro w hFits
  simp only [put]
  split
  · exact ⟨hFits, rfl⟩
  · rename_i hRoom
    refine ⟨?_, rfl⟩
    simp only [List.length_append]
    omega

theorem Bounded.andThen {f g : ByteWriter → ByteWriter} (hf : Bounded f) (hg : Bounded g) :
    Bounded (fun w => g (f w)) := by
  intro w hFits
  obtain ⟨hFirst, hCap⟩ := hf w hFits
  obtain ⟨hSecond, hCap'⟩ := hg (f w) hFirst
  exact ⟨hSecond, hCap'.trans hCap⟩

theorem bounded_foldl {α : Type} (l : List α) {f : α → ByteWriter → ByteWriter} (hf : ∀ a, Bounded (f a)) :
    Bounded (fun w => l.foldl (fun w a => f a w) w) := by
  induction l with
  | nil => exact fun w hFits => ⟨hFits, rfl⟩
  | cons a l ih => exact (hf a).andThen ih

theorem Bounded.fresh {f : ByteWriter → ByteWriter} (hf : Bounded f) (cap : Nat) :
    (f { cap := cap }).buf.length ≤ cap := by
  obtain ⟨hFits, hCap⟩ := hf { cap := cap } (Nat.zero_le _)
  rwa [hCap] at hFits

end ByteWriter

structure ByteReader where
  rest : List U8
  underflow : Bool := false
deriving DecidableEq

abbrev Decoder (α : Type) := StateM ByteReader α

namespace ByteReader

def u8 : Decoder U8 := fun r =>
  match r.underflow, r.rest with
  | false, b :: rest => (b, { r with rest := rest })
  | _, _ => (0, { r with underflow := true })

def u16 : Decoder U16 := fun r =>
  match r.underflow, r.rest with
  | false, hi :: lo :: rest => (join16 hi lo, { r with rest := rest })
  | _, _ => (0, { r with underflow := true })

def u32 : Decoder U32 := fun r =>
  match r.underflow, r.rest with
  | false, b0 :: b1 :: b2 :: b3 :: rest => (join32 b0 b1 b2 b3, { r with rest := rest })
  | _, _ => (0, { r with underflow := true })

def i16 : Decoder U16 := u16

def ok : Decoder Bool := fun r => (!r.underflow, r)

@[simp] theorem u8_run (v : U8) (tail : List U8) : u8 ⟨v :: tail, false⟩ = (v, ⟨tail, false⟩) := rfl

@[simp] theorem u16_run (v : U16) (tail : List U8) :
    u16 ⟨split16 v ++ tail, false⟩ = (v, ⟨tail, false⟩) := by
  change (join16 _ _, _) = _
  rw [join16_split16]
  rfl

@[simp] theorem u32_run (v : U32) (tail : List U8) :
    u32 ⟨split32 v ++ tail, false⟩ = (v, ⟨tail, false⟩) := by
  change (join32 _ _ _ _, _) = _
  rw [join32_split32]
  rfl

@[simp] theorem i16_run (v : U16) (tail : List U8) :
    i16 ⟨split16 v ++ tail, false⟩ = (v, ⟨tail, false⟩) := u16_run v tail

@[simp] theorem ok_run (r : ByteReader) : ok r = (!r.underflow, r) := rfl

@[simp] theorem bind_run {α β : Type} (x : Decoder α) (f : α → Decoder β) (r : ByteReader) :
    (x >>= f) r = f (x r).1 (x r).2 := rfl

@[simp] theorem pure_run {α : Type} (a : α) (r : ByteReader) : (pure a : Decoder α) r = (a, r) := rfl

@[simp] theorem map_run {α β : Type} (f : α → β) (x : Decoder α) (r : ByteReader) :
    (f <$> x) r = (f (x r).1, (x r).2) := rfl

@[simp] theorem ite_run {α : Type} (c : Prop) [Decidable c] (x y : Decoder α) (r : ByteReader) :
    (if c then x else y) r = if c then x r else y r := by
  split <;> rfl

end ByteReader
end CaptureTheFlag
