import CaptureTheFlag.Library.Fitting
import CaptureTheFlag.Shared.ByteBuffer
import Mathlib.Logic.Function.Basic

/-! # The cursors in memory

`ByteWriter` and `ByteReader` as they work on a raw buffer: a position that moves over the memory behind a pointer,
next to a capacity or a length. The list versions are their views, operation by operation; what a whole sequence of
typed writes or reads does is proved on the lists.
-/
namespace CaptureTheFlag
set_option autoImplicit false
open BigEndian Fitting

inductive Kind
  | u8
  | u16
  | u32
  | i16
deriving DecidableEq

/-- A value with the operation that carries it. -/
inductive Field
  | u8 (v : U8)
  | u16 (v : U16)
  | u32 (v : U32)
  | i16 (v : U16)
deriving DecidableEq

def Kind.width : Kind → Nat
  | .u8 => 1
  | .u16 => 2
  | .u32 => 4
  | .i16 => 2

theorem Kind.width_pos (k : Kind) : 0 < k.width := by cases k <;> decide

def Kind.zero : Kind → Field
  | .u8 => .u8 0
  | .u16 => .u16 0
  | .u32 => .u32 0
  | .i16 => .i16 0

namespace Field

def kind : Field → Kind
  | .u8 _ => .u8
  | .u16 _ => .u16
  | .u32 _ => .u32
  | .i16 _ => .i16

def bytes : Field → List U8
  | .u8 v => [v]
  | .u16 v => split16 v
  | .u32 v => split32 v
  | .i16 v => split16 v

def width (f : Field) : Nat := f.kind.width

@[simp] theorem length_bytes (f : Field) : f.bytes.length = f.width := by cases f <;> rfl

theorem length_flatMap_bytes (fields : List Field) : (fields.flatMap bytes).length = total width fields := by
  induction fields with
  | nil => rfl
  | cons f fields ih => simp [ih]

theorem total_kind (fields : List Field) : total Kind.width (fields.map kind) = total width fields := by
  rw [total, List.map_map]
  rfl

end Field

namespace ByteWriter

def write (w : ByteWriter) : Field → ByteWriter
  | .u8 v => w.u8 v
  | .u16 v => w.u16 v
  | .u32 v => w.u32 v
  | .i16 v => w.i16 v

theorem write_eq (w : ByteWriter) (f : Field) : w.write f = w.put f.bytes := by cases f <;> rfl

theorem write_fits {w : ByteWriter} {f : Field} (hOk : w.overflow = false) (hFits : w.buf.length + f.width ≤ w.cap) :
    w.write f = { w with buf := w.buf ++ f.bytes } := by
  rw [write_eq]
  exact emits_put f.bytes w hOk (by rwa [Field.length_bytes])

theorem write_refused {w : ByteWriter} {f : Field} (h : w.overflow = true ∨ w.cap < w.buf.length + f.width) :
    w.write f = { w with overflow := true } := by
  rw [write_eq, put, Field.length_bytes, if_pos h]

/-- A failed writer stays as it is. -/
theorem foldl_write_failed (w : ByteWriter) (hFailed : w.overflow = true) (fields : List Field) :
    fields.foldl write w = w := by
  induction fields with
  | nil => rfl
  | cons f fields ih =>
    have hSame : w.write f = w := by
      rw [write_refused (.inl hFailed), ← hFailed]
    rw [List.foldl_cons, hSame, ih]

theorem foldl_write (w : ByteWriter) (hOk : w.overflow = false) (hRoom : w.buf.length ≤ w.cap) (fields : List Field) :
    fields.foldl write w =
      { w with
        buf := w.buf ++ (fitting Field.width (w.cap - w.buf.length) fields).flatMap Field.bytes
        overflow := decide (fitting Field.width (w.cap - w.buf.length) fields ≠ fields) } := by
  induction fields generalizing w with
  | nil => simp [fitting, ← hOk]
  | cons f fields ih =>
    rw [List.foldl_cons, fitting]
    split
    · rename_i hFits
      have hLength : (w.buf ++ f.bytes).length = w.buf.length + f.width := by simp
      have hLeft : w.cap - (w.buf.length + f.width) = w.cap - w.buf.length - f.width := by omega
      rw [write_fits hOk (by omega), ih { w with buf := w.buf ++ f.bytes } hOk (by simp only [hLength]; omega)]
      simp [hLeft]
    · rename_i hFits
      rw [write_refused (.inr (by omega)), foldl_write_failed _ rfl]
      simp

end ByteWriter

namespace ByteReader

def read : Kind → Decoder Field
  | .u8 => Field.u8 <$> u8
  | .u16 => Field.u16 <$> u16
  | .u32 => Field.u32 <$> u32
  | .i16 => Field.i16 <$> i16

def readAll : List Kind → Decoder (List Field)
  | [] => pure []
  | k :: kinds => do
    let f ← read k
    let fields ← readAll kinds
    pure (f :: fields)

/-- A value that is there is read, and its bytes are the ones consumed. -/
theorem read_fits (k : Kind) {rest : List U8} (hFits : k.width ≤ rest.length) :
    ∃ f tail, f.kind = k ∧ rest = f.bytes ++ tail ∧ read k ⟨rest, false⟩ = (f, ⟨tail, false⟩) := by
  cases k with
  | u8 =>
    match rest, hFits with
    | b :: tail, _ => exact ⟨.u8 b, tail, rfl, rfl, rfl⟩
  | u16 =>
    match rest, hFits with
    | hi :: lo :: tail, _ => exact ⟨.u16 (join16 hi lo), tail, rfl, by rw [Field.bytes, split16_join16]; rfl, rfl⟩
  | u32 =>
    match rest, hFits with
    | b0 :: b1 :: b2 :: b3 :: tail, _ =>
      exact ⟨.u32 (join32 b0 b1 b2 b3), tail, rfl, by rw [Field.bytes, split32_join32]; rfl, rfl⟩
  | i16 =>
    match rest, hFits with
    | hi :: lo :: tail, _ => exact ⟨.i16 (join16 hi lo), tail, rfl, by rw [Field.bytes, split16_join16]; rfl, rfl⟩

theorem read_refused (k : Kind) {r : ByteReader} (h : r.underflow = true ∨ r.rest.length < k.width) :
    read k r = (k.zero, { r with underflow := true }) := by
  obtain ⟨rest, underflow⟩ := r
  cases underflow with
  | true => cases k <;> rfl
  | false =>
    have hShort : rest.length < k.width := by simpa using h
    cases k with
    | u8 =>
      match rest, hShort with
      | [], _ => rfl
    | u16 | i16 =>
      match rest, hShort with
      | [], _ => rfl
      | [_], _ => rfl
    | u32 =>
      match rest, hShort with
      | [], _ => rfl
      | [_], _ => rfl
      | [_, _], _ => rfl
      | [_, _, _], _ => rfl

/-- A failed reader hands out zeros and stays as it is. -/
theorem readAll_failed (kinds : List Kind) (rest : List U8) :
    readAll kinds ⟨rest, true⟩ = (kinds.map Kind.zero, ⟨rest, true⟩) := by
  induction kinds with
  | nil => rfl
  | cons k kinds ih => simp [readAll, read_refused k (r := ⟨rest, true⟩) (.inl rfl), ih]

theorem readAll_eq (kinds : List Kind) (rest : List U8) :
    ∃ covered tail, covered.map Field.kind = fitting Kind.width rest.length kinds ∧
      rest = covered.flatMap Field.bytes ++ tail ∧
      readAll kinds ⟨rest, false⟩ = (covered ++ (kinds.drop covered.length).map Kind.zero,
        ⟨tail, decide (fitting Kind.width rest.length kinds ≠ kinds)⟩) := by
  induction kinds generalizing rest with
  | nil => exact ⟨[], rest, rfl, rfl, rfl⟩
  | cons k kinds ih =>
    rw [fitting]
    split
    · rename_i hFits
      obtain ⟨f, more, hKind, rfl, hRead⟩ := read_fits k hFits
      obtain ⟨covered, tail, hKinds, rfl, hAll⟩ := ih more
      have hLeft : (f.bytes ++ (covered.flatMap Field.bytes ++ tail)).length - k.width =
          (covered.flatMap Field.bytes ++ tail).length := by
        rw [List.length_append, Field.length_bytes, Field.width, hKind, Nat.add_sub_cancel_left]
      refine ⟨f :: covered, tail, ?_, ?_, ?_⟩
      · rw [List.map_cons, hKind, hKinds, hLeft]
      · simp
      · rw [hLeft]
        simp [readAll, hRead, hAll]
    · rename_i hFits
      refine ⟨[], rest, rfl, rfl, ?_⟩
      simp [readAll, read_refused k (r := ⟨rest, false⟩) (.inr (by simpa using hFits)), readAll_failed]

theorem read_bytes (f : Field) (tail : List U8) : read f.kind ⟨f.bytes ++ tail, false⟩ = (f, ⟨tail, false⟩) := by
  cases f with
  | u8 v => rfl
  | u16 v => exact congrArg (fun x => (Field.u16 x.1, x.2)) (u16_run v tail)
  | u32 v => exact congrArg (fun x => (Field.u32 x.1, x.2)) (u32_run v tail)
  | i16 v => exact congrArg (fun x => (Field.i16 x.1, x.2)) (i16_run v tail)

theorem readAll_bytes (fields : List Field) (tail : List U8) :
    readAll (fields.map Field.kind) ⟨fields.flatMap Field.bytes ++ tail, false⟩ = (fields, ⟨tail, false⟩) := by
  induction fields with
  | nil => rfl
  | cons f fields ih =>
    rw [List.flatMap_cons, List.append_assoc, List.map_cons]
    simp [readAll, read_bytes, ih]

end ByteReader

namespace Cursor

/-- The memory behind the pointer, from the first byte of the buffer on. -/
structure Writer where
  mem : Nat → U8
  cap : Nat
  pos : Nat := 0
  overflow : Bool := false

namespace Writer

/-- `buf_[pos_++] = v`. -/
def store (w : Writer) (v : U8) : Writer := { w with mem := Function.update w.mem w.pos v, pos := w.pos + 1 }

def u8 (w : Writer) (v : U8) : Writer :=
  if w.overflow ∨ w.pos + 1 > w.cap then { w with overflow := true } else w.store v

def u16 (w : Writer) (v : U16) : Writer :=
  if w.overflow ∨ w.pos + 2 > w.cap then { w with overflow := true }
  else (w.store ((v >>> 8).setWidth 8)).store ((v &&& 0xFF).setWidth 8)

def u32 (w : Writer) (v : U32) : Writer :=
  if w.overflow ∨ w.pos + 4 > w.cap then { w with overflow := true }
  else
    let w := w.store ((v >>> 24).setWidth 8)
    let w := w.store ((v >>> 16 &&& 0xFF).setWidth 8)
    let w := w.store ((v >>> 8 &&& 0xFF).setWidth 8)
    w.store ((v &&& 0xFF).setWidth 8)

def i16 (w : Writer) (v : U16) : Writer := w.u16 v

def ok (w : Writer) : Bool := !w.overflow
def size (w : Writer) : Nat := w.pos

def write (w : Writer) : Field → Writer
  | .u8 v => w.u8 v
  | .u16 v => w.u16 v
  | .u32 v => w.u32 v
  | .i16 v => w.i16 v

def contents (w : Writer) : List U8 := (List.range w.pos).map w.mem

def view (w : Writer) : ByteWriter := { cap := w.cap, buf := w.contents, overflow := w.overflow }

@[simp] theorem length_contents (w : Writer) : w.contents.length = w.pos := by simp [contents]

@[simp] theorem contents_store (w : Writer) (v : U8) : (w.store v).contents = w.contents ++ [v] := by
  simp only [contents, store, List.range_succ, List.map_append, List.map_cons, List.map_nil, Function.update_self]
  congr 1
  apply List.map_congr_left
  intro i hi
  have hLt := List.mem_range.mp hi
  exact Function.update_of_ne (by omega) _ _

theorem and_byte (b : U8) : b &&& 255#8 = b := BitVec.and_allOnes

theorem view_refused (w : Writer) (bytes : List U8) (h : w.overflow = true ∨ w.pos + bytes.length > w.cap) :
    ({ w with overflow := true } : Writer).view = w.view.put bytes := by
  have hFull : w.view.overflow = true ∨ w.view.buf.length + bytes.length > w.view.cap := by simpa [view] using h
  rw [ByteWriter.put, if_pos hFull]
  rfl

theorem view_stored {w w' : Writer} (bytes : List U8) (h : ¬ (w.overflow = true ∨ w.pos + bytes.length > w.cap))
    (hContents : w'.contents = w.contents ++ bytes) (hCap : w'.cap = w.cap) (hFlag : w'.overflow = w.overflow) :
    w'.view = w.view.put bytes := by
  have hRoom : ¬ (w.view.overflow = true ∨ w.view.buf.length + bytes.length > w.view.cap) := by simpa [view] using h
  rw [ByteWriter.put, if_neg hRoom]
  simp only [view, hContents, hCap, hFlag]

theorem view_u16 (w : Writer) (v : U16) : (w.u16 v).view = w.view.put (split16 v) := by
  rw [u16]
  split
  · rename_i h
    exact view_refused w (split16 v) h
  · rename_i h
    exact view_stored (split16 v) h (by simp [and_byte, split16]) rfl rfl

/-- The memory operations are the list operations on what has been written. -/
theorem view_write (w : Writer) (f : Field) : (w.write f).view = w.view.write f := by
  rw [ByteWriter.write_eq]
  cases f with
  | u8 v =>
    rw [write, u8]
    split
    · rename_i h
      exact view_refused w [v] h
    · rename_i h
      exact view_stored [v] h (by simp) rfl rfl
  | u16 v => exact view_u16 w v
  | u32 v =>
    rw [write, u32]
    split
    · rename_i h
      exact view_refused w (split32 v) h
    · rename_i h
      exact view_stored (split32 v) h (by simp [and_byte, split32]) rfl rfl
  | i16 v => exact view_u16 w v

theorem view_foldl_write (w : Writer) (fields : List Field) :
    (fields.foldl write w).view = fields.foldl ByteWriter.write w.view := by
  induction fields generalizing w with
  | nil => rfl
  | cons f fields ih => rw [List.foldl_cons, ih, view_write, List.foldl_cons]

/-- `w'` has gone on from `w` and left the memory ahead of it alone. -/
structure GoesOn (w w' : Writer) : Prop where
  pos : w.pos ≤ w'.pos
  ahead : ∀ i, w'.pos ≤ i → w'.mem i = w.mem i

theorem GoesOn.trans {w₁ w₂ w₃ : Writer} (h : GoesOn w₁ w₂) (h' : GoesOn w₂ w₃) : GoesOn w₁ w₃ where
  pos := h.pos.trans h'.pos
  ahead i hi := (h'.ahead i hi).trans (h.ahead i (h'.pos.trans hi))

theorem goesOn_store (w : Writer) (v : U8) : GoesOn w (w.store v) where
  pos := Nat.le_succ _
  ahead i hi := by
    have hLt : w.pos < i := hi
    exact Function.update_of_ne (by omega) _ _

theorem goesOn_flag (w : Writer) : GoesOn w { w with overflow := true } := ⟨le_rfl, fun _ _ => rfl⟩

theorem goesOn_u16 (w : Writer) (v : U16) : GoesOn w (w.u16 v) := by
  rw [u16]
  split
  · exact goesOn_flag w
  · exact (goesOn_store w _).trans (goesOn_store _ _)

theorem goesOn_write (w : Writer) (f : Field) : GoesOn w (w.write f) := by
  cases f with
  | u8 v =>
    rw [write, u8]
    split
    · exact goesOn_flag w
    · exact goesOn_store w v
  | u16 v => exact goesOn_u16 w v
  | u32 v =>
    rw [write, u32]
    split
    · exact goesOn_flag w
    · exact (((goesOn_store w _).trans (goesOn_store _ _)).trans (goesOn_store _ _)).trans (goesOn_store _ _)
  | i16 v => exact goesOn_u16 w v

theorem goesOn_foldl_write (w : Writer) (fields : List Field) : GoesOn w (fields.foldl write w) := by
  induction fields generalizing w with
  | nil => exact ⟨le_rfl, fun _ _ => rfl⟩
  | cons f fields ih => exact (goesOn_write w f).trans (ih _)

/-- What the memory and the writer look like after writing `kept` of `fields`. -/
structure Wrote (mem : Nat → U8) (cap : Nat) (fields kept : List Field) (w : Writer) : Prop where
  contents : w.contents = kept.flatMap Field.bytes
  ahead : ∀ i, w.size ≤ i → w.mem i = mem i
  size : w.size ≤ cap
  ok : w.ok = false ↔ kept ≠ fields

theorem wrote_longest (mem : Nat → U8) (cap : Nat) (fields : List Field) :
    ∃ kept, Longest Field.width cap fields kept ∧ Wrote mem cap fields kept (fields.foldl write ⟨mem, cap, 0, false⟩) := by
  have hView := view_foldl_write ⟨mem, cap, 0, false⟩ fields
  have hAhead := (goesOn_foldl_write ⟨mem, cap, 0, false⟩ fields).ahead
  have hRun := ByteWriter.foldl_write { cap := cap } rfl (Nat.zero_le cap) fields
  have hLongest := fitting_longest Field.width cap fields
  rw [show (⟨mem, cap, 0, false⟩ : Writer).view = { cap := cap } from rfl, hRun] at hView
  generalize fields.foldl write ⟨mem, cap, 0, false⟩ = w at hView hAhead ⊢
  have hContents : w.contents = (fitting Field.width cap fields).flatMap Field.bytes :=
    congrArg ByteWriter.buf hView
  have hFlag : w.overflow = decide (fitting Field.width cap fields ≠ fields) := congrArg ByteWriter.overflow hView
  refine ⟨_, hLongest, hContents, hAhead, ?_, ?_⟩
  · rw [size, ← length_contents, hContents, Field.length_flatMap_bytes]
    exact hLongest.fits
  · simp [ok, hFlag]

end Writer

structure Reader where
  mem : Nat → U8
  len : Nat
  pos : Nat := 0
  underflow : Bool := false

namespace Reader

/-- `buf_[pos_++]`. -/
def load (r : Reader) : U8 × Reader := (r.mem r.pos, { r with pos := r.pos + 1 })

def u8 (r : Reader) : U8 × Reader :=
  if r.underflow ∨ r.pos + 1 > r.len then (0, { r with underflow := true }) else r.load

def u16 (r : Reader) : U16 × Reader :=
  if r.underflow ∨ r.pos + 2 > r.len then (0, { r with underflow := true })
  else
    let (hi, r) := r.load
    let (lo, r) := r.load
    (join16 hi lo, r)

def u32 (r : Reader) : U32 × Reader :=
  if r.underflow ∨ r.pos + 4 > r.len then (0, { r with underflow := true })
  else
    let (b0, r) := r.load
    let (b1, r) := r.load
    let (b2, r) := r.load
    let (b3, r) := r.load
    (join32 b0 b1 b2 b3, r)

def i16 (r : Reader) : U16 × Reader := r.u16

def ok (r : Reader) : Bool := !r.underflow

def read (r : Reader) : Kind → Field × Reader
  | .u8 => r.u8.map Field.u8 id
  | .u16 => r.u16.map Field.u16 id
  | .u32 => r.u32.map Field.u32 id
  | .i16 => r.i16.map Field.i16 id

def readAll (r : Reader) : List Kind → List Field × Reader
  | [] => ([], r)
  | k :: kinds =>
    let (f, r) := r.read k
    let (fields, r) := r.readAll kinds
    (f :: fields, r)

def view (r : Reader) : ByteReader := ⟨((List.range r.len).map r.mem).drop r.pos, r.underflow⟩

theorem read_refused (r : Reader) (k : Kind) (h : r.underflow = true ∨ r.pos + k.width > r.len) :
    r.read k = (k.zero, { r with underflow := true }) := by
  cases k <;> simp only [Kind.width] at h
  all_goals
    simp only [read, u8, u16, u32, i16, if_pos h]
    rfl

/-- The next byte, and what is left after it. -/
theorem drop_load (mem : Nat → U8) {len pos : Nat} (h : pos < len) :
    ((List.range len).map mem).drop pos = mem pos :: ((List.range len).map mem).drop (pos + 1) := by
  rw [List.drop_eq_getElem_cons (by simpa using h)]
  simp

/-- The memory operations are the list operations on what lies ahead. -/
theorem view_read (r : Reader) (k : Kind) : (r.read k).map id view = ByteReader.read k r.view := by
  by_cases h : r.underflow = true ∨ r.pos + k.width > r.len
  · have hShort : r.view.underflow = true ∨ r.view.rest.length < k.width := by
      refine h.imp_right fun hPast => ?_
      have hPos := k.width_pos
      simp only [view, List.length_drop, List.length_map, List.length_range]
      omega
    rw [read_refused r k h, ByteReader.read_refused k hShort]
    rfl
  · obtain ⟨mem, len, pos, underflow⟩ := r
    obtain ⟨rfl, hRoom⟩ : underflow = false ∧ pos + k.width ≤ len := by simpa using h
    have hFits : ¬ len < pos + k.width := by omega
    cases k <;> simp only [Kind.width] at hFits
    case u8 =>
      simp [view, read, u8, ByteReader.read, ByteReader.u8, hFits, load, drop_load mem (show pos < len by omega)]
    case u16 | i16 =>
      simp [view, read, u16, i16, ByteReader.read, ByteReader.u16, ByteReader.i16, hFits, load,
        drop_load mem (show pos < len by omega), drop_load mem (show pos + 1 < len by omega)]
    case u32 =>
      simp [view, read, u32, ByteReader.read, ByteReader.u32, hFits, load, drop_load mem (show pos < len by omega),
        drop_load mem (show pos + 1 < len by omega), drop_load mem (show pos + 1 + 1 < len by omega),
        drop_load mem (show pos + 1 + 1 + 1 < len by omega)]

theorem view_readAll (r : Reader) (kinds : List Kind) : (r.readAll kinds).map id view = ByteReader.readAll kinds r.view := by
  induction kinds generalizing r with
  | nil => rfl
  | cons k kinds ih =>
    rw [ByteReader.readAll, ByteReader.bind_run, ByteReader.bind_run, ← view_read, ByteReader.pure_run]
    change _ = ((r.read k).1 :: (ByteReader.readAll kinds (r.read k).2.view).1,
      (ByteReader.readAll kinds (r.read k).2.view).2)
    rw [← ih]
    rfl

/-- A reader stays on its buffer. -/
structure Stays (r r' : Reader) : Prop where
  mem : r'.mem = r.mem
  len : r'.len = r.len
  pos : r.pos ≤ r.len → r'.pos ≤ r.len

theorem stays_read (r : Reader) (k : Kind) : Stays r (r.read k).2 := by
  by_cases h : r.underflow = true ∨ r.pos + k.width > r.len
  · rw [read_refused r k h]
    exact ⟨rfl, rfl, id⟩
  · have hRoom : r.pos + k.width ≤ r.len := by simp only [not_or] at h; omega
    cases k <;> simp only [Kind.width] at h hRoom <;> simp only [read, u8, u16, u32, i16, if_neg h]
    all_goals exact ⟨rfl, rfl, fun _ => hRoom⟩

theorem stays_readAll (r : Reader) (kinds : List Kind) : Stays r (r.readAll kinds).2 := by
  induction kinds generalizing r with
  | nil => exact ⟨rfl, rfl, id⟩
  | cons k kinds ih =>
    have hFirst := stays_read r k
    have hRest := ih (r.read k).2
    refine ⟨hRest.mem.trans hFirst.mem, hRest.len.trans hFirst.len, fun hPos => ?_⟩
    have hLen := hRest.pos (by rw [hFirst.len]; exact hFirst.pos hPos)
    rw [hFirst.len] at hLen
    exact hLen

/-- Reading `kinds` from a buffer of `len` bytes gave `covered`, the values of the kinds `before`, and then zeros. -/
structure GaveBack (mem : Nat → U8) (kinds before : List Kind) (covered : List Field) (out : List Field × Reader) :
    Prop where
  values : out.1 = covered ++ (kinds.drop before.length).map Kind.zero
  typed : covered.map Field.kind = before
  covers : covered.flatMap Field.bytes = (List.range out.2.pos).map mem
  pos : out.2.pos = total Kind.width before
  ok : out.2.ok = false ↔ before ≠ kinds

theorem gaveBack_longest (mem : Nat → U8) (len : Nat) (kinds : List Kind) :
    ∃ before, Longest Kind.width len kinds before ∧
      ∃ covered, GaveBack mem kinds before covered (readAll ⟨mem, len, 0, false⟩ kinds) := by
  have hView := view_readAll ⟨mem, len, 0, false⟩ kinds
  have hStays := stays_readAll ⟨mem, len, 0, false⟩ kinds
  obtain ⟨covered, tail, hKinds, hRest, hRun⟩ := ByteReader.readAll_eq kinds ((List.range len).map mem)
  have hLength : ((List.range len).map mem).length = len := by simp
  rw [show (⟨mem, len, 0, false⟩ : Reader).view = ⟨(List.range len).map mem, false⟩ from rfl, hRun, hLength] at hView
  rw [hLength] at hKinds
  generalize readAll ⟨mem, len, 0, false⟩ kinds = out at hView hStays ⊢
  obtain ⟨values, mem', len', pos, underflow⟩ := out
  obtain ⟨hMem, hLen, hPos⟩ := hStays
  simp only at hMem hLen
  subst hMem hLen
  replace hPos : pos ≤ len' := hPos (Nat.zero_le _)
  obtain ⟨hValues, hEnd⟩ := Prod.mk.inj hView
  have hTail : ((List.range len').map mem').drop pos = tail := congrArg ByteReader.rest hEnd
  have hFlag : underflow = decide (fitting Kind.width len' kinds ≠ kinds) := congrArg ByteReader.underflow hEnd
  have hCovers : covered.flatMap Field.bytes = (List.range pos).map mem' := by
    have hSplit := List.take_append_drop pos ((List.range len').map mem')
    rw [hTail, hRest] at hSplit
    have hTake := List.append_cancel_right hSplit
    rw [← hRest, ← List.map_take, List.take_range, Nat.min_eq_left hPos] at hTake
    exact hTake.symm
  refine ⟨_, fitting_longest Kind.width len' kinds, covered, ?_, hKinds, hCovers, ?_, ?_⟩
  · rw [← hKinds, List.length_map]
    exact hValues
  · rw [← hKinds, Field.total_kind, ← Field.length_flatMap_bytes, hCovers]
    simp
  · simp [ok, hFlag]

end Reader

/-- Writing and then reading what has been written, with the same types. -/
theorem read_written {mem : Nat → U8} {cap : Nat} {fields : List Field} {w : Writer}
    (h : Writer.Wrote mem cap fields fields w) :
    (Reader.readAll ⟨w.mem, w.size, 0, false⟩ (fields.map Field.kind)).1 = fields ∧
      (Reader.readAll ⟨w.mem, w.size, 0, false⟩ (fields.map Field.kind)).2.ok = true := by
  have hView := Reader.view_readAll ⟨w.mem, w.size, 0, false⟩ (fields.map Field.kind)
  have hStart : (⟨w.mem, w.size, 0, false⟩ : Reader).view = ⟨fields.flatMap Field.bytes ++ [], false⟩ := by
    rw [← h.contents, List.append_nil]
    rfl
  rw [hStart, ByteReader.readAll_bytes] at hView
  obtain ⟨hValues, hEnd⟩ := Prod.mk.inj hView
  have hFlag := congrArg ByteReader.underflow hEnd
  refine ⟨hValues, ?_⟩
  rw [Reader.ok, show (Reader.readAll ⟨w.mem, w.size, 0, false⟩ (fields.map Field.kind)).2.underflow = false from hFlag]
  rfl

/-- A writer keeps the longest prefix that fits, a reader gives the longest prefix that is there, and a sequence
written in full is read back. -/
theorem sequences_exact :
    (∀ mem cap fields, ∃ kept, Longest Field.width cap fields kept ∧
      Writer.Wrote mem cap fields kept (fields.foldl Writer.write ⟨mem, cap, 0, false⟩)) ∧
    (∀ mem len kinds, ∃ before, Longest Kind.width len kinds before ∧
      ∃ covered, Reader.GaveBack mem kinds before covered (Reader.readAll ⟨mem, len, 0, false⟩ kinds)) ∧
    ∀ mem cap fields, let w := fields.foldl Writer.write ⟨mem, cap, 0, false⟩
      w.ok = true → let out := Reader.readAll ⟨w.mem, w.size, 0, false⟩ (fields.map Field.kind)
        out.1 = fields ∧ out.2.ok = true := by
  refine ⟨Writer.wrote_longest, Reader.gaveBack_longest, ?_⟩
  intro mem cap fields w hOk
  obtain ⟨kept, -, hWrote⟩ := Writer.wrote_longest mem cap fields
  have hAll : kept = fields := by
    by_contra hSome
    have hFailed := hWrote.ok.mpr hSome
    rw [hOk] at hFailed
    cases hFailed
  rw [hAll] at hWrote
  exact read_written hWrote

end Cursor
end CaptureTheFlag
