import CaptureTheFlag.Library.BigEndian

/-! # Length-prefixed frames in a byte stream

A frame is a two byte length, a type byte and that many bytes of payload. `deframe` cuts a buffer into its complete
frames; what it cuts does not depend on how the stream was cut into buffers before.
-/
namespace CaptureTheFlag.Framing
set_option autoImplicit false
open BigEndian

abbrev Byte := BitVec 8

structure Frame where
  type : Byte
  payload : List Byte
deriving DecidableEq, Repr

def encode (f : Frame) : List Byte := split16 (BitVec.ofNat 16 f.payload.length) ++ f.type :: f.payload

def encodeAll (frames : List Frame) : List Byte := frames.flatMap encode

inductive Peek where
  | short
  | oversize
  | frame (f : Frame) (rest : List Byte)

def peek (cap : Nat) : List Byte → Peek
  | hi :: lo :: type :: rest =>
    if (join16 hi lo).toNat > cap then .oversize
    else if rest.length < (join16 hi lo).toNat then .short
    else .frame ⟨type, rest.take (join16 hi lo).toNat⟩ (rest.drop (join16 hi lo).toNat)
  | _ => .short

structure Deframed where
  frames : List Frame := []
  rest : List Byte := []
  dead : Bool := false
deriving DecidableEq, Repr

/-- Every round takes a frame off the buffer, so its length is fuel enough. -/
def deframeUpTo (cap : Nat) : Nat → List Byte → Deframed
  | 0, buf => { rest := buf }
  | fuel + 1, buf =>
    match peek cap buf with
    | .short => { rest := buf }
    | .oversize => { rest := buf, dead := true }
    | .frame f rest =>
      let d := deframeUpTo cap fuel rest
      { d with frames := f :: d.frames }

def deframe (cap : Nat) (buf : List Byte) : Deframed := deframeUpTo cap buf.length buf

theorem peek_bytes {cap : Nat} {buf rest : List Byte} {f : Frame} (h : peek cap buf = .frame f rest) :
    buf = encode f ++ rest := by
  match buf, h with
  | hi :: lo :: type :: tail, h =>
    simp only [peek] at h
    split at h
    · cases h
    · split at h
      · cases h
      · rename_i hLong
        cases h
        have hLen : (tail.take (join16 hi lo).toNat).length = (join16 hi lo).toNat := by
          rw [List.length_take]
          omega
        simp only [encode, hLen, BitVec.ofNat_toNat, BitVec.setWidth_eq, split16_join16]
        simp

theorem length_encode (f : Frame) : (encode f).length = f.payload.length + 3 := by
  simp [encode]
  omega

theorem peek_length {cap : Nat} {buf rest : List Byte} {f : Frame} (h : peek cap buf = .frame f rest) :
    rest.length < buf.length := by
  rw [peek_bytes h, List.length_append, length_encode]
  omega

theorem peek_encode {cap : Nat} (hCap : cap < 2 ^ 16) (f : Frame) (hFits : f.payload.length ≤ cap) (rest : List Byte) :
    peek cap (encode f ++ rest) = .frame f rest := by
  have hLen : (BitVec.ofNat 16 f.payload.length).toNat = f.payload.length := by
    rw [BitVec.toNat_ofNat]
    exact Nat.mod_eq_of_lt (by omega)
  simp only [encode, split16, List.cons_append, List.nil_append, peek, join16_split16, hLen]
  rw [if_neg (by omega), if_neg (by simp)]
  simp

/-- Bytes behind a frame or an oversize header change nothing about it. -/
theorem peek_append {cap : Nat} {buf : List Byte} (more : List Byte) :
    (peek cap buf = .oversize → peek cap (buf ++ more) = .oversize) ∧
    (∀ f rest, peek cap buf = .frame f rest → peek cap (buf ++ more) = .frame f (rest ++ more)) := by
  match buf with
  | [] => simp [peek]
  | [_] => simp [peek]
  | [_, _] => simp [peek]
  | hi :: lo :: type :: tail =>
    simp only [List.cons_append, peek]
    by_cases hBig : (join16 hi lo).toNat > cap
    · simp [hBig]
    · by_cases hShort : tail.length < (join16 hi lo).toNat
      · simp [hBig, hShort]
      · rw [if_neg hBig, if_neg hShort, if_neg hBig, if_neg (by rw [List.length_append]; omega)]
        refine ⟨fun h => (by cases h), fun f rest h => ?_⟩
        cases h
        rw [List.take_append_of_le_length (by omega), List.drop_append_of_le_length (by omega)]

theorem deframeUpTo_enough {cap : Nat} {buf : List Byte} {fuel : Nat} (hFuel : buf.length ≤ fuel) :
    deframeUpTo cap fuel buf = deframe cap buf := by
  induction fuel using Nat.strongRecOn generalizing buf with
  | ind fuel ih =>
    rcases Nat.eq_or_lt_of_le hFuel with hEq | hLt
    · rw [deframe, hEq]
    · obtain ⟨n, rfl⟩ := Nat.exists_eq_add_of_lt hLt
      match buf with
      | [] => simp [deframeUpTo, deframe, peek]
      | b :: tail =>
        simp only [deframe, List.length_cons, deframeUpTo]
        cases hPeek : peek cap (b :: tail) with
        | short => rfl
        | oversize => rfl
        | frame f rest =>
          have hRest := peek_length hPeek
          simp only [List.length_cons] at hRest hLt ih
          simp only
          rw [ih (tail.length + 1 + n) (by omega) (by omega), ih tail.length (by omega) (by omega)]

theorem deframe_eq (cap : Nat) (buf : List Byte) :
    deframe cap buf = match peek cap buf with
      | .short => { rest := buf }
      | .oversize => { rest := buf, dead := true }
      | .frame f rest => { deframe cap rest with frames := f :: (deframe cap rest).frames } := by
  have hMore : deframe cap buf = deframeUpTo cap (buf.length + 1) buf := (deframeUpTo_enough (by omega)).symm
  rw [hMore, deframeUpTo]
  cases hPeek : peek cap buf with
  | short => rfl
  | oversize => rfl
  | frame f rest =>
    have hRest := peek_length hPeek
    simp only [@deframeUpTo_enough cap _ _ (Nat.le_of_lt hRest)]

theorem deframe_bytes (cap : Nat) (buf : List Byte) :
    encodeAll (deframe cap buf).frames ++ (deframe cap buf).rest = buf := by
  induction hLen : buf.length using Nat.strongRecOn generalizing buf with
  | ind n ih =>
    rw [deframe_eq]
    cases hPeek : peek cap buf with
    | short => rfl
    | oversize => rfl
    | frame f rest =>
      have hRest := ih rest.length (hLen ▸ peek_length hPeek) rest rfl
      have hFront := peek_bytes hPeek
      simp only [encodeAll, List.flatMap_cons, List.append_assoc] at hRest ⊢
      rw [hRest]
      exact hFront.symm

theorem deframe_dead_append {cap : Nat} {buf : List Byte} (more : List Byte) (hDead : (deframe cap buf).dead = true) :
    (deframe cap (buf ++ more)).dead = true := by
  induction hLen : buf.length using Nat.strongRecOn generalizing buf with
  | ind n ih =>
    rw [deframe_eq] at hDead ⊢
    cases hPeek : peek cap buf with
    | short => simp [hPeek] at hDead
    | oversize => simp [(peek_append more).1 hPeek]
    | frame f rest =>
      rw [(peek_append more).2 f rest hPeek]
      simp only [hPeek] at hDead
      exact ih rest.length (hLen ▸ peek_length hPeek) hDead rfl

/-- Cutting the front first and the rest later gives the frames of the whole. -/
theorem deframe_append (cap : Nat) (buf more : List Byte) :
    deframe cap (buf ++ more) =
      { deframe cap ((deframe cap buf).rest ++ more) with
        frames := (deframe cap buf).frames ++ (deframe cap ((deframe cap buf).rest ++ more)).frames } := by
  induction hLen : buf.length using Nat.strongRecOn generalizing buf with
  | ind n ih =>
    have hCut := deframe_eq cap buf
    cases hPeek : peek cap buf with
    | short =>
      rw [hPeek] at hCut
      rw [hCut]
      rfl
    | oversize =>
      rw [hPeek] at hCut
      rw [hCut]
      rfl
    | frame f rest =>
      rw [hPeek] at hCut
      have hRest := ih rest.length (hLen ▸ peek_length hPeek) rest rfl
      rw [hCut, deframe_eq cap (buf ++ more), (peek_append more).2 f rest hPeek]
      simp only
      rw [hRest]
      simp

theorem deframe_encodeAll {cap : Nat} (hCap : cap < 2 ^ 16) (frames : List Frame)
    (hFits : ∀ f ∈ frames, f.payload.length ≤ cap) : deframe cap (encodeAll frames) = { frames } := by
  induction frames with
  | nil => rfl
  | cons f frames ih =>
    rw [deframe_eq, encodeAll, List.flatMap_cons, peek_encode hCap f (hFits f List.mem_cons_self)]
    have hRest := ih (fun g hg => hFits g (List.mem_cons_of_mem _ hg))
    rw [encodeAll] at hRest
    simp only [hRest]

theorem deframe_prefix_alive {cap : Nat} (hCap : cap < 2 ^ 16) {frames : List Frame}
    (hFits : ∀ f ∈ frames, f.payload.length ≤ cap) {buf more : List Byte} (h : buf ++ more = encodeAll frames) :
    (deframe cap buf).dead = false := by
  by_contra hDead
  have hAll := deframe_dead_append more (by simpa using hDead)
  rw [h, deframe_encodeAll hCap frames hFits] at hAll
  cases hAll

theorem deframe_frames_eq_nil {cap : Nat} {buf : List Byte} :
    (deframe cap buf).frames = [] ↔ ∀ f rest, peek cap buf ≠ .frame f rest := by
  rw [deframe_eq]
  cases peek cap buf <;> simp

theorem deframe_rest (cap : Nat) (buf : List Byte) : (deframe cap (deframe cap buf).rest).frames = [] := by
  have hAgain := congrArg Deframed.frames (deframe_append cap buf [])
  simpa using hAgain

/-- The stream is cut at the same places whether or not its end has been seen. -/
theorem deframe_split {cap : Nat} (hCap : cap < 2 ^ 16) {frames : List Frame}
    (hFits : ∀ f ∈ frames, f.payload.length ≤ cap) {buf more : List Byte} (h : buf ++ more = encodeAll frames) :
    ∃ later, frames = (deframe cap buf).frames ++ later ∧ (deframe cap buf).rest ++ more = encodeAll later := by
  have hSplit := deframe_append cap buf more
  rw [h, deframe_encodeAll hCap frames hFits] at hSplit
  have hBytes := deframe_bytes cap ((deframe cap buf).rest ++ more)
  refine ⟨_, congrArg Deframed.frames hSplit, ?_⟩
  rw [← congrArg Deframed.rest hSplit, List.append_nil] at hBytes
  exact hBytes.symm

/-- The frames of a stream that its first `n` bytes hold whole. -/
def whole : List Frame → Nat → List Frame
  | [], _ => []
  | f :: frames, n => if (encode f).length ≤ n then f :: whole frames (n - (encode f).length) else []

theorem deframe_whole {cap : Nat} (hCap : cap < 2 ^ 16) {frames : List Frame}
    (hFits : ∀ f ∈ frames, f.payload.length ≤ cap) {buf more : List Byte} (h : buf ++ more = encodeAll frames) :
    (deframe cap buf).frames = whole frames buf.length := by
  induction frames generalizing buf with
  | nil =>
    obtain ⟨rfl, -⟩ := List.append_eq_nil_iff.mp h
    rfl
  | cons f frames ih =>
    have hHead : f.payload.length ≤ cap := hFits f List.mem_cons_self
    have hTail : ∀ g ∈ frames, g.payload.length ≤ cap := fun g hMem => hFits g (List.mem_cons_of_mem _ hMem)
    rw [encodeAll, List.flatMap_cons] at h
    rw [whole]
    by_cases hLong : (encode f).length ≤ buf.length
    · rw [if_pos hLong]
      obtain ⟨left, rfl⟩ := (List.prefix_of_prefix_length_le ⟨_, rfl⟩ ⟨_, h⟩ hLong)
      rw [List.append_assoc, List.append_cancel_left_eq] at h
      rw [deframe_eq, peek_encode hCap f hHead, List.length_append, Nat.add_sub_cancel_left]
      exact congrArg (f :: ·) (ih hTail h)
    · rw [if_neg hLong]
      obtain ⟨later, hLater, -⟩ := deframe_split hCap hFits (show buf ++ more = encodeAll (f :: frames) from h)
      have hBytes := congrArg List.length (deframe_bytes cap buf)
      rw [List.length_append] at hBytes
      cases hFrames : (deframe cap buf).frames with
      | nil => rfl
      | cons g got =>
        rw [hFrames] at hLater hBytes
        obtain ⟨rfl, -⟩ := List.cons.inj hLater
        rw [encodeAll, List.flatMap_cons, List.length_append] at hBytes
        omega

end CaptureTheFlag.Framing
