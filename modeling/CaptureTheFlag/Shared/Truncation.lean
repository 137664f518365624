import CaptureTheFlag.Library.Reading
import CaptureTheFlag.Shared.Codec
import CaptureTheFlag.Shared.DeltaBlind
import CaptureTheFlag.Shared.DeltaRoundtrip
import CaptureTheFlag.Shared.InPlaceMirror

/-! # Messages cut short

A reader that has run out of bytes yields zeros, which send a decoder down other branches; still no decoder returns a
value from it. What a decoder does accept it accepts with more bytes behind it, and then leaves those unread, while a
whole message is read to its last byte or refused.
-/
namespace CaptureTheFlag
set_option autoImplicit false
open Protocol BigEndian ByteWriter Reading

namespace ByteReader

def Failed (r : ByteReader) : Prop := r.underflow = true

/-- The same reader with more bytes to come. -/
def feed (more : List U8) (r : ByteReader) : ByteReader := { r with rest := r.rest ++ more }

/-- A decoder that does not look past what it reads. -/
abbrev Steady {α : Type} (d : Decoder α) : Prop := Stable Failed feed d

/-- A decoder that returns nothing from a reader that has run out. -/
abbrev Checked {α : Type} (d : Decoder (Option α)) : Prop := Vouches Failed (fun _ => True) d

/-- The same for a reader that has not run out before. -/
abbrev CheckedFrom {α : Type} (d : Decoder (Option α)) : Prop := Vouches Failed (fun r => ¬ Failed r) d

theorem steady_u8 : Steady u8 where
  sticky := by
    rintro ⟨rest, underflow⟩ (rfl : underflow = true)
    rfl
  longer := by
    rintro ⟨_ | ⟨b, rest⟩, _ | _⟩ hOk more
    all_goals first | rfl | exact absurd rfl hOk

theorem steady_u16 : Steady u16 where
  sticky := by
    rintro ⟨rest, underflow⟩ (rfl : underflow = true)
    rfl
  longer := by
    rintro ⟨_ | ⟨hi, _ | ⟨lo, rest⟩⟩, _ | _⟩ hOk more
    all_goals first | rfl | exact absurd rfl hOk

theorem steady_u32 : Steady u32 where
  sticky := by
    rintro ⟨rest, underflow⟩ (rfl : underflow = true)
    rfl
  longer := by
    rintro ⟨_ | ⟨b0, _ | ⟨b1, _ | ⟨b2, _ | ⟨b3, rest⟩⟩⟩⟩, _ | _⟩ hOk more
    all_goals first | rfl | exact absurd rfl hOk

theorem steady_ok : Steady ok where
  sticky _ h := h
  longer _ _ _ := rfl

/-- `return r.ok()`. -/
theorem checked_ok {α : Type} (o : Option α) : Checked (ok >>= fun b => pure (if b then o else none)) := by
  rintro ⟨rest, _ | _⟩ - h
  · exact Bool.false_ne_true
  · cases h

/-- `if (!r.ok()) return false`. -/
theorem checked_guard {α : Type} {d : Decoder (Option α)} (hd : CheckedFrom d) :
    Checked (ok >>= fun b => if (!b) = true then pure none else d) := by
  rintro ⟨rest, _ | _⟩ - h
  · exact hd _ Bool.false_ne_true h
  · cases h

theorem checked_guard_or {α : Type} {c : Prop} [Decidable c] {d : Decoder (Option α)} (hd : CheckedFrom d) :
    Checked (ok >>= fun b => if (!b) = true ∨ c then pure none else d) := by
  rintro ⟨rest, _ | _⟩ - h
  · by_cases hc : c
    · rw [bind_run, ite_run, if_pos (Or.inr hc)] at h
      cases h
    · rw [bind_run, ite_run, if_neg (by simp [ok, hc])] at h ⊢
      exact hd _ Bool.false_ne_true h
  · cases h

/-- A message that is refused whole, or read to its last byte, is refused when it is cut short. -/
theorem refuses_cut {α : Type} {d : Decoder (Option α)} (hd : Steady d) (hChecked : Checked d) {cut more : List U8}
    (hMore : more ≠ []) (hWhole : (d ⟨cut ++ more, false⟩).1 = none ∨ (d ⟨cut ++ more, false⟩).2.rest = []) :
    (d ⟨cut, false⟩).1 = none := by
  cases hValue : (d ⟨cut, false⟩).1 with
  | none => rfl
  | some a =>
    have hLonger := accepts_longer hd hChecked trivial hValue more
    change d ⟨cut ++ more, false⟩ = _ at hLonger
    rw [hLonger] at hWhole
    rcases hWhole with hNone | hRest
    · cases hNone
    · exact absurd (List.append_eq_nil_iff.mp hRest).2 hMore

theorem checkedFrom_pure {α : Type} (o : Option α) : CheckedFrom (pure o) := vouches_pure o fun _ h => h

end ByteReader

namespace Protocol

open ByteReader

theorem steady_readVec2 : Steady readVec2 :=
  steady_u16.bind fun _ => steady_u16.bind fun _ => stable_pure _

theorem steady_readName : Steady readName := by
  suffices h : ∀ is name, Steady (readNameFrom is name) from h _ _
  intro is
  induction is with
  | nil => exact fun name => stable_pure name
  | cons i is ih => exact fun name => steady_u8.bind fun c => ih _

theorem steady_decodeUdpHeader : Steady decodeUdpHeader :=
  steady_u16.bind fun _ => steady_u8.bind fun _ => steady_u8.bind fun _ => steady_u32.bind fun _ =>
    steady_ok.bind fun _ => stable_ite (stable_pure _) (stable_ite (stable_pure _) (stable_pure _))

theorem checked_decodeUdpHeader : Checked decodeUdpHeader :=
  vouches_bind fun _ => vouches_bind fun _ => vouches_bind fun _ => vouches_bind fun _ =>
    checked_guard (vouches_ite (checkedFrom_pure _) (checkedFrom_pure _))

theorem steady_decodeJoinLobby : Steady decodeJoinLobby :=
  steady_readName.bind fun _ => steady_ok.bind fun _ => stable_pure _

theorem steady_decodeJoinAccept : Steady decodeJoinAccept :=
  steady_u8.bind fun _ => steady_u32.bind fun _ => steady_u16.bind fun _ => steady_ok.bind fun _ => stable_pure _

theorem steady_decodeJoinReject : Steady decodeJoinReject :=
  steady_u8.bind fun _ => steady_ok.bind fun _ => stable_ite (stable_pure _) (stable_ite (stable_pure _)
    (stable_ite (stable_pure _) (stable_ite (stable_pure _) (stable_pure _))))

theorem checked_decodeJoinReject : Checked decodeJoinReject :=
  vouches_bind fun _ => checked_guard (vouches_ite (checkedFrom_pure _) (vouches_ite (checkedFrom_pure _)
    (vouches_ite (checkedFrom_pure _) (checkedFrom_pure _))))

theorem steady_decodeLobbySlots (is : List (Fin kMaxPlayers)) (out : MsgLobbyState) :
    Steady (decodeLobbySlots is out) := by
  induction is generalizing out with
  | nil => exact stable_pure out
  | cons i is ih => exact steady_u8.bind fun id => steady_readName.bind fun name => ih _

theorem steady_decodeLobbyState : Steady decodeLobbyState :=
  steady_u8.bind fun _ => stable_ite (stable_pure _) ((steady_decodeLobbySlots _ _).bind fun _ =>
    steady_u8.bind fun _ => steady_ok.bind fun _ => stable_pure _)

theorem checked_decodeLobbyState : Checked decodeLobbyState :=
  vouches_bind fun _ => vouches_ite vouches_none (vouches_bind fun _ => vouches_bind fun _ => checked_ok _)

theorem steady_decodeGameStartSlots (is : List (Fin kMaxPlayers)) (out : MsgGameStart) :
    Steady (decodeGameStartSlots is out) := by
  induction is generalizing out with
  | nil => exact stable_pure _
  | cons i is ih =>
    refine steady_u8.bind fun id => steady_u8.bind fun teamRaw => ?_
    cases decodeTeam teamRaw with
    | none => exact stable_pure _
    | some team => exact steady_readVec2.bind fun spawn => ih _

theorem steady_decodeGameStart : Steady decodeGameStart :=
  steady_u8.bind fun _ => steady_u32.bind fun _ => steady_ok.bind fun _ => stable_ite (stable_pure _)
    ((steady_decodeGameStartSlots _ _).bind fun _ => steady_ok.bind fun _ => stable_pure _)

theorem checked_decodeGameStart : Checked decodeGameStart :=
  vouches_bind fun _ => vouches_bind fun _ => checked_guard_or (vouches_bind fun _ => checked_ok _)

theorem steady_decodeStartRequest : Steady decodeStartRequest := steady_ok.bind fun _ => stable_pure _

theorem steady_decodeHeartbeat : Steady decodeHeartbeat := steady_ok.bind fun _ => stable_pure _

theorem steady_decodeUdpHello : Steady decodeUdpHello :=
  steady_u8.bind fun _ => steady_u32.bind fun _ => steady_ok.bind fun _ => stable_pure _

theorem steady_decodeInputs (is : List (Fin kInputRedundancy)) (out : MsgPlayerInput) :
    Steady (decodeInputs is out) := by
  induction is generalizing out with
  | nil => exact stable_pure out
  | cons i is ih => exact steady_u8.bind fun buttons => steady_u16.bind fun aimAngle => ih _

theorem steady_decodePlayerInput : Steady decodePlayerInput :=
  steady_u8.bind fun _ => steady_u32.bind fun _ => steady_u32.bind fun _ => steady_u8.bind fun _ =>
    stable_ite (stable_pure _) ((steady_decodeInputs _ _).bind fun _ => steady_ok.bind fun _ => stable_pure _)

theorem checked_decodePlayerInput : Checked decodePlayerInput :=
  vouches_bind fun _ => vouches_bind fun _ => vouches_bind fun _ => vouches_bind fun _ =>
    vouches_ite vouches_none (vouches_bind fun _ => checked_ok _)

theorem steady_decodePlayerStates (is : List (Fin kMaxPlayers)) (out : WorldSnapshot) :
    Steady (decodePlayerStates is out) := by
  induction is generalizing out with
  | nil => exact stable_pure out
  | cons i is ih =>
    refine Stable.bind ?_ fun p => ih _
    exact steady_u8.bind fun _ => steady_readVec2.bind fun _ => steady_u16.bind fun _ => steady_u8.bind fun _ =>
      steady_u8.bind fun _ => stable_pure _

theorem steady_decodeWorldSnapshot : Steady decodeWorldSnapshot := by
  refine steady_u32.bind fun seq => steady_u32.bind fun tick => steady_u8.bind fun count => steady_u8.bind fun red => ?_
  refine steady_u8.bind fun blue => steady_u8.bind fun redRaw => steady_u8.bind fun blueRaw => ?_
  refine steady_u8.bind fun scoreRed => steady_u8.bind fun scoreBlue => steady_u16.bind fun seconds => ?_
  refine steady_ok.bind fun _ => stable_ite (stable_pure _) ?_
  cases decodeFlagState redRaw with
  | none => exact stable_pure _
  | some stateRed =>
    cases decodeFlagState blueRaw with
    | none => exact stable_pure _
    | some stateBlue =>
      exact (steady_decodePlayerStates _ _).bind fun _ => steady_ok.bind fun _ => stable_pure _

theorem checked_decodeWorldSnapshot : Checked decodeWorldSnapshot := by
  refine vouches_bind fun seq => vouches_bind fun tick => vouches_bind fun count => vouches_bind fun red => ?_
  refine vouches_bind fun blue => vouches_bind fun redRaw => vouches_bind fun blueRaw => ?_
  refine vouches_bind fun scoreRed => vouches_bind fun scoreBlue => vouches_bind fun seconds => checked_guard_or ?_
  cases decodeFlagState redRaw with
  | none => exact vouches_none
  | some stateRed =>
    cases decodeFlagState blueRaw with
    | none => exact vouches_none
    | some stateBlue => exact vouches_bind fun _ => checked_ok _

theorem steady_decodeShotFired : Steady decodeShotFired :=
  steady_u8.bind fun _ => steady_readVec2.bind fun _ => steady_u16.bind fun _ => steady_readVec2.bind fun _ =>
    steady_ok.bind fun _ => stable_pure _

theorem steady_decodePlayerKilled : Steady decodePlayerKilled :=
  steady_u8.bind fun _ => steady_u8.bind fun _ => steady_u32.bind fun _ => steady_ok.bind fun _ => stable_pure _

theorem steady_decodePlayerRespawned : Steady decodePlayerRespawned :=
  steady_u8.bind fun _ => steady_readVec2.bind fun _ => steady_u32.bind fun _ => steady_ok.bind fun _ => stable_pure _

theorem steady_decodeFlagTouched : Steady decodeFlagTouched :=
  steady_u8.bind fun _ => steady_u8.bind fun _ => steady_u32.bind fun _ => steady_ok.bind fun _ =>
    stable_ite (stable_pure _) (stable_pure _)

theorem checked_decodeFlagTouched : Checked decodeFlagTouched :=
  vouches_bind fun _ => vouches_bind fun _ => vouches_bind fun _ => checked_guard (checkedFrom_pure _)

theorem steady_decodeFlagDropped : Steady decodeFlagDropped :=
  steady_u8.bind fun _ => steady_readVec2.bind fun _ => steady_u32.bind fun _ => steady_ok.bind fun _ =>
    stable_ite (stable_pure _) (stable_pure _)

theorem checked_decodeFlagDropped : Checked decodeFlagDropped :=
  vouches_bind fun _ => vouches_bind fun _ => vouches_bind fun _ => checked_guard (checkedFrom_pure _)

theorem steady_decodeMatchEnd : Steady decodeMatchEnd :=
  steady_u8.bind fun _ => steady_u8.bind fun _ => steady_u8.bind fun _ => steady_ok.bind fun _ =>
    stable_ite (stable_pure _) (stable_pure _)

theorem checked_decodeMatchEnd : Checked decodeMatchEnd :=
  vouches_bind fun _ => vouches_bind fun _ => vouches_bind fun _ => checked_guard (checkedFrom_pure _)

namespace Message

theorem steady_decode (t : Option MessageType) : Steady (decode t) := by
  match t with
  | none => exact steady_decodeUdpHeader.map _
  | some .joinLobby => exact steady_decodeJoinLobby.map _
  | some .joinAccept => exact steady_decodeJoinAccept.map _
  | some .joinReject => exact steady_decodeJoinReject.map _
  | some .lobbyState => exact steady_decodeLobbyState.map _
  | some .startRequest => exact steady_decodeStartRequest.map _
  | some .gameStart => exact steady_decodeGameStart.map _
  | some .udpHello => exact steady_decodeUdpHello.map _
  | some .playerInput => exact steady_decodePlayerInput.map _
  | some .worldSnapshot => exact steady_decodeWorldSnapshot.map _
  | some .shotFired => exact steady_decodeShotFired.map _
  | some .playerKilled => exact steady_decodePlayerKilled.map _
  | some .playerRespawned => exact steady_decodePlayerRespawned.map _
  | some .flagPickedUp | some .flagReturned | some .flagCaptured => exact steady_decodeFlagTouched.map _
  | some .flagDropped => exact steady_decodeFlagDropped.map _
  | some .matchEnd => exact steady_decodeMatchEnd.map _
  | some .heartbeat => exact steady_decodeHeartbeat.map _
  | some .deltaSnapshot => exact stable_pure _

theorem checked_decode (t : Option MessageType) : Checked (decode t) := by
  match t with
  | none => exact checked_decodeUdpHeader.map _
  | some .joinLobby => exact (vouches_bind fun _ => checked_ok _ : Checked decodeJoinLobby).map _
  | some .joinAccept =>
    exact (vouches_bind fun _ => vouches_bind fun _ => vouches_bind fun _ => checked_ok _ : Checked decodeJoinAccept).map _
  | some .joinReject => exact checked_decodeJoinReject.map _
  | some .lobbyState => exact checked_decodeLobbyState.map _
  | some .startRequest => exact (checked_ok _ : Checked decodeStartRequest).map _
  | some .gameStart => exact checked_decodeGameStart.map _
  | some .udpHello => exact (vouches_bind fun _ => vouches_bind fun _ => checked_ok _ : Checked decodeUdpHello).map _
  | some .playerInput => exact checked_decodePlayerInput.map _
  | some .worldSnapshot => exact checked_decodeWorldSnapshot.map _
  | some .shotFired =>
    exact (vouches_bind fun _ => vouches_bind fun _ => vouches_bind fun _ => vouches_bind fun _ => checked_ok _ :
      Checked decodeShotFired).map _
  | some .playerKilled =>
    exact (vouches_bind fun _ => vouches_bind fun _ => vouches_bind fun _ => checked_ok _ :
      Checked decodePlayerKilled).map _
  | some .playerRespawned =>
    exact (vouches_bind fun _ => vouches_bind fun _ => vouches_bind fun _ => checked_ok _ :
      Checked decodePlayerRespawned).map _
  | some .flagPickedUp | some .flagReturned | some .flagCaptured => exact checked_decodeFlagTouched.map _
  | some .flagDropped => exact checked_decodeFlagDropped.map _
  | some .matchEnd => exact checked_decodeMatchEnd.map _
  | some .heartbeat => exact (checked_ok _ : Checked decodeHeartbeat).map _
  | some .deltaSnapshot => exact vouches_none

theorem decode_invalid {m : Message} (h : ¬ m.Valid) : (decode m.type ⟨m.bytes, false⟩).1 = none := by
  cases m with
  | udpHeader hdr =>
    have hRun := ByteReader.u32_run hdr.tick []
    rw [List.append_nil] at hRun
    simp only [Valid, not_and_or] at h
    simp [Message.type, decode, bytes, decodeUdpHeader, hRun, h]
  | lobbyState msg =>
    simp only [Valid, Nat.not_le] at h
    simp [Message.type, decode, bytes, decodeLobbyState, lobbyStateBytes, h]
  | gameStart msg =>
    simp only [Valid, Nat.not_le] at h
    simp [Message.type, decode, bytes, decodeGameStart, gameStartBytes, h]
  | playerInput msg =>
    simp only [Valid, Nat.not_le] at h
    simp [Message.type, decode, bytes, decodePlayerInput, playerInputBytes, h]
  | worldSnapshot snap =>
    simp only [Valid, Nat.not_le] at h
    simp [Message.type, decode, bytes, decodeWorldSnapshot, worldSnapshotBytes, h]
  | _ => exact absurd trivial h

theorem cut_refused (m : Message) {cut more : List U8} (hCut : m.bytes = cut ++ more) (hMore : more ≠ []) :
    (decode m.type ⟨cut, false⟩).1 = none := by
  refine refuses_cut (steady_decode _) (checked_decode _) hMore ?_
  rw [← hCut]
  by_cases hValid : m.Valid
  · have hRun := decode_bytes hValid []
    rw [List.append_nil] at hRun
    rw [hRun]
    exact Or.inr rfl
  · exact Or.inl (decode_invalid hValid)

end Message

theorem steady_field {α β : Type} {c : Prop} {_ : Decidable c} {x : Decoder β} (hx : Steady x) {f : β → α} {a : α} :
    Steady (if c then (do return f (← x)) else pure a) :=
  stable_ite (hx.bind fun _ => stable_pure _) (stable_pure _)

theorem steady_field_then {α β γ : Type} {c : Prop} {_ : Decidable c} {x : Decoder β} (hx : Steady x) {f : β → α} {a : α}
    {k : α → Decoder γ} (hk : ∀ a, Steady (k a)) :
    Steady (if c then (do let out ← (do return f (← x)); k out) else (do let out ← pure a; k out)) :=
  stable_ite (Stable.bind (hx.bind fun _ => stable_pure _) hk) (hk a)

theorem steady_decodeDeltaScores (mask : U8) (out : WorldSnapshot) : Steady (decodeDeltaScores mask out) := by
  unfold decodeDeltaScores
  exact steady_field_then steady_u8 fun _ => steady_field_then steady_u8 fun _ => steady_field steady_u16

theorem steady_decodeDeltaFlagRed (mask : U8) (out : WorldSnapshot) : Steady (decodeDeltaFlagRed mask out) :=
  stable_ite (steady_u8.bind fun _ => steady_u8.bind fun _ => steady_ok.bind fun _ =>
    stable_ite (stable_pure _) (stable_pure _)) (stable_pure _)

theorem steady_decodeDeltaFlagBlue (mask : U8) (out : WorldSnapshot) : Steady (decodeDeltaFlagBlue mask out) :=
  stable_ite (steady_u8.bind fun _ => steady_u8.bind fun _ => steady_ok.bind fun _ =>
    stable_ite (stable_pure _) (stable_pure _)) (stable_pure _)

theorem steady_decodeDeltaCount (mask : U8) (out : WorldSnapshot) : Steady (decodeDeltaCount mask out) :=
  stable_ite (steady_u8.bind fun _ => steady_ok.bind fun _ => stable_ite (stable_pure _) (stable_pure _)) (stable_pure _)

theorem steady_decodeDeltaFields (fm : U8) (p : PlayerState) : Steady (decodeDeltaFields fm p) := by
  unfold decodeDeltaFields
  exact steady_field_then steady_readVec2 fun _ => steady_field_then steady_u16 fun _ =>
    steady_field_then steady_u8 fun _ => steady_field steady_u8

theorem steady_decodeDeltaPlayers (pchange : U16) (is : List (Fin kMaxPlayers)) (out : WorldSnapshot) :
    Steady (decodeDeltaPlayers pchange is out) := by
  induction is generalizing out with
  | nil => exact stable_pure _
  | cons i is ih =>
    refine stable_ite ?_ (ih out)
    refine steady_u8.bind fun id => steady_u8.bind fun fm => steady_ok.bind fun _ => stable_ite (stable_pure _) ?_
    refine stable_ite (stable_pure _) ((steady_decodeDeltaFields fm _).bind fun p => steady_ok.bind fun _ => ?_)
    exact stable_ite (stable_pure _) (ih _)

theorem checkedFrom_decodeDeltaPlayers (pchange : U16) (is : List (Fin kMaxPlayers)) (out : WorldSnapshot) :
    CheckedFrom (decodeDeltaPlayers pchange is out) := by
  induction is generalizing out with
  | nil => exact checkedFrom_pure _
  | cons i is ih =>
    refine vouches_ite ?_ (ih out)
    refine vouches_bind fun id => vouches_bind fun fm => checked_guard (vouches_ite vouches_none ?_)
    exact vouches_bind fun p => checked_guard (ih _)

theorem steady_decodeDeltaBody (mask : U8) (tick : U32) (out : WorldSnapshot) :
    Steady (decodeDeltaBody mask tick out) := by
  refine (steady_decodeDeltaScores mask out).bind fun out => (steady_decodeDeltaFlagRed mask out).bind ?_
  rintro (_ | out)
  · exact stable_pure _
  refine (steady_decodeDeltaFlagBlue mask out).bind ?_
  rintro (_ | out)
  · exact stable_pure _
  refine (steady_decodeDeltaCount mask out).bind ?_
  rintro (_ | out)
  · exact stable_pure _
  refine steady_u16.bind fun pchange => steady_ok.bind fun _ => stable_ite (stable_pure _) ?_
  refine stable_ite (stable_pure _) ((steady_decodeDeltaPlayers pchange _ out).bind ?_)
  rintro (_ | out)
  · exact stable_pure _
  · exact stable_pure _

theorem checked_decodeDeltaBody (mask : U8) (tick : U32) (out : WorldSnapshot) :
    Checked (decodeDeltaBody mask tick out) := by
  refine vouches_bind fun out => vouches_bind ?_
  rintro (_ | out)
  · exact vouches_none
  refine vouches_bind ?_
  rintro (_ | out)
  · exact vouches_none
  refine vouches_bind ?_
  rintro (_ | out)
  · exact vouches_none
  refine vouches_bind fun pchange => checked_guard (vouches_ite vouches_none ?_)
  exact (checkedFrom_decodeDeltaPlayers pchange _ out).bind rfl fun out => checkedFrom_pure _

theorem steady_decodeDeltaSnapshot (tick : U32) (cache : WorldSnapshot) : Steady (decodeDeltaSnapshot tick cache) := by
  refine steady_u32.bind fun seq => steady_u8.bind fun ago => steady_u8.bind fun mask => steady_ok.bind fun _ => ?_
  refine stable_ite (stable_pure _) (stable_ite (stable_pure _) (stable_ite (stable_pure _) ?_))
  exact stable_ite (stable_pure _) (steady_decodeDeltaBody mask tick _)

theorem checked_decodeDeltaSnapshot (tick : U32) (cache : WorldSnapshot) : Checked (decodeDeltaSnapshot tick cache) := by
  refine vouches_bind fun seq => vouches_bind fun ago => vouches_bind fun mask => checked_guard ?_
  refine vouches_ite vouches_none (vouches_ite vouches_none (vouches_ite vouches_none ?_))
  exact fun r _ => checked_decodeDeltaBody mask tick _ r trivial

/-- The bytes are refused, or read to the last one. -/
def Eats {α : Type} (d : Decoder (Option α)) (bytes : List U8) : Prop :=
  ∀ tail, (d ⟨bytes ++ tail, false⟩).1 = none ∨ (d ⟨bytes ++ tail, false⟩).2 = ⟨tail, false⟩

theorem eats_pure {α : Type} (o : Option α) : Eats (pure o : Decoder (Option α)) [] := fun _ => Or.inr rfl

theorem eats_ite {α : Type} {c : Prop} [Decidable c] {d e : Decoder (Option α)} {bytes : List U8} (hd : Eats d bytes)
    (he : Eats e bytes) : Eats (if c then d else e) bytes := by
  split
  · exact hd
  · exact he

theorem eats_refuse {α : Type} (bytes : List U8) : Eats (pure none : Decoder (Option α)) bytes := fun _ => Or.inl rfl

theorem eats_read {α β : Type} {d : Decoder β} {f : β → Decoder (Option α)} {a b : List U8} {v : β}
    (hd : ∀ tail, d ⟨a ++ tail, false⟩ = (v, ⟨tail, false⟩)) (hf : Eats (f v) b) : Eats (d >>= f) (a ++ b) := by
  intro tail
  rw [ByteReader.bind_run, List.append_assoc, hd]
  exact hf tail

theorem Eats.bind {α β : Type} {d : Decoder (Option β)} {f : Option β → Decoder (Option α)} {a b : List U8}
    (hd : Eats d a) (hNone : f none = pure none) (hSome : ∀ v, Eats (f (some v)) b) : Eats (d >>= f) (a ++ b) := by
  intro tail
  rw [ByteReader.bind_run, List.append_assoc]
  rcases hd (b ++ tail) with hRefused | hRead
  · rw [hRefused, hNone]
    exact Or.inl rfl
  · rw [hRead]
    cases (d ⟨a ++ (b ++ tail), false⟩).1 with
    | none => exact Or.inl (by rw [hNone]; rfl)
    | some v => exact hSome v tail

theorem eats_decodeDeltaPlayers (current baseline out : WorldSnapshot) :
    Eats (decodeDeltaPlayers (deltaPlayerMask current baseline) (List.finRange kMaxPlayers) out)
      ((List.finRange kMaxPlayers).flatMap (deltaSlotBytes current baseline)) := by
  intro tail
  have hRun := decodeDeltaPlayers_run current baseline (List.finRange kMaxPlayers) (List.nodup_finRange _)
    { out with players := fun i => wirePlayer (baseline.players i) } tail (fun _ => rfl) (fun _ _ _ => Or.inr rfl)
  have hBlind := (decodeDeltaPlayers_blind (deltaPlayerMask current baseline) (List.finRange kMaxPlayers) out
    { out with players := fun i => wirePlayer (baseline.players i) }
    ⟨(List.finRange kMaxPlayers).flatMap (deltaSlotBytes current baseline) ++ tail, false⟩).1
  rw [hBlind, hRun]
  exact Or.inr rfl

theorem eats_decodeDeltaCount (mask : U8) (current out : WorldSnapshot) :
    Eats (decodeDeltaCount mask out) (deltaCountBytes mask current) := by
  intro tail
  rw [decodeDeltaCount, deltaCountBytes]
  by_cases hBit : mask &&& kDeltaHeaderPlayerCount = 0#8
  · exact Or.inr (by simp [hBit])
  · by_cases hCount : current.playerCount.toNat > kMaxPlayers
    · exact Or.inl (by simp [hBit, hCount])
    · exact Or.inr (by simp [hBit, hCount])

theorem eats_decodeDeltaFlagRed (mask : U8) (current out : WorldSnapshot) :
    Eats (decodeDeltaFlagRed mask out) (deltaFlagRedBytes mask current) := fun tail => by
  rw [decodeDeltaFlagRed_run]
  exact Or.inr rfl

theorem eats_decodeDeltaFlagBlue (mask : U8) (current out : WorldSnapshot) :
    Eats (decodeDeltaFlagBlue mask out) (deltaFlagBlueBytes mask current) := fun tail => by
  rw [decodeDeltaFlagBlue_run]
  exact Or.inr rfl

theorem eats_ok {α : Type} {f : Bool → Decoder (Option α)} {bytes : List U8} (h : Eats (f true) bytes) :
    Eats (ByteReader.ok >>= f) bytes := fun tail => h tail

theorem eats_decodeDeltaBody (current baseline out : WorldSnapshot) (tick : U32) :
    Eats (decodeDeltaBody (deltaHeaderMask current baseline) tick out) (deltaBodyBytes current baseline) := by
  rw [deltaBodyBytes, flatMap_deltaSlotBytes]
  refine eats_read (fun tail => decodeDeltaScores_run _ current out tail) ?_
  refine (eats_decodeDeltaFlagRed _ current _).bind rfl fun out => ?_
  refine (eats_decodeDeltaFlagBlue _ current out).bind rfl fun out => ?_
  refine (eats_decodeDeltaCount _ current out).bind rfl fun out => ?_
  refine eats_read (fun tail => ByteReader.u16_run _ tail) (eats_ok (eats_ite (eats_refuse _) ?_))
  refine eats_ite (eats_refuse _) ?_
  rw [← List.append_nil ((List.finRange kMaxPlayers).flatMap _)]
  exact (eats_decodeDeltaPlayers current baseline out).bind rfl fun out => eats_pure _

theorem eats_decodeDeltaSnapshot (current baseline cache : WorldSnapshot) (tick : U32) :
    Eats (decodeDeltaSnapshot tick cache) (deltaSnapshotBytes current baseline) := by
  refine eats_read (fun tail => ByteReader.u32_run _ tail) ?_
  refine eats_read (a := [_]) (fun tail => ByteReader.u8_run _ tail) ?_
  refine eats_read (a := [_]) (fun tail => ByteReader.u8_run _ tail) (eats_ok (eats_ite (eats_refuse _) ?_))
  refine eats_ite (eats_refuse _) (eats_ite (eats_refuse _) (eats_ite (eats_refuse _) ?_))
  exact eats_decodeDeltaBody current baseline _ tick

theorem delta_cut_refused (current baseline cache : WorldSnapshot) (tick : U32) {cut more : List U8}
    (hCut : deltaSnapshotBytes current baseline = cut ++ more) (hMore : more ≠ []) :
    (decodeDeltaSnapshot tick cache ⟨cut, false⟩).1 = none := by
  refine refuses_cut (steady_decodeDeltaSnapshot tick cache) (checked_decodeDeltaSnapshot tick cache) hMore ?_
  rw [← hCut]
  have hWhole := eats_decodeDeltaSnapshot current baseline cache tick []
  rw [List.append_nil] at hWhole
  exact hWhole.imp_right fun hRead => by rw [hRead]

/-- No strict prefix of an encoded message decodes, and one of a delta leaves the cache as it was. -/
theorem truncation_rejected (cut : List U8) :
    (∀ (m : Message) (cap : Nat), m.bytes.length ≤ cap → cut <+: (m.encode { cap }).buf →
      cut ≠ (m.encode { cap }).buf → (Message.decode m.type ⟨cut, false⟩).1 = none) ∧
    (∀ (current baseline cache : WorldSnapshot) (tick : U32) (cap : Nat), 117 ≤ cap →
      cut <+: (encodeDeltaSnapshot { cap } current baseline).buf →
      cut ≠ (encodeDeltaSnapshot { cap } current baseline).buf →
      (decodeDeltaSnapshot tick cache ⟨cut, false⟩).1 = none ∧
        ∃ r, Raw.decodeDeltaSnapshot tick (cache.raw, ⟨cut, false⟩) = (.error .rejected, (cache.raw, r))) := by
  constructor
  · rintro m cap hFits ⟨more, hWhole⟩ hStrict
    have hMore : more ≠ [] := by
      rintro rfl
      exact hStrict (by rw [← hWhole, List.append_nil])
    rw [(m.encode_buf hFits).1] at hWhole
    exact m.cut_refused hWhole.symm hMore
  · rintro current baseline cache tick cap hCap ⟨more, hWhole⟩ hStrict
    have hMore : more ≠ [] := by
      rintro rfl
      exact hStrict (by rw [← hWhole, List.append_nil])
    have hBuf := (emits_encodeDeltaSnapshot current baseline).fresh cap
      ((length_deltaSnapshotBytes current baseline).trans hCap)
    rw [hBuf] at hWhole
    have hNone := delta_cut_refused current baseline cache tick hWhole.symm hMore
    have hRejected := (Raw.mirrors_decodeDeltaSnapshot tick cache ⟨cut, false⟩).rejected hNone
    refine ⟨hNone, ?_⟩
    unfold Raw.decodeDeltaSnapshot at hRejected ⊢
    exact Filling.onCopy_rejected hRejected

/-- A delta without its last byte. -/
theorem truncation_rejected_delta :
    ∃ r, Raw.decodeDeltaSnapshot 8 (WorldSnapshot.raw { tick := 7 }, ⟨[0, 0, 0, 0, 1, 0, 0], false⟩) =
      (.error .rejected, (WorldSnapshot.raw { tick := 7 }, r)) :=
  ((truncation_rejected [0, 0, 0, 0, 1, 0, 0]).2 { tick := 8 } { tick := 7 } { tick := 7 } 8 117 (by decide)
    (by decide +kernel) (by decide +kernel)).2

end Protocol
end CaptureTheFlag
