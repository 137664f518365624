import CaptureTheFlag.Client.InputSender
import CaptureTheFlag.Server.NetMoves
import CaptureTheFlag.Server.Placement
import CaptureTheFlag.Shared.Codec

/-! # The buffers that messages are encoded into

Nobody on the server asks a writer whether it overflowed. Every place that encodes a message is listed here with the
capacity it gives the writer; the capacity is enough for every message, so what is sent is the whole message.
-/
namespace CaptureTheFlag
set_option autoImplicit false
open Protocol BigEndian ByteWriter

/-- Nothing is refused, and a larger buffer would hold no more. -/
structure Enough (cap : Nat) (write : ByteWriter → ByteWriter) : Prop where
  ok : (write { cap }).ok = true
  size : (write { cap }).size ≤ cap
  whole : ∀ more, (write { cap := cap + more }).buf = (write { cap }).buf

theorem ByteWriter.Emits.enough {write : ByteWriter → ByteWriter} {bytes : List U8} (hWrite : Emits write bytes)
    {cap : Nat} (hFits : bytes.length ≤ cap) : Enough cap write where
  ok := by
    rw [hWrite.fresh cap hFits]
    rfl
  size := by
    rw [hWrite.fresh cap hFits]
    exact hFits
  whole more := by rw [hWrite.fresh cap hFits, hWrite.fresh (cap + more) (by omega)]

inductive CallSite where
  -- `NetClient`
  | joinLobby (msg : MsgJoinLobby)
  | udpHello (msg : MsgUdpHello)
  | playerInput (tick : U32) (msg : MsgPlayerInput)
  | startRequest (msg : MsgStartRequest)
  | heartbeat (msg : MsgHeartbeat)
  -- `send_frame_generic`, `broadcast_lobby_state`, `begin_match_and_notify`
  | joinAccept (msg : MsgJoinAccept)
  | joinReject (msg : MsgJoinReject)
  | lobbyState (msg : MsgLobbyState)
  | gameStart (msg : MsgGameStart)
  -- `ser_event`, `publish`
  | event (body : EventBody)

namespace CallSite

def cap : CallSite → Nat
  | joinLobby _ => 16
  | udpHello _ => kUdpHeaderBytes + 8
  | playerInput _ _ => kInputPacketBytes
  | startRequest _ => 1
  | heartbeat _ => 1
  | joinAccept _ => kReplyCap
  | joinReject _ => kReplyCap
  | lobbyState _ => kLobbyStateCap
  | gameStart _ => kGameStartCap
  | event (.keyframe _) => kPayloadDataBytes
  | event (.delta _ _) => kPayloadDataBytes
  | event _ => kEventPayloadCap

def write (site : CallSite) (w : ByteWriter) : ByteWriter :=
  match site with
  | joinLobby msg => encodeJoinLobby w msg
  | udpHello msg => encodeUdpHello (encodeUdpHeader w { type := MessageType.udpHello.code, tick := 0 }) msg
  | playerInput tick msg => encodePlayerInput (encodeUdpHeader w { type := MessageType.playerInput.code, tick }) msg
  | startRequest msg => encodeStartRequest w msg
  | heartbeat msg => encodeHeartbeat w msg
  | joinAccept msg => encodeJoinAccept w msg
  | joinReject msg => encodeJoinReject w msg
  | lobbyState msg => encodeLobbyState w msg
  | gameStart msg => encodeGameStart w msg
  | event body => body.write w

/-- What the buffer holds in the end. -/
def written (site : CallSite) : List U8 := (site.write { cap := site.cap }).buf

theorem enough (site : CallSite) : Enough site.cap site.write := by
  cases site with
  | joinLobby msg => exact (emits_encodeJoinLobby msg).enough (by simp [nameBytes, cap])
  | udpHello msg =>
    exact ((emits_encodeUdpHeader _ _).andThen (emits_encodeUdpHello msg)).enough
      (by simp [udpHeaderBytes, udpHelloBytes, cap])
  | playerInput tick msg =>
    have hBody := length_playerInputBytes msg
    have hHeader : (udpHeaderBytes MessageType.playerInput.code tick).length = 8 := rfl
    refine ((emits_encodeUdpHeader _ tick).andThen (emits_encodePlayerInput msg)).enough ?_
    simp only [List.length_append, hHeader, cap, kInputPacketBytes, kUdpHeaderBytes, kInputRedundancy]
    omega
  | startRequest msg => exact emits_nothing.enough (Nat.zero_le _)
  | heartbeat msg => exact emits_nothing.enough (Nat.zero_le _)
  | joinAccept msg => exact (emits_encodeJoinAccept msg).enough (by simp [joinAcceptBytes, cap, kReplyCap])
  | joinReject msg => exact (emits_encodeJoinReject msg).enough (by simp [cap, kReplyCap])
  | lobbyState msg =>
    exact (emits_encodeLobbyState msg).enough ((length_lobbyStateBytes msg).trans (show 172 ≤ kLobbyStateCap by decide))
  | gameStart msg =>
    exact (emits_encodeGameStart msg).enough ((length_gameStartBytes msg).trans (show 65 ≤ kGameStartCap by decide))
  | event body =>
    cases body with
    | shotFired msg =>
      exact (emits_encodeShotFired msg).enough (by simp [shotFiredBytes, vec2Bytes, cap, kEventPayloadCap])
    | playerKilled msg => exact (emits_encodePlayerKilled msg).enough (by simp [playerKilledBytes, cap, kEventPayloadCap])
    | playerRespawned msg =>
      exact (emits_encodePlayerRespawned msg).enough (by simp [playerRespawnedBytes, vec2Bytes, cap, kEventPayloadCap])
    | flagPickedUp msg => exact (emits_encodeFlagTouched msg).enough (by simp [flagTouchedBytes, cap, kEventPayloadCap])
    | flagDropped msg =>
      exact (emits_encodeFlagDropped msg).enough (by simp [flagDroppedBytes, vec2Bytes, cap, kEventPayloadCap])
    | flagReturned msg => exact (emits_encodeFlagTouched msg).enough (by simp [flagTouchedBytes, cap, kEventPayloadCap])
    | flagCaptured msg => exact (emits_encodeFlagTouched msg).enough (by simp [flagTouchedBytes, cap, kEventPayloadCap])
    | matchEnd msg => exact (emits_encodeMatchEnd msg).enough (by simp [matchEndBytes, cap, kEventPayloadCap])
    | keyframe snap =>
      exact (emits_encodeWorldSnapshot snap).enough
        ((length_worldSnapshotBytes snap).trans (show 107 ≤ kPayloadDataBytes by decide))
    | delta snap prev =>
      exact (emits_encodeDeltaSnapshot snap prev).enough
        ((length_deltaSnapshotBytes snap prev).trans (show 117 ≤ kPayloadDataBytes by decide))

theorem written_keyframe (snap : WorldSnapshot) : (event (.keyframe snap)).written = worldSnapshotBytes snap := by
  have hFits := (length_worldSnapshotBytes snap).trans (show 107 ≤ kPayloadDataBytes by decide)
  exact congrArg ByteWriter.buf ((emits_encodeWorldSnapshot snap).fresh kPayloadDataBytes hFits)

theorem written_delta (snap prev : WorldSnapshot) : (event (.delta snap prev)).written = deltaSnapshotBytes snap prev := by
  have hFits := (length_deltaSnapshotBytes snap prev).trans (show 117 ≤ kPayloadDataBytes by decide)
  exact congrArg ByteWriter.buf ((emits_encodeDeltaSnapshot snap prev).fresh kPayloadDataBytes hFits)

end CallSite

/-- The byte that `ser_event` puts before the message; a snapshot has none. -/
def EventBody.typeByte (body : EventBody) : List U8 :=
  match body with
  | flagPickedUp _ => [MessageType.flagPickedUp.code]
  | flagDropped _ => [MessageType.flagDropped.code]
  | flagReturned _ => [MessageType.flagReturned.code]
  | flagCaptured _ => [MessageType.flagCaptured.code]
  | playerKilled _ => [MessageType.playerKilled.code]
  | playerRespawned _ => [MessageType.playerRespawned.code]
  | matchEnd _ => [MessageType.matchEnd.code]
  | shotFired _ => [MessageType.shotFired.code]
  | keyframe _ => []
  | delta _ _ => []

/-- The event carries all that is written for the message it was built from. -/
def CarriesAll (ev : OutboundEvent) : Prop := ev.payload = ev.body.typeByte ++ (CallSite.event ev.body).written

theorem Sim.Placed.carriesAll {ev : OutboundEvent} (h : Sim.Placed ev) : CarriesAll ev := by
  cases h with
  | snapshot ev snap hBody hPayload hPositions =>
    rw [CarriesAll, hPayload]
    rcases hBody with hBody | ⟨prevPublished, hBody⟩
    · rw [hBody]
      rfl
    · rw [hBody]
      rfl
  | _ => rfl

theorem CarriesAll.length_payload {ev : OutboundEvent} (h : CarriesAll ev) : ev.payload.length ≤ kPayloadDataBytes := by
  have hSize : (CallSite.event ev.body).written.length ≤ (CallSite.event ev.body).cap :=
    (CallSite.event ev.body).enough.size
  rw [h, List.length_append]
  cases hBody : ev.body with
  | keyframe snap =>
    rw [hBody] at hSize
    exact (Nat.zero_add _).trans_le hSize
  | delta snap prev =>
    rw [hBody] at hSize
    exact (Nat.zero_add _).trans_le hSize
  | _ =>
    rw [hBody] at hSize
    simp only [CallSite.cap, kEventPayloadCap] at hSize
    simp only [EventBody.typeByte, List.length_singleton, kPayloadDataBytes]
    omega

/-- A snapshot has room for the ack that is patched into it. -/
theorem Sim.Placed.ack {ev : OutboundEvent} (h : Sim.Placed ev) (hSnapshot : ev.isSnapshot = true) :
    4 ≤ ev.payload.length := by
  have hCarries := h.carriesAll
  cases h with
  | snapshot ev snap hBody hPayload hPositions =>
    rw [hCarries]
    rcases hBody with hBody | ⟨prevPublished, hBody⟩
    · rw [hBody, CallSite.written_keyframe]
      simp [EventBody.typeByte, worldSnapshotBytes]
    · rw [hBody, CallSite.written_delta]
      simp [EventBody.typeByte, deltaSnapshotBytes]
  | _ => cases hSnapshot

namespace ClientRegistry

/-- The early return is not taken: every registered address is sent the whole body behind a header. -/
theorem sendSnapshotEvent_reaches (r : ClientRegistry) {ev : OutboundEvent} (hSnapshot : ev.isSnapshot = true)
    (hAck : 4 ≤ ev.payload.length) (hFits : kUdpHeaderBytes + ev.payload.length ≤ kDatagramBytes) {entry e : ClientEntry}
    (hLive : entry ∈ r.live) (hAddr : entry.hasUdpAddr = true) (hFound : r.findById entry.playerId = some e) :
    ∃ d, (e, d) ∈ r.sendSnapshotEvent ev ∧ d.length = kUdpHeaderBytes + ev.payload.length ∧
      d.drop (kUdpHeaderBytes + 4) = ev.payload.drop 4 := by
  have hShort : ¬ (ev.payload.length < 4 ∨ kUdpHeaderBytes + ev.payload.length > kDatagramBytes) := by omega
  have hSent : ∀ type : U8, (e, snapshotDatagram ev.payload (ackOf ev.acks e.playerId) ev.tick type) ∈
      r.sendUdpSnapshots ev.payload ev.acks ev.tick type := by
    intro type
    rw [sendUdpSnapshots, if_neg hShort]
    refine List.mem_filterMap.mpr ⟨entry, hLive, ?_⟩
    rw [if_pos hAddr, hFound]
    rfl
  have hLength : ∀ ack tick type, (snapshotDatagram ev.payload ack tick type).length =
      kUdpHeaderBytes + ev.payload.length := by
    intro ack tick type
    simp only [snapshotDatagram, udpHeaderBytes, List.length_append, List.length_drop, length_split16, length_split32,
      List.length_cons, List.length_nil, kUdpHeaderBytes]
    omega
  rw [OutboundEvent.isSnapshot, decide_eq_true_eq] at hSnapshot
  rcases hSnapshot with hType | hType
  · exact ⟨_, by rw [sendSnapshotEvent, hType]; exact hSent _, hLength _ _ _, rfl⟩
  · exact ⟨_, by rw [sendSnapshotEvent, hType]; exact hSent _, hLength _ _ _, rfl⟩

end ClientRegistry

/-- Every buffer is large enough for every message encoded into it. So no input packet is held back, joins are
answered and the lobby and the start of a match are announced whole, the events of a run carry whole messages in their
payload arrays, and every snapshot goes out whole to every registered address. -/
theorem nothing_truncated :
    (∀ site : CallSite, Enough site.cap site.write) ∧
    (∀ net : NetServer, net.broadcastLobbyState =
      net.broadcastPayload (MessageType.lobbyState.code :: (CallSite.lobbyState net.lobbyState).written)) ∧
    (∀ (net : NetServer) (env : Env), net.lobby.beginMatch.1 = true →
      ∃ started : NetServer, net.beginMatchAndNotify env = started.broadcastPayload (MessageType.gameStart.code ::
        (CallSite.gameStart (NetServer.matchSetup net.lobby.beginMatch.2 env.shuffle).gs).written)) ∧
    (∀ (id : U8) (token : U32) (port : U16), NetServer.acceptReply id token port = ⟨MessageType.joinAccept.code,
      (CallSite.joinAccept { playerId := id, sessionToken := token, udpPort := port }).written⟩) ∧
    (∀ reason : JoinRejectReason, NetServer.rejectReply reason = ⟨MessageType.joinReject.code,
      (CallSite.joinReject { reason }).written⟩) ∧
    (∀ me baseSeq inputs, NetClient.sendInput me baseSeq inputs =
      some (CallSite.playerInput baseSeq (NetClient.inputMessage me baseSeq inputs)).written) ∧
    ∀ rayDir tickHz snapshotHz delta ticks, ∀ ev ∈ ((Sim.configured tickHz snapshotHz delta).run rayDir ticks).outbound,
      CarriesAll ev ∧ ev.payload.length ≤ kPayloadDataBytes ∧
      (ev.isSnapshot = true → ∀ (r : ClientRegistry), ∀ entry ∈ r.live, entry.hasUdpAddr = true →
        ∀ e, r.findById entry.playerId = some e →
          ∃ d, (e, d) ∈ r.sendSnapshotEvent ev ∧ d.length = kUdpHeaderBytes + ev.payload.length ∧
            d.drop (kUdpHeaderBytes + 4) = ev.payload.drop 4) := by
  refine ⟨CallSite.enough, fun net => rfl, ?_, fun id token port => rfl, fun reason => rfl, ?_, ?_⟩
  · intro net env hBegins
    rw [NetServer.beginMatchAndNotify]
    split
    · rename_i hKept
      rw [hKept] at hBegins
      cases hBegins
    · rename_i lobby hStarted
      rw [hStarted]
      exact ⟨_, rfl⟩
  · intro me baseSeq inputs
    have hOk := (CallSite.playerInput baseSeq (NetClient.inputMessage me baseSeq inputs)).enough.ok
    exact if_pos hOk
  · intro rayDir tickHz snapshotHz delta ticks ev hMem
    have hPlaced := (Sim.allPlaced_run rayDir tickHz snapshotHz delta ticks).events ev hMem
    have hPayload := hPlaced.carriesAll.length_payload
    refine ⟨hPlaced.carriesAll, hPayload, ?_⟩
    intro hSnapshot r entry hLive hAddr e hFound
    refine r.sendSnapshotEvent_reaches hSnapshot (hPlaced.ack hSnapshot) ?_ hLive hAddr hFound
    simp only [kPayloadDataBytes, kUdpHeaderBytes, kDatagramBytes] at hPayload ⊢
    omega

end CaptureTheFlag
