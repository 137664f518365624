import CaptureTheFlag.Shared.MessageBytes

/-! # Round trips

Every message but DELTA_SNAPSHOT, which needs a cache, as one type. What comes back is the message with its positions
as the wire carries them and without what the encoder leaves out.
-/
namespace CaptureTheFlag
set_option autoImplicit false
open Protocol BigEndian ByteWriter

/-- A position floored to 1/16 px and truncated to the range of `int16`. -/
def Vec2Fixed.quantised (v : Vec2Fixed) : Vec2Fixed := ⟨(v.x / 16).bmod (2 ^ 16) * 16, (v.y / 16).bmod (2 ^ 16) * 16⟩

namespace Protocol

theorem unwireCoord_wireCoord_eq (c : Int) : unwireCoord (wireCoord c) = (c / 16).bmod (2 ^ 16) * 16 := by
  have hShift : c >>> kWireFixedShift = c / 16 := Int.shiftRight_eq_div_pow c 4
  rw [unwireCoord, wireCoord, hShift, BitVec.toInt_ofInt, Int.shiftLeft_eq]
  rfl

theorem wireVec2_eq_quantised (v : Vec2Fixed) : wireVec2 v = v.quantised := by
  rw [wireVec2, unwireCoord_wireCoord_eq, unwireCoord_wireCoord_eq, Vec2Fixed.quantised]

theorem wireCoord_unwireCoord (w : U16) : wireCoord (unwireCoord w) = w := by
  have hBack : w.toInt * 16 / 16 = w.toInt := Int.mul_ediv_cancel _ (by decide)
  have hShift : ∀ c : Int, c >>> kWireFixedShift = c / 16 := fun c => Int.shiftRight_eq_div_pow c 4
  rw [wireCoord, unwireCoord, hShift, Int.shiftLeft_eq]
  change BitVec.ofInt 16 (w.toInt * 16 / 16) = w
  rw [hBack, BitVec.ofInt_toInt]

@[simp] theorem vec2Bytes_quantised (v : Vec2Fixed) : vec2Bytes v.quantised = vec2Bytes v := by
  rw [← wireVec2_eq_quantised, vec2Bytes, vec2Bytes, wireVec2, wireCoord_unwireCoord, wireCoord_unwireCoord]

theorem mem_firstInputs (n : Nat) (i : Fin kInputRedundancy) : i ∈ firstInputs n ↔ i.val < n :=
  mem_take_finRange n i

inductive Message where
  | udpHeader (hdr : UdpHeader)
  | joinLobby (msg : MsgJoinLobby)
  | joinAccept (msg : MsgJoinAccept)
  | joinReject (msg : MsgJoinReject)
  | lobbyState (msg : MsgLobbyState)
  | startRequest (msg : MsgStartRequest)
  | gameStart (msg : MsgGameStart)
  | udpHello (msg : MsgUdpHello)
  | playerInput (msg : MsgPlayerInput)
  | worldSnapshot (snap : WorldSnapshot)
  | shotFired (msg : MsgShotFired)
  | playerKilled (msg : MsgPlayerKilled)
  | playerRespawned (msg : MsgPlayerRespawned)
  | flagPickedUp (msg : MsgFlagPickedUp)
  | flagDropped (msg : MsgFlagDropped)
  | flagReturned (msg : MsgFlagReturned)
  | flagCaptured (msg : MsgFlagCaptured)
  | matchEnd (msg : MsgMatchEnd)
  | heartbeat (msg : MsgHeartbeat)

namespace Message

/-- The message's type; the header has none. -/
def type : Message → Option MessageType
  | .udpHeader _ => none
  | .joinLobby _ => some .joinLobby
  | .joinAccept _ => some .joinAccept
  | .joinReject _ => some .joinReject
  | .lobbyState _ => some .lobbyState
  | .startRequest _ => some .startRequest
  | .gameStart _ => some .gameStart
  | .udpHello _ => some .udpHello
  | .playerInput _ => some .playerInput
  | .worldSnapshot _ => some .worldSnapshot
  | .shotFired _ => some .shotFired
  | .playerKilled _ => some .playerKilled
  | .playerRespawned _ => some .playerRespawned
  | .flagPickedUp _ => some .flagPickedUp
  | .flagDropped _ => some .flagDropped
  | .flagReturned _ => some .flagReturned
  | .flagCaptured _ => some .flagCaptured
  | .matchEnd _ => some .matchEnd
  | .heartbeat _ => some .heartbeat

def encode (w : ByteWriter) : Message → ByteWriter
  | .udpHeader hdr => encodeUdpHeader w hdr
  | .joinLobby msg => encodeJoinLobby w msg
  | .joinAccept msg => encodeJoinAccept w msg
  | .joinReject msg => encodeJoinReject w msg
  | .lobbyState msg => encodeLobbyState w msg
  | .startRequest msg => encodeStartRequest w msg
  | .gameStart msg => encodeGameStart w msg
  | .udpHello msg => encodeUdpHello w msg
  | .playerInput msg => encodePlayerInput w msg
  | .worldSnapshot snap => encodeWorldSnapshot w snap
  | .shotFired msg => encodeShotFired w msg
  | .playerKilled msg => encodePlayerKilled w msg
  | .playerRespawned msg => encodePlayerRespawned w msg
  | .flagPickedUp msg => encodeFlagPickedUp w msg
  | .flagDropped msg => encodeFlagDropped w msg
  | .flagReturned msg => encodeFlagReturned w msg
  | .flagCaptured msg => encodeFlagCaptured w msg
  | .matchEnd msg => encodeMatchEnd w msg
  | .heartbeat msg => encodeHeartbeat w msg

/-- The decoder for a type, `none` standing for the header. -/
def decode : Option MessageType → Decoder (Option Message)
  | none => Option.map .udpHeader <$> decodeUdpHeader
  | some .joinLobby => Option.map .joinLobby <$> decodeJoinLobby
  | some .joinAccept => Option.map .joinAccept <$> decodeJoinAccept
  | some .joinReject => Option.map .joinReject <$> decodeJoinReject
  | some .lobbyState => Option.map .lobbyState <$> decodeLobbyState
  | some .startRequest => Option.map .startRequest <$> decodeStartRequest
  | some .gameStart => Option.map .gameStart <$> decodeGameStart
  | some .udpHello => Option.map .udpHello <$> decodeUdpHello
  | some .playerInput => Option.map .playerInput <$> decodePlayerInput
  | some .worldSnapshot => Option.map .worldSnapshot <$> decodeWorldSnapshot
  | some .shotFired => Option.map .shotFired <$> decodeShotFired
  | some .playerKilled => Option.map .playerKilled <$> decodePlayerKilled
  | some .playerRespawned => Option.map .playerRespawned <$> decodePlayerRespawned
  | some .flagPickedUp => Option.map .flagPickedUp <$> decodeFlagPickedUp
  | some .flagDropped => Option.map .flagDropped <$> decodeFlagDropped
  | some .flagReturned => Option.map .flagReturned <$> decodeFlagReturned
  | some .flagCaptured => Option.map .flagCaptured <$> decodeFlagCaptured
  | some .matchEnd => Option.map .matchEnd <$> decodeMatchEnd
  | some .heartbeat => Option.map .heartbeat <$> decodeHeartbeat
  | some .deltaSnapshot => pure none

/-- Counts within their limits, and the header's magic and version. -/
def Valid : Message → Prop
  | .udpHeader hdr => hdr.magic = kMagic ∧ hdr.version = kProtocolVersion
  | .lobbyState msg => msg.playerCount.toNat ≤ kMaxPlayers
  | .gameStart msg => msg.playerCount.toNat ≤ kMaxPlayers
  | .playerInput msg => msg.count.toNat ≤ kInputRedundancy
  | .worldSnapshot snap => snap.playerCount.toNat ≤ kMaxPlayers
  | _ => True

/-- Every position as the wire carries it. -/
def quantised : Message → Message
  | .gameStart msg => .gameStart { msg with spawnPoints := fun i => (msg.spawnPoints i).quantised }
  | .worldSnapshot snap => .worldSnapshot
      { snap with
        players := fun i =>
          { snap.players i with
            motion := { (snap.players i).motion with position := (snap.players i).motion.position.quantised } } }
  | .shotFired msg => .shotFired { msg with origin := msg.origin.quantised, hitPoint := msg.hitPoint.quantised }
  | .playerRespawned msg => .playerRespawned { msg with position := msg.position.quantised }
  | .flagDropped msg => .flagDropped { msg with position := msg.position.quantised }
  | msg => msg

/-- Without what is never sent: array entries past the count and the players' velocities. -/
def sent : Message → Message
  | .lobbyState msg => .lobbyState
      { msg with
        ids := fun i => if i.val < msg.playerCount.toNat then msg.ids i else 0
        names := fun i => if i.val < msg.playerCount.toNat then msg.names i else fun _ => 0 }
  | .gameStart msg => .gameStart
      { msg with
        ids := fun i => if i.val < msg.playerCount.toNat then msg.ids i else 0
        teams := fun i => if i.val < msg.playerCount.toNat then msg.teams i else .red
        spawnPoints := fun i => if i.val < msg.playerCount.toNat then msg.spawnPoints i else {} }
  | .playerInput msg => .playerInput
      { msg with inputs := fun i => if i.val < msg.count.toNat then msg.inputs i else {} }
  | .worldSnapshot snap => .worldSnapshot
      { snap with
        players := fun i =>
          if i.val < snap.playerCount.toNat
          then { snap.players i with motion := { (snap.players i).motion with velocity := {} } } else {} }
  | msg => msg

def bytes : Message → List U8
  | .udpHeader hdr => split16 hdr.magic ++ ([hdr.version, hdr.type] ++ split32 hdr.tick)
  | .joinLobby msg => nameBytes msg.name
  | .joinAccept msg => joinAcceptBytes msg
  | .joinReject msg => [joinRejectReasonByte msg.reason]
  | .lobbyState msg => lobbyStateBytes msg
  | .startRequest _ => []
  | .gameStart msg => gameStartBytes msg
  | .udpHello msg => udpHelloBytes msg
  | .playerInput msg => playerInputBytes msg
  | .worldSnapshot snap => worldSnapshotBytes snap
  | .shotFired msg => shotFiredBytes msg
  | .playerKilled msg => playerKilledBytes msg
  | .playerRespawned msg => playerRespawnedBytes msg
  | .flagPickedUp msg => flagTouchedBytes msg
  | .flagDropped msg => flagDroppedBytes msg
  | .flagReturned msg => flagTouchedBytes msg
  | .flagCaptured msg => flagTouchedBytes msg
  | .matchEnd msg => matchEndBytes msg
  | .heartbeat _ => []

theorem emits_encode (m : Message) : Emits (fun w => m.encode w) m.bytes := by
  cases m with
  | udpHeader hdr => exact (((emits_u16 _).andThen (emits_u8 _)).andThen (emits_u8 _)).andThen (emits_u32 _)
  | joinLobby msg => exact emits_encodeJoinLobby msg
  | joinAccept msg => exact emits_encodeJoinAccept msg
  | joinReject msg => exact emits_encodeJoinReject msg
  | lobbyState msg => exact emits_encodeLobbyState msg
  | startRequest msg => exact emits_nothing
  | gameStart msg => exact emits_encodeGameStart msg
  | udpHello msg => exact emits_encodeUdpHello msg
  | playerInput msg => exact emits_encodePlayerInput msg
  | worldSnapshot snap => exact emits_encodeWorldSnapshot snap
  | shotFired msg => exact emits_encodeShotFired msg
  | playerKilled msg => exact emits_encodePlayerKilled msg
  | playerRespawned msg => exact emits_encodePlayerRespawned msg
  | flagPickedUp msg => exact emits_encodeFlagTouched msg
  | flagDropped msg => exact emits_encodeFlagDropped msg
  | flagReturned msg => exact emits_encodeFlagTouched msg
  | flagCaptured msg => exact emits_encodeFlagTouched msg
  | matchEnd msg => exact emits_encodeMatchEnd msg
  | heartbeat msg => exact emits_nothing

theorem encode_buf (m : Message) {cap : Nat} (hFits : m.bytes.length ≤ cap) :
    (m.encode { cap }).buf = m.bytes ∧ (m.encode { cap }).ok = true := by
  have hEncode : m.encode { cap } = { cap, buf := m.bytes } := m.emits_encode.fresh cap hFits
  rw [hEncode]
  exact ⟨rfl, rfl⟩

theorem decode_bytes {m : Message} (h : m.Valid) (tail : List U8) :
    decode m.type ⟨m.bytes ++ tail, false⟩ = (some m.quantised.sent, ⟨tail, false⟩) := by
  cases m with
  | udpHeader hdr =>
    obtain ⟨magic, version, type, tick⟩ := hdr
    obtain ⟨rfl, rfl⟩ := h
    simp only [Message.type, decode, bytes, ByteReader.map_run]
    rw [show split16 kMagic ++ ([kProtocolVersion, type] ++ split32 tick) = udpHeaderBytes type tick from rfl,
      decodeUdpHeader_run]
    rfl
  | joinLobby msg =>
    simp only [Message.type, decode, bytes, ByteReader.map_run, decodeJoinLobby_run]
    rfl
  | joinAccept msg =>
    simp only [Message.type, decode, bytes, ByteReader.map_run, decodeJoinAccept_run]
    rfl
  | joinReject msg =>
    simp only [Message.type, decode, bytes, ByteReader.map_run, decodeJoinReject_run]
    rfl
  | lobbyState msg =>
    simp only [Message.type, decode, bytes, ByteReader.map_run, decodeLobbyState_run msg h]
    simp only [Option.map_some, quantised, sent, wireLobby, mem_firstSlots]
  | startRequest msg => rfl
  | gameStart msg =>
    simp only [Message.type, decode, bytes, ByteReader.map_run, decodeGameStart_run msg h]
    simp only [Option.map_some, quantised, sent, wireGameStart, mem_firstSlots, wireVec2_eq_quantised]
  | udpHello msg =>
    simp only [Message.type, decode, bytes, ByteReader.map_run, decodeUdpHello_run]
    rfl
  | playerInput msg =>
    simp only [Message.type, decode, bytes, ByteReader.map_run, decodePlayerInput_run msg h]
    simp only [Option.map_some, quantised, sent, wireInput, mem_firstInputs]
  | worldSnapshot snap =>
    simp only [Message.type, decode, bytes, ByteReader.map_run, decodeWorldSnapshot_run snap h]
    simp only [Option.map_some, quantised, sent, wireSnapshot, mem_firstSlots, wirePlayer, wireVec2_eq_quantised]
  | shotFired msg =>
    simp only [Message.type, decode, bytes, ByteReader.map_run, decodeShotFired_run]
    simp only [Option.map_some, quantised, sent, wireVec2_eq_quantised]
  | playerKilled msg =>
    simp only [Message.type, decode, bytes, ByteReader.map_run, decodePlayerKilled_run]
    rfl
  | playerRespawned msg =>
    simp only [Message.type, decode, bytes, ByteReader.map_run, decodePlayerRespawned_run]
    simp only [Option.map_some, quantised, sent, wireVec2_eq_quantised]
  | flagPickedUp msg =>
    simp only [Message.type, decode, bytes, ByteReader.map_run, decodeFlagPickedUp, decodeFlagTouched_append]
    rfl
  | flagDropped msg =>
    simp only [Message.type, decode, bytes, ByteReader.map_run, decodeFlagDropped_append]
    simp only [Option.map_some, quantised, sent, wireVec2_eq_quantised]
  | flagReturned msg =>
    simp only [Message.type, decode, bytes, ByteReader.map_run, decodeFlagReturned, decodeFlagTouched_append]
    rfl
  | flagCaptured msg =>
    simp only [Message.type, decode, bytes, ByteReader.map_run, decodeFlagCaptured, decodeFlagTouched_append]
    rfl
  | matchEnd msg =>
    simp only [Message.type, decode, bytes, ByteReader.map_run, decodeMatchEnd_run]
    rfl
  | heartbeat msg => rfl

theorem flatMap_firstSlots {n : Nat} {f g : Fin kMaxPlayers → List U8} (h : ∀ i : Fin kMaxPlayers, i.val < n → f i = g i) :
    (firstSlots n).flatMap f = (firstSlots n).flatMap g :=
  List.flatMap_congr fun i hi => h i ((mem_firstSlots n i).mp hi)

theorem bytes_sent (m : Message) : m.quantised.sent.bytes = m.bytes := by
  cases m with
  | lobbyState msg =>
    simp only [quantised, sent, bytes, lobbyStateBytes]
    rw [flatMap_firstSlots (g := lobbySlotBytes msg) fun i hi => by simp only [lobbySlotBytes, if_pos hi]]
  | gameStart msg =>
    simp only [quantised, sent, bytes, gameStartBytes]
    rw [flatMap_firstSlots (g := gameStartSlotBytes msg) fun i hi => by
      simp only [gameStartSlotBytes, if_pos hi, vec2Bytes_quantised]]
  | playerInput msg =>
    simp only [quantised, sent, bytes, playerInputBytes]
    rw [List.flatMap_congr fun i hi => by rw [if_pos ((mem_firstInputs _ i).mp hi)]]
  | worldSnapshot snap =>
    simp only [quantised, sent, bytes, worldSnapshotBytes]
    rw [flatMap_firstSlots fun i hi => by simp only [playerStateBytes, if_pos hi, vec2Bytes_quantised]; rfl]
    rfl
  | shotFired msg => simp only [quantised, sent, bytes, shotFiredBytes, vec2Bytes_quantised]
  | playerRespawned msg => simp only [quantised, sent, bytes, playerRespawnedBytes, vec2Bytes_quantised]
  | flagDropped msg => simp only [quantised, sent, bytes, flagDroppedBytes, vec2Bytes_quantised]
  | _ => rfl

/-- A valid message decodes from its own bytes and nothing more, as far as it was sent, and encodes to them again. -/
theorem roundtrip (m : Message) (h : m.Valid) (cap : Nat) (hFits : m.bytes.length ≤ cap) :
    (m.encode { cap }).ok = true ∧
    decode m.type ⟨(m.encode { cap }).buf, false⟩ = (some m.quantised.sent, ⟨[], false⟩) ∧
    (m.quantised.sent.encode { cap }).buf = (m.encode { cap }).buf := by
  obtain ⟨hBuf, hOk⟩ := m.encode_buf hFits
  have hAgain := (@encode_buf m.quantised.sent cap (by rwa [bytes_sent])).1
  have hRun := decode_bytes h []
  rw [List.append_nil] at hRun
  rw [hAgain, bytes_sent, hBuf]
  exact ⟨hOk, hRun, rfl⟩

/-- A player's velocity does not come back. -/
theorem velocity_not_sent :
    ¬ ∀ m : Message, m.Valid → ∀ cap, m.bytes.length ≤ cap →
      decode m.type ⟨(m.encode { cap }).buf, false⟩ = (some m.quantised, ⟨[], false⟩) := by
  intro hAll
  let running : WorldSnapshot := { playerCount := 1, players := fun _ => { motion := { velocity := ⟨1365, 0⟩ } } }
  have hValid : Valid (.worldSnapshot running) := by
    change (1#8).toNat ≤ kMaxPlayers
    decide
  have hBack := hAll (.worldSnapshot running) hValid 107 (length_worldSnapshotBytes running)
  have hSent := decode_bytes hValid []
  rw [List.append_nil] at hSent
  rw [((worldSnapshot running).encode_buf (length_worldSnapshotBytes running)).1, hSent] at hBack
  have hSame := Message.worldSnapshot.inj (Option.some.inj (Prod.mk.inj hBack).1)
  have hVelocity := congrArg (fun snap : WorldSnapshot => (snap.players 0).motion.velocity) hSame
  revert hVelocity
  decide

theorem roundtrip_shot :
    decode (some .shotFired)
        ⟨(encode { cap := 16 } (.shotFired { shooterId := 3, origin := ⟨1234, -77⟩, aimAngle := 90 })).buf, false⟩ =
      (some (.shotFired { shooterId := 3, origin := ⟨1232, -80⟩, aimAngle := 90 }), ⟨[], false⟩) :=
  (roundtrip (.shotFired { shooterId := 3, origin := ⟨1234, -77⟩, aimAngle := 90 }) trivial 16 (by decide)).2.1

end Message
end Protocol
end CaptureTheFlag
