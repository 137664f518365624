import CaptureTheFlag.Shared.Snapshot

/-! # Every message on the wire

For each message the bytes its encoder writes and what its decoder makes of them, whatever follows.
-/
namespace CaptureTheFlag.Protocol
set_option autoImplicit false
open BigEndian ByteWriter

def nameBytes (name : Name) : List U8 := (List.finRange kNameBytes).map name

theorem emits_writeName (name : Name) : Emits (fun w => writeName w name) (nameBytes name) := by
  have h := emits_foldl (List.finRange kNameBytes) fun i => emits_u8 (name i)
  exact h.of_eq List.map_eq_flatMap.symm

theorem readNameFrom_run (name : Name) (is : List (Fin kNameBytes)) (out : Name) (tail : List U8) :
    readNameFrom is out ⟨is.map name ++ tail, false⟩ = (fun i => if i ∈ is then name i else out i, ⟨tail, false⟩) := by
  induction is generalizing out with
  | nil => simp [readNameFrom]
  | cons i is ih =>
    simp only [readNameFrom, List.map_cons, List.cons_append, ByteReader.bind_run, ByteReader.u8_run, ih]
    rw [filled_cons]

@[simp] theorem readName_run (name : Name) (tail : List U8) :
    readName ⟨nameBytes name ++ tail, false⟩ = (name, ⟨tail, false⟩) := by
  rw [readName, nameBytes, readNameFrom_run]
  simp

theorem emits_encodeJoinLobby (msg : MsgJoinLobby) : Emits (fun w => encodeJoinLobby w msg) (nameBytes msg.name) :=
  emits_writeName msg.name

theorem decodeJoinLobby_run (msg : MsgJoinLobby) (tail : List U8) :
    decodeJoinLobby ⟨nameBytes msg.name ++ tail, false⟩ = (some msg, ⟨tail, false⟩) := by
  simp [decodeJoinLobby]

def joinAcceptBytes (msg : MsgJoinAccept) : List U8 :=
  msg.playerId :: (split32 msg.sessionToken ++ split16 msg.udpPort)

theorem emits_encodeJoinAccept (msg : MsgJoinAccept) :
    Emits (fun w => encodeJoinAccept w msg) (joinAcceptBytes msg) := by
  have h := ((emits_u8 msg.playerId).andThen (emits_u32 msg.sessionToken)).andThen (emits_u16 msg.udpPort)
  exact h.of_eq (by simp [joinAcceptBytes])

theorem decodeJoinAccept_run (msg : MsgJoinAccept) (tail : List U8) :
    decodeJoinAccept ⟨joinAcceptBytes msg ++ tail, false⟩ = (some msg, ⟨tail, false⟩) := by
  simp [decodeJoinAccept, joinAcceptBytes]

/-- An accepted payload begins with the bytes of the message. -/
theorem decodeJoinAccept_bytes {payload rest : List U8} {msg : MsgJoinAccept}
    (h : decodeJoinAccept ⟨payload, false⟩ = (some msg, ⟨rest, false⟩)) : payload = joinAcceptBytes msg ++ rest := by
  match payload, h with
  | _ :: t0 :: t1 :: t2 :: t3 :: p0 :: p1 :: tail, h =>
    cases h
    simp [joinAcceptBytes, split32_join32, split16_join16]
  | [], h => cases h
  | [_], h => cases h
  | [_, _], h => cases h
  | [_, _, _], h => cases h
  | [_, _, _, _], h => cases h
  | [_, _, _, _, _], h => cases h
  | [_, _, _, _, _, _], h => cases h

theorem emits_encodeJoinReject (msg : MsgJoinReject) :
    Emits (fun w => encodeJoinReject w msg) [joinRejectReasonByte msg.reason] :=
  emits_u8 _

theorem decodeJoinReject_run (msg : MsgJoinReject) (tail : List U8) :
    decodeJoinReject ⟨[joinRejectReasonByte msg.reason] ++ tail, false⟩ = (some msg, ⟨tail, false⟩) := by
  obtain ⟨reason⟩ := msg
  cases reason <;> simp [decodeJoinReject, joinRejectReasonByte]

def lobbySlotBytes (msg : MsgLobbyState) (i : Fin kMaxPlayers) : List U8 := msg.ids i :: nameBytes (msg.names i)

def lobbyStateBytes (msg : MsgLobbyState) : List U8 :=
  msg.playerCount :: ((firstSlots msg.playerCount.toNat).flatMap (lobbySlotBytes msg) ++ [msg.hostId])

theorem emits_encodeLobbyState (msg : MsgLobbyState) :
    Emits (fun w => encodeLobbyState w msg) (lobbyStateBytes msg) := by
  have hSlots := emits_foldl (firstSlots msg.playerCount.toNat) fun i =>
    (emits_u8 (msg.ids i)).andThen (emits_writeName (msg.names i))
  have h := ((emits_u8 msg.playerCount).andThen hSlots).andThen (emits_u8 msg.hostId)
  refine h.of_eq ?_
  simp only [lobbyStateBytes, List.cons_append, List.nil_append]
  rfl

theorem decodeLobbySlots_run (msg : MsgLobbyState) (is : List (Fin kMaxPlayers)) (out : MsgLobbyState)
    (tail : List U8) :
    decodeLobbySlots is out ⟨is.flatMap (lobbySlotBytes msg) ++ tail, false⟩ =
      ({ out with
          ids := fun i => if i ∈ is then msg.ids i else out.ids i
          names := fun i => if i ∈ is then msg.names i else out.names i }, ⟨tail, false⟩) := by
  induction is generalizing out with
  | nil => simp [decodeLobbySlots]
  | cons i is ih =>
    simp only [decodeLobbySlots, List.flatMap_cons, lobbySlotBytes, List.cons_append, List.append_assoc,
      ByteReader.bind_run, ByteReader.u8_run, readName_run]
    rw [ih, filled_cons, filled_cons]

theorem length_lobbyStateBytes (msg : MsgLobbyState) : (lobbyStateBytes msg).length ≤ 172 := by
  have hSlots := @length_flatMap_firstSlots (lobbySlotBytes msg) 17 (fun _ => Nat.le_refl _) msg.playerCount.toNat
  simp only [lobbyStateBytes, List.length_cons, List.length_append, List.length_nil]
  omega

/-- Slots past the count are not sent. -/
def wireLobby (msg : MsgLobbyState) : MsgLobbyState :=
  { msg with
    ids := fun i => if i ∈ firstSlots msg.playerCount.toNat then msg.ids i else 0
    names := fun i => if i ∈ firstSlots msg.playerCount.toNat then msg.names i else fun _ => 0 }

theorem decodeLobbyState_run (msg : MsgLobbyState) (hCount : msg.playerCount.toNat ≤ kMaxPlayers) (tail : List U8) :
    decodeLobbyState ⟨lobbyStateBytes msg ++ tail, false⟩ = (some (wireLobby msg), ⟨tail, false⟩) := by
  have hNot : ¬ msg.playerCount.toNat > kMaxPlayers := by omega
  simp [decodeLobbyState, lobbyStateBytes, decodeLobbySlots_run, hNot, wireLobby]

def gameStartSlotBytes (msg : MsgGameStart) (i : Fin kMaxPlayers) : List U8 :=
  msg.ids i :: teamByte (msg.teams i) :: vec2Bytes (msg.spawnPoints i)

def gameStartBytes (msg : MsgGameStart) : List U8 :=
  msg.playerCount :: (split32 msg.startTick ++
    (firstSlots msg.playerCount.toNat).flatMap (gameStartSlotBytes msg))

theorem length_gameStartBytes (msg : MsgGameStart) : (gameStartBytes msg).length ≤ 65 := by
  have hSlots := @length_flatMap_firstSlots (gameStartSlotBytes msg) 6 (fun _ => Nat.le_refl _) msg.playerCount.toNat
  simp only [gameStartBytes, List.length_cons, List.length_append, length_split32]
  omega

theorem emits_encodeGameStart (msg : MsgGameStart) :
    Emits (fun w => encodeGameStart w msg) (gameStartBytes msg) := by
  have hSlots := emits_foldl (firstSlots msg.playerCount.toNat) fun i =>
    ((emits_u8 (msg.ids i)).andThen (emits_u8 (teamByte (msg.teams i)))).andThen (emits_writeVec2 (msg.spawnPoints i))
  have h := ((emits_u8 msg.playerCount).andThen (emits_u32 msg.startTick)).andThen hSlots
  refine h.of_eq ?_
  simp only [gameStartBytes, List.cons_append, List.nil_append]
  rfl

theorem decodeGameStartSlots_run (msg : MsgGameStart) (is : List (Fin kMaxPlayers)) (out : MsgGameStart)
    (tail : List U8) :
    decodeGameStartSlots is out ⟨is.flatMap (gameStartSlotBytes msg) ++ tail, false⟩ =
      (some { out with
          ids := fun i => if i ∈ is then msg.ids i else out.ids i
          teams := fun i => if i ∈ is then msg.teams i else out.teams i
          spawnPoints := fun i => if i ∈ is then wireVec2 (msg.spawnPoints i) else out.spawnPoints i },
        ⟨tail, false⟩) := by
  induction is generalizing out with
  | nil => simp [decodeGameStartSlots]
  | cons i is ih =>
    simp only [decodeGameStartSlots, List.flatMap_cons, gameStartSlotBytes, List.cons_append, List.append_assoc,
      ByteReader.bind_run, ByteReader.u8_run, decodeTeam_teamByte, readVec2_run]
    rw [ih, filled_cons, filled_cons, filled_cons is i (fun i => wireVec2 (msg.spawnPoints i))]

/-- Spawn points as the wire carries them; slots past the count are not sent. -/
def wireGameStart (msg : MsgGameStart) : MsgGameStart :=
  { msg with
    ids := fun i => if i ∈ firstSlots msg.playerCount.toNat then msg.ids i else 0
    teams := fun i => if i ∈ firstSlots msg.playerCount.toNat then msg.teams i else .red
    spawnPoints := fun i => if i ∈ firstSlots msg.playerCount.toNat then wireVec2 (msg.spawnPoints i) else {} }

theorem decodeGameStart_run (msg : MsgGameStart) (hCount : msg.playerCount.toNat ≤ kMaxPlayers) (tail : List U8) :
    decodeGameStart ⟨gameStartBytes msg ++ tail, false⟩ = (some (wireGameStart msg), ⟨tail, false⟩) := by
  have hNot : ¬ msg.playerCount.toNat > kMaxPlayers := by omega
  simp [decodeGameStart, gameStartBytes, decodeGameStartSlots_run, hNot, wireGameStart]

def udpHelloBytes (msg : MsgUdpHello) : List U8 := msg.playerId :: split32 msg.sessionToken

theorem emits_encodeUdpHello (msg : MsgUdpHello) : Emits (fun w => encodeUdpHello w msg) (udpHelloBytes msg) :=
  (emits_u8 msg.playerId).andThen (emits_u32 msg.sessionToken)

theorem decodeUdpHello_run (msg : MsgUdpHello) (tail : List U8) :
    decodeUdpHello ⟨udpHelloBytes msg ++ tail, false⟩ = (some msg, ⟨tail, false⟩) := by
  simp [decodeUdpHello, udpHelloBytes]

def shotFiredBytes (msg : MsgShotFired) : List U8 :=
  msg.shooterId :: (vec2Bytes msg.origin ++ (split16 msg.aimAngle ++ vec2Bytes msg.hitPoint))

theorem emits_encodeShotFired (msg : MsgShotFired) : Emits (fun w => encodeShotFired w msg) (shotFiredBytes msg) := by
  have h := (((emits_u8 msg.shooterId).andThen (emits_writeVec2 msg.origin)).andThen (emits_u16 msg.aimAngle)).andThen
    (emits_writeVec2 msg.hitPoint)
  exact h.of_eq (by simp [shotFiredBytes])

theorem decodeShotFired_run (msg : MsgShotFired) (tail : List U8) :
    decodeShotFired ⟨shotFiredBytes msg ++ tail, false⟩ =
      (some { msg with origin := wireVec2 msg.origin, hitPoint := wireVec2 msg.hitPoint }, ⟨tail, false⟩) := by
  simp [decodeShotFired, shotFiredBytes]

def playerKilledBytes (msg : MsgPlayerKilled) : List U8 := msg.victimId :: msg.killerId :: split32 msg.tick

theorem emits_encodePlayerKilled (msg : MsgPlayerKilled) :
    Emits (fun w => encodePlayerKilled w msg) (playerKilledBytes msg) :=
  ((emits_u8 msg.victimId).andThen (emits_u8 msg.killerId)).andThen (emits_u32 msg.tick)

theorem decodePlayerKilled_run (msg : MsgPlayerKilled) (tail : List U8) :
    decodePlayerKilled ⟨playerKilledBytes msg ++ tail, false⟩ = (some msg, ⟨tail, false⟩) := by
  simp [decodePlayerKilled, playerKilledBytes]

def playerRespawnedBytes (msg : MsgPlayerRespawned) : List U8 :=
  msg.playerId :: (vec2Bytes msg.position ++ split32 msg.tick)

theorem emits_encodePlayerRespawned (msg : MsgPlayerRespawned) :
    Emits (fun w => encodePlayerRespawned w msg) (playerRespawnedBytes msg) := by
  have h := ((emits_u8 msg.playerId).andThen (emits_writeVec2 msg.position)).andThen (emits_u32 msg.tick)
  exact h.of_eq (by simp [playerRespawnedBytes])

theorem decodePlayerRespawned_run (msg : MsgPlayerRespawned) (tail : List U8) :
    decodePlayerRespawned ⟨playerRespawnedBytes msg ++ tail, false⟩ =
      (some { msg with position := wireVec2 msg.position }, ⟨tail, false⟩) := by
  simp [decodePlayerRespawned, playerRespawnedBytes]

theorem decodeFlagTouched_append (msg : MsgFlagTouched) (tail : List U8) :
    decodeFlagTouched ⟨flagTouchedBytes msg ++ tail, false⟩ = (some msg, ⟨tail, false⟩) := by
  simp [decodeFlagTouched, flagTouchedBytes]

theorem decodeFlagDropped_append (msg : MsgFlagDropped) (tail : List U8) :
    decodeFlagDropped ⟨flagDroppedBytes msg ++ tail, false⟩ =
      (some { msg with position := wireVec2 msg.position }, ⟨tail, false⟩) := by
  simp [decodeFlagDropped, flagDroppedBytes]

def matchEndBytes (msg : MsgMatchEnd) : List U8 := [teamByte msg.winningTeam, msg.scoreRed, msg.scoreBlue]

theorem emits_encodeMatchEnd (msg : MsgMatchEnd) : Emits (fun w => encodeMatchEnd w msg) (matchEndBytes msg) :=
  ((emits_u8 (teamByte msg.winningTeam)).andThen (emits_u8 msg.scoreRed)).andThen (emits_u8 msg.scoreBlue)

theorem decodeMatchEnd_run (msg : MsgMatchEnd) (tail : List U8) :
    decodeMatchEnd ⟨matchEndBytes msg ++ tail, false⟩ = (some msg, ⟨tail, false⟩) := by
  simp [decodeMatchEnd, matchEndBytes]

end CaptureTheFlag.Protocol
