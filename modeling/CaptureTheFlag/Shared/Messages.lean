import CaptureTheFlag.Shared.Protocol

/-! # Lobby, input and event messages -/
namespace CaptureTheFlag.Protocol
set_option autoImplicit false
open BigEndian ByteWriter

/-- The slots a loop `for (i = 0; i < n && i < kMaxPlayers; ++i)` visits. -/
def firstSlots (n : Nat) : List (Fin kMaxPlayers) := (List.finRange kMaxPlayers).take n

instance (n : Nat) (i : Fin kMaxPlayers) : Decidable (i ∈ firstSlots n) := List.instDecidableMemOfLawfulBEq i (firstSlots n)

theorem mem_take_finRange {m : Nat} (n : Nat) (i : Fin m) : i ∈ (List.finRange m).take n ↔ i.val < n := by
  simp only [List.mem_take_iff_getElem, List.getElem_finRange, List.length_finRange]
  constructor
  · rintro ⟨j, hj, rfl⟩
    simp only [Fin.val_cast]
    omega
  · intro h
    exact ⟨i.val, by omega, rfl⟩

theorem filled_cons {n : Nat} {α : Type} (is : List (Fin n)) (i : Fin n) (f g : Fin n → α) :
    (fun j => if j ∈ is then f j else Function.update g i (f i) j) = fun j => if j ∈ i :: is then f j else g j := by
  funext j
  by_cases hj : j = i
  · subst hj
    by_cases hMem : j ∈ is <;> simp [hMem]
  · simp [hj]

structure MsgJoinLobby where
  name : Name := fun _ => 0

structure MsgJoinAccept where
  playerId : U8 := 0
  sessionToken : U32 := 0
  udpPort : U16 := 0
deriving DecidableEq, Repr

inductive JoinRejectReason where
  | full
  | inProgress
  | badVersion
deriving DecidableEq, Repr

structure MsgJoinReject where
  reason : JoinRejectReason := .full
deriving DecidableEq, Repr

structure MsgLobbyState where
  playerCount : U8 := 0
  ids : Fin kMaxPlayers → U8 := fun _ => 0
  names : Fin kMaxPlayers → Name := fun _ _ => 0
  hostId : U8 := 0

structure MsgStartRequest where
deriving DecidableEq, Repr

structure MsgGameStart where
  playerCount : U8 := 0
  ids : Fin kMaxPlayers → U8 := fun _ => 0
  teams : Fin kMaxPlayers → Team := fun _ => .red
  spawnPoints : Fin kMaxPlayers → Vec2Fixed := fun _ => {}
  startTick : U32 := 0

structure MsgHeartbeat where
deriving DecidableEq, Repr

def encodeJoinLobby (w : ByteWriter) (msg : MsgJoinLobby) : ByteWriter := writeName w msg.name

def decodeJoinLobby : Decoder (Option MsgJoinLobby) := do
  let name ← readName
  return if ← ByteReader.ok then some { name } else none

def encodeJoinAccept (w : ByteWriter) (msg : MsgJoinAccept) : ByteWriter :=
  ((w.u8 msg.playerId).u32 msg.sessionToken).u16 msg.udpPort

def decodeJoinAccept : Decoder (Option MsgJoinAccept) := do
  let playerId ← ByteReader.u8
  let sessionToken ← ByteReader.u32
  let udpPort ← ByteReader.u16
  return if ← ByteReader.ok then some { playerId, sessionToken, udpPort } else none

def joinRejectReasonByte : JoinRejectReason → U8
  | .full => 0
  | .inProgress => 1
  | .badVersion => 2

def encodeJoinReject (w : ByteWriter) (msg : MsgJoinReject) : ByteWriter :=
  w.u8 (joinRejectReasonByte msg.reason)

def decodeJoinReject : Decoder (Option MsgJoinReject) := do
  let raw ← ByteReader.u8
  if !(← ByteReader.ok) then return none
  if raw = 0 then return some ⟨.full⟩
  if raw = 1 then return some ⟨.inProgress⟩
  if raw = 2 then return some ⟨.badVersion⟩
  return none

def encodeLobbyState (w : ByteWriter) (msg : MsgLobbyState) : ByteWriter :=
  let w := w.u8 msg.playerCount
  let w := (firstSlots msg.playerCount.toNat).foldl
    (fun w i => writeName (w.u8 (msg.ids i)) (msg.names i)) w
  w.u8 msg.hostId

def decodeLobbySlots : List (Fin kMaxPlayers) → MsgLobbyState → Decoder MsgLobbyState
  | [], out => pure out
  | i :: is, out => do
    let id ← ByteReader.u8
    let name ← readName
    decodeLobbySlots is
      { out with ids := Function.update out.ids i id, names := Function.update out.names i name }

def decodeLobbyState : Decoder (Option MsgLobbyState) := do
  let playerCount ← ByteReader.u8
  if playerCount.toNat > kMaxPlayers then return none
  let out ← decodeLobbySlots (firstSlots playerCount.toNat) { playerCount }
  let hostId ← ByteReader.u8
  return if ← ByteReader.ok then some { out with hostId } else none

def encodeStartRequest (w : ByteWriter) (_ : MsgStartRequest) : ByteWriter := w

def decodeStartRequest : Decoder (Option MsgStartRequest) := do
  return if ← ByteReader.ok then some {} else none

def encodeGameStart (w : ByteWriter) (msg : MsgGameStart) : ByteWriter :=
  let w := (w.u8 msg.playerCount).u32 msg.startTick
  (firstSlots msg.playerCount.toNat).foldl
    (fun w i => writeVec2 ((w.u8 (msg.ids i)).u8 (teamByte (msg.teams i))) (msg.spawnPoints i)) w

def decodeGameStartSlots : List (Fin kMaxPlayers) → MsgGameStart → Decoder (Option MsgGameStart)
  | [], out => pure (some out)
  | i :: is, out => do
    let id ← ByteReader.u8
    let teamRaw ← ByteReader.u8
    match decodeTeam teamRaw with
    | none => return none
    | some team =>
      let spawn ← readVec2
      decodeGameStartSlots is
        { out with
          ids := Function.update out.ids i id
          teams := Function.update out.teams i team
          spawnPoints := Function.update out.spawnPoints i spawn }

def decodeGameStart : Decoder (Option MsgGameStart) := do
  let playerCount ← ByteReader.u8
  let startTick ← ByteReader.u32
  if !(← ByteReader.ok) ∨ playerCount.toNat > kMaxPlayers then return none
  let out ← decodeGameStartSlots (firstSlots playerCount.toNat) { playerCount, startTick }
  return if ← ByteReader.ok then out else none

def encodeHeartbeat (w : ByteWriter) (_ : MsgHeartbeat) : ByteWriter := w

def decodeHeartbeat : Decoder (Option MsgHeartbeat) := do
  return if ← ByteReader.ok then some {} else none

structure MsgUdpHello where
  playerId : U8 := 0
  sessionToken : U32 := 0
deriving DecidableEq, Repr

structure MsgPlayerInput where
  playerId : U8 := 0
  sessionToken : U32 := 0
  baseSeq : U32 := 0
  count : U8 := 0
  inputs : Fin kInputRedundancy → InputCmd := fun _ => {}

def encodeUdpHello (w : ByteWriter) (msg : MsgUdpHello) : ByteWriter :=
  (w.u8 msg.playerId).u32 msg.sessionToken

def decodeUdpHello : Decoder (Option MsgUdpHello) := do
  let playerId ← ByteReader.u8
  let sessionToken ← ByteReader.u32
  return if ← ByteReader.ok then some { playerId, sessionToken } else none

def firstInputs (n : Nat) : List (Fin kInputRedundancy) := (List.finRange kInputRedundancy).take n

def encodePlayerInput (w : ByteWriter) (msg : MsgPlayerInput) : ByteWriter :=
  let w := (((w.u8 msg.playerId).u32 msg.sessionToken).u32 msg.baseSeq).u8 msg.count
  (firstInputs msg.count.toNat).foldl
    (fun w i => (w.u8 (msg.inputs i).buttons).u16 (msg.inputs i).aimAngle) w

def decodeInputs : List (Fin kInputRedundancy) → MsgPlayerInput → Decoder MsgPlayerInput
  | [], out => pure out
  | i :: is, out => do
    let buttons ← ByteReader.u8
    let aimAngle ← ByteReader.u16
    decodeInputs is { out with inputs := Function.update out.inputs i { buttons, aimAngle } }

def decodePlayerInput : Decoder (Option MsgPlayerInput) := do
  let playerId ← ByteReader.u8
  let sessionToken ← ByteReader.u32
  let baseSeq ← ByteReader.u32
  let count ← ByteReader.u8
  if count.toNat > kInputRedundancy then return none
  let out ← decodeInputs (firstInputs count.toNat) { playerId, sessionToken, baseSeq, count }
  return if ← ByteReader.ok then some out else none

def inputBytes (cmd : InputCmd) : List U8 := cmd.buttons :: split16 cmd.aimAngle

def playerInputBytes (msg : MsgPlayerInput) : List U8 :=
  msg.playerId :: (split32 msg.sessionToken ++ (split32 msg.baseSeq ++
    msg.count :: (firstInputs msg.count.toNat).flatMap fun i => inputBytes (msg.inputs i)))

theorem emits_encodePlayerInput (msg : MsgPlayerInput) :
    Emits (fun w => encodePlayerInput w msg) (playerInputBytes msg) := by
  have hHead := (((emits_u8 msg.playerId).andThen (emits_u32 msg.sessionToken)).andThen (emits_u32 msg.baseSeq)).andThen
    (emits_u8 msg.count)
  have h := hHead.andThen (emits_foldl (firstInputs msg.count.toNat)
    (fun i => (emits_u8 (msg.inputs i).buttons).andThen (emits_u16 (msg.inputs i).aimAngle)))
  exact h.of_eq (by simp [playerInputBytes, inputBytes])

theorem length_playerInputBytes (msg : MsgPlayerInput) : (playerInputBytes msg).length ≤ 19 := by
  have hBody : ∀ is : List (Fin kInputRedundancy),
      (is.flatMap (fun i => inputBytes (msg.inputs i))).length = 3 * is.length := by
    intro is
    induction is with
    | nil => rfl
    | cons i is ih =>
      rw [List.flatMap_cons, List.length_append, ih, List.length_cons, inputBytes, List.length_cons, length_split16]
      omega
  have hSlots : (firstInputs msg.count.toNat).length ≤ 3 := by simp [firstInputs]
  simp only [playerInputBytes, List.length_cons, List.length_append, length_split32, hBody]
  omega

theorem decodeInputs_run (msg : MsgPlayerInput) (is : List (Fin kInputRedundancy)) (out : MsgPlayerInput)
    (tail : List U8) :
    decodeInputs is out ⟨is.flatMap (fun i => inputBytes (msg.inputs i)) ++ tail, false⟩ =
      ({ out with inputs := fun i => if i ∈ is then msg.inputs i else out.inputs i }, ⟨tail, false⟩) := by
  induction is generalizing out with
  | nil => simp [decodeInputs]
  | cons i is ih =>
    simp only [decodeInputs, List.flatMap_cons, inputBytes, List.cons_append, List.append_assoc, ByteReader.bind_run,
      ByteReader.u8_run, ByteReader.u16_run]
    simp only [inputBytes] at ih
    rw [ih]
    simp only [filled_cons is i msg.inputs out.inputs]

/-- Inputs past the count are not sent. -/
def wireInput (msg : MsgPlayerInput) : MsgPlayerInput :=
  { msg with inputs := fun i => if i ∈ firstInputs msg.count.toNat then msg.inputs i else {} }

theorem decodePlayerInput_run (msg : MsgPlayerInput) (hCount : msg.count.toNat ≤ kInputRedundancy) (tail : List U8) :
    decodePlayerInput ⟨playerInputBytes msg ++ tail, false⟩ = (some (wireInput msg), ⟨tail, false⟩) := by
  have hNot : ¬ msg.count.toNat > kInputRedundancy := by omega
  simp [decodePlayerInput, playerInputBytes, decodeInputs_run, hNot, wireInput]

structure MsgShotFired where
  shooterId : U8 := 0
  origin : Vec2Fixed := {}
  aimAngle : U16 := 0
  hitPoint : Vec2Fixed := {}
deriving DecidableEq, Repr

structure MsgPlayerKilled where
  victimId : U8 := 0
  killerId : U8 := 0
  tick : U32 := 0
deriving DecidableEq, Repr

structure MsgPlayerRespawned where
  playerId : U8 := 0
  position : Vec2Fixed := {}
  tick : U32 := 0
deriving DecidableEq, Repr

/-- The common shape of FLAG_PICKED_UP, FLAG_RETURNED and FLAG_CAPTURED. -/
structure MsgFlagTouched where
  flagTeam : Team := .red
  playerId : U8 := 0
  tick : U32 := 0
deriving DecidableEq, Repr

abbrev MsgFlagPickedUp := MsgFlagTouched
abbrev MsgFlagReturned := MsgFlagTouched
abbrev MsgFlagCaptured := MsgFlagTouched

structure MsgFlagDropped where
  flagTeam : Team := .red
  position : Vec2Fixed := {}
  tick : U32 := 0
deriving DecidableEq, Repr

structure MsgMatchEnd where
  winningTeam : Team := .red
  scoreRed : U8 := 0
  scoreBlue : U8 := 0
deriving DecidableEq, Repr

def encodeShotFired (w : ByteWriter) (msg : MsgShotFired) : ByteWriter :=
  writeVec2 ((writeVec2 (w.u8 msg.shooterId) msg.origin).u16 msg.aimAngle) msg.hitPoint

def decodeShotFired : Decoder (Option MsgShotFired) := do
  let shooterId ← ByteReader.u8
  let origin ← readVec2
  let aimAngle ← ByteReader.u16
  let hitPoint ← readVec2
  return if ← ByteReader.ok then some { shooterId, origin, aimAngle, hitPoint } else none

def encodePlayerKilled (w : ByteWriter) (msg : MsgPlayerKilled) : ByteWriter :=
  ((w.u8 msg.victimId).u8 msg.killerId).u32 msg.tick

def decodePlayerKilled : Decoder (Option MsgPlayerKilled) := do
  let victimId ← ByteReader.u8
  let killerId ← ByteReader.u8
  let tick ← ByteReader.u32
  return if ← ByteReader.ok then some { victimId, killerId, tick } else none

def encodePlayerRespawned (w : ByteWriter) (msg : MsgPlayerRespawned) : ByteWriter :=
  (writeVec2 (w.u8 msg.playerId) msg.position).u32 msg.tick

def decodePlayerRespawned : Decoder (Option MsgPlayerRespawned) := do
  let playerId ← ByteReader.u8
  let position ← readVec2
  let tick ← ByteReader.u32
  return if ← ByteReader.ok then some { playerId, position, tick } else none

def encodeFlagTouched (w : ByteWriter) (msg : MsgFlagTouched) : ByteWriter :=
  ((w.u8 (teamByte msg.flagTeam)).u8 msg.playerId).u32 msg.tick

def decodeFlagTouched : Decoder (Option MsgFlagTouched) := do
  let teamRaw ← ByteReader.u8
  let playerId ← ByteReader.u8
  let tick ← ByteReader.u32
  if !(← ByteReader.ok) then return none
  return (decodeTeam teamRaw).map fun flagTeam => { flagTeam, playerId, tick }

def encodeFlagPickedUp (w : ByteWriter) (msg : MsgFlagPickedUp) : ByteWriter := encodeFlagTouched w msg
def decodeFlagPickedUp : Decoder (Option MsgFlagPickedUp) := decodeFlagTouched
def encodeFlagReturned (w : ByteWriter) (msg : MsgFlagReturned) : ByteWriter := encodeFlagTouched w msg
def decodeFlagReturned : Decoder (Option MsgFlagReturned) := decodeFlagTouched
def encodeFlagCaptured (w : ByteWriter) (msg : MsgFlagCaptured) : ByteWriter := encodeFlagTouched w msg
def decodeFlagCaptured : Decoder (Option MsgFlagCaptured) := decodeFlagTouched

def encodeFlagDropped (w : ByteWriter) (msg : MsgFlagDropped) : ByteWriter :=
  (writeVec2 (w.u8 (teamByte msg.flagTeam)) msg.position).u32 msg.tick

def decodeFlagDropped : Decoder (Option MsgFlagDropped) := do
  let teamRaw ← ByteReader.u8
  let position ← readVec2
  let tick ← ByteReader.u32
  if !(← ByteReader.ok) then return none
  return (decodeTeam teamRaw).map fun flagTeam => { flagTeam, position, tick }

def encodeMatchEnd (w : ByteWriter) (msg : MsgMatchEnd) : ByteWriter :=
  ((w.u8 (teamByte msg.winningTeam)).u8 msg.scoreRed).u8 msg.scoreBlue

def decodeMatchEnd : Decoder (Option MsgMatchEnd) := do
  let teamRaw ← ByteReader.u8
  let scoreRed ← ByteReader.u8
  let scoreBlue ← ByteReader.u8
  if !(← ByteReader.ok) then return none
  return (decodeTeam teamRaw).map fun winningTeam => { winningTeam, scoreRed, scoreBlue }

def flagTouchedBytes (msg : MsgFlagTouched) : List U8 :=
  [teamByte msg.flagTeam, msg.playerId] ++ split32 msg.tick

def flagDroppedBytes (msg : MsgFlagDropped) : List U8 :=
  [teamByte msg.flagTeam] ++ vec2Bytes msg.position ++ split32 msg.tick

theorem emits_encodeFlagTouched (msg : MsgFlagTouched) :
    Emits (fun w => encodeFlagTouched w msg) (flagTouchedBytes msg) :=
  ((emits_u8 _).andThen (emits_u8 _)).andThen (emits_u32 _)

theorem emits_encodeFlagDropped (msg : MsgFlagDropped) :
    Emits (fun w => encodeFlagDropped w msg) (flagDroppedBytes msg) :=
  ((emits_u8 _).andThen (emits_writeVec2 _)).andThen (emits_u32 _)

@[simp] theorem decodeFlagTouched_run (msg : MsgFlagTouched) :
    decodeFlagTouched ⟨flagTouchedBytes msg, false⟩ = (some msg, ⟨[], false⟩) := by
  have hTick := ByteReader.u32_run msg.tick []
  simp only [List.append_nil] at hTick
  simp [decodeFlagTouched, flagTouchedBytes, hTick]

@[simp] theorem decodeFlagDropped_run (msg : MsgFlagDropped) :
    decodeFlagDropped ⟨flagDroppedBytes msg, false⟩ =
      (some { msg with position := wireVec2 msg.position }, ⟨[], false⟩) := by
  have hTick := ByteReader.u32_run msg.tick []
  simp only [List.append_nil] at hTick
  simp [decodeFlagDropped, flagDroppedBytes, hTick]

end CaptureTheFlag.Protocol
