import CaptureTheFlag.Library.Filling
import CaptureTheFlag.Shared.DeltaSnapshot

/-! # The decoders as they write into their out-parameter

Here an enumeration is the byte that holds it, so that a record can also hold a byte that is no enumerator, and the
fields are written in the order of the source, which is before most of them are checked. The arrays are indexed by the
loop counters as they come.
-/
namespace CaptureTheFlag.Raw
set_option autoImplicit false
open Protocol Filling

structure PlayerState where
  id : U8 := 0
  team : U8 := 0
  motion : PlayerMotion := {}
  aimAngle : U16 := 0
  health : U8 := 100
  alive : Bool := true
  carryingFlag : Bool := false
  firing : Bool := false

structure WorldSnapshot where
  tick : U32 := 0
  lastInputSeq : U32 := 0
  playerCount : U8 := 0
  flagCarrierRed : U8 := kNoCarrier
  flagCarrierBlue : U8 := kNoCarrier
  flagStateRed : U8 := 0
  flagStateBlue : U8 := 0
  scoreRed : U8 := 0
  scoreBlue : U8 := 0
  secondsRemaining : U16 := 0
  players : Fin kMaxPlayers → PlayerState := fun _ => {}

structure MsgGameStart where
  playerCount : U8 := 0
  ids : Fin kMaxPlayers → U8 := fun _ => 0
  teams : Fin kMaxPlayers → U8 := fun _ => 0
  spawnPoints : Fin kMaxPlayers → Vec2Fixed := fun _ => {}
  startTick : U32 := 0

/-- The common shape of FLAG_PICKED_UP, FLAG_RETURNED and FLAG_CAPTURED. -/
structure MsgFlagTouched where
  flagTeam : U8 := 0
  playerId : U8 := 0
  tick : U32 := 0

structure MsgFlagDropped where
  flagTeam : U8 := 0
  position : Vec2Fixed := {}
  tick : U32 := 0

structure MsgMatchEnd where
  winningTeam : U8 := 0
  scoreRed : U8 := 0
  scoreBlue : U8 := 0

variable {σ : Type}

/-- `decode_team`; the byte is stored only if it names a team. -/
def decodeTeam (raw : U8) (put : U8 → σ → σ) : Filling ByteReader σ Unit := do
  require (decide (raw.toNat ≤ (teamByte .blue).toNat))
  write (put raw)

def decodeFlagState (raw : U8) (put : U8 → σ → σ) : Filling ByteReader σ Unit := do
  require (decide (raw.toNat ≤ (flagStateByte .dropped).toNat))
  write (put raw)

theorem decodeTeam_cases (raw : U8) :
    (raw.toNat ≤ (teamByte .blue).toNat ∧ ∃ team, Protocol.decodeTeam raw = some team ∧ raw = teamByte team) ∨
      (¬ raw.toNat ≤ (teamByte .blue).toNat ∧ Protocol.decodeTeam raw = none) := by
  by_cases hLe : raw.toNat ≤ 1
  · refine Or.inl ⟨hLe, ?_⟩
    rcases Nat.le_one_iff_eq_zero_or_eq_one.mp hLe with hRed | hBlue
    · rw [BitVec.eq_of_toNat_eq (y := 0#8) hRed]
      exact ⟨.red, rfl, rfl⟩
    · rw [BitVec.eq_of_toNat_eq (y := 1#8) hBlue]
      exact ⟨.blue, rfl, rfl⟩
  · refine Or.inr ⟨hLe, ?_⟩
    have hRed : raw ≠ 0 := fun h => hLe (by rw [h]; decide)
    have hBlue : raw ≠ 1 := fun h => hLe (by rw [h]; decide)
    rw [Protocol.decodeTeam, if_neg hRed, if_neg hBlue]

theorem decodeFlagState_cases (raw : U8) :
    (raw.toNat ≤ (flagStateByte .dropped).toNat ∧
        ∃ state, Protocol.decodeFlagState raw = some state ∧ raw = flagStateByte state) ∨
      (¬ raw.toNat ≤ (flagStateByte .dropped).toNat ∧ Protocol.decodeFlagState raw = none) := by
  by_cases hLe : raw.toNat ≤ 2
  · refine Or.inl ⟨hLe, ?_⟩
    have hNat : raw.toNat = 0 ∨ raw.toNat = 1 ∨ raw.toNat = 2 := by omega
    rcases hNat with hAtBase | hCarried | hDropped
    · rw [BitVec.eq_of_toNat_eq (y := 0#8) hAtBase]
      exact ⟨.atBase, rfl, rfl⟩
    · rw [BitVec.eq_of_toNat_eq (y := 1#8) hCarried]
      exact ⟨.carried, rfl, rfl⟩
    · rw [BitVec.eq_of_toNat_eq (y := 2#8) hDropped]
      exact ⟨.dropped, rfl, rfl⟩
  · refine Or.inr ⟨hLe, ?_⟩
    have hAtBase : raw ≠ 0 := fun h => hLe (by rw [h]; decide)
    have hCarried : raw ≠ 1 := fun h => hLe (by rw [h]; decide)
    have hDropped : raw ≠ 2 := fun h => hLe (by rw [h]; decide)
    rw [Protocol.decodeFlagState, if_neg hAtBase, if_neg hCarried, if_neg hDropped]

/-- `if (!r.ok()) return false`, or `return r.ok()` at the end. -/
def requireOk : Filling ByteReader σ Unit := read ByteReader.ok >>= require

def decodeLobbySlot (i : Fin kMaxPlayers) : Filling ByteReader MsgLobbyState Unit := do
  store ByteReader.u8 fun id out => { out with ids := Function.update out.ids i id }
  store readName fun name out => { out with names := Function.update out.names i name }

def decodeLobbyState : Filling ByteReader MsgLobbyState Unit := do
  store ByteReader.u8 fun playerCount out => { out with playerCount }
  let out ← record
  require (decide (out.playerCount.toNat ≤ kMaxPlayers))
  forIndices decodeLobbySlot (List.range out.playerCount.toNat)
  store ByteReader.u8 fun hostId out => { out with hostId }
  requireOk

def decodeGameStartSlot (i : Fin kMaxPlayers) : Filling ByteReader MsgGameStart Unit := do
  store ByteReader.u8 fun id out => { out with ids := Function.update out.ids i id }
  let teamRaw ← read ByteReader.u8
  decodeTeam teamRaw fun team out => { out with teams := Function.update out.teams i team }
  store readVec2 fun spawn out => { out with spawnPoints := Function.update out.spawnPoints i spawn }

def decodeGameStart : Filling ByteReader MsgGameStart Unit := do
  store ByteReader.u8 fun playerCount out => { out with playerCount }
  store ByteReader.u32 fun startTick out => { out with startTick }
  let ok ← read ByteReader.ok
  let out ← record
  require (ok && decide (out.playerCount.toNat ≤ kMaxPlayers))
  forIndices decodeGameStartSlot (List.range out.playerCount.toNat)
  requireOk

def decodeShotFired : Filling ByteReader MsgShotFired Unit := do
  store ByteReader.u8 fun shooterId out => { out with shooterId }
  store readVec2 fun origin out => { out with origin }
  store ByteReader.u16 fun aimAngle out => { out with aimAngle }
  store readVec2 fun hitPoint out => { out with hitPoint }
  requireOk

def decodePlayerKilled : Filling ByteReader MsgPlayerKilled Unit := do
  store ByteReader.u8 fun victimId out => { out with victimId }
  store ByteReader.u8 fun killerId out => { out with killerId }
  store ByteReader.u32 fun tick out => { out with tick }
  requireOk

def decodePlayerRespawned : Filling ByteReader MsgPlayerRespawned Unit := do
  store ByteReader.u8 fun playerId out => { out with playerId }
  store readVec2 fun position out => { out with position }
  store ByteReader.u32 fun tick out => { out with tick }
  requireOk

def decodeFlagTouched : Filling ByteReader MsgFlagTouched Unit := do
  let teamRaw ← read ByteReader.u8
  store ByteReader.u8 fun playerId out => { out with playerId }
  store ByteReader.u32 fun tick out => { out with tick }
  requireOk
  decodeTeam teamRaw fun flagTeam out => { out with flagTeam }

def decodeFlagPickedUp : Filling ByteReader MsgFlagTouched Unit := decodeFlagTouched
def decodeFlagReturned : Filling ByteReader MsgFlagTouched Unit := decodeFlagTouched
def decodeFlagCaptured : Filling ByteReader MsgFlagTouched Unit := decodeFlagTouched

def decodeFlagDropped : Filling ByteReader MsgFlagDropped Unit := do
  let teamRaw ← read ByteReader.u8
  store readVec2 fun position out => { out with position }
  store ByteReader.u32 fun tick out => { out with tick }
  requireOk
  decodeTeam teamRaw fun flagTeam out => { out with flagTeam }

def decodeMatchEnd : Filling ByteReader MsgMatchEnd Unit := do
  let teamRaw ← read ByteReader.u8
  store ByteReader.u8 fun scoreRed out => { out with scoreRed }
  store ByteReader.u8 fun scoreBlue out => { out with scoreBlue }
  requireOk
  decodeTeam teamRaw fun winningTeam out => { out with winningTeam }

/-- A write into `out.players[i]`. -/
def setPlayer (i : Fin kMaxPlayers) (f : PlayerState → PlayerState) (out : WorldSnapshot) : WorldSnapshot :=
  { out with players := Function.update out.players i (f (out.players i)) }

def unpackPlayerFlags (f : U8) (p : PlayerState) : PlayerState :=
  { p with
    alive := f &&& kFlagAlive != 0
    carryingFlag := f &&& kFlagCarrying != 0
    team := if f &&& kFlagTeamBlue != 0 then teamByte .blue else teamByte .red
    firing := f &&& kFlagFiring != 0 }

/-- One iteration of the player loop of `decode_world_snapshot`. -/
def decodePlayerState (i : Fin kMaxPlayers) : Filling ByteReader WorldSnapshot Unit := do
  store ByteReader.u8 fun id => setPlayer i fun p => { p with id }
  store readVec2 fun position => setPlayer i fun p => { p with motion := { p.motion with position } }
  write (setPlayer i fun p => { p with motion := { p.motion with velocity := {} } })
  store ByteReader.u16 fun aimAngle => setPlayer i fun p => { p with aimAngle }
  store ByteReader.u8 fun health => setPlayer i fun p => { p with health }
  store ByteReader.u8 fun flags => setPlayer i (unpackPlayerFlags flags)

def decodeWorldSnapshot : Filling ByteReader WorldSnapshot Unit := do
  store ByteReader.u32 fun lastInputSeq out => { out with lastInputSeq }
  store ByteReader.u32 fun tick out => { out with tick }
  store ByteReader.u8 fun playerCount out => { out with playerCount }
  store ByteReader.u8 fun flagCarrierRed out => { out with flagCarrierRed }
  store ByteReader.u8 fun flagCarrierBlue out => { out with flagCarrierBlue }
  let flagStateRedRaw ← read ByteReader.u8
  let flagStateBlueRaw ← read ByteReader.u8
  store ByteReader.u8 fun scoreRed out => { out with scoreRed }
  store ByteReader.u8 fun scoreBlue out => { out with scoreBlue }
  store ByteReader.u16 fun secondsRemaining out => { out with secondsRemaining }
  let ok ← read ByteReader.ok
  let out ← record
  require (ok && decide (out.playerCount.toNat ≤ kMaxPlayers))
  decodeFlagState flagStateRedRaw fun flagStateRed out => { out with flagStateRed }
  decodeFlagState flagStateBlueRaw fun flagStateBlue out => { out with flagStateBlue }
  forIndices decodePlayerState (List.range out.playerCount.toNat)
  requireOk

def decodeDeltaScores (mask : U8) : Filling ByteReader WorldSnapshot Unit := do
  when (mask &&& kDeltaHeaderScoreRed ≠ 0) (store ByteReader.u8 fun scoreRed out => { out with scoreRed })
  when (mask &&& kDeltaHeaderScoreBlue ≠ 0) (store ByteReader.u8 fun scoreBlue out => { out with scoreBlue })
  when (mask &&& kDeltaHeaderSecondsRemaining ≠ 0)
    (store ByteReader.u16 fun secondsRemaining out => { out with secondsRemaining })

def decodeDeltaFlagRed (mask : U8) : Filling ByteReader WorldSnapshot Unit :=
  when (mask &&& kDeltaHeaderFlagRed ≠ 0) do
    let stateRaw ← read ByteReader.u8
    store ByteReader.u8 fun flagCarrierRed out => { out with flagCarrierRed }
    requireOk
    decodeFlagState stateRaw fun flagStateRed out => { out with flagStateRed }

def decodeDeltaFlagBlue (mask : U8) : Filling ByteReader WorldSnapshot Unit :=
  when (mask &&& kDeltaHeaderFlagBlue ≠ 0) do
    let stateRaw ← read ByteReader.u8
    store ByteReader.u8 fun flagCarrierBlue out => { out with flagCarrierBlue }
    requireOk
    decodeFlagState stateRaw fun flagStateBlue out => { out with flagStateBlue }

def decodeDeltaCount (mask : U8) : Filling ByteReader WorldSnapshot Unit :=
  when (mask &&& kDeltaHeaderPlayerCount ≠ 0) do
    store ByteReader.u8 fun playerCount out => { out with playerCount }
    let ok ← read ByteReader.ok
    let out ← record
    require (ok && decide (out.playerCount.toNat ≤ kMaxPlayers))

def decodeDeltaFields (fm : U8) (i : Fin kMaxPlayers) : Filling ByteReader WorldSnapshot Unit := do
  when (fm &&& kDeltaFieldPos ≠ 0)
    (store readVec2 fun position => setPlayer i fun p => { p with motion := { p.motion with position } })
  when (fm &&& kDeltaFieldAim ≠ 0) (store ByteReader.u16 fun aimAngle => setPlayer i fun p => { p with aimAngle })
  when (fm &&& kDeltaFieldHealth ≠ 0) (store ByteReader.u8 fun health => setPlayer i fun p => { p with health })
  when (fm &&& kDeltaFieldFlagsByte ≠ 0) (store ByteReader.u8 fun flags => setPlayer i (unpackPlayerFlags flags))

/-- One iteration of the player loop of `decode_delta_snapshot`. -/
def decodeDeltaPlayer (pchange : U16) (i : Fin kMaxPlayers) : Filling ByteReader WorldSnapshot Unit :=
  when (pchange &&& 1#16 <<< i.val ≠ 0) do
    store ByteReader.u8 fun id => setPlayer i fun p => { p with id }
    let fm ← read ByteReader.u8
    requireOk
    require (decide (fm &&& ~~~kDeltaFieldKnownMask = 0))
    decodeDeltaFields fm i
    requireOk

/-- Everything after the baseline check, on the copy. -/
def decodeDeltaBody (mask : U8) (currentTick : U32) : Filling ByteReader WorldSnapshot Unit := do
  decodeDeltaScores mask
  decodeDeltaFlagRed mask
  decodeDeltaFlagBlue mask
  decodeDeltaCount mask
  let pchange ← read ByteReader.u16
  requireOk
  require (decide (pchange.toNat < 1 <<< kMaxPlayers))
  forIndices (decodeDeltaPlayer pchange) (List.range kMaxPlayers)
  write fun out => { out with tick := currentTick }

def decodeDeltaSnapshot (currentTick : U32) : Filling ByteReader WorldSnapshot Unit := onCopy do
  let cache ← record
  store ByteReader.u32 fun lastInputSeq out => { out with lastInputSeq }
  let ticksAgo ← read ByteReader.u8
  let headerMask ← read ByteReader.u8
  requireOk
  require (decide (headerMask &&& ~~~kDeltaHeaderKnownMask = 0))
  require (decide (ticksAgo.toNat ≤ currentTick.toNat))
  require (decide (cache.tick = currentTick - ticksAgo.setWidth 32))
  decodeDeltaBody headerMask currentTick

end CaptureTheFlag.Raw
