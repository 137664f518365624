import CaptureTheFlag.Server.SimState

/-! # Inbound commands, input pop and movement -/
namespace CaptureTheFlag
set_option autoImplicit false
open Circular

namespace Player

/-- The PlayerInput case of `drain_inbound`, for the player it names. -/
def acceptInput (p : Player) (seq : U32) (input : InputCmd) : Player :=
  if !p.alive then p
  else if seq.toNat ≤ p.newestSeq.toNat then p
  else
    let p := { p with newestSeq := seq }
    -- Full: drop the oldest.
    let p := if p.ringCount = kInputRingSize
      then { p with ringHead := (p.ringHead + 1) % kInputRingSize, ringCount := p.ringCount - 1 } else p
    let idx := slot kInputRingSize (p.ringHead + p.ringCount)
    { p with
      ring := Function.update p.ring idx input
      seqs := Function.update p.seqs idx seq
      ringCount := p.ringCount + 1 }

/-- The player after its turn of `pop_inputs`. -/
def popped (p : Player) : Player :=
  if p.alive ∧ p.ringCount > 0 then
    { p with
      lastInputSeq := p.seqs (slot kInputRingSize p.ringHead)
      ringHead := (p.ringHead + 1) % kInputRingSize
      ringCount := p.ringCount - 1 }
  else p

/-- The input `pop_inputs` applies: the oldest buffered one, else no input at all. -/
def nextInput (p : Player) : InputCmd :=
  if p.alive ∧ p.ringCount > 0 then p.ring (slot kInputRingSize p.ringHead) else {}

/-- One player's turn of `move_players`. -/
def moved (p : Player) (cmd : InputCmd) : Player :=
  { p with
    position := (movementStep { position := p.position } cmd Map.arena).position
    aimAngle := cmd.aimAngle }

end Player

namespace Sim

/-- A spawn index out of range means the first spawn point. -/
def spawnSlot (spawnIndex : U8) : Fin kMaxPlayers :=
  if h : spawnIndex.toNat < kMaxPlayers then ⟨spawnIndex.toNat, h⟩ else 0

/-- The record `apply_join` leaves in a free slot: `newest_seq_`, the aim and the ring cells are not reset. -/
def joined (p : Player) (team : Team) (spawnIndex : U8) : Player :=
  { p with
    active := true
    team
    spawnIndex := spawnSlot spawnIndex
    position := spawnPoint team (spawnSlot spawnIndex)
    health := kMaxHealth
    alive := true
    carryingFlag := false
    respawnTimer := 0
    fireCooldown := 0
    ringHead := 0
    ringCount := 0
    lastInputSeq := 0 }

def applyJoin (s : Sim) (id : U8) (team : Team) (spawnIndex : U8) : Sim :=
  if s.matchOver then s
  else if (s.findPlayer id).isSome then s
  else if h : id.toNat < kMaxPlayers then
    let s := s.setPlayer ⟨id.toNat, h⟩ (joined (s.players ⟨id.toNat, h⟩) team spawnIndex)
    { s with playerCount := s.playerCount + 1 }
  else s

def applyLeave (s : Sim) (id : U8) : Sim :=
  match s.findPlayer id with
  | none => s
  | some i =>
    let p := s.players i
    let s := if p.carryingFlag then
        let s := s.setFlag p.team.other { state := .dropped, position := p.position, carrierId := kNoCarrier }
        { s with dropTick := Function.update s.dropTick p.team.other s.currentTick }
      else s
    let s := s.setPlayer i {}
    { s with playerCount := s.playerCount - 1 }

/-- One iteration of `drain_inbound`. -/
def applyCommand (s : Sim) (cmd : InboundCommand) : Sim :=
  if s.matchOver then s
  else match cmd with
    | .playerJoined id team spawnIndex => s.applyJoin id team spawnIndex
    | .playerLeft id => s.applyLeave id
    | .playerInput id seq input =>
      match s.findPlayer id with
      | none => s
      | some i => s.setPlayer i ((s.players i).acceptInput seq input)

/-- `drain_inbound`, given what its loop pops before the queue is empty. -/
def drainInbound (s : Sim) (cmds : List InboundCommand) : Sim := cmds.foldl applyCommand s

def popInput (s : Sim) (id : Fin kMaxPlayers) : Sim :=
  let p := s.players id
  if !p.active then s
  else { s.setPlayer id p.popped with appliedCmds := Function.update s.appliedCmds id p.nextInput }

def popInputs (s : Sim) : Sim := (List.finRange kMaxPlayers).foldl popInput s

def movePlayer (s : Sim) (id : Fin kMaxPlayers) : Sim :=
  let p := s.players id
  if !p.active || !p.alive then s
  else s.setPlayer id (p.moved (s.appliedCmds id))

def movePlayers (s : Sim) : Sim := (List.finRange kMaxPlayers).foldl movePlayer s

end Sim
end CaptureTheFlag
