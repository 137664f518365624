import CaptureTheFlag.Server.SimFlags

/-! # Win check, publish and the tick -/
namespace CaptureTheFlag
set_option autoImplicit false
open Protocol

namespace Sim

def winCheck (s : Sim) : Sim :=
  if s.matchOver then s
  else
    let limitTicks := kMatchTimeLimitSec * kTickRateHz
    if (s.score .red).toNat ≥ kScoreToWin.toNat ∨ (s.score .blue).toNat ≥ kScoreToWin.toNat ∨
        (s.currentTick.toNat : Int) ≥ limitTicks then
      let winner : Team := if (s.score .red).toNat ≥ (s.score .blue).toNat then .red else .blue
      { s with matchOver := true }.push
        (.matchEnd { winningTeam := winner, scoreRed := s.score .red, scoreBlue := s.score .blue })
    else s

def playerState (id : Fin kMaxPlayers) (p : Player) : PlayerState :=
  { id := idByte id
    team := p.team
    motion := { position := p.position }
    aimAngle := p.aimAngle
    health := BitVec.ofInt 8 p.health
    alive := p.alive
    carryingFlag := p.carryingFlag }

/-- Slots in the order in which `publish` compacts them. -/
def activeIds (s : Sim) : List (Fin kMaxPlayers) := (List.finRange kMaxPlayers).filter fun id => (s.players id).active

/-- The first half of `publish`. -/
def worldSnapshot (s : Sim) : WorldSnapshot :=
  let remaining := kMatchTimeLimitSec - s.currentTick.toNat / kTickRateHz
  { tick := s.currentTick
    playerCount := BitVec.ofNat 8 s.activeIds.length
    flagCarrierRed := (s.flags .red).carrierId
    flagCarrierBlue := (s.flags .blue).carrierId
    flagStateRed := (s.flags .red).state
    flagStateBlue := (s.flags .blue).state
    scoreRed := s.score .red
    scoreBlue := s.score .blue
    secondsRemaining := BitVec.ofInt 16 (if remaining > 0 then remaining else 0)
    players := fun n => match s.activeIds[n.val]? with
      | some id => playerState id (s.players id)
      | none => {} }

/-- Ticks between two publishes, at most 1 when every tick publishes. -/
def snapshotDiv (s : Sim) : Int := s.tickHz.tdiv s.snapshotHz

def publishDue (s : Sim) : Bool :=
  s.snapshotDiv ≤ 1 ∨ s.currentTick.toNat % s.snapshotDiv.toNat = 0

def keyframeDue (s : Sim) : Bool :=
  !s.deltaSnapshots ∨ !s.havePublished ∨ s.snapshotsPublished.toNat % kSnapshotKeyframeInterval = 0

/-- The event of the second half of `publish`. -/
def snapshotEvent (s : Sim) (snap : WorldSnapshot) : OutboundEvent :=
  let w : ByteWriter := { cap := kPayloadDataBytes }
  { type := if s.keyframeDue then .udpSnapshot else .udpDeltaSnapshot
    payload := (if s.keyframeDue then encodeWorldSnapshot w snap else encodeDeltaSnapshot w snap s.prevPublished).buf
    acks := s.playerAcks
    tick := s.currentTick
    body := if s.keyframeDue then .keyframe snap else .delta snap s.prevPublished }

def publish (s : Sim) : Sim :=
  let snap := s.worldSnapshot
  let s := { s with
    playerAcks := fun id => if (s.players id).active then (s.players id).lastInputSeq else s.playerAcks id
    snapshot := snap }
  if s.publishDue then
    { s.push (s.snapshotEvent snap) with
      prevPublished := snap
      havePublished := true
      snapshotsPublished := s.snapshotsPublished + 1 }
  else s

/-- One tick, given the commands that `drain_inbound` pops in it. -/
def tick (rayDir : RayDir) (s : Sim) (cmds : List InboundCommand) : Sim :=
  let s := (((((s.drainInbound cmds).popInputs).movePlayers.combat rayDir).flagsPhase).winCheck).publish
  { s with currentTick := s.currentTick + 1 }

/-- The state after one tick per list of commands. -/
def run (rayDir : RayDir) (s : Sim) (ticks : List (List InboundCommand)) : Sim := ticks.foldl (tick rayDir) s

theorem run_cons (rayDir : RayDir) (s : Sim) (cmds : List InboundCommand) (ticks : List (List InboundCommand)) :
    s.run rayDir (cmds :: ticks) = (s.tick rayDir cmds).run rayDir ticks := List.foldl_cons ..

theorem run_append (rayDir : RayDir) (s : Sim) (earlier later : List (List InboundCommand)) :
    s.run rayDir (earlier ++ later) = (s.run rayDir earlier).run rayDir later := List.foldl_append

theorem run_snoc (rayDir : RayDir) (s : Sim) (ticks : List (List InboundCommand)) (cmds : List InboundCommand) :
    s.run rayDir (ticks ++ [cmds]) = (s.run rayDir ticks).tick rayDir cmds := run_append rayDir s ticks [cmds]

/-- A fresh simulation with the rates and the mode that `main` sets. -/
def configured (tickHz snapshotHz : Int) (delta : Bool) : Sim :=
  ((init.setTickRate tickHz).setSnapshotRate snapshotHz).setDeltaSnapshots delta

end Sim
end CaptureTheFlag
