import CaptureTheFlag.Server.SimCombat

/-! # The flags phase

Three loops: carried flags follow and dropped flags time out; players touch flags and bases in id order;
respawn timers run.
-/
namespace CaptureTheFlag
set_option autoImplicit false
open Protocol

namespace Sim

def aabbOverlap (a b : Vec2Fixed) : Bool :=
  let box := kPlayerSizePx * kFixedScale
  a.x < b.x + box ∧ a.x + box > b.x ∧ a.y < b.y + box ∧ a.y + box > b.y

/-- One iteration of the first loop. -/
def flagTurn (s : Sim) (team : Team) : Sim :=
  let flag := s.flags team
  match flag.state with
  | .carried =>
    match s.findPlayer flag.carrierId with
    | some carrier => s.setFlag team { flag with position := (s.players carrier).position }
    | none => s
  | .dropped =>
    if (s.currentTick - s.dropTick team).toNat ≥ kFlagAutoReturnTicks.toNat then
      (s.setFlag team { state := .atBase, position := baseOf team, carrierId := kNoCarrier }).push
        (.flagReturned { flagTeam := team, playerId := kNoCarrier, tick := s.currentTick })
    else s
  | .atBase => s

/-- Own dropped flag touched: instant return to base. -/
def touchReturn (s : Sim) (id : Fin kMaxPlayers) : Sim :=
  let p := s.players id
  let own := s.flags p.team
  if own.state = .dropped ∧ aabbOverlap p.position own.position then
    (s.setFlag p.team { state := .atBase, position := baseOf p.team, carrierId := kNoCarrier }).push
      (.flagReturned { flagTeam := p.team, playerId := idByte id, tick := s.currentTick })
  else s

/-- Enemy flag touched: pickup, at base or dropped, not carried. -/
def pickUp (s : Sim) (id : Fin kMaxPlayers) : Sim :=
  let p := s.players id
  let enemy := s.flags p.team.other
  if !p.carryingFlag ∧ enemy.state ≠ .carried ∧ aabbOverlap p.position enemy.position then
    let s := s.setFlag p.team.other { enemy with state := .carried, carrierId := idByte id }
    let s := s.setPlayer id { p with carryingFlag := true }
    s.push (.flagPickedUp
      { flagTeam := if p.team = .red then .blue else .red, playerId := idByte id, tick := s.currentTick })
  else s

/-- Carrying, on the own base, own flag at base: a point. -/
def capture (s : Sim) (id : Fin kMaxPlayers) : Sim :=
  let p := s.players id
  let enemyTeam : Team := if p.team = .red then .blue else .red
  if p.carryingFlag ∧ (s.flags p.team).state = .atBase ∧ aabbOverlap p.position (baseOf p.team) then
    let s := s.setPlayer id { p with carryingFlag := false }
    let s := s.setFlag p.team.other { state := .atBase, position := baseOf enemyTeam, carrierId := kNoCarrier }
    let s := { s with score := Function.update s.score p.team (s.score p.team + 1) }
    s.push (.flagCaptured { flagTeam := enemyTeam, playerId := idByte id, tick := s.currentTick })
  else s

/-- One iteration of the second loop. -/
def touchTurn (s : Sim) (id : Fin kMaxPlayers) : Sim :=
  let p := s.players id
  if !p.active || !p.alive then s
  else ((s.touchReturn id).pickUp id).capture id

/-- One iteration of the third loop. -/
def respawnTurn (s : Sim) (id : Fin kMaxPlayers) : Sim :=
  let p := s.players id
  if !p.active || p.alive then s
  else
    let p := { p with respawnTimer := p.respawnTimer - 1 }
    if p.respawnTimer ≤ 0 then
      let position := spawnPoint p.team p.spawnIndex
      (s.setPlayer id { p with alive := true, health := kMaxHealth, position }).push
        (.playerRespawned { playerId := idByte id, position, tick := s.currentTick })
    else s.setPlayer id p

def flagsPhase (s : Sim) : Sim :=
  let s := [Team.red, Team.blue].foldl flagTurn s
  let s := (List.finRange kMaxPlayers).foldl touchTurn s
  (List.finRange kMaxPlayers).foldl respawnTurn s

end Sim
end CaptureTheFlag
