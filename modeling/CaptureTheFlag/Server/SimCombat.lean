import CaptureTheFlag.Server.SimInput

/-! # Hitscan combat

`rayDir` stands for the rounded cosine and sine of the aim angle, scaled by `kRayScale`: the one place
where the server computes with doubles. The march itself is integer arithmetic.
-/
namespace CaptureTheFlag
set_option autoImplicit false
open Protocol

abbrev RayDir := U16 → Int × Int

namespace Sim

abbrev kRayShift : Nat := 10
abbrev kRayScale : Int := 1024
abbrev kRayStepFp : Int := 8
/-- `(kMapWidthPx + kMapHeightPx) * 2 * kFixedScale / kRayStepFp`. -/
abbrev kMaxRaySteps : Nat := 133120

/-- Position of the march with its sub-step remainders. -/
structure Ray where
  px : Int
  py : Int
  remX : Int := 0
  remY : Int := 0

def Ray.advance (r : Ray) (stepX stepY : Int) : Ray :=
  let remX := r.remX + stepX
  let remY := r.remY + stepY
  { px := r.px + remX >>> kRayShift
    py := r.py + remY >>> kRayShift
    remX := remX % kRayScale
    remY := remY % kRayScale }

def Ray.inWall (r : Ray) : Bool :=
  let tileFp := kTileSizePx * kFixedScale
  Map.arena.isWall (r.px.tdiv tileFp) (r.py.tdiv tileFp)

def Ray.inBox (r : Ray) (corner : Vec2Fixed) : Bool :=
  let box := kPlayerSizePx * kFixedScale
  r.px ≥ corner.x ∧ r.px < corner.x + box ∧ r.py ≥ corner.y ∧ r.py < corner.y + box

/-- The first living enemy, in id order, whose box holds the ray's point. -/
def enemyAt (players : Fin kMaxPlayers → Player) (shooterTeam : Team) (r : Ray) : Option (Fin kMaxPlayers) :=
  (List.finRange kMaxPlayers).find? fun id =>
    let e := players id
    e.active ∧ e.alive ∧ e.team ≠ shooterTeam ∧ r.inBox e.position

/-- The step loop of `cast_ray`: where the march ended, and the enemy it ended in. -/
def march (players : Fin kMaxPlayers → Player) (shooterTeam : Team) (stepX stepY : Int) :
    Nat → Ray → Vec2Fixed × Option (Fin kMaxPlayers)
  | 0, r => (⟨r.px, r.py⟩, none)
  | steps + 1, r =>
    let r := r.advance stepX stepY
    if r.inWall then (⟨r.px, r.py⟩, none)
    else match enemyAt players shooterTeam r with
      | some id => (⟨r.px, r.py⟩, some id)
      | none => march players shooterTeam stepX stepY steps r

/-- `cast_ray`; the first component is `last_ray_hit_`. -/
def castRay (rayDir : RayDir) (players : Fin kMaxPlayers → Player) (origin : Vec2Fixed) (aimAngle : U16)
    (shooterTeam : Team) : Vec2Fixed × Option (Fin kMaxPlayers) :=
  let (dx, dy) := rayDir aimAngle
  march players shooterTeam (dx * kRayStepFp) (dy * kRayStepFp) kMaxRaySteps { px := origin.x, py := origin.y }

def handleDeath (s : Sim) (victim : Fin kMaxPlayers) : Sim :=
  let v := { s.players victim with alive := false, health := 0, respawnTimer := kRespawnDelayTicks }
  let s := s.setPlayer victim v
  if v.carryingFlag then
    let fi := v.team.other
    let s := s.setFlag fi { state := .dropped, position := v.position, carrierId := kNoCarrier }
    let s := { s with dropTick := Function.update s.dropTick fi s.currentTick }
    let s := s.push (.flagDropped
      { flagTeam := if v.team = .blue then .blue else .red, position := v.position, tick := s.currentTick })
    s.setPlayer victim { v with carryingFlag := false }
  else s

/-- The player's centre, from which shots are cast. -/
def centerOf (position : Vec2Fixed) : Vec2Fixed :=
  let half := (kPlayerSizePx * kFixedScale).tdiv 2
  ⟨position.x + half, position.y + half⟩

/-- Damage to the player the ray hit. -/
def hurt (s : Sim) (shooter enemy : Fin kMaxPlayers) : Sim :=
  let v := s.players enemy
  let health := if v.health > kDamagePerShot then v.health - kDamagePerShot else 0
  let s := s.setPlayer enemy { v with health }
  if health = 0 then
    (s.handleDeath enemy).push (.playerKilled
      { victimId := idByte enemy, killerId := idByte shooter, tick := s.currentTick })
  else s

/-- One iteration of `combat`. -/
def combatTurn (rayDir : RayDir) (s : Sim) (id : Fin kMaxPlayers) : Sim :=
  let p := s.players id
  if !p.active || !p.alive then s
  else if p.fireCooldown > 0 then s.setPlayer id { p with fireCooldown := p.fireCooldown - 1 }
  else if !(s.appliedCmds id).pressed kInputFire then s
  else
    let aimAngle := (s.appliedCmds id).aimAngle
    let center := centerOf p.position
    let ray := castRay rayDir s.players center aimAngle p.team
    let s := s.push (.shotFired { shooterId := idByte id, origin := center, aimAngle, hitPoint := ray.1 })
    let s := s.setPlayer id { p with fireCooldown := kFireCooldownTicks }
    match ray.2 with
    | none => s
    | some enemy => s.hurt id enemy

def combat (rayDir : RayDir) (s : Sim) : Sim := (List.finRange kMaxPlayers).foldl (combatTurn rayDir) s

end Sim
end CaptureTheFlag
