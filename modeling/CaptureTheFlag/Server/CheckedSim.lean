import CaptureTheFlag.Server.Hitscan
import CaptureTheFlag.Server.Lifecycle
import CaptureTheFlag.Shared.CheckedMovement

/-! # Movement, combat and flags in machine arithmetic

The phases between the commands and the publish, every operation on signed numbers checked against the width of its
type. Players in the arena and counters below their limits pass every check.
-/
namespace CaptureTheFlag
set_option autoImplicit false
open Checked Relation Protocol

namespace Sim

def movePlayerChecked (s : Sim) (id : Fin kMaxPlayers) : Option Sim := do
  let p := s.players id
  if !p.active || !p.alive then pure s
  else
    let out ← movementStepChecked { position := p.position } (s.appliedCmds id) Map.arena
    pure (s.setPlayer id { p with position := out.position, aimAngle := (s.appliedCmds id).aimAngle })

def movePlayersChecked (s : Sim) : Option Sim := (List.finRange kMaxPlayers).foldlM movePlayerChecked s

def Ray.advanceChecked (r : Ray) (stepX stepY : Int) : Option Ray := do
  let remX ← add 64 r.remX stepX
  let px ← add 64 r.px (remX >>> kRayShift)
  let remY ← add 64 r.remY stepY
  let py ← add 64 r.py (remY >>> kRayShift)
  pure { px, py, remX := remX % kRayScale, remY := remY % kRayScale }

/-- `is_wall` takes 32-bit tiles. -/
def Ray.inWallChecked (r : Ray) : Option Bool := do
  let tileFp ← mul 64 kTileSizePx kFixedScale
  let tx ← div 64 r.px tileFp
  let ty ← div 64 r.py tileFp
  let tx ← fit 32 tx
  let ty ← fit 32 ty
  pure (Map.arena.isWall tx ty)

def Ray.inBoxChecked (r : Ray) (corner : Vec2Fixed) : Option Bool := do
  let box ← mul 64 kPlayerSizePx kFixedScale
  let right ← add 64 corner.x box
  let bottom ← add 64 corner.y box
  pure (r.px ≥ corner.x ∧ r.px < right ∧ r.py ≥ corner.y ∧ r.py < bottom)

/-- `last_ray_hit_` has 32-bit coordinates. -/
def Ray.pointChecked (r : Ray) : Option Vec2Fixed := do
  let x ← fit 32 r.px
  let y ← fit 32 r.py
  pure ⟨x, y⟩

def enemyAtChecked (players : Fin kMaxPlayers → Player) (shooterTeam : Team) (r : Ray) :
    Option (Option (Fin kMaxPlayers)) :=
  (List.finRange kMaxPlayers).findM? fun id =>
    let e := players id
    if e.active ∧ e.alive ∧ e.team ≠ shooterTeam then r.inBoxChecked e.position else pure false

def marchChecked (players : Fin kMaxPlayers → Player) (shooterTeam : Team) (stepX stepY : Int) :
    Nat → Ray → Option (Vec2Fixed × Option (Fin kMaxPlayers))
  | 0, r => do
    let point ← r.pointChecked
    pure (point, none)
  | steps + 1, r => do
    let r ← r.advanceChecked stepX stepY
    let inWall ← r.inWallChecked
    if inWall then
      let point ← r.pointChecked
      pure (point, none)
    else
      let enemy ← enemyAtChecked players shooterTeam r
      match enemy with
      | some id =>
        let point ← r.pointChecked
        pure (point, some id)
      | none => marchChecked players shooterTeam stepX stepY steps r

def castRayChecked (rayDir : RayDir) (players : Fin kMaxPlayers → Player) (origin : Vec2Fixed) (aimAngle : U16)
    (shooterTeam : Team) : Option (Vec2Fixed × Option (Fin kMaxPlayers)) := do
  let dx ← fit 32 (rayDir aimAngle).1
  let stepX ← mul 32 dx kRayStepFp
  let dy ← fit 32 (rayDir aimAngle).2
  let stepY ← mul 32 dy kRayStepFp
  marchChecked players shooterTeam stepX stepY kMaxRaySteps { px := origin.x, py := origin.y }

def centerOfChecked (position : Vec2Fixed) : Option Vec2Fixed := do
  let size ← mul 32 kPlayerSizePx kFixedScale
  let half ← div 32 size 2
  let x ← add 32 position.x half
  let y ← add 32 position.y half
  pure ⟨x, y⟩

def hurtChecked (s : Sim) (shooter enemy : Fin kMaxPlayers) : Option Sim := do
  let v := s.players enemy
  let health ← if v.health > kDamagePerShot then sub 32 v.health kDamagePerShot else pure 0
  let s := s.setPlayer enemy { v with health }
  if health = 0 then
    pure ((s.handleDeath enemy).push (.playerKilled
      { victimId := idByte enemy, killerId := idByte shooter, tick := s.currentTick }))
  else pure s

def combatTurnChecked (rayDir : RayDir) (s : Sim) (id : Fin kMaxPlayers) : Option Sim := do
  let p := s.players id
  if !p.active || !p.alive then pure s
  else if p.fireCooldown > 0 then
    let fireCooldown ← sub 32 p.fireCooldown 1
    pure (s.setPlayer id { p with fireCooldown })
  else if !(s.appliedCmds id).pressed kInputFire then pure s
  else
    let aimAngle := (s.appliedCmds id).aimAngle
    let center ← centerOfChecked p.position
    let ray ← castRayChecked rayDir s.players center aimAngle p.team
    let s := s.push (.shotFired { shooterId := idByte id, origin := center, aimAngle, hitPoint := ray.1 })
    let s := s.setPlayer id { p with fireCooldown := kFireCooldownTicks }
    match ray.2 with
    | none => pure s
    | some enemy => s.hurtChecked id enemy

def combatChecked (rayDir : RayDir) (s : Sim) : Option Sim :=
  (List.finRange kMaxPlayers).foldlM (combatTurnChecked rayDir) s

def aabbOverlapChecked (a b : Vec2Fixed) : Option Bool := do
  let box ← mul 32 kPlayerSizePx kFixedScale
  let bRight ← add 32 b.x box
  let aRight ← add 32 a.x box
  let bBottom ← add 32 b.y box
  let aBottom ← add 32 a.y box
  pure (a.x < bRight ∧ aRight > b.x ∧ a.y < bBottom ∧ aBottom > b.y)

/-- The positions are compared only if the condition before holds. -/
def touchesChecked (condition : Bool) (a b : Vec2Fixed) : Option Bool :=
  if condition then aabbOverlapChecked a b else pure false

def touchReturnChecked (s : Sim) (id : Fin kMaxPlayers) : Option Sim := do
  let p := s.players id
  let own := s.flags p.team
  let touches ← touchesChecked (own.state = .dropped) p.position own.position
  pure <| if touches then
    (s.setFlag p.team { state := .atBase, position := baseOf p.team, carrierId := kNoCarrier }).push
      (.flagReturned { flagTeam := p.team, playerId := idByte id, tick := s.currentTick })
  else s

def pickUpChecked (s : Sim) (id : Fin kMaxPlayers) : Option Sim := do
  let p := s.players id
  let enemy := s.flags p.team.other
  let touches ← touchesChecked (!p.carryingFlag ∧ enemy.state ≠ .carried) p.position enemy.position
  pure <| if touches then
    let s := s.setFlag p.team.other { enemy with state := .carried, carrierId := idByte id }
    let s := s.setPlayer id { p with carryingFlag := true }
    s.push (.flagPickedUp
      { flagTeam := if p.team = .red then .blue else .red, playerId := idByte id, tick := s.currentTick })
  else s

def captureChecked (s : Sim) (id : Fin kMaxPlayers) : Option Sim := do
  let p := s.players id
  let enemyTeam : Team := if p.team = .red then .blue else .red
  let touches ← touchesChecked (p.carryingFlag ∧ (s.flags p.team).state = .atBase) p.position (baseOf p.team)
  pure <| if touches then
    let s := s.setPlayer id { p with carryingFlag := false }
    let s := s.setFlag p.team.other { state := .atBase, position := baseOf enemyTeam, carrierId := kNoCarrier }
    let s := { s with score := Function.update s.score p.team (s.score p.team + 1) }
    s.push (.flagCaptured { flagTeam := enemyTeam, playerId := idByte id, tick := s.currentTick })
  else s

def touchTurnChecked (s : Sim) (id : Fin kMaxPlayers) : Option Sim := do
  let p := s.players id
  if !p.active || !p.alive then pure s
  else
    let s ← s.touchReturnChecked id
    let s ← s.pickUpChecked id
    s.captureChecked id

def respawnTurnChecked (s : Sim) (id : Fin kMaxPlayers) : Option Sim := do
  let p := s.players id
  if !p.active || p.alive then pure s
  else
    let respawnTimer ← sub 32 p.respawnTimer 1
    let p := { p with respawnTimer }
    pure <| if p.respawnTimer ≤ 0 then
      let position := spawnPoint p.team p.spawnIndex
      (s.setPlayer id { p with alive := true, health := kMaxHealth, position }).push
        (.playerRespawned { playerId := idByte id, position, tick := s.currentTick })
    else s.setPlayer id p

/-- The first loop counts in unsigned ticks, where nothing overflows. -/
def flagsPhaseChecked (s : Sim) : Option Sim := do
  let s := [Team.red, Team.blue].foldl flagTurn s
  let s ← (List.finRange kMaxPlayers).foldlM touchTurnChecked s
  (List.finRange kMaxPlayers).foldlM respawnTurnChecked s

/-- Where the flag of a team lies matters while nobody carries it. -/
structure InRange (s : Sim) : Prop where
  arena : s.InArena
  flags : ∀ team, (s.flags team).state ≠ .carried → (s.flags team).position.OnWire
  health : ∀ id, 0 ≤ (s.players id).health ∧ (s.players id).health ≤ kMaxHealth
  fireCooldown : ∀ id, (s.players id).fireCooldown ≤ kFireCooldownTicks
  respawnTimer : ∀ id, (s.players id).respawnTimer ≤ kRespawnDelayTicks

theorem onWire_base (team : Team) : (baseOf team).OnWire := by
  cases team <;> (constructor <;> decide)

theorem full_health : 0 ≤ kMaxHealth ∧ kMaxHealth ≤ kMaxHealth := by decide

theorem no_health : (0 : Int) ≤ 0 ∧ 0 ≤ kMaxHealth := by decide

theorem nothing_left : (0 : Int) ≤ kFireCooldownTicks ∧ (0 : Int) ≤ kRespawnDelayTicks := by decide

theorem InRange.player {s s' : Sim} (h : InRange s) (hArena : s'.InArena) (hFlags : s'.flags = s.flags)
    (id : Fin kMaxPlayers) {p : Player} (hPlayers : s'.players = Function.update s.players id p)
    (hHealth : 0 ≤ p.health ∧ p.health ≤ kMaxHealth) (hCooldown : p.fireCooldown ≤ kFireCooldownTicks)
    (hTimer : p.respawnTimer ≤ kRespawnDelayTicks) : InRange s' := by
  have hEach : ∀ (Q : Player → Prop), Q p → (∀ i, Q (s.players i)) → ∀ i, Q (s'.players i) := by
    intro Q hNew hOld i
    rw [hPlayers]
    by_cases hi : i = id
    · rw [hi, Function.update_self]
      exact hNew
    · rw [Function.update_of_ne hi]
      exact hOld i
  refine ⟨hArena, ?_, hEach (fun q => 0 ≤ q.health ∧ q.health ≤ kMaxHealth) hHealth h.health,
    hEach (fun q => q.fireCooldown ≤ kFireCooldownTicks) hCooldown h.fireCooldown,
    hEach (fun q => q.respawnTimer ≤ kRespawnDelayTicks) hTimer h.respawnTimer⟩
  rw [hFlags]
  exact h.flags

theorem InRange.flag {s s' : Sim} (h : InRange s) (hPlayers : s'.players = s.players) (team : Team) {flag : FlagInfo}
    (hFlags : s'.flags = Function.update s.flags team flag) (hPosition : flag.state ≠ .carried → flag.position.OnWire) :
    InRange s' := by
  refine ⟨h.arena.congr hPlayers, ?_, by rw [hPlayers]; exact h.health, by rw [hPlayers]; exact h.fireCooldown,
    by rw [hPlayers]; exact h.respawnTimer⟩
  intro t
  rw [hFlags]
  by_cases ht : t = team
  · rw [ht, Function.update_self]
    exact hPosition
  · rw [Function.update_of_ne ht]
    exact h.flags t

theorem InRange.congr {s s' : Sim} (h : InRange s) (hPlayers : s'.players = s.players) (hFlags : s'.flags = s.flags) :
    InRange s' := by
  refine ⟨h.arena.congr hPlayers, by rw [hFlags]; exact h.flags, ?_, ?_, ?_⟩
  all_goals rw [hPlayers]
  · exact h.health
  · exact h.fireCooldown
  · exact h.respawnTimer

theorem InArena.onWire {s : Sim} (h : s.InArena) {id : Fin kMaxPlayers} (hActive : (s.players id).active = true) :
    (s.players id).position.OnWire := Map.onWire_of_not_collides _ _ (h id hActive)

theorem acceptInput_keepsRange {p : Player} (seq : U32) (input : InputCmd) :
    (p.acceptInput seq input).health = p.health ∧ (p.acceptInput seq input).fireCooldown = p.fireCooldown ∧
      (p.acceptInput seq input).respawnTimer = p.respawnTimer :=
  ⟨(acceptInput_sameLife p seq input).health, acceptInput_fireCooldown p seq input,
    (acceptInput_sameLife p seq input).respawnTimer⟩

theorem popped_fireCooldown (p : Player) : p.popped.fireCooldown = p.fireCooldown := by
  simp only [Player.popped]
  split <;> rfl

theorem inRange_preserved : Preserved InRange where
  command s cmd s' hApplied h := by
    have hArena := inArena_preserved.command s cmd s' hApplied h.arena
    cases hApplied with
    | ignored => exact h
    | join id team spawnIndex => exact h.player hArena rfl id rfl full_health nothing_left.1 nothing_left.2
    | leave id hGoing hActive =>
      have hDropped : InRange (s.leaveDrop id) := by
        rw [leaveDrop]
        split
        · exact h.flag rfl _ rfl fun _ => h.arena.onWire hActive
        · exact h
      have hPlayers : (s.leaveDrop id).players = s.players := by
        rw [leaveDrop]
        split <;> rfl
      exact hDropped.player hArena rfl id (by rw [hPlayers]) full_health nothing_left.1 nothing_left.2
    | input id seq input hGoing hActive =>
      obtain ⟨hHealth, hCooldown, hTimer⟩ := @acceptInput_keepsRange (s.players id) seq input
      refine h.player hArena rfl id rfl ?_ ?_ ?_
      · rw [hHealth]
        exact h.health id
      · rw [hCooldown]
        exact h.fireCooldown id
      · rw [hTimer]
        exact h.respawnTimer id
  pop s h := by
    refine ⟨inArena_preserved.pop s h.arena, ?_, ?_, ?_, ?_⟩
    all_goals rw [popInputs_eq]
    · exact h.flags
    all_goals
      intro i
      simp only
      split
    · rw [(popped_sameLife _).health]
      exact h.health i
    · exact h.health i
    · rw [popped_fireCooldown]
      exact h.fireCooldown i
    · exact h.fireCooldown i
    · rw [(popped_sameLife _).respawnTimer]
      exact h.respawnTimer i
    · exact h.respawnTimer i
  move s h := by
    refine ⟨inArena_preserved.move s h.arena, ?_, ?_, ?_, ?_⟩
    all_goals rw [movePlayers_eq]
    · exact h.flags
    all_goals
      intro i
      simp only
      split
    · exact h.health i
    · exact h.health i
    · exact h.fireCooldown i
    · exact h.fireCooldown i
    · exact h.respawnTimer i
    · exact h.respawnTimer i
  combat s s' hChange h := by
    have hArena := inArena_preserved.combat s s' hChange h.arena
    cases hChange with
    | cool id hLive =>
      refine h.player hArena rfl id rfl (h.health id) ?_ (h.respawnTimer id)
      exact Int.le_trans (Int.sub_le_self _ (by decide)) (h.fireCooldown id)
    | shoot id msg hLive => exact h.player hArena rfl id rfl (h.health id) (Int.le_refl _) (h.respawnTimer id)
    | wound id health hLive hHealth =>
      refine h.player hArena rfl id rfl ?_ (h.fireCooldown id) (h.respawnTimer id)
      have hBefore := h.health id
      simp only [kDamagePerShot, kMaxHealth] at hHealth hBefore ⊢
      omega
    | kill id msg hLive hFree =>
      exact h.player hArena rfl id rfl no_health (h.fireCooldown id) (Int.le_refl _)
    | killCarrier id drop msg hDrops hLive hCarries =>
      have hDropped : InRange (s.setFlag (s.players id).team.other
          { state := .dropped, position := (s.players id).position, carrierId := kNoCarrier }) :=
        h.flag rfl _ rfl fun _ => h.arena.onWire hLive.1
      exact hDropped.player hArena rfl id rfl no_health (h.fireCooldown id) (Int.le_refl _)
  flags s s' hChange h := by
    have hArena := inArena_preserved.flags s s' hChange h.arena
    cases hChange with
    | follow team position hCarried =>
      refine h.flag rfl team rfl fun hNot => absurd ?_ hNot
      exact hCarried
    | flagReturn team playerId hDropped => exact h.flag rfl team rfl fun _ => onWire_base team
    | pickUp id hLive hFree hState hTouch =>
      have hTaken : InRange (s.setFlag (s.players id).team.other
          { s.flags (s.players id).team.other with state := .carried, carrierId := idByte id }) :=
        h.flag rfl _ rfl fun hNot => absurd rfl hNot
      exact hTaken.player hArena rfl id rfl (h.health id) (h.fireCooldown id) (h.respawnTimer id)
    | capture id hLive hCarries =>
      have hBack : InRange (s.setFlag (s.players id).team.other
          { state := .atBase, position := baseOf (s.players id).team.other, carrierId := kNoCarrier }) :=
        h.flag rfl _ rfl fun _ => onWire_base _
      exact hBack.player hArena rfl id rfl (h.health id) (h.fireCooldown id) (h.respawnTimer id)
  respawn s s' hChange h := by
    have hArena := inArena_preserved.respawn s s' hChange h.arena
    have hLess : ∀ id, (s.players id).respawnTimer - 1 ≤ kRespawnDelayTicks :=
      fun id => Int.le_trans (Int.sub_le_self _ (by decide)) (h.respawnTimer id)
    cases hChange with
    | countDown id hDead => exact h.player hArena rfl id rfl (h.health id) (h.fireCooldown id) (hLess id)
    | respawn id msg hActive hDead hDue =>
      exact h.player hArena rfl id rfl full_health (h.fireCooldown id) (hLess id)
  win s h := by
    refine h.congr (winCheck_players s) ?_
    simp only [winCheck]
    split
    · rfl
    · split <;> rfl
  publish s h := h.congr (publish_players s) (publish_world s).1
  clock s t h := h.congr rfl rfl

theorem movePlayerChecked_eq {s : Sim} (h : s.InArena) (id : Fin kMaxPlayers) :
    s.movePlayerChecked id = some (s.movePlayer id) := by
  rw [movePlayerChecked, movePlayer]
  split
  · rfl
  · rename_i hLive
    have hActive : (s.players id).active = true := by
      simp only [Bool.or_eq_true, Bool.not_eq_true', not_or, Bool.not_eq_false] at hLive
      exact hLive.1
    rw [movementStepChecked_eq (h.onWire hActive)]
    rfl

theorem movePlayer_inArena {s : Sim} (h : s.InArena) (id : Fin kMaxPlayers) : (s.movePlayer id).InArena := by
  rw [movePlayer]
  split
  · exact h
  · exact h.update id _ rfl fun hActive => movementStep_free _ _ _ (h id hActive)

/-- A ray in the open or just beyond, with its remainders below a whole step. -/
structure Ray.OnCourse (r : Ray) : Prop where
  x : -16 ≤ r.px ∧ r.px < 330000
  y : -16 ≤ r.py ∧ r.py < 330000
  remX : 0 ≤ r.remX ∧ r.remX < 1024
  remY : 0 ≤ r.remY ∧ r.remY < 1024

theorem fits_wide {a : Int} (hLo : -1000000 ≤ a) (hHi : a ≤ 1000000) : Fits 64 a ∧ Fits 32 a := by
  rw [fits_64, fits_32]
  omega

variable {stepX stepY : Int}

theorem shift_step {rem step : Int} (hRem : 0 ≤ rem ∧ rem < 1024) (hStep : -8192 ≤ step ∧ step ≤ 8192) :
    (-8 ≤ (rem + step) >>> kRayShift ∧ (rem + step) >>> kRayShift ≤ 9) ∧
      0 ≤ (rem + step) % kRayScale ∧ (rem + step) % kRayScale < 1024 := by
  have hShift : (rem + step) >>> kRayShift = (rem + step) / 1024 := Int.shiftRight_eq_div_pow _ 10
  rw [hShift]
  simp only [kRayScale]
  omega

theorem Ray.advanceChecked_eq {r : Ray} (h : r.OnCourse) (hX : -8192 ≤ stepX ∧ stepX ≤ 8192)
    (hY : -8192 ≤ stepY ∧ stepY ≤ 8192) : r.advanceChecked stepX stepY = some (r.advance stepX stepY) := by
  obtain ⟨hPx, hPy, hRemX, hRemY⟩ := h
  obtain ⟨hShiftX, -⟩ := shift_step hRemX hX
  obtain ⟨hShiftY, -⟩ := shift_step hRemY hY
  have hAcross := add_eq (fits_wide (a := r.remX + stepX) (by omega) (by omega)).1
  have hAlong := add_eq (fits_wide (a := r.px + (r.remX + stepX) >>> kRayShift) (by omega) (by omega)).1
  have hDown := add_eq (fits_wide (a := r.remY + stepY) (by omega) (by omega)).1
  have hUp := add_eq (fits_wide (a := r.py + (r.remY + stepY) >>> kRayShift) (by omega) (by omega)).1
  simp only [advanceChecked, hAcross, hAlong, hDown, hUp, Option.bind_eq_bind, Option.bind_some]
  rfl

/-- One step from the open leads at most a step beyond it. -/
theorem Ray.advance_onCourse {r : Ray} (h : r.OnCourse)
    (hIn : (0 ≤ r.px ∧ r.px < 320000) ∧ 0 ≤ r.py ∧ r.py < 320000)
    (hX : -8192 ≤ stepX ∧ stepX ≤ 8192) (hY : -8192 ≤ stepY ∧ stepY ≤ 8192) :
    (r.advance stepX stepY).OnCourse := by
  obtain ⟨hShiftX, hRestX⟩ := shift_step h.remX hX
  obtain ⟨hShiftY, hRestY⟩ := shift_step h.remY hY
  refine ⟨?_, ?_, hRestX, hRestY⟩
  · simp only [advance]
    omega
  · simp only [advance]
    omega

theorem Ray.inWallChecked_eq {r : Ray} (h : r.OnCourse) : r.inWallChecked = some r.inWall := by
  have hTile : mul 64 kTileSizePx kFixedScale = some 8192 := rfl
  have hDiv : ∀ a : Int, -16 ≤ a → a < 330000 → Fits 64 (a.tdiv 8192) ∧ Fits 32 (a.tdiv 8192) := by
    intro a hLo hHi
    rw [Map.tdiv_tile]
    split
    · exact fits_wide (by omega) (by omega)
    · exact fits_wide (by omega) (by omega)
  obtain ⟨hX, hX'⟩ := hDiv r.px h.x.1 h.x.2
  obtain ⟨hY, hY'⟩ := hDiv r.py h.y.1 h.y.2
  have hNonzero : (8192 : Int) ≠ 0 := by decide
  simp only [inWallChecked, hTile, Option.bind_eq_bind, Option.bind_some, div_eq hNonzero hX, div_eq hNonzero hY,
    fit_eq hX', fit_eq hY']
  rfl

theorem Ray.inBoxChecked_eq (r : Ray) {corner : Vec2Fixed} (h : corner.OnWire) :
    r.inBoxChecked corner = some (r.inBox corner) := by
  obtain ⟨hLeft, hRight, hTop, hBottom⟩ := h
  have hBox : mul 64 kPlayerSizePx kFixedScale = some 6144 := rfl
  have hAcross := add_eq (fits_wide (a := corner.x + 6144) (by omega) (by omega)).1
  have hDown := add_eq (fits_wide (a := corner.y + 6144) (by omega) (by omega)).1
  simp only [inBoxChecked, hBox, Option.bind_eq_bind, Option.bind_some, hAcross, hDown]
  rfl

theorem Ray.pointChecked_eq {r : Ray} (h : r.OnCourse) : r.pointChecked = some ⟨r.px, r.py⟩ := by
  obtain ⟨hX, hY, -, -⟩ := h
  simp only [pointChecked, fit_eq (fits_wide (a := r.px) (by omega) (by omega)).2,
    fit_eq (fits_wide (a := r.py) (by omega) (by omega)).2, Option.bind_eq_bind, Option.bind_some]
  rfl

section Shot

variable {players : Fin kMaxPlayers → Player}
  (hPlayers : ∀ id, (players id).active = true → (players id).position.OnWire)
include hPlayers

theorem enemyAtChecked_eq (team : Team) (r : Ray) : enemyAtChecked players team r = some (enemyAt players team r) := by
  refine findM?_eq _ fun id _ => ?_
  simp only
  split
  · rename_i hEnemy
    rw [r.inBoxChecked_eq (hPlayers id hEnemy.1)]
    simp [hEnemy]
  · rename_i hOther
    refine congrArg some (Eq.symm (decide_eq_false fun hAll => hOther ⟨hAll.1, hAll.2.1, hAll.2.2.1⟩))

theorem marchChecked_eq (team : Team) (hX : -8192 ≤ stepX ∧ stepX ≤ 8192) (hY : -8192 ≤ stepY ∧ stepY ≤ 8192)
    (steps : Nat) {r : Ray} (h : r.OnCourse) (hIn : (0 ≤ r.px ∧ r.px < 320000) ∧ 0 ≤ r.py ∧ r.py < 320000) :
    marchChecked players team stepX stepY steps r = some (march players team stepX stepY steps r) := by
  induction steps generalizing r with
  | zero =>
    simp only [marchChecked, Ray.pointChecked_eq h, Option.bind_eq_bind, Option.bind_some]
    rfl
  | succ steps ih =>
    have hNext := Ray.advance_onCourse h hIn hX hY
    simp only [marchChecked, march, Ray.advanceChecked_eq h hX hY, Ray.inWallChecked_eq hNext, Option.bind_eq_bind,
      Option.bind_some, Ray.pointChecked_eq hNext, enemyAtChecked_eq hPlayers]
    split
    · rfl
    · rename_i hOpen
      cases enemyAt players team (r.advance stepX stepY) with
      | some id => rfl
      | none =>
        have hOut : (r.advance stepX stepY).inWall = false := by simpa using hOpen
        have hInner := @inner_of_open (r.advance stepX stepY).point hOut
        simp only [Ray.point] at hInner
        exact ih hNext (by omega)

theorem castRayChecked_eq {rayDir : RayDir} (aim : U16) (team : Team) {origin : Vec2Fixed}
    (hDir : (-1024 ≤ (rayDir aim).1 ∧ (rayDir aim).1 ≤ 1024) ∧ -1024 ≤ (rayDir aim).2 ∧ (rayDir aim).2 ≤ 1024)
    (hOrigin : wallAt origin = false) :
    castRayChecked rayDir players origin aim team = some (castRay rayDir players origin aim team) := by
  obtain ⟨hX, hY⟩ := hDir
  have hInner := inner_of_open hOrigin
  have hScaled : ∀ c : Int, -1024 ≤ c ∧ c ≤ 1024 → -8192 ≤ c * kRayStepFp ∧ c * kRayStepFp ≤ 8192 := by
    intro c hc
    simp only [kRayStepFp]
    omega
  obtain ⟨hLeft, hRight⟩ := hScaled _ hX
  obtain ⟨hUp, hDown⟩ := hScaled _ hY
  have hStepX := mul_eq (w := 32) (a := (rayDir aim).1) (b := kRayStepFp) (fits_wide (by omega) (by omega)).2
  have hStepY := mul_eq (w := 32) (a := (rayDir aim).2) (b := kRayStepFp) (fits_wide (by omega) (by omega)).2
  simp only [castRayChecked, castRay, fit_eq (fits_wide (a := (rayDir aim).1) (by omega) (by omega)).2, hStepX,
    fit_eq (fits_wide (a := (rayDir aim).2) (by omega) (by omega)).2, hStepY, Option.bind_eq_bind, Option.bind_some]
  apply marchChecked_eq hPlayers
  · exact ⟨hLeft, hRight⟩
  · exact ⟨hUp, hDown⟩
  · exact ⟨by simp only; omega, by simp only; omega, by simp, by simp⟩
  · simp only
    omega

end Shot

theorem centerOfChecked_eq {position : Vec2Fixed} (h : position.OnWire) :
    centerOfChecked position = some (centerOf position) := by
  obtain ⟨hLeft, hRight, hTop, hBottom⟩ := h
  have hSize : mul 32 kPlayerSizePx kFixedScale = some 6144 := rfl
  have hHalf : div 32 6144 2 = some 3072 := rfl
  have hAcross := add_eq (fits_wide (a := position.x + 3072) (by omega) (by omega)).2
  have hDown := add_eq (fits_wide (a := position.y + 3072) (by omega) (by omega)).2
  simp only [centerOfChecked, hSize, hHalf, hAcross, hDown, Option.bind_eq_bind, Option.bind_some]
  rfl

theorem hurtChecked_eq {s : Sim} (shooter enemy : Fin kMaxPlayers)
    (h : 0 ≤ (s.players enemy).health ∧ (s.players enemy).health ≤ kMaxHealth) :
    s.hurtChecked shooter enemy = some (s.hurt shooter enemy) := by
  have hLess : sub 32 (s.players enemy).health kDamagePerShot = some ((s.players enemy).health - kDamagePerShot) := by
    simp only [kMaxHealth] at h
    exact sub_eq (fits_wide (by simp only [kDamagePerShot]; omega) (by simp only [kDamagePerShot]; omega)).2
  rw [hurtChecked, hurt]
  by_cases hWounded : (s.players enemy).health > kDamagePerShot
  · simp only [if_pos hWounded, hLess, Option.bind_eq_bind, Option.bind_some]
    split <;> rfl
  · simp only [if_neg hWounded, Option.bind_eq_bind, Option.bind_some, Option.pure_def]
    rfl

theorem setPlayer_health {s : Sim} {id : Fin kMaxPlayers} {p : Player} (h : p.health = (s.players id).health)
    (i : Fin kMaxPlayers) : ((s.setPlayer id p).players i).health = (s.players i).health := by
  simp only [setPlayer]
  by_cases hi : i = id
  · rw [hi, Function.update_self]
    exact h
  · rw [Function.update_of_ne hi]

theorem combatTurnChecked_eq {rayDir : RayDir}
    (hDir : ∀ aim, (-1024 ≤ (rayDir aim).1 ∧ (rayDir aim).1 ≤ 1024) ∧ -1024 ≤ (rayDir aim).2 ∧ (rayDir aim).2 ≤ 1024)
    {s : Sim} (h : InRange s) (id : Fin kMaxPlayers) : s.combatTurnChecked rayDir id = some (s.combatTurn rayDir id) := by
  rw [combatTurnChecked, combatTurn]
  simp only
  split
  · rfl
  · rename_i hLive
    have hActive : (s.players id).active = true := by
      simp only [Bool.or_eq_true, Bool.not_eq_true', not_or, Bool.not_eq_false] at hLive
      exact hLive.1
    split
    · rename_i hCooling
      have hBound := h.fireCooldown id
      simp only [kFireCooldownTicks] at hBound
      rw [sub_eq (fits_wide (by omega) (by omega)).2]
      rfl
    · split
      · rfl
      · have hCast : castRayChecked rayDir s.players (centerOf (s.players id).position) (s.appliedCmds id).aimAngle
              (s.players id).team =
            some (castRay rayDir s.players (centerOf (s.players id).position) (s.appliedCmds id).aimAngle
              (s.players id).team) :=
          castRayChecked_eq (fun i => h.arena.onWire) _ _ (hDir _) (center_open (h.arena id hActive))
        simp only [centerOfChecked_eq (h.arena.onWire hActive), Option.bind_eq_bind, Option.bind_some, hCast]
        cases (castRay rayDir s.players (centerOf (s.players id).position) (s.appliedCmds id).aimAngle
          (s.players id).team).2 with
        | none => rfl
        | some enemy =>
          apply hurtChecked_eq
          rw [setPlayer_health]
          · exact h.health enemy
          · rfl

theorem combatTurn_inRange {rayDir : RayDir} {s : Sim} (h : InRange s) (id : Fin kMaxPlayers) :
    InRange (s.combatTurn rayDir id) :=
  Chain.invariant inRange_preserved.combat (combatTurn_changes rayDir s id fun _ => trivial) h

theorem aabbOverlapChecked_eq {a b : Vec2Fixed} (ha : a.OnWire) (hb : b.OnWire) :
    aabbOverlapChecked a b = some (aabbOverlap a b) := by
  obtain ⟨hLeft, hRight, hTop, hBottom⟩ := ha
  obtain ⟨hLeft', hRight', hTop', hBottom'⟩ := hb
  have hBox : mul 32 kPlayerSizePx kFixedScale = some 6144 := rfl
  have hSum : ∀ c : Int, -524288 ≤ c → c < 524288 → add 32 c 6144 = some (c + 6144) :=
    fun c hLo hHi => add_eq (fits_wide (by omega) (by omega)).2
  simp only [aabbOverlapChecked, hBox, hSum _ hLeft hRight, hSum _ hTop hBottom, hSum _ hLeft' hRight',
    hSum _ hTop' hBottom', Option.bind_eq_bind, Option.bind_some]
  rfl

theorem touchesChecked_eq {condition : Bool} {a b : Vec2Fixed} (ha : a.OnWire) (hb : condition = true → b.OnWire) :
    touchesChecked condition a b = some (condition && aabbOverlap a b) := by
  rw [touchesChecked]
  cases condition with
  | true => exact aabbOverlapChecked_eq ha (hb rfl)
  | false => rfl

theorem touchReturnChecked_eq {s : Sim} (h : InRange s) {id : Fin kMaxPlayers} (hActive : (s.players id).active = true) :
    s.touchReturnChecked id = some (s.touchReturn id) := by
  have hFlag : decide ((s.flags (s.players id).team).state = .dropped) = true →
      (s.flags (s.players id).team).position.OnWire := by
    intro hDropped
    apply h.flags
    rw [of_decide_eq_true hDropped]
    decide
  simp only [touchReturnChecked, touchReturn, touchesChecked_eq (h.arena.onWire hActive) hFlag, Option.bind_eq_bind,
    Option.bind_some, Bool.and_eq_true, decide_eq_true_eq]
  rfl

theorem pickUpChecked_eq {s : Sim} (h : InRange s) {id : Fin kMaxPlayers} (hActive : (s.players id).active = true) :
    s.pickUpChecked id = some (s.pickUp id) := by
  have hFlag : decide ((!(s.players id).carryingFlag) = true ∧ (s.flags (s.players id).team.other).state ≠ .carried) =
      true → (s.flags (s.players id).team.other).position.OnWire := fun hFree => h.flags _ (of_decide_eq_true hFree).2
  simp only [pickUpChecked, pickUp, touchesChecked_eq (h.arena.onWire hActive) hFlag, Option.bind_eq_bind,
    Option.bind_some, Bool.and_eq_true, decide_eq_true_eq, and_assoc]
  rfl

theorem captureChecked_eq {s : Sim} (h : InRange s) {id : Fin kMaxPlayers} (hActive : (s.players id).active = true) :
    s.captureChecked id = some (s.capture id) := by
  simp only [captureChecked, capture, touchesChecked_eq (h.arena.onWire hActive) fun _ => onWire_base _,
    Option.bind_eq_bind, Option.bind_some, Bool.and_eq_true, decide_eq_true_eq, and_assoc]
  rfl

theorem touchTurnChecked_eq {s : Sim} (h : InRange s) (id : Fin kMaxPlayers) :
    s.touchTurnChecked id = some (s.touchTurn id) := by
  rw [touchTurnChecked, touchTurn]
  split
  · rfl
  · rename_i hLiving
    have hLive : s.Living id := by simpa [Living] using hLiving
    have hReturned : InRange (s.touchReturn id) :=
      Chain.invariant inRange_preserved.flags (touchReturn_changes s id hLive) h
    have hLive' := (living_touchReturn s id id).mpr hLive
    have hTaken : InRange ((s.touchReturn id).pickUp id) :=
      Chain.invariant inRange_preserved.flags (pickUp_changes _ id hLive') hReturned
    have hLive'' := (living_pickUp (s.touchReturn id) id id).mpr hLive'
    simp only [touchReturnChecked_eq h hLive.1, pickUpChecked_eq hReturned hLive'.1, captureChecked_eq hTaken hLive''.1,
      Option.bind_eq_bind, Option.bind_some]

/-- No dead player is overdue. -/
def Awaiting (s : Sim) : Prop :=
  ∀ id, (s.players id).active = true → (s.players id).alive = false → 1 ≤ (s.players id).respawnTimer

theorem AllLife.awaiting {s : Sim} (h : AllLife s) : Awaiting s := by
  intro id hActive hDead
  obtain ⟨hAlive, -⟩ | ⟨-, -, hLeft, -⟩ := h id hActive
  · rw [hDead] at hAlive
    cases hAlive
  · exact hLeft

theorem Awaiting.player {s s' : Sim} (h : Awaiting s) (id : Fin kMaxPlayers) {p : Player}
    (hPlayers : s'.players = Function.update s.players id p)
    (hLeft : p.active = true → p.alive = false → 1 ≤ p.respawnTimer) : Awaiting s' := by
  intro i
  rw [hPlayers]
  by_cases hi : i = id
  · rw [hi, Function.update_self]
    exact hLeft
  · rw [Function.update_of_ne hi]
    exact h i

theorem Awaiting.combat {drops : Prop} {s s' : Sim} (hChange : CombatChange drops s s') (h : Awaiting s) :
    Awaiting s' := by
  have hDelay : 1 ≤ kRespawnDelayTicks := by decide
  cases hChange with
  | cool id hLive => exact h.player id rfl (h id)
  | shoot id msg hLive hMsg => exact h.player id rfl (h id)
  | wound id health hLive hHealth => exact h.player id rfl (h id)
  | kill id msg hLive hFree hMsg => exact h.player id rfl fun _ _ => hDelay
  | killCarrier id drop msg hDrops hLive hCarries hMsg hDrop => exact h.player id rfl fun _ _ => hDelay

theorem Awaiting.flags {s s' : Sim} (hChange : FlagChange s s') (h : Awaiting s) : Awaiting s' := by
  cases hChange with
  | follow team position hCarried => exact h
  | flagReturn team playerId hDropped => exact h
  | pickUp id hLive hFree hState hTouch => exact h.player id rfl (h id)
  | capture id hLive hCarries => exact h.player id rfl (h id)

theorem Awaiting.respawnTurn {s : Sim} (h : Awaiting s) (id : Fin kMaxPlayers) : Awaiting (s.respawnTurn id) := by
  rw [Sim.respawnTurn]
  simp only
  split
  · exact h
  · split
    · apply h.player id rfl
      intro hActive hDead
      cases hDead
    · rename_i hLater
      apply h.player id rfl
      intro hActive hDead
      simp only at hLater ⊢
      omega

theorem respawnTurnChecked_eq {s : Sim} (hRange : InRange s) (h : Awaiting s) (id : Fin kMaxPlayers) :
    s.respawnTurnChecked id = some (s.respawnTurn id) := by
  rw [respawnTurnChecked, respawnTurn]
  simp only
  split
  · rfl
  · rename_i hWaits
    obtain ⟨hActive, hDead⟩ : (s.players id).active = true ∧ (s.players id).alive = false := by simpa using hWaits
    have hMost := hRange.respawnTimer id
    have hLeast := h id hActive hDead
    simp only [kRespawnDelayTicks] at hMost
    rw [sub_eq (fits_wide (by omega) (by omega)).2]
    rfl

theorem respawnTurn_inRange {s : Sim} (h : InRange s) (id : Fin kMaxPlayers) : InRange (s.respawnTurn id) :=
  Chain.invariant inRange_preserved.respawn (respawnTurn_changes s id) h

theorem movePlayersChecked_eq {s : Sim} (h : s.InArena) : s.movePlayersChecked = some s.movePlayers := by
  apply foldlM_eq (I := InArena)
  · intro s id h
    exact movePlayerChecked_eq h id
  · intro s id h
    exact movePlayer_inArena h id
  · exact h

theorem combatChecked_eq {rayDir : RayDir}
    (hDir : ∀ aim, (-1024 ≤ (rayDir aim).1 ∧ (rayDir aim).1 ≤ 1024) ∧ -1024 ≤ (rayDir aim).2 ∧ (rayDir aim).2 ≤ 1024)
    {s : Sim} (h : InRange s) : s.combatChecked rayDir = some (s.combat rayDir) := by
  apply foldlM_eq (I := InRange)
  · intro s id h
    exact combatTurnChecked_eq hDir h id
  · intro s id h
    exact combatTurn_inRange h id
  · exact h

theorem flagsPhaseChecked_eq {s : Sim} (hRange : InRange s) (h : Awaiting s) :
    s.flagsPhaseChecked = some s.flagsPhase := by
  have hTimers := Chain.foldl flagTurn_changes [.red, .blue] s
  have hRun : InRange ([Team.red, Team.blue].foldl flagTurn s) := Chain.invariant inRange_preserved.flags hTimers hRange
  have hTurns := Chain.foldl touchTurn_changes (List.finRange kMaxPlayers) ([Team.red, Team.blue].foldl flagTurn s)
  have hTouches : (List.finRange kMaxPlayers).foldlM touchTurnChecked ([Team.red, Team.blue].foldl flagTurn s) =
      some ((List.finRange kMaxPlayers).foldl touchTurn ([Team.red, Team.blue].foldl flagTurn s)) := by
    apply foldlM_eq (I := InRange)
    · intro s id h
      exact touchTurnChecked_eq h id
    · intro s id h
      exact Chain.invariant inRange_preserved.flags (touchTurn_changes s id) h
    · exact hRun
  simp only [flagsPhaseChecked, hTouches, Option.bind_eq_bind, Option.bind_some]
  apply foldlM_eq (I := fun s => InRange s ∧ Awaiting s)
  · rintro s id ⟨hRange, h⟩
    exact respawnTurnChecked_eq hRange h id
  · rintro s id ⟨hRange, h⟩
    exact ⟨respawnTurn_inRange hRange id, h.respawnTurn id⟩
  · constructor
    · exact Chain.invariant inRange_preserved.flags hTurns hRun
    · have hKeeps : ∀ s s', FlagChange s s' → Awaiting s → Awaiting s' := fun _ _ => Awaiting.flags
      exact Chain.invariant hKeeps hTurns (Chain.invariant hKeeps hTimers h)

end Sim
end CaptureTheFlag
