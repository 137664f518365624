import CaptureTheFlag.Library.Chain
import CaptureTheFlag.Server.SimTick

/-! # What combat and the flags phase can do

The atomic updates of the two phases with the guards under which they happen; the phases are chains of
them. An invariant that every update keeps is kept by the phase. `drops` says whether the death of a flag
carrier is among the combat updates.
-/
namespace CaptureTheFlag
set_option autoImplicit false
open Protocol Relation

namespace Sim

def Living (s : Sim) (id : Fin kMaxPlayers) : Prop :=
  (s.players id).active = true ∧ (s.players id).alive = true

/-- The record of a player at the moment of its death. -/
def dead (p : Player) : Player := { p with alive := false, health := 0, respawnTimer := kRespawnDelayTicks }

inductive CombatChange (drops : Prop) (s : Sim) : Sim → Prop where
  | cool (id : Fin kMaxPlayers) (hLive : s.Living id) :
      CombatChange drops s (s.setPlayer id { s.players id with fireCooldown := (s.players id).fireCooldown - 1 })
  | shoot (id : Fin kMaxPlayers) (msg : MsgShotFired) (hLive : s.Living id)
      (hMsg : msg.shooterId = idByte id ∧ msg.origin = centerOf (s.players id).position) :
      CombatChange drops s
        ((s.push (.shotFired msg)).setPlayer id { s.players id with fireCooldown := kFireCooldownTicks })
  | wound (id : Fin kMaxPlayers) (health : Int) (hLive : s.Living id)
      (hHealth : (s.players id).health > kDamagePerShot ∧ health = (s.players id).health - kDamagePerShot) :
      CombatChange drops s (s.setPlayer id { s.players id with health })
  | kill (id : Fin kMaxPlayers) (msg : MsgPlayerKilled) (hLive : s.Living id)
      (hFree : (s.players id).carryingFlag = false) (hMsg : msg.victimId = idByte id ∧ msg.tick = s.currentTick) :
      CombatChange drops s ((s.setPlayer id (dead (s.players id))).push (.playerKilled msg))
  | killCarrier (id : Fin kMaxPlayers) (drop : MsgFlagDropped) (msg : MsgPlayerKilled) (hDrops : drops)
      (hLive : s.Living id) (hCarries : (s.players id).carryingFlag = true)
      (hMsg : msg.victimId = idByte id ∧ msg.tick = s.currentTick) (hDrop : drop.position = (s.players id).position) :
      CombatChange drops s
        ((({ s.setFlag (s.players id).team.other
              { state := .dropped, position := (s.players id).position, carrierId := kNoCarrier } with
            dropTick := Function.update s.dropTick (s.players id).team.other s.currentTick }.push
          (.flagDropped drop)).setPlayer id { dead (s.players id) with carryingFlag := false }).push
          (.playerKilled msg))

inductive FlagChange (s : Sim) : Sim → Prop where
  | follow (team : Team) (position : Vec2Fixed) (hCarried : (s.flags team).state = .carried) :
      FlagChange s (s.setFlag team { s.flags team with position })
  | flagReturn (team : Team) (playerId : U8) (hDropped : (s.flags team).state = .dropped)
      (hBy : playerId = kNoCarrier ∨ ∃ id, playerId = idByte id ∧ s.Living id) :
      FlagChange s ((s.setFlag team { state := .atBase, position := baseOf team, carrierId := kNoCarrier }).push
        (.flagReturned { flagTeam := team, playerId, tick := s.currentTick }))
  | pickUp (id : Fin kMaxPlayers) (hLive : s.Living id) (hFree : (s.players id).carryingFlag = false)
      (hState : (s.flags (s.players id).team.other).state ≠ .carried)
      (hTouch : aabbOverlap (s.players id).position (s.flags (s.players id).team.other).position = true) :
      FlagChange s
        (((s.setFlag (s.players id).team.other
            { s.flags (s.players id).team.other with state := .carried, carrierId := idByte id }).setPlayer id
          { s.players id with carryingFlag := true }).push
          (.flagPickedUp
            { flagTeam := (s.players id).team.other, playerId := idByte id, tick := s.currentTick }))
  | capture (id : Fin kMaxPlayers) (hLive : s.Living id) (hCarries : (s.players id).carryingFlag = true)
      (hOwn : (s.flags (s.players id).team).state = .atBase)
      (hBase : aabbOverlap (s.players id).position (baseOf (s.players id).team) = true) :
      FlagChange s
        ({ (s.setPlayer id { s.players id with carryingFlag := false }).setFlag (s.players id).team.other
            { state := .atBase, position := baseOf (s.players id).team.other, carrierId := kNoCarrier } with
          score := Function.update s.score (s.players id).team (s.score (s.players id).team + 1) }.push
          (.flagCaptured
            { flagTeam := (s.players id).team.other, playerId := idByte id, tick := s.currentTick }))

inductive RespawnChange (s : Sim) : Sim → Prop where
  | countDown (id : Fin kMaxPlayers) (hDead : (s.players id).alive = false) :
      RespawnChange s (s.setPlayer id { s.players id with respawnTimer := (s.players id).respawnTimer - 1 })
  | respawn (id : Fin kMaxPlayers) (msg : MsgPlayerRespawned) (hActive : (s.players id).active = true)
      (hDead : (s.players id).alive = false) (hDue : (s.players id).respawnTimer ≤ 1)
      (hMsg : msg =
        { playerId := idByte id
          position := spawnPoint (s.players id).team (s.players id).spawnIndex
          tick := s.currentTick }) :
      RespawnChange s ((s.setPlayer id
        { s.players id with
          respawnTimer := (s.players id).respawnTimer - 1
          alive := true
          health := kMaxHealth
          position := spawnPoint (s.players id).team (s.players id).spawnIndex }).push (.playerRespawned msg))

theorem enemyAt_some {players : Fin kMaxPlayers → Player} {team : Team} {r : Ray} {id : Fin kMaxPlayers}
    (h : enemyAt players team r = some id) :
    (players id).active = true ∧ (players id).alive = true ∧ (players id).team ≠ team := by
  have hFound := List.find?_some h
  simp only [decide_eq_true_eq] at hFound
  exact ⟨hFound.1, hFound.2.1, hFound.2.2.1⟩

theorem march_some {players : Fin kMaxPlayers → Player} {team : Team} {stepX stepY : Int} {id : Fin kMaxPlayers}
    (steps : Nat) (r : Ray) (h : (march players team stepX stepY steps r).2 = some id) :
    (players id).active = true ∧ (players id).alive = true ∧ (players id).team ≠ team := by
  induction steps generalizing r with
  | zero => cases h
  | succ steps ih =>
    simp only [march] at h
    split at h
    · cases h
    · split at h
      · rename_i hFound
        cases h
        exact enemyAt_some hFound
      · exact ih _ h

theorem march_hit {players : Fin kMaxPlayers → Player} {team : Team} {stepX stepY : Int} {id : Fin kMaxPlayers} {r : Ray}
    (steps : Nat) (hFree : (r.advance stepX stepY).inWall = false)
    (hEnemy : enemyAt players team (r.advance stepX stepY) = some id) :
    (march players team stepX stepY (steps + 1) r).2 = some id := by
  simp only [march, hFree, hEnemy, Bool.false_eq_true, if_false]

theorem castRay_some {rayDir : RayDir} {players : Fin kMaxPlayers → Player} {origin : Vec2Fixed} {aim : U16}
    {team : Team} {id : Fin kMaxPlayers} (h : (castRay rayDir players origin aim team).2 = some id) :
    (players id).active = true ∧ (players id).alive = true ∧ (players id).team ≠ team :=
  march_some _ _ h

/-- The shot of player `id` in this state kills a flag carrier. -/
def KillsCarrier (rayDir : RayDir) (s : Sim) (id : Fin kMaxPlayers) : Prop :=
  s.Living id ∧ (s.players id).fireCooldown ≤ 0 ∧ (s.appliedCmds id).pressed kInputFire = true ∧
    ∃ enemy, (castRay rayDir s.players (centerOf (s.players id).position) (s.appliedCmds id).aimAngle
        (s.players id).team).2 = some enemy ∧
      (s.players enemy).health ≤ kDamagePerShot ∧ (s.players enemy).carryingFlag = true

theorem hurt_changes {drops : Prop} (s : Sim) (shooter enemy : Fin kMaxPlayers) (hLive : s.Living enemy)
    (hDrops : (s.players enemy).health ≤ kDamagePerShot → (s.players enemy).carryingFlag = true → drops) :
    ReflTransGen (CombatChange drops) s (s.hurt shooter enemy) := by
  simp only [hurt]
  by_cases hHealth : (s.players enemy).health > kDamagePerShot
  · have hLeft : ¬ (s.players enemy).health - kDamagePerShot = 0 := by
      simp only [kDamagePerShot] at hHealth ⊢
      omega
    simp only [hHealth, if_true, hLeft, if_false]
    exact .single (.wound enemy _ hLive ⟨hHealth, rfl⟩)
  · simp only [hHealth, if_false, if_true, handleDeath, setPlayer, Function.update_self]
    cases hCarries : (s.players enemy).carryingFlag with
    | false =>
      have h : CombatChange drops s _ := .kill enemy
        { victimId := idByte enemy, killerId := idByte shooter, tick := s.currentTick } hLive hCarries ⟨rfl, rfl⟩
      simpa [setPlayer, dead, push, Function.update_idem, hCarries] using ReflTransGen.single h
    | true =>
      have h : CombatChange drops s _ := .killCarrier enemy
        { flagTeam := if (s.players enemy).team = .blue then .blue else .red, position := (s.players enemy).position,
          tick := s.currentTick }
        { victimId := idByte enemy, killerId := idByte shooter, tick := s.currentTick }
        (hDrops (by omega) hCarries) hLive hCarries ⟨rfl, rfl⟩ rfl
      simpa [setPlayer, setFlag, dead, push, Function.update_idem, hCarries] using ReflTransGen.single h

theorem combatTurn_changes {drops : Prop} (rayDir : RayDir) (s : Sim) (id : Fin kMaxPlayers)
    (hDrops : s.KillsCarrier rayDir id → drops) : ReflTransGen (CombatChange drops) s (s.combatTurn rayDir id) := by
  simp only [combatTurn]
  split
  · exact .refl
  · rename_i hSkip
    simp only [Bool.or_eq_true, Bool.not_eq_true', not_or, Bool.not_eq_false] at hSkip
    split
    · exact .single (.cool id hSkip)
    · rename_i hCooldown
      split
      · exact .refl
      · rename_i hFire
        simp only [Bool.not_eq_true', Bool.not_eq_false] at hFire
        split
        · exact .single (.shoot id _ hSkip ⟨rfl, rfl⟩)
        · rename_i enemy hEnemy
          obtain ⟨hActive, hAlive, hTeam⟩ := castRay_some hEnemy
          have hne : enemy ≠ id := fun h => hTeam (by rw [h])
          refine (ReflTransGen.single (.shoot id _ hSkip ⟨rfl, rfl⟩)).trans (hurt_changes _ id enemy ?_ ?_)
          · simpa [Living, setPlayer, push, hne] using ⟨hActive, hAlive⟩
          · intro hHealth hCarries
            refine hDrops ⟨hSkip, by omega, hFire, enemy, hEnemy, ?_, ?_⟩
            · simpa [setPlayer, push, hne] using hHealth
            · simpa [setPlayer, push, hne] using hCarries

theorem combat_changes (rayDir : RayDir) (s : Sim) : ReflTransGen (CombatChange True) s (s.combat rayDir) :=
  Chain.foldl (fun s id => combatTurn_changes rayDir s id (fun _ => trivial)) _ s

theorem enemy_eq_other (team : Team) : (if team = .red then Team.blue else .red) = team.other := by
  cases team <;> rfl

theorem flagTurn_changes (s : Sim) (team : Team) : ReflTransGen FlagChange s (s.flagTurn team) := by
  simp only [flagTurn]
  split
  · rename_i hState
    split
    · exact .single (.follow team _ hState)
    · exact .refl
  · rename_i hState
    split
    · exact .single (.flagReturn team _ hState (Or.inl rfl))
    · exact .refl
  · exact .refl

theorem touchReturn_changes (s : Sim) (id : Fin kMaxPlayers) (hLive : s.Living id) :
    ReflTransGen FlagChange s (s.touchReturn id) := by
  simp only [touchReturn]
  split
  · rename_i h
    exact .single (.flagReturn _ _ h.1 (Or.inr ⟨id, rfl, hLive⟩))
  · exact .refl

theorem pickUp_changes (s : Sim) (id : Fin kMaxPlayers) (hLive : s.Living id) :
    ReflTransGen FlagChange s (s.pickUp id) := by
  simp only [pickUp]
  split
  · rename_i h
    rw [enemy_eq_other]
    exact .single (.pickUp id hLive (by simpa using h.1) h.2.1 h.2.2)
  · exact .refl

theorem capture_changes (s : Sim) (id : Fin kMaxPlayers) (hLive : s.Living id) :
    ReflTransGen FlagChange s (s.capture id) := by
  simp only [capture]
  split
  · rename_i h
    rw [enemy_eq_other]
    exact .single (.capture id hLive h.1 h.2.1 h.2.2)
  · exact .refl

theorem living_touchReturn (s : Sim) (id i : Fin kMaxPlayers) : (s.touchReturn id).Living i ↔ s.Living i := by
  simp only [touchReturn]
  split <;> rfl

theorem living_pickUp (s : Sim) (id i : Fin kMaxPlayers) : (s.pickUp id).Living i ↔ s.Living i := by
  simp only [pickUp]
  split
  · by_cases h : i = id
    · subst h
      simp [Living, setPlayer, setFlag, push]
    · simp [Living, setPlayer, setFlag, push, h]
  · rfl

theorem touchTurn_changes (s : Sim) (id : Fin kMaxPlayers) : ReflTransGen FlagChange s (s.touchTurn id) := by
  simp only [touchTurn]
  split
  · exact .refl
  · rename_i hSkip
    simp only [Bool.or_eq_true, Bool.not_eq_true', not_or, Bool.not_eq_false] at hSkip
    have hReturn := (living_touchReturn s id id).mpr hSkip
    have hPick := (living_pickUp _ id id).mpr hReturn
    exact ((touchReturn_changes s id hSkip).trans (pickUp_changes _ id hReturn)).trans (capture_changes _ id hPick)

theorem respawnTurn_changes (s : Sim) (id : Fin kMaxPlayers) : ReflTransGen RespawnChange s (s.respawnTurn id) := by
  simp only [respawnTurn]
  split
  · exact .refl
  · rename_i hSkip
    simp only [Bool.or_eq_true, Bool.not_eq_true', not_or, Bool.not_eq_false, Bool.not_eq_true] at hSkip
    split
    · rename_i hTimer
      exact .single (.respawn id _ hSkip.1 hSkip.2 (by omega) rfl)
    · exact .single (.countDown id hSkip.2)

/-- The second half of the flags phase: respawn timers. -/
def respawnPhase (s : Sim) : Sim := (List.finRange kMaxPlayers).foldl respawnTurn s

/-- The first two loops of the flags phase. -/
def touchPhase (s : Sim) : Sim := (List.finRange kMaxPlayers).foldl touchTurn ([Team.red, Team.blue].foldl flagTurn s)

theorem flagsPhase_eq (s : Sim) : s.flagsPhase = s.touchPhase.respawnPhase := rfl

theorem touchPhase_changes (s : Sim) : ReflTransGen FlagChange s s.touchPhase :=
  (Chain.foldl flagTurn_changes _ s).trans (Chain.foldl touchTurn_changes _ _)

theorem respawnPhase_changes (s : Sim) : ReflTransGen RespawnChange s s.respawnPhase :=
  Chain.foldl respawnTurn_changes _ s

end Sim
end CaptureTheFlag
