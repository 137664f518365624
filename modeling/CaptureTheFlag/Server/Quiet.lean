import CaptureTheFlag.Server.Frozen

/-! # A quiet world stays frozen -/
namespace CaptureTheFlag
set_option autoImplicit false

namespace Sim

variable {rayDir : RayDir}

structure Aged (p q : Player) : Prop where
  active : q.active = true
  alive : q.alive = true
  team : q.team = p.team
  health : q.health = p.health
  carryingFlag : q.carryingFlag = p.carryingFlag
  position : q.position = (movementStep { position := p.position } p.nextInput Map.arena).position
  queued : q.queued = p.queued.tail
  fireCooldown : q.fireCooldown = if p.fireCooldown > 0 then p.fireCooldown - 1 else p.fireCooldown

theorem popped_fields (p : Player) :
    p.popped.active = p.active ∧ p.popped.alive = p.alive ∧ p.popped.team = p.team ∧ p.popped.health = p.health ∧
      p.popped.carryingFlag = p.carryingFlag ∧ p.popped.position = p.position ∧
      p.popped.fireCooldown = p.fireCooldown := by
  simp only [Player.popped]
  split <;> exact ⟨rfl, rfl, rfl, rfl, rfl, rfl, rfl⟩

theorem aged_of_living {s s' : Sim} (h : CalmTick s s') {id : Fin kMaxPlayers} (hLive : s.Living id) :
    Aged (s.players id) (s'.players id) := by
  obtain ⟨hActive, hAlive⟩ := hLive
  obtain ⟨hA, hL, hT, hH, hC, hP, hF⟩ := popped_fields (s.players id)
  have hPlayer : s'.players id = cooled ((s.players id).popped.moved (s.players id).nextInput) := by
    rw [h.players id, stepped_players, if_pos ⟨hActive, hAlive⟩]
    have hAliveCooled : (cooled ((s.players id).popped.moved (s.players id).nextInput)).alive = true := by
      rw [(cooled_fields _).2.1]
      exact hL.trans hAlive
    simp only [respawned, hAliveCooled, Bool.or_true, if_true]
  have hMoved : ((s.players id).popped.moved (s.players id).nextInput).active = true ∧
      ((s.players id).popped.moved (s.players id).nextInput).alive = true := ⟨hA.trans hActive, hL.trans hAlive⟩
  have hCooled := cooled_fields ((s.players id).popped.moved (s.players id).nextInput)
  rw [hPlayer]
  refine ⟨hCooled.1.trans hMoved.1, hCooled.2.1.trans hMoved.2, hCooled.2.2.1.trans hT, ?_,
    hCooled.2.2.2.2.1.trans hC, ?_, ?_, ?_⟩
  · rw [← hH]
    simp only [cooled]
    split <;> rfl
  · rw [hCooled.2.2.2.1]
    simp only [Player.moved, hP]
  · rw [← Player.queued_popped hAlive]
    simp only [cooled]
    split <;> rfl
  · rw [← hF]
    exact cooled_fireCooldown hMoved.1 hMoved.2

theorem inactive_of_calmTick {s s' : Sim} (h : CalmTick s s') {id : Fin kMaxPlayers}
    (hInactive : (s.players id).active = false) : s'.players id = s.players id := by
  rw [h.players id, stepped_players]
  simp [hInactive, cooled, respawned]

theorem countDown_of_dead {s s' : Sim} (h : CalmTick s s') (hCalm : s.stepped.Calm) {id : Fin kMaxPlayers}
    (hActive : (s.players id).active = true) (hDead : (s.players id).alive = false) :
    1 < (s.players id).respawnTimer ∧
      s'.players id = { s.players id with respawnTimer := (s.players id).respawnTimer - 1 } := by
  have hStepped : s.stepped.players id = s.players id := by
    rw [stepped_players]
    simp [hDead]
  have hCooled : cooled (s.players id) = s.players id := by simp [cooled, hDead]
  have hTimer : 1 < (s.players id).respawnTimer := by
    by_contra hDue
    exact hCalm.respawn id (by
      simp only [RespawnDue, hStepped]
      exact ⟨hActive, hDead, by omega⟩)
  refine ⟨hTimer, ?_⟩
  rw [h.players id, hStepped, hCooled]
  have hNot : ¬ (s.players id).respawnTimer - 1 ≤ 0 := by omega
  simp only [respawned, hActive, hDead, hNot, Bool.not_true, Bool.or_self, Bool.false_eq_true, if_false]

theorem followed_state (s : Sim) (team : Team) :
    (s.followed team).state = (s.flags team).state ∧ (s.followed team).carrierId = (s.flags team).carrierId := by
  simp only [followed]
  split <;> exact ⟨rfl, rfl⟩

theorem touches_congr {s s' : Sim} {id : Fin kMaxPlayers}
    (hActive : (s'.players id).active = (s.players id).active) (hAlive : (s'.players id).alive = (s.players id).alive)
    (hTeam : (s'.players id).team = (s.players id).team)
    (hPosition : (s'.players id).position = (s.players id).position)
    (hCarrying : (s'.players id).carryingFlag = (s.players id).carryingFlag) (hFlags : s'.flags = s.flags) :
    s'.Touches id ↔ s.Touches id := by
  simp only [Touches, Living, hActive, hAlive, hTeam, hPosition, hCarrying, hFlags]

theorem Quiet.still {s : Sim} (h : s.Quiet) {id : Fin kMaxPlayers} (hActive : (s.players id).active = true) :
    (movementStep { position := (s.players id).position } (s.players id).nextInput Map.arena).position =
      (s.players id).position := by
  rw [Player.nextInput_eq (h.alive id hActive)]
  cases hQueued : (s.players id).queued with
  | nil => exact movementStep_still _ _ _ rfl
  | cons e rest => exact (h.inputs id hActive 0 e (by rw [hQueued]; rfl)).1

theorem Quiet.stepped_position {s : Sim} (h : s.Quiet) (id : Fin kMaxPlayers) :
    (s.stepped.players id).position = (s.players id).position := by
  rw [stepped_players]
  split
  · rename_i hLive
    simp only [Player.moved, (popped_fields _).2.2.2.2.2.1]
    exact h.still hLive.1
  · rfl

theorem stepped_fields (s : Sim) (id : Fin kMaxPlayers) :
    (s.stepped.players id).active = (s.players id).active ∧ (s.stepped.players id).alive = (s.players id).alive ∧
      (s.stepped.players id).team = (s.players id).team ∧
      (s.stepped.players id).carryingFlag = (s.players id).carryingFlag ∧
      (s.stepped.players id).fireCooldown = (s.players id).fireCooldown := by
  obtain ⟨hA, hL, hT, -, hC, -, hF⟩ := popped_fields (s.players id)
  rw [stepped_players]
  split
  · exact ⟨hA, hL, hT, hC, hF⟩
  · exact ⟨rfl, rfl, rfl, rfl, rfl⟩

theorem stepped_appliedCmds {s : Sim} {id : Fin kMaxPlayers} (hActive : (s.players id).active = true) :
    s.stepped.appliedCmds id = (s.players id).nextInput := by
  simp only [stepped, movePlayers_eq, popInputs_eq, hActive, if_true]

theorem Quiet.calm {s : Sim} (h : s.Quiet) : s.stepped.Calm where
  fire id hFires := by
    obtain ⟨⟨hActive, -⟩, hCooldown, hPressed⟩ := hFires
    obtain ⟨hA, -, -, -, hF⟩ := stepped_fields s id
    rw [hA] at hActive
    rw [hF] at hCooldown
    rw [stepped_appliedCmds hActive, Player.nextInput_eq (h.alive id hActive)] at hPressed
    cases hQueued : (s.players id).queued with
    | nil => simp [hQueued, InputCmd.pressed] at hPressed
    | cons e rest =>
      rw [hQueued] at hPressed
      have := (h.inputs id hActive 0 e (by rw [hQueued]; rfl)).2 hPressed
      omega
  drop team hDue := h.flags team (by rw [← (stepped_frame s).1]; exact hDue.1)
  touch id hTouch := by
    obtain ⟨hA, hL, hT, hC, -⟩ := stepped_fields s id
    exact h.touch id ((touches_congr hA hL hT (h.stepped_position id) hC (stepped_frame s).1).mp hTouch)
  respawn id hDue := by
    obtain ⟨hA, hL, -⟩ := stepped_fields s id
    have hAlive := h.alive id (hA ▸ hDue.1)
    rw [← hL, hDue.2.1] at hAlive
    cases hAlive

theorem Quiet.frozen_tick {s s' : Sim} (h : s.Quiet) (hTick : CalmTick s s') : Frozen s s' := by
  have hPlayer : ∀ id, (s'.players id).position = (s.players id).position ∧
      (s'.players id).health = (s.players id).health ∧ (s'.players id).alive = (s.players id).alive ∧
      (s'.players id).carryingFlag = (s.players id).carryingFlag := by
    intro id
    cases hActive : (s.players id).active with
    | false =>
      rw [inactive_of_calmTick hTick hActive]
      exact ⟨rfl, rfl, rfl, rfl⟩
    | true =>
      have hAlive := h.alive id hActive
      have hAged := aged_of_living hTick ⟨hActive, hAlive⟩
      exact ⟨hAged.position.trans (h.still hActive), hAged.health, hAged.alive.trans hAlive.symm, hAged.carryingFlag⟩
  exact
    { score := hTick.score
      state := fun team => by rw [hTick.flags, (followed_state _ team).1, (stepped_frame s).1]
      carrier := fun team => by rw [hTick.flags, (followed_state _ team).2, (stepped_frame s).1]
      position := fun id => (hPlayer id).1
      health := fun id => (hPlayer id).2.1
      alive := fun id => (hPlayer id).2.2.1
      carryingFlag := fun id => (hPlayer id).2.2.2
      events := hTick.events }

/-- One tick shortens the queues and the cooldowns together. -/
theorem Quiet.tick {s s' : Sim} (h : s.Quiet) (hTick : CalmTick s s') : s'.Quiet := by
  have hFrozen := h.frozen_tick hTick
  have hActive : ∀ id, (s'.players id).active = (s.players id).active ∧ (s'.players id).team = (s.players id).team := by
    intro id
    cases hActive : (s.players id).active with
    | false =>
      rw [inactive_of_calmTick hTick hActive]
      exact ⟨hActive, rfl⟩
    | true =>
      have hAged := aged_of_living hTick ⟨hActive, h.alive id hActive⟩
      exact ⟨hAged.active, hAged.team⟩
  constructor
  · intro id hAct
    rw [hFrozen.alive id]
    exact h.alive id ((hActive id).1 ▸ hAct)
  · intro team
    rw [hFrozen.state team]
    exact h.flags team
  · intro id hTouch
    refine h.touch id ((touches_followed s id).mp ?_)
    refine (touches_congr (s := { s with flags := s.followed }) (hActive id).1 (hFrozen.alive id) (hActive id).2
      (hFrozen.position id) (hFrozen.carryingFlag id) ?_).mp hTouch
    rw [hTick.flags]
    funext team
    -- Carried flags go where their carriers are, and those stand still.
    have hFind : ∀ c, s.stepped.findPlayer c = s.findPlayer c := by
      intro c
      simp only [findPlayer, (stepped_fields s _).1]
    simp only [followed, (stepped_frame s).1, hFind, h.stepped_position]
  · intro id hAct k e hQueued
    have hAct : (s.players id).active = true := (hActive id).1 ▸ hAct
    have hAged := aged_of_living hTick ⟨hAct, h.alive id hAct⟩
    rw [hAged.queued, List.getElem?_tail] at hQueued
    obtain ⟨hStill, hFire⟩ := h.inputs id hAct (k + 1) e hQueued
    rw [hFrozen.position id]
    refine ⟨hStill, fun hPressed => ?_⟩
    have := hFire hPressed
    rw [hAged.fireCooldown, if_pos (by omega)]
    omega

theorem Quiet.frozen_run {s : Sim} (h : s.Quiet) (hOver : s.matchOver = true)
    (later : List (List InboundCommand)) : Frozen s (s.run rayDir later) := by
  induction later generalizing s with
  | nil => exact Frozen.refl s
  | cons cmds later ih =>
    have hTick := calmTick_of_calm rayDir s cmds hOver h.calm
    rw [run_cons]
    exact (h.frozen_tick hTick).trans (ih (h.tick hTick) hTick.matchOver)

end Sim
end CaptureTheFlag
