import CaptureTheFlag.Server.Lifecycle
import CaptureTheFlag.Server.Quiet

/-! # Rate of fire

A shot sets the cooldown of the shooter to its full length. Each tick takes at most one unit off it, none while the
shooter is dead, and only a cooldown that has run out lets the next shot through.
-/
namespace CaptureTheFlag
set_option autoImplicit false
open Protocol

def OutboundEvent.isShotBy (v : Fin kMaxPlayers) (ev : OutboundEvent) : Bool :=
  ev.message = some .shotFired ∧ ev.subject = some (Sim.idByte v)

namespace Sim

def shotsOf (s : Sim) (v : Fin kMaxPlayers) : List OutboundEvent := s.outbound.filter (OutboundEvent.isShotBy v)

def shotsIn (rayDir : RayDir) (s : Sim) (cmds : List InboundCommand) (v : Fin kMaxPlayers) : List OutboundEvent :=
  ((s.tick rayDir cmds).outbound.drop s.outbound.length).filter (OutboundEvent.isShotBy v)

structure Idles (v : Fin kMaxPlayers) (s s' : Sim) : Prop where
  active : (s'.players v).active = (s.players v).active
  fireCooldown : (s'.players v).fireCooldown = (s.players v).fireCooldown
  shots : s'.shotsOf v = s.shotsOf v

theorem Idles.refl (v : Fin kMaxPlayers) (s : Sim) : Idles v s s := ⟨rfl, rfl, rfl⟩

theorem Idles.trans {v : Fin kMaxPlayers} {s s' s'' : Sim} (h : Idles v s s') (h' : Idles v s' s'') : Idles v s s'' :=
  ⟨h'.active.trans h.active, h'.fireCooldown.trans h.fireCooldown, h'.shots.trans h.shots⟩

theorem shotsOf_push {s : Sim} {ev : OutboundEvent} {v : Fin kMaxPlayers} (h : ev.isShotBy v = false) :
    (s.push ev).shotsOf v = s.shotsOf v := by
  rw [shotsOf, shotsOf, push, List.filter_append, List.filter_cons_of_neg (by rw [h]; exact Bool.false_ne_true),
    List.filter_nil, List.append_nil]

theorem isShotBy_of_message {ev : OutboundEvent} {message : MessageType} (h : ev.message = some message)
    (hOther : message ≠ .shotFired) (v : Fin kMaxPlayers) : ev.isShotBy v = false := by
  rw [OutboundEvent.isShotBy, h, decide_eq_false_iff_not]
  exact fun hShot => hOther (Option.some.inj hShot.1)

section Push

variable {v : Fin kMaxPlayers} {s s' : Sim} {ev : OutboundEvent} {message : MessageType}

theorem Idles.push (h : Idles v s s') (hMessage : ev.message = some message) (hOther : message ≠ .shotFired) :
    Idles v s (s'.push ev) :=
  ⟨h.active, h.fireCooldown, (shotsOf_push (isShotBy_of_message hMessage hOther v)).trans h.shots⟩

theorem Idles.setPlayer (h : Idles v s s') (i : Fin kMaxPlayers) {p : Player} (hActive : p.active = (s'.players i).active)
    (hCooldown : p.fireCooldown = (s'.players i).fireCooldown) : Idles v s (s'.setPlayer i p) := by
  refine h.trans ⟨?_, ?_, rfl⟩
  · by_cases hv : v = i
    · subst hv
      simpa only [Sim.setPlayer, Function.update_self] using hActive
    · simp only [Sim.setPlayer, Function.update_of_ne hv]
  · by_cases hv : v = i
    · subst hv
      simpa only [Sim.setPlayer, Function.update_self] using hCooldown
    · simp only [Sim.setPlayer, Function.update_of_ne hv]

end Push

theorem idles_flagChange {s s' : Sim} (h : FlagChange s s') (v : Fin kMaxPlayers) : Idles v s s' := by
  cases h with
  | follow team position => exact ⟨rfl, rfl, rfl⟩
  | flagReturn team playerId =>
    exact Idles.push ⟨rfl, rfl, rfl⟩ (OutboundEvent.message_serEvent _ (Or.inl rfl) _ _) (by decide)
  | pickUp id =>
    refine Idles.push ?_ (OutboundEvent.message_serEvent _ (Or.inl rfl) _ _) (by decide)
    apply Idles.setPlayer
    · exact ⟨rfl, rfl, rfl⟩
    · rfl
    · rfl
  | capture id =>
    have hPlayer := (Idles.refl v s).setPlayer id (p := { s.players id with carryingFlag := false }) rfl rfl
    exact Idles.push ⟨hPlayer.active, hPlayer.fireCooldown, hPlayer.shots⟩
      (OutboundEvent.message_serEvent _ (Or.inl rfl) _ _) (by decide)

theorem idles_respawnChange {s s' : Sim} (h : RespawnChange s s') (v : Fin kMaxPlayers) : Idles v s s' := by
  cases h with
  | countDown id => exact (Idles.refl v s).setPlayer id rfl rfl
  | respawn id msg =>
    refine Idles.push ?_ (message_playerRespawned msg) (by decide)
    apply (Idles.refl v s).setPlayer
    · rfl
    · rfl

theorem idles_chain {r : Sim → Sim → Prop} {v : Fin kMaxPlayers} (hStep : ∀ s s', r s s' → Idles v s s') {s s' : Sim}
    (h : Relation.ReflTransGen r s s') : Idles v s s' :=
  Chain.invariant (I := Idles v s) (fun _ _ hLast hSoFar => hSoFar.trans (hStep _ _ hLast)) h (Idles.refl v s)

theorem idles_flagsPhase (s : Sim) (v : Fin kMaxPlayers) : Idles v s s.flagsPhase := by
  rw [flagsPhase_eq]
  exact (idles_chain (fun _ _ h => idles_flagChange h v) (touchPhase_changes s)).trans
    (idles_chain (fun _ _ h => idles_respawnChange h v) (respawnPhase_changes _))

theorem idles_winCheck (s : Sim) (v : Fin kMaxPlayers) : Idles v s s.winCheck := by
  simp only [winCheck]
  split
  · exact Idles.refl v s
  · split
    · exact Idles.push ⟨rfl, rfl, rfl⟩ (OutboundEvent.message_serEvent _ (Or.inl rfl) _ _) (by decide)
    · exact Idles.refl v s

theorem idles_publish (s : Sim) (v : Fin kMaxPlayers) : Idles v s s.publish := by
  refine ⟨by rw [publish_players], by rw [publish_players], ?_⟩
  cases hDue : s.publishDue with
  | true =>
    rw [publish_due s hDue]
    refine shotsOf_push ?_
    rw [OutboundEvent.isShotBy, OutboundEvent.message_of_snapshot (toPublish_isSnapshot s), decide_eq_false_iff_not]
    exact fun hShot => nomatch hShot.1
  | false =>
    rw [publish_not_due s hDue]
    rfl

theorem idles_clock (s : Sim) (now : U32) (v : Fin kMaxPlayers) : Idles v s { s with currentTick := now } :=
  ⟨rfl, rfl, rfl⟩

theorem idles_handleDeath (s : Sim) (victim v : Fin kMaxPlayers) : Idles v s (s.handleDeath victim) := by
  simp only [handleDeath]
  split
  · refine Idles.setPlayer (Idles.push ?_ (OutboundEvent.message_serEvent _ (Or.inl rfl) _ _) (by decide)) victim ?_ ?_
    · have hDead := (Idles.refl v s).setPlayer victim (p := dead (s.players victim)) rfl rfl
      exact ⟨hDead.active, hDead.fireCooldown, hDead.shots⟩
    · simp only [Sim.setPlayer, Sim.push, Sim.setFlag, Function.update_self]
    · simp only [Sim.setPlayer, Sim.push, Sim.setFlag, Function.update_self]
  · apply (Idles.refl v s).setPlayer
    · rfl
    · rfl

theorem idles_hurt (s : Sim) (shooter enemy v : Fin kMaxPlayers) : Idles v s (s.hurt shooter enemy) := by
  have hWound : ∀ health : Int, Idles v s (s.setPlayer enemy { s.players enemy with health }) := by
    intro health
    apply (Idles.refl v s).setPlayer
    · rfl
    · rfl
  simp only [hurt]
  generalize (if (s.players enemy).health > kDamagePerShot then (s.players enemy).health - kDamagePerShot else 0) = health
  split
  · exact ((hWound health).trans (idles_handleDeath _ enemy v)).push (message_playerKilled _) (by decide)
  · exact hWound health

/-- Combat for slot `v`: it holds its fire and cools by at most one, or it fires with its cooldown run out. -/
inductive Triggers (v : Fin kMaxPlayers) (s s' : Sim) : Prop where
  | holds (hActive : (s'.players v).active = (s.players v).active)
      (hCooldown : (s.players v).fireCooldown - 1 ≤ (s'.players v).fireCooldown)
      (hShots : s'.shotsOf v = s.shotsOf v) : Triggers v s s'
  | fires (shot : OutboundEvent) (hActive : (s.players v).active = true) (hActive' : (s'.players v).active = true)
      (hReady : (s.players v).fireCooldown ≤ 0) (hCooldown : (s'.players v).fireCooldown = kFireCooldownTicks)
      (hShots : s'.shotsOf v = s.shotsOf v ++ [shot]) : Triggers v s s'

theorem Triggers.idles {v : Fin kMaxPlayers} {s s' s'' : Sim} (h : Triggers v s s') (hIdles : Idles v s' s'') :
    Triggers v s s'' := by
  cases h with
  | holds hActive hCooldown hShots =>
    exact .holds (hIdles.active.trans hActive) (by rw [hIdles.fireCooldown]; exact hCooldown)
      (hIdles.shots.trans hShots)
  | fires shot hActive hActive' hReady hCooldown hShots =>
    exact .fires shot hActive (hIdles.active.trans hActive') hReady (hIdles.fireCooldown.trans hCooldown)
      (hIdles.shots.trans hShots)

theorem Idles.triggers {v : Fin kMaxPlayers} {s s' s'' : Sim} (h : Idles v s s') (hTriggers : Triggers v s' s'') :
    Triggers v s s'' := by
  cases hTriggers with
  | holds hActive hCooldown hShots =>
    exact .holds (hActive.trans h.active) (by rw [← h.fireCooldown]; exact hCooldown) (hShots.trans h.shots)
  | fires shot hActive hActive' hReady hCooldown hShots =>
    exact .fires shot (h.active.symm.trans hActive) hActive' (by rw [← h.fireCooldown]; exact hReady) hCooldown
      (by rw [hShots, h.shots])

theorem combatTurn_cases (rayDir : RayDir) (s : Sim) (id : Fin kMaxPlayers) :
    s.combatTurn rayDir id = s ∨
    s.combatTurn rayDir id = s.setPlayer id { s.players id with fireCooldown := (s.players id).fireCooldown - 1 } ∨
    ((s.players id).active = true ∧ (s.players id).fireCooldown ≤ 0 ∧ ∃ msg : MsgShotFired,
      (msg.shooterId = idByte id ∧ msg.hitPoint = (castRay rayDir s.players (centerOf (s.players id).position)
        (s.appliedCmds id).aimAngle (s.players id).team).1) ∧
      ∃ fired, fired = (s.push (.shotFired msg)).setPlayer id
          { s.players id with fireCooldown := kFireCooldownTicks } ∧
        (s.combatTurn rayDir id = fired ∨ ∃ enemy, s.combatTurn rayDir id = fired.hurt id enemy)) := by
  simp only [combatTurn]
  split
  · exact Or.inl rfl
  · rename_i hSkip
    simp only [Bool.or_eq_true, Bool.not_eq_true', not_or, Bool.not_eq_false] at hSkip
    split
    · exact Or.inr (Or.inl rfl)
    · rename_i hReady
      split
      · exact Or.inl rfl
      · generalize castRay rayDir s.players (centerOf (s.players id).position) (s.appliedCmds id).aimAngle
          (s.players id).team = ray
        refine Or.inr (Or.inr ⟨hSkip.1, by omega,
          ⟨idByte id, centerOf (s.players id).position, (s.appliedCmds id).aimAngle, ray.1⟩, ⟨rfl, rfl⟩, _, rfl, ?_⟩)
        split
        · exact Or.inl rfl
        · exact Or.inr ⟨_, rfl⟩

theorem combatTurn_other (rayDir : RayDir) (s : Sim) {i v : Fin kMaxPlayers} (hi : i ≠ v) :
    Idles v s (s.combatTurn rayDir i) := by
  have hSlot : ∀ (s' : Sim) (p : Player), Idles v s' (s'.setPlayer i p) := by
    intro s' p
    refine ⟨?_, ?_, rfl⟩
    · simp only [Sim.setPlayer, Function.update_of_ne hi.symm]
    · simp only [Sim.setPlayer, Function.update_of_ne hi.symm]
  rcases combatTurn_cases rayDir s i with hEq | hEq | ⟨-, -, msg, hMsg, fired, hFired, hTurn⟩
  · rw [hEq]
    exact Idles.refl v s
  · rw [hEq]
    exact hSlot s _
  · have hShot : Idles v s (s.push (.shotFired msg)) := by
      refine ⟨rfl, rfl, shotsOf_push ?_⟩
      rw [OutboundEvent.isShotBy, OutboundEvent.subject_shotFired, hMsg.1, decide_eq_false_iff_not]
      exact fun hOwn => idByte_ne hi hOwn.2
    have hFiredIdles : Idles v s fired := by
      rw [hFired]
      exact hShot.trans (hSlot _ _)
    rcases hTurn with hEq | ⟨enemy, hEq⟩
    · rw [hEq]
      exact hFiredIdles
    · rw [hEq]
      exact hFiredIdles.trans (idles_hurt fired i enemy v)

theorem combatTurn_own (rayDir : RayDir) (s : Sim) (v : Fin kMaxPlayers) : Triggers v s (s.combatTurn rayDir v) := by
  rcases combatTurn_cases rayDir s v with hEq | hEq | ⟨hActive, hReady, msg, hMsg, fired, hFired, hTurn⟩
  · rw [hEq]
    exact .holds rfl (by omega) rfl
  · rw [hEq]
    refine .holds ?_ ?_ rfl
    · simp only [Sim.setPlayer, Function.update_self]
    · simp only [Sim.setPlayer, Function.update_self, le_refl]
  · have hShot : (OutboundEvent.shotFired msg).isShotBy v = true := by
      rw [OutboundEvent.isShotBy, OutboundEvent.subject_shotFired, hMsg.1, decide_eq_true_eq]
      exact ⟨OutboundEvent.message_serEvent _ (Or.inr rfl) _ _, rfl⟩
    have hFires : Triggers v s fired := by
      rw [hFired]
      refine .fires (.shotFired msg) hActive ?_ hReady ?_ ?_
      · simp only [Sim.setPlayer, Function.update_self, hActive]
      · simp only [Sim.setPlayer, Function.update_self]
      · change List.filter _ (s.outbound ++ [_]) = _
        rw [List.filter_append, List.filter_cons_of_pos hShot, List.filter_nil]
        rfl
    rcases hTurn with hEq | ⟨enemy, hEq⟩
    · rw [hEq]
      exact hFires
    · rw [hEq]
      exact hFires.idles (idles_hurt fired v enemy v)

theorem idles_others (rayDir : RayDir) {v : Fin kMaxPlayers} (is : List (Fin kMaxPlayers)) (hOthers : v ∉ is) (s : Sim) :
    Idles v s (is.foldl (combatTurn rayDir) s) := by
  induction is generalizing s with
  | nil => exact Idles.refl v s
  | cons i is ih =>
    rw [List.mem_cons, not_or] at hOthers
    exact (combatTurn_other rayDir s (Ne.symm hOthers.1)).trans (ih hOthers.2 _)

theorem combat_triggers (rayDir : RayDir) (s : Sim) (v : Fin kMaxPlayers) : Triggers v s (s.combat rayDir) := by
  obtain ⟨before, after, hIds⟩ := List.append_of_mem (List.mem_finRange v)
  have hNodup := List.nodup_finRange kMaxPlayers
  rw [hIds, List.nodup_append] at hNodup
  obtain ⟨-, hAfter, hApart⟩ := hNodup
  have hBefore : v ∉ before := fun hMem => hApart v hMem v List.mem_cons_self rfl
  rw [combat, hIds, List.foldl_append, List.foldl_cons]
  exact ((idles_others rayDir before hBefore s).triggers (combatTurn_own rayDir _ v)).idles
    (idles_others rayDir after (List.nodup_cons.mp hAfter).1 _)

theorem applyCommand_trigger {s : Sim} {v : Fin kMaxPlayers} {cmd : InboundCommand}
    (hActive : (s.players v).active = true) (hStay : ¬ s.Leaves v [cmd]) :
    ((s.applyCommand cmd).players v).active = true ∧
      ((s.applyCommand cmd).players v).fireCooldown = (s.players v).fireCooldown := by
  have hApplied := applyCommand_applied s cmd
  generalize s.applyCommand cmd = s' at hApplied ⊢
  cases hApplied with
  | ignored => exact ⟨hActive, rfl⟩
  | join id team spawnIndex hGoing hFree =>
    have hv : v ≠ id := by
      rintro rfl
      rw [hActive] at hFree
      cases hFree
    simp only [Function.update_of_ne hv]
    exact ⟨hActive, trivial⟩
  | leave id hGoing =>
    have hv : v ≠ id := by
      rintro rfl
      exact hStay ⟨hGoing, List.mem_singleton_self _⟩
    simp only [Function.update_of_ne hv]
    exact ⟨hActive, trivial⟩
  | input id seq input =>
    by_cases hv : v = id
    · subst hv
      simp only [Function.update_self]
      exact ⟨(acceptInput_sameLife _ seq input).active.trans hActive, acceptInput_fireCooldown _ seq input⟩
    · simp only [Function.update_of_ne hv]
      exact ⟨hActive, trivial⟩

theorem drainInbound_trigger {v : Fin kMaxPlayers} (cmds : List InboundCommand) {s : Sim}
    (hActive : (s.players v).active = true) (hStay : ¬ s.Leaves v cmds) :
    ((s.drainInbound cmds).players v).active = true ∧
      ((s.drainInbound cmds).players v).fireCooldown = (s.players v).fireCooldown := by
  induction cmds generalizing s with
  | nil => exact ⟨hActive, rfl⟩
  | cons cmd cmds ih =>
    rw [leaves_cons, not_or] at hStay
    obtain ⟨hStill, hCooldown⟩ := applyCommand_trigger hActive hStay.1
    obtain ⟨hEnd, hSame⟩ := ih hStill hStay.2
    rw [drainInbound_cons]
    exact ⟨hEnd, hSame.trans hCooldown⟩

theorem movedBy_trigger {s : Sim} {v : Fin kMaxPlayers} {cmds : List InboundCommand}
    (hActive : (s.players v).active = true) (hStay : ¬ s.Leaves v cmds) :
    ((s.movedBy cmds).players v).active = true ∧
      ((s.movedBy cmds).players v).fireCooldown = (s.players v).fireCooldown := by
  obtain ⟨hStill, hCooldown⟩ := drainInbound_trigger cmds hActive hStay
  obtain ⟨hSame, -, -, -, hKept⟩ := stepped_fields (s.drainInbound cmds) v
  exact ⟨hSame.trans hStill, hKept.trans hCooldown⟩

theorem tick_triggers (rayDir : RayDir) (s : Sim) (cmds : List InboundCommand) (v : Fin kMaxPlayers) :
    Triggers v (s.movedBy cmds) (s.tick rayDir cmds) := by
  have hPhases := (((combat_triggers rayDir (s.movedBy cmds) v).idles (idles_flagsPhase _ v)).idles
    (idles_winCheck _ v)).idles (idles_publish _ v)
  rw [tick_eq_finish, finish]
  exact hPhases.idles (idles_clock _ _ v)

theorem shotsIn_eq {rayDir : RayDir} {s : Sim} {cmds : List InboundCommand} {v : Fin kMaxPlayers}
    {shots : List OutboundEvent} (h : (s.tick rayDir cmds).shotsOf v = (s.movedBy cmds).shotsOf v ++ shots) :
    s.shotsIn rayDir cmds v = shots := by
  rw [shotsOf, shotsOf, movedBy_outbound] at h
  exact tick_pushed h

theorem tick_shots (rayDir : RayDir) (s : Sim) (cmds : List InboundCommand) (v : Fin kMaxPlayers) :
    (s.shotsIn rayDir cmds v = [] ∧ ((s.tick rayDir cmds).players v).active = ((s.movedBy cmds).players v).active ∧
      ((s.movedBy cmds).players v).fireCooldown - 1 ≤ ((s.tick rayDir cmds).players v).fireCooldown) ∨
    ((∃ shot, s.shotsIn rayDir cmds v = [shot]) ∧ ((s.movedBy cmds).players v).fireCooldown ≤ 0 ∧
      ((s.tick rayDir cmds).players v).active = true ∧
      ((s.tick rayDir cmds).players v).fireCooldown = kFireCooldownTicks) := by
  cases tick_triggers rayDir s cmds v with
  | holds hActive hCooldown hShots =>
    exact Or.inl ⟨shotsIn_eq (by rw [hShots, List.append_nil]), hActive, hCooldown⟩
  | fires shot hActive hActive' hReady hCooldown hShots =>
    exact Or.inr ⟨⟨shot, shotsIn_eq hShots⟩, hReady, hActive', hCooldown⟩

instance (s : Sim) (v : Fin kMaxPlayers) (cmds : List InboundCommand) : Decidable (s.Leaves v cmds) :=
  inferInstanceAs (Decidable (_ ∧ _))

/-- Session and tick of every shot of slot `v`. A session ends when the player leaves. -/
def shotLog (rayDir : RayDir) (v : Fin kMaxPlayers) : Sim → Nat → Nat → List (List InboundCommand) → List (Nat × Nat)
  | _, _, _, [] => []
  | s, session, t, cmds :: ticks =>
    let session := if s.Leaves v cmds then session + 1 else session
    (s.shotsIn rayDir cmds v).map (fun _ => (session, t)) ++
      shotLog rayDir v (s.tick rayDir cmds) session (t + 1) ticks

theorem shotLog_bounds (rayDir : RayDir) (v : Fin kMaxPlayers) (ticks : List (List InboundCommand)) (s : Sim)
    (session t : Nat) : ∀ e ∈ shotLog rayDir v s session t ticks, session ≤ e.1 ∧ t ≤ e.2 := by
  induction ticks generalizing s session t with
  | nil => exact fun e hMem => nomatch hMem
  | cons cmds ticks ih =>
    intro e hMem
    have hSession : session ≤ if s.Leaves v cmds then session + 1 else session := by
      split <;> omega
    rcases List.mem_append.mp hMem with hNow | hLater
    · obtain ⟨shot, -, rfl⟩ := List.mem_map.mp hNow
      exact ⟨hSession, le_rfl⟩
    · obtain ⟨hNumber, hTime⟩ := ih _ _ _ e hLater
      exact ⟨hSession.trans hNumber, Nat.le_of_succ_le hTime⟩

/-- As long as the session lasts, the next shot waits for the cooldown. -/
theorem shotLog_waits (rayDir : RayDir) (v : Fin kMaxPlayers) (ticks : List (List InboundCommand)) (s : Sim)
    (session t : Nat) (hActive : (s.players v).active = true) :
    ∀ e ∈ shotLog rayDir v s session t ticks, e.1 = session → t + (s.players v).fireCooldown ≤ e.2 := by
  induction ticks generalizing s t with
  | nil => exact fun e hMem => nomatch hMem
  | cons cmds ticks ih =>
    intro e hMem hSame
    rw [shotLog] at hMem
    by_cases hLeaves : s.Leaves v cmds
    · -- whatever comes after belongs to a later session
      simp only [if_pos hLeaves] at hMem
      rcases List.mem_append.mp hMem with hNow | hLater
      · obtain ⟨shot, -, rfl⟩ := List.mem_map.mp hNow
        simp only at hSame
        omega
      · have hNumber := (shotLog_bounds rayDir v ticks _ _ _ e hLater).1
        omega
    · simp only [if_neg hLeaves] at hMem
      obtain ⟨hStill, hCooldown⟩ := movedBy_trigger hActive hLeaves
      rcases tick_shots rayDir s cmds v with ⟨hNone, hKept, hCools⟩ | ⟨-, hReady, hNext, hFull⟩
      · rw [hNone] at hMem
        have hLater := ih (s.tick rayDir cmds) (t + 1) (hKept.trans hStill) e hMem hSame
        rw [hCooldown] at hCools
        omega
      · rw [hCooldown] at hReady
        rcases List.mem_append.mp hMem with hNow | hLater
        · obtain ⟨shot, -, rfl⟩ := List.mem_map.mp hNow
          simp only
          omega
        · have hTime := (shotLog_bounds rayDir v ticks _ _ _ e hLater).2
          omega

/-- However the clients flood, two shots of one player in one session are more than the cooldown apart. -/
theorem shots_spaced (rayDir : RayDir) (s : Sim) (ticks : List (List InboundCommand)) (v : Fin kMaxPlayers)
    (session t : Nat) :
    (shotLog rayDir v s session t ticks).Pairwise fun a b => a.1 = b.1 → a.2 + kFireCooldownTicks < b.2 := by
  induction ticks generalizing s session t with
  | nil => exact List.Pairwise.nil
  | cons cmds ticks ih =>
    rw [shotLog]
    generalize (if s.Leaves v cmds then session + 1 else session) = session
    have hRest := ih (s.tick rayDir cmds) session (t + 1)
    rcases tick_shots rayDir s cmds v with ⟨hNone, -⟩ | ⟨⟨shot, hShot⟩, -, hActive, hFull⟩
    · rw [hNone]
      exact hRest
    · rw [hShot]
      refine List.pairwise_cons.mpr ⟨?_, hRest⟩
      intro e hLater hSame
      have hWait := shotLog_waits rayDir v ticks _ session (t + 1) hActive e hLater hSame.symm
      rw [hFull] at hWait
      simp only
      omega

end Sim
end CaptureTheFlag
