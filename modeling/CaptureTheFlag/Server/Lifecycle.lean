import CaptureTheFlag.Server.MatchClock
import CaptureTheFlag.Server.PlayerLog
import CaptureTheFlag.Server.PublishHistory

/-! # Death and respawn

A player dies in combat with its timer at the full delay, and the respawn loop of the same tick takes the first unit
off it. From then on only the timer of its record changes, until the tick in which it has run out or the one in which
the player leaves.
-/
namespace CaptureTheFlag
set_option autoImplicit false
open Protocol

namespace Sim

/-- What inputs and movement do not change about a player. -/
structure SameLife (p q : Player) : Prop where
  active : q.active = p.active
  alive : q.alive = p.alive
  health : q.health = p.health
  respawnTimer : q.respawnTimer = p.respawnTimer

theorem acceptInput_sameLife (p : Player) (seq : U32) (input : InputCmd) : SameLife p (p.acceptInput seq input) := by
  simp only [Player.acceptInput]
  split
  · exact ⟨rfl, rfl, rfl, rfl⟩
  · split
    · exact ⟨rfl, rfl, rfl, rfl⟩
    · split <;> exact ⟨rfl, rfl, rfl, rfl⟩

theorem acceptInput_fireCooldown (p : Player) (seq : U32) (input : InputCmd) :
    (p.acceptInput seq input).fireCooldown = p.fireCooldown := by
  simp only [Player.acceptInput]
  split
  · rfl
  · split
    · rfl
    · split <;> rfl

theorem popped_sameLife (p : Player) : SameLife p p.popped := by
  simp only [Player.popped]
  split <;> exact ⟨rfl, rfl, rfl, rfl⟩

theorem acceptInput_dead {p : Player} (hDead : p.alive = false) (seq : U32) (input : InputCmd) :
    p.acceptInput seq input = p := by
  rw [Player.acceptInput, hDead]
  rfl

theorem popped_dead {p : Player} (hDead : p.alive = false) : p.popped = p := by
  rw [Player.popped, if_neg]
  rw [hDead]
  exact fun h => absurd h.1 (by decide)

def Life (p : Player) : Prop :=
  (p.alive = true ∧ Sound p.health) ∨
    (p.alive = false ∧ p.health = 0 ∧ 1 ≤ p.respawnTimer ∧ p.respawnTimer ≤ kRespawnDelayTicks - 1)

def AllLife (s : Sim) : Prop := ∀ v, (s.players v).active = true → Life (s.players v)

theorem Life.same {p q : Player} (h : Life p) (hSame : SameLife p q) : Life q := by
  rw [Life, hSame.alive, hSame.health, hSame.respawnTimer]
  exact h

theorem AllLife.update {s s' : Sim} (h : AllLife s) (id : Fin kMaxPlayers) {p : Player}
    (hPlayers : s'.players = Function.update s.players id p) (hLife : p.active = true → Life p) : AllLife s' := by
  intro v
  rw [hPlayers]
  by_cases hv : v = id
  · subst hv
    rw [Function.update_self]
    exact hLife
  · rw [Function.update_of_ne hv]
    exact h v

theorem AllLife.command {s s' : Sim} {cmd : InboundCommand} (hApplied : Applied s cmd s') (h : AllLife s) :
    AllLife s' := by
  cases hApplied with
  | ignored => exact h
  | join id team spawnIndex => exact h.update id rfl fun _ => Or.inl ⟨rfl, Or.inl rfl⟩
  | leave id => exact h.update id rfl fun hActive => nomatch hActive
  | input id seq input hGoing hActive =>
    exact h.update id rfl fun _ => (h id hActive).same (acceptInput_sameLife _ seq input)

theorem AllLife.movedBy {s : Sim} (h : AllLife s) (cmds : List InboundCommand) : AllLife (s.movedBy cmds) := by
  have hDrained : AllLife (s.drainInbound cmds) :=
    drainInbound_invariant (fun _ _ _ hApplied h => AllLife.command hApplied h) s cmds h
  have hPopped : AllLife (s.drainInbound cmds).popInputs := by
    intro v
    rw [popInputs_eq]
    simp only
    split
    · rename_i hActive
      exact fun _ => (hDrained v hActive).same (popped_sameLife _)
    · exact hDrained v
  intro v
  rw [Sim.movedBy, movePlayers_eq]
  simp only
  split
  · rename_i hLive
    exact fun _ => (hPopped v hLive.1).same ⟨rfl, rfl, rfl, rfl⟩
  · exact hPopped v

/-- A command takes slot `v` out of a match that is going on. -/
def Leaves (s : Sim) (v : Fin kMaxPlayers) (cmds : List InboundCommand) : Prop :=
  s.matchOver = false ∧ .playerLeft (idByte v) ∈ cmds

theorem applyCommand_left {s : Sim} {v : Fin kMaxPlayers} (hGoing : s.matchOver = false) :
    ((s.applyCommand (.playerLeft (idByte v))).players v).active = false := by
  simp only [applyCommand, hGoing, Bool.false_eq_true, if_false, applyLeave_idByte]
  split
  · simp only [Function.update_self]
  · rename_i hAbsent
    exact Bool.eq_false_iff.mpr hAbsent

theorem applyCommand_dead {s : Sim} {v : Fin kMaxPlayers} {cmd : InboundCommand} (hActive : (s.players v).active = true)
    (hDead : (s.players v).alive = false) (hStay : ¬ s.Leaves v [cmd]) :
    (s.applyCommand cmd).players v = s.players v := by
  have hApplied := applyCommand_applied s cmd
  generalize s.applyCommand cmd = s' at hApplied ⊢
  cases hApplied with
  | ignored => rfl
  | join id team spawnIndex hGoing hFree =>
    refine Function.update_of_ne (fun hEq => ?_) _ _
    rw [← hEq, hActive] at hFree
    cases hFree
  | leave id hGoing =>
    refine Function.update_of_ne (fun hEq => ?_) _ _
    exact hStay ⟨hGoing, by rw [hEq]; exact List.mem_singleton_self _⟩
  | input id seq input =>
    by_cases hv : v = id
    · subst hv
      exact (Function.update_self ..).trans (acceptInput_dead hDead seq input)
    · exact Function.update_of_ne hv ..

theorem applyCommand_origin {s : Sim} {v : Fin kMaxPlayers} {cmd : InboundCommand}
    (hActive : ((s.applyCommand cmd).players v).active = true) (hDead : ((s.applyCommand cmd).players v).alive = false) :
    (s.applyCommand cmd).players v = s.players v ∧ ¬ s.Leaves v [cmd] := by
  refine ⟨?_, ?_⟩
  · have hApplied := applyCommand_applied s cmd
    generalize s.applyCommand cmd = s' at hApplied hActive hDead ⊢
    cases hApplied with
    | ignored => rfl
    | join id team spawnIndex hGoing hFree =>
      by_cases hv : v = id
      · subst hv
        simp only [Function.update_self] at hDead
        cases hDead
      · exact Function.update_of_ne hv ..
    | leave id hGoing =>
      by_cases hv : v = id
      · subst hv
        simp only [Function.update_self] at hActive
        cases hActive
      · exact Function.update_of_ne hv ..
    | input id seq input =>
      by_cases hv : v = id
      · subst hv
        simp only [Function.update_self, (acceptInput_sameLife _ seq input).alive] at hDead
        exact (Function.update_self ..).trans (acceptInput_dead hDead seq input)
      · exact Function.update_of_ne hv ..
  · rintro ⟨hGoing, hLeft⟩
    rw [← List.mem_singleton.mp hLeft, applyCommand_left hGoing] at hActive
    cases hActive

theorem leaves_cons {s : Sim} {v : Fin kMaxPlayers} {cmd : InboundCommand} {cmds : List InboundCommand} :
    s.Leaves v (cmd :: cmds) ↔ s.Leaves v [cmd] ∨ (s.applyCommand cmd).Leaves v cmds := by
  simp only [Leaves, applyCommand_matchOver, List.mem_cons, List.not_mem_nil, or_false, and_or_left]

theorem drainInbound_dead {v : Fin kMaxPlayers} (cmds : List InboundCommand) {s : Sim}
    (hActive : (s.players v).active = true) (hDead : (s.players v).alive = false) (hStay : ¬ s.Leaves v cmds) :
    (s.drainInbound cmds).players v = s.players v := by
  induction cmds generalizing s with
  | nil => rfl
  | cons cmd cmds ih =>
    rw [leaves_cons, not_or] at hStay
    have hSame := applyCommand_dead hActive hDead hStay.1
    rw [drainInbound_cons, ih (by rw [hSame]; exact hActive) (by rw [hSame]; exact hDead) hStay.2, hSame]

theorem drainInbound_origin {v : Fin kMaxPlayers} (cmds : List InboundCommand) {s : Sim}
    (hActive : ((s.drainInbound cmds).players v).active = true)
    (hDead : ((s.drainInbound cmds).players v).alive = false) :
    (s.drainInbound cmds).players v = s.players v ∧ ¬ s.Leaves v cmds := by
  induction cmds generalizing s with
  | nil => exact ⟨rfl, fun h => nomatch h.2⟩
  | cons cmd cmds ih =>
    rw [drainInbound_cons] at hActive hDead ⊢
    obtain ⟨hSame, hStay⟩ := ih hActive hDead
    rw [hSame] at hActive hDead ⊢
    obtain ⟨hOld, hNot⟩ := applyCommand_origin hActive hDead
    exact ⟨hOld, by rw [leaves_cons, not_or]; exact ⟨hNot, hStay⟩⟩

theorem popMove_player (s : Sim) (v : Fin kMaxPlayers) :
    (s.popInputs.movePlayers.players v).active = (s.players v).active ∧
      (s.popInputs.movePlayers.players v).alive = (s.players v).alive ∧
      ((s.players v).alive = false → s.popInputs.movePlayers.players v = s.players v) := by
  have hPopped : SameLife (s.players v) (s.popInputs.players v) ∧
      ((s.players v).alive = false → s.popInputs.players v = s.players v) := by
    rw [popInputs_eq]
    simp only
    split
    · exact ⟨popped_sameLife _, popped_dead⟩
    · exact ⟨⟨rfl, rfl, rfl, rfl⟩, fun _ => rfl⟩
  obtain ⟨hSame, hKept⟩ := hPopped
  rw [movePlayers_eq]
  simp only
  split
  · rename_i hLive
    refine ⟨hSame.active, hSame.alive, fun hDead => ?_⟩
    rw [hSame.alive, hDead] at hLive
    exact absurd hLive.2 (by decide)
  · exact ⟨hSame.active, hSame.alive, hKept⟩

theorem movedBy_dead {s : Sim} {v : Fin kMaxPlayers} {cmds : List InboundCommand}
    (hActive : (s.players v).active = true) (hDead : (s.players v).alive = false) (hStay : ¬ s.Leaves v cmds) :
    (s.movedBy cmds).players v = s.players v := by
  have hDrained := drainInbound_dead cmds hActive hDead hStay
  have hKept := (popMove_player (s.drainInbound cmds) v).2.2
  rw [hDrained] at hKept
  exact hKept hDead

theorem movedBy_origin {s : Sim} {v : Fin kMaxPlayers} {cmds : List InboundCommand}
    (hActive : ((s.movedBy cmds).players v).active = true) (hDead : ((s.movedBy cmds).players v).alive = false) :
    (s.movedBy cmds).players v = s.players v ∧ ¬ s.Leaves v cmds := by
  obtain ⟨hSameActive, hSameAlive, hKept⟩ := popMove_player (s.drainInbound cmds) v
  rw [movedBy, hSameActive] at hActive
  rw [movedBy, hSameAlive] at hDead
  obtain ⟨hOld, hStay⟩ := drainInbound_origin cmds hActive hDead
  exact ⟨(hKept hDead).trans hOld, hStay⟩

theorem movedBy_outbound (s : Sim) (cmds : List InboundCommand) : (s.movedBy cmds).outbound = s.outbound := by
  have hDrained : (s.drainInbound cmds).outbound = s.outbound := by
    refine drainInbound_invariant (I := fun s' => s'.outbound = s.outbound) ?_ s cmds rfl
    intro s₁ cmd s₂ hApplied h
    cases hApplied with
    | ignored => exact h
    | join => exact h
    | leave id =>
      simp only [leaveDrop]
      split <;> exact h
    | input => exact h
  rw [movedBy, movePlayers_eq, popInputs_eq]
  exact hDrained

/-- A player killed in combat, after the respawn loop of that tick. -/
structure Fallen (p q : Player) : Prop where
  body : SameBody p q
  alive : q.alive = false
  health : q.health = 0
  respawnTimer : q.respawnTimer = kRespawnDelayTicks - 1

/-- The record of a dead player `n` ticks later. -/
def waited (p : Player) (n : Int) : Player := { p with respawnTimer := p.respawnTimer - n }

theorem waited_zero (p : Player) : waited p 0 = p := by
  rw [waited, Int.sub_zero]

theorem waited_waited (p : Player) (m n : Int) : waited (waited p m) n = waited p (m + n) := by
  simp only [waited, Int.sub_sub]

/-- The record of a player whose timer has run out. -/
def risen (p : Player) : Player :=
  { p with
    respawnTimer := p.respawnTimer - 1
    alive := true
    health := kMaxHealth
    position := spawnPoint p.team p.spawnIndex }

def risenEvent (v : Fin kMaxPlayers) (p : Player) (tick : U32) : OutboundEvent :=
  .playerRespawned { playerId := idByte v, position := spawnPoint p.team p.spawnIndex, tick }

/-- What becomes of slot `v` with record `p` in the phases from combat on: its new record, and what is pushed about
it. -/
inductive Fate (v : Fin kMaxPlayers) (tick : U32) (p : Player) : Player → List OutboundEvent → Prop where
  | absent (hAbsent : p.active = false) : Fate v tick p p []
  | lives {q : Player} {acts : List OutboundEvent} (hLive : p.active = true ∧ p.alive = true)
      (hAlive : q.alive = true) (hHealth : Sound q.health) (hActs : ∀ ev ∈ acts, IsAct ev) : Fate v tick p q acts
  | falls {q : Player} {shots : List OutboundEvent} {msg : MsgPlayerKilled} (hLive : p.active = true ∧ p.alive = true)
      (hFallen : Fallen p q) (hShots : ∀ ev ∈ shots, ev.message = some .shotFired) (hVictim : msg.victimId = idByte v)
      (hTick : msg.tick = tick) : Fate v tick p q (shots ++ [.playerKilled msg])
  | waits (hActive : p.active = true) (hDead : p.alive = false) (hTimer : 1 < p.respawnTimer) :
      Fate v tick p (waited p 1) []
  | rises (hActive : p.active = true) (hDead : p.alive = false) (hTimer : p.respawnTimer ≤ 1) :
      Fate v tick p (risen p) [risenEvent v p tick]

theorem finish_player (rayDir : RayDir) (s : Sim) (v : Fin kMaxPlayers) :
    (s.finish rayDir).players v = respawned ((s.combat rayDir).touchPhase.players v) := by
  simp only [finish_eq, publish_players, settled, flagsPhase_eq, winCheck_players, respawnPhase_players]

theorem winCheck_eventsOf (s : Sim) (v : Fin kMaxPlayers) : s.winCheck.eventsOf v = s.eventsOf v := by
  simp only [winCheck]
  split
  · rfl
  · split
    · refine eventsOf_other rfl ?_
      rw [OutboundEvent.subject_matchEnd]
      rintro ⟨⟩
    · rfl

theorem publish_eventsOf (s : Sim) (v : Fin kMaxPlayers) : s.publish.eventsOf v = s.eventsOf v := by
  cases hDue : s.publishDue with
  | true =>
    rw [publish_due s hDue]
    refine eventsOf_other (s := s) rfl ?_
    rw [OutboundEvent.subject_of_snapshot (toPublish_isSnapshot s)]
    rintro ⟨⟩
  | false =>
    rw [publish_not_due s hDue]
    rfl

theorem touch_currentTick (rayDir : RayDir) (s : Sim) : (s.combat rayDir).touchPhase.currentTick = s.currentTick :=
  ((Frame.combats (combat_changes rayDir s)).trans (Frame.touches (touchPhase_changes _))).publisher.currentTick

theorem finish_eventsOf (rayDir : RayDir) (s : Sim) (v : Fin kMaxPlayers) :
    (s.finish rayDir).eventsOf v = (s.combat rayDir).touchPhase.eventsOf v ++
      respawnEvents v ((s.combat rayDir).touchPhase.players v) s.currentTick := by
  have hPublished : (s.finish rayDir).eventsOf v = (s.settled rayDir).publish.eventsOf v := by
    rw [finish_eq]
    generalize s.settled rayDir = settled
    rfl
  rw [hPublished, publish_eventsOf, settled, winCheck_eventsOf, flagsPhase_eq, respawnPhase_eventsOf, touch_currentTick]

theorem respawned_alive {p : Player} (hAlive : p.alive = true) : respawned p = p := by
  rw [respawned, hAlive, Bool.or_true, if_pos rfl]

theorem respawned_absent {p : Player} (hAbsent : p.active = false) : respawned p = p := by
  rw [respawned, hAbsent]
  rfl

theorem respawned_dead {p : Player} (hActive : p.active = true) (hDead : p.alive = false) :
    respawned p = if p.respawnTimer ≤ 1 then risen p else waited p 1 := by
  have hWaits : ¬ (!p.active || p.alive) = true := by
    rw [hActive, hDead]
    decide
  have hIff : p.respawnTimer - 1 ≤ 0 ↔ p.respawnTimer ≤ 1 := by omega
  rw [respawned, if_neg hWaits]
  simp only [hIff, risen, waited]

theorem finish_fate_of_silent (rayDir : RayDir) {s : Sim} {v : Fin kMaxPlayers} (hDead : ¬ s.Living v) :
    ∃ events, (s.finish rayDir).eventsOf v = s.eventsOf v ++ events ∧
      Fate v s.currentTick (s.players v) ((s.finish rayDir).players v) events := by
  have hCombat := combat_silent rayDir hDead
  have hSilent : Silent v s (s.combat rayDir).touchPhase := by
    refine hCombat.trans (touchPhase_silent ?_)
    rw [Living, hCombat.1]
    exact hDead
  rw [finish_player, finish_eventsOf, hSilent.1, hSilent.2]
  refine ⟨_, rfl, ?_⟩
  rw [Living] at hDead
  generalize s.players v = p at hDead
  by_cases hActive : p.active = true
  · have hNotAlive : p.alive = false := Bool.eq_false_iff.mpr fun hAlive => hDead ⟨hActive, hAlive⟩
    rw [respawned_dead hActive hNotAlive, respawnEvents]
    by_cases hTimer : p.respawnTimer ≤ 1
    · rw [if_pos hTimer, if_pos ⟨hActive, hNotAlive, hTimer⟩]
      exact .rises hActive hNotAlive hTimer
    · rw [if_neg hTimer, if_neg (fun h => hTimer h.2.2)]
      exact .waits hActive hNotAlive (by omega)
  · have hAbsent := Bool.eq_false_iff.mpr hActive
    rw [respawned_absent hAbsent, respawnEvents, if_neg (fun h => hActive h.1)]
    exact .absent hAbsent

theorem finish_fate_of_living (rayDir : RayDir) {s : Sim} {v : Fin kMaxPlayers} (hLive : s.Living v)
    (hSound : Sound (s.players v).health) :
    ∃ events, (s.finish rayDir).eventsOf v = s.eventsOf v ++ events ∧
      Fate v s.currentTick (s.players v) ((s.finish rayDir).players v) events := by
  rw [finish_player, finish_eventsOf]
  cases combat_fighting rayDir hLive hSound with
  | fights hStill hHealth hBody shots hEvents hShots =>
    obtain ⟨-, hAlive, hSame, acts, hActs, hAll⟩ := touchPhase_livesOn v (s.combat rayDir)
    rw [hStill.2] at hAlive
    rw [respawned_alive hAlive, respawnEvents, if_neg (by rw [hAlive]; exact fun h => Bool.noConfusion h.2.1), hActs, hEvents,
      List.append_nil, List.append_assoc]
    refine ⟨shots ++ acts, rfl, .lives hLive hAlive (by rw [hSame]; exact hHealth) ?_⟩
    intro ev hMem
    rcases List.mem_append.mp hMem with hShot | hAct
    · exact Or.inl (hShots ev hShot)
    · exact hAll ev hAct
  | fallen hDead hHealth hTimer hBody shots msg hEvents hShots hMsg =>
    have hSilent : Silent v (s.combat rayDir) (s.combat rayDir).touchPhase := by
      refine touchPhase_silent ?_
      rw [Living, hDead]
      exact fun h => Bool.noConfusion h.2
    rw [hSilent.1, hSilent.2, hEvents]
    generalize (s.combat rayDir).players v = q at hDead hHealth hTimer hBody
    have hActive : q.active = true := hBody.active.trans hLive.1
    have hLong : ¬ q.respawnTimer ≤ 1 := by
      rw [hTimer]
      decide
    rw [respawned_dead hActive hDead, if_neg hLong, respawnEvents, if_neg (fun h => hLong h.2.2), List.append_nil]
    refine ⟨_, rfl, .falls hLive ⟨?_, hDead, hHealth, ?_⟩ hShots hMsg.1 hMsg.2⟩
    · exact ⟨hBody.active, hBody.team, hBody.spawnIndex, hBody.position⟩
    · exact congrArg (· - 1) hTimer

/-- The events that a tick pushes about slot `v`, oldest first. -/
def happened (rayDir : RayDir) (s : Sim) (cmds : List InboundCommand) (v : Fin kMaxPlayers) : List OutboundEvent :=
  ((s.tick rayDir cmds).outbound.drop s.outbound.length).filter fun ev => ev.subject = some (idByte v)

theorem happened_eq {rayDir : RayDir} {s : Sim} {cmds : List InboundCommand} {v : Fin kMaxPlayers}
    {events : List OutboundEvent} (h : (s.tick rayDir cmds).eventsOf v = s.eventsOf v ++ events) :
    s.happened rayDir cmds v = events := tick_pushed h

theorem tick_fate (rayDir : RayDir) {s : Sim} (hLife : AllLife s) (cmds : List InboundCommand) (v : Fin kMaxPlayers) :
    Fate v s.currentTick ((s.movedBy cmds).players v) ((s.tick rayDir cmds).players v) (s.happened rayDir cmds v) := by
  have hFate : ∃ events, ((s.movedBy cmds).finish rayDir).eventsOf v = (s.movedBy cmds).eventsOf v ++ events ∧
      Fate v (s.movedBy cmds).currentTick ((s.movedBy cmds).players v) (((s.movedBy cmds).finish rayDir).players v)
        events := by
    by_cases hLive : (s.movedBy cmds).Living v
    · refine finish_fate_of_living rayDir hLive ?_
      rcases hLife.movedBy cmds v hLive.1 with hSound | hDead
      · exact hSound.2
      · rw [Living, hDead.1] at hLive
        exact Bool.noConfusion hLive.2
    · exact finish_fate_of_silent rayDir hLive
  have hTick : s.tick rayDir cmds = (s.movedBy cmds).finish rayDir := by
    rw [tick_eq_finish, movedBy]
  rw [← hTick, (movedBy_frame s cmds).1, eventsOf_congr (movedBy_outbound s cmds)] at hFate
  obtain ⟨events, hEvents, hFate⟩ := hFate
  rw [happened_eq hEvents]
  exact hFate

theorem Fate.life {v : Fin kMaxPlayers} {tick : U32} {p q : Player} {events : List OutboundEvent}
    (h : Fate v tick p q events) (hLife : p.active = true → Life p) (hActive : q.active = true) : Life q := by
  cases h with
  | absent => exact hLife hActive
  | lives hLive hAlive hHealth => exact Or.inl ⟨hAlive, hHealth⟩
  | falls hLive hFallen =>
    refine Or.inr ⟨hFallen.alive, hFallen.health, ?_⟩
    rw [hFallen.respawnTimer]
    decide
  | waits _ hDead hTimer =>
    rcases hLife hActive with hAlive | ⟨-, hHealth, -, hMax⟩
    · rw [hDead] at hAlive
      exact Bool.noConfusion hAlive.1
    · refine Or.inr ⟨hDead, hHealth, ?_⟩
      simp only [waited]
      omega
  | rises => exact Or.inl ⟨rfl, Or.inl rfl⟩

theorem AllLife.tick (rayDir : RayDir) {s : Sim} (h : AllLife s) (cmds : List InboundCommand) :
    AllLife (s.tick rayDir cmds) :=
  fun v => (tick_fate rayDir h cmds v).life (h.movedBy cmds v)

theorem allLife_run (rayDir : RayDir) (tickHz snapshotHz : Int) (delta : Bool) (ticks : List (List InboundCommand)) :
    AllLife ((configured tickHz snapshotHz delta).run rayDir ticks) := by
  have hStart : AllLife (configured tickHz snapshotHz delta) := fun v hActive => by cases hActive
  exact Chain.foldl_invariant (I := AllLife) (fun _ cmds h => h.tick rayDir cmds) ticks _ hStart

theorem tick_dead (rayDir : RayDir) {s : Sim} (hLife : AllLife s) {cmds : List InboundCommand} {v : Fin kMaxPlayers}
    (hActive : (s.players v).active = true) (hDead : (s.players v).alive = false) (hStay : ¬ s.Leaves v cmds) :
    if (s.players v).respawnTimer ≤ 1 then
      (s.tick rayDir cmds).players v = risen (s.players v) ∧
        s.happened rayDir cmds v = [risenEvent v (s.players v) s.currentTick]
    else
      (s.tick rayDir cmds).players v = waited (s.players v) 1 ∧ s.happened rayDir cmds v = [] := by
  have hFate := tick_fate rayDir hLife cmds v
  rw [movedBy_dead hActive hDead hStay] at hFate
  generalize (s.tick rayDir cmds).players v = q at hFate ⊢
  generalize s.happened rayDir cmds v = events at hFate ⊢
  cases hFate with
  | absent hAbsent =>
    rw [hAbsent] at hActive
    cases hActive
  | lives hLive =>
    rw [hDead] at hLive
    exact Bool.noConfusion hLive.2
  | falls hLive =>
    rw [hDead] at hLive
    exact Bool.noConfusion hLive.2
  | waits _ _ hTimer =>
    rw [if_neg (by omega)]
    exact ⟨rfl, rfl⟩
  | rises _ _ hTimer =>
    rw [if_pos hTimer]
    exact ⟨rfl, rfl⟩

def Remains (rayDir : RayDir) (v : Fin kMaxPlayers) : Sim → List (List InboundCommand) → Prop
  | _, [] => True
  | s, cmds :: ticks => ¬ s.Leaves v cmds ∧ Remains rayDir v (s.tick rayDir cmds) ticks

theorem remains_snoc {rayDir : RayDir} {v : Fin kMaxPlayers} (ticks : List (List InboundCommand)) {s : Sim}
    {cmds : List InboundCommand} :
    Remains rayDir v s (ticks ++ [cmds]) ↔ Remains rayDir v s ticks ∧ ¬ (s.run rayDir ticks).Leaves v cmds := by
  induction ticks generalizing s with
  | nil => simp [Remains, run]
  | cons head ticks ih => rw [List.cons_append, Remains, Remains, ih, run_cons, and_assoc]

theorem AllLife.run (rayDir : RayDir) {s : Sim} (h : AllLife s) (ticks : List (List InboundCommand)) :
    AllLife (s.run rayDir ticks) :=
  Chain.foldl_invariant (I := AllLife) (fun _ cmds h => h.tick rayDir cmds) ticks s h

/-- While the timer of a dead player runs, nothing else of its record changes. -/
theorem run_waits (rayDir : RayDir) {s : Sim} (hLife : AllLife s) {v : Fin kMaxPlayers}
    (hActive : (s.players v).active = true) (hDead : (s.players v).alive = false)
    (ticks : List (List InboundCommand)) (hRemains : Remains rayDir v s ticks)
    (hShort : (ticks.length : Int) < (s.players v).respawnTimer) :
    (s.run rayDir ticks).players v = waited (s.players v) ticks.length := by
  induction ticks using List.reverseRecOn with
  | nil => exact (waited_zero _).symm
  | append_singleton ticks cmds ih =>
    obtain ⟨hBefore, hStay⟩ := (remains_snoc ticks).mp hRemains
    rw [List.length_append, List.length_singleton] at hShort ⊢
    have hSoFar := ih hBefore (by omega)
    rw [run_snoc]
    generalize hs' : s.run rayDir ticks = s' at hSoFar hStay
    have hLife' : AllLife s' := hs' ▸ hLife.run rayDir ticks
    have hTick := tick_dead rayDir hLife' (by rw [hSoFar]; exact hActive) (by rw [hSoFar]; exact hDead) hStay
    rw [hSoFar, if_neg (by simp only [waited]; omega)] at hTick
    rw [hTick.1, waited_waited]
    rfl

/-- Every dead player was killed as many ticks ago as its timer has counted, and has not left since. -/
theorem killed_before (rayDir : RayDir) (tickHz snapshotHz : Int) (delta : Bool) (ticks : List (List InboundCommand))
    {v : Fin kMaxPlayers} (hActive : (((configured tickHz snapshotHz delta).run rayDir ticks).players v).active = true)
    (hDead : (((configured tickHz snapshotHz delta).run rayDir ticks).players v).alive = false) :
    ∃ earlier kill meanwhile msg, ticks = earlier ++ kill :: meanwhile ∧
      .playerKilled msg ∈ ((configured tickHz snapshotHz delta).run rayDir earlier).happened rayDir kill v ∧
      Remains rayDir v ((configured tickHz snapshotHz delta).run rayDir (earlier ++ [kill])) meanwhile ∧
      (meanwhile.length : Int) =
        kRespawnDelayTicks - 1 - (((configured tickHz snapshotHz delta).run rayDir ticks).players v).respawnTimer := by
  induction ticks using List.reverseRecOn with
  | nil => cases hActive
  | append_singleton ticks cmds ih =>
    rw [run_snoc] at hActive hDead ⊢
    have hFate := tick_fate rayDir (allLife_run rayDir tickHz snapshotHz delta ticks) cmds v
    generalize hEvents : ((configured tickHz snapshotHz delta).run rayDir ticks).happened rayDir cmds v = events at hFate
    generalize (((configured tickHz snapshotHz delta).run rayDir ticks).tick rayDir cmds).players v = q
      at hFate hActive hDead ⊢
    cases hFate with
    | absent hAbsent =>
      rw [hAbsent] at hActive
      cases hActive
    | lives _ hAlive =>
      rw [hAlive] at hDead
      cases hDead
    | @falls _ shots msg _ hFallen =>
      refine ⟨ticks, cmds, [], msg, rfl, ?_, trivial, ?_⟩
      · rw [hEvents]
        exact List.mem_append_right _ (List.mem_singleton_self _)
      · rw [hFallen.respawnTimer]
        rfl
    | waits hWas hWasDead =>
      obtain ⟨hSame, hStay⟩ := movedBy_origin hWas hWasDead
      rw [hSame] at hWas hWasDead ⊢
      obtain ⟨earlier, kill, meanwhile, msg, hTicks, hKill, hRemains, hLength⟩ := ih hWas hWasDead
      refine ⟨earlier, kill, meanwhile ++ [cmds], msg, ?_, hKill, ?_, ?_⟩
      · rw [hTicks, List.append_assoc, List.cons_append]
      · rw [remains_snoc]
        refine ⟨hRemains, ?_⟩
        rw [← run_append, List.append_assoc, List.singleton_append, ← hTicks]
        exact hStay
      · rw [List.length_append, List.length_singleton]
        simp only [waited]
        omega
    | rises => cases hDead

theorem message_playerKilled (msg : MsgPlayerKilled) : (OutboundEvent.playerKilled msg).message = some .playerKilled :=
  OutboundEvent.message_serEvent _ (Or.inl rfl) _ _

theorem message_playerRespawned (msg : MsgPlayerRespawned) :
    (OutboundEvent.playerRespawned msg).message = some .playerRespawned :=
  OutboundEvent.message_serEvent _ (Or.inl rfl) _ _

theorem IsAct.not_killed {ev : OutboundEvent} (h : IsAct ev) : ev.message ≠ some .playerKilled := by
  rcases h with h | h | h | h <;> rw [h] <;> decide

theorem IsAct.not_respawned {ev : OutboundEvent} (h : IsAct ev) : ev.message ≠ some .playerRespawned := by
  rcases h with h | h | h | h <;> rw [h] <;> decide

theorem Fate.killed {v : Fin kMaxPlayers} {tick : U32} {p q : Player} {events : List OutboundEvent}
    (h : Fate v tick p q events) {ev : OutboundEvent} (hMem : ev ∈ events)
    (hKilled : ev.message = some .playerKilled) :
    ∃ shots msg, ev = .playerKilled msg ∧ msg.victimId = idByte v ∧ msg.tick = tick ∧ events = shots ++ [ev] ∧
      (∀ shot ∈ shots, shot.message = some .shotFired) ∧ p.active = true ∧ Fallen p q := by
  cases h with
  | absent => cases hMem
  | lives _ _ _ hActs => exact absurd hKilled (hActs ev hMem).not_killed
  | @falls _ shots msg hLive hFallen hShots hVictim hTick =>
    rcases List.mem_append.mp hMem with hShot | hLast
    · rw [hShots ev hShot] at hKilled
      cases hKilled
    · rw [List.mem_singleton.mp hLast]
      exact ⟨shots, msg, rfl, hVictim, hTick, rfl, hShots, hLive.1, hFallen⟩
  | waits => cases hMem
  | rises =>
    rw [List.mem_singleton.mp hMem, risenEvent, message_playerRespawned] at hKilled
    cases hKilled

theorem Fate.respawned {v : Fin kMaxPlayers} {tick : U32} {p q : Player} {events : List OutboundEvent}
    (h : Fate v tick p q events) {ev : OutboundEvent} (hMem : ev ∈ events)
    (hRespawned : ev.message = some .playerRespawned) :
    p.active = true ∧ p.alive = false ∧ p.respawnTimer ≤ 1 := by
  cases h with
  | absent => cases hMem
  | lives _ _ _ hActs => exact absurd hRespawned (hActs ev hMem).not_respawned
  | falls _ _ hShots =>
    rcases List.mem_append.mp hMem with hShot | hLast
    · rw [hShots ev hShot] at hRespawned
      cases hRespawned
    · rw [List.mem_singleton.mp hLast, message_playerKilled] at hRespawned
      cases hRespawned
  | waits => cases hMem
  | rises hActive hDead hTimer => exact ⟨hActive, hDead, hTimer⟩

/-- From a state in which slot `v` is dead with record `p`: as long as it remains, nothing is heard of it and only its
timer changes, up to the last tick of the delay, in which it respawns. -/
def AwaitsRespawn (rayDir : RayDir) (v : Fin kMaxPlayers) (s : Sim) (due : U32) : Prop :=
  let p := s.players v
  ∀ meanwhile cmds, Remains rayDir v s (meanwhile ++ [cmds]) →
    let now := s.run rayDir meanwhile
    ((meanwhile.length : Int) + 1 < kRespawnDelayTicks - 1 →
      now.happened rayDir cmds v = [] ∧ (now.tick rayDir cmds).players v = waited p (meanwhile.length + 1)) ∧
    ((meanwhile.length : Int) + 1 = kRespawnDelayTicks - 1 →
      now.happened rayDir cmds v =
        [.playerRespawned { playerId := idByte v, position := spawnPoint p.team p.spawnIndex, tick := due }] ∧
      ((now.tick rayDir cmds).players v).alive = true ∧ ((now.tick rayDir cmds).players v).health = kMaxHealth ∧
      ((now.tick rayDir cmds).players v).position = spawnPoint p.team p.spawnIndex)

theorem run_tick_dead (rayDir : RayDir) {s : Sim} (hLife : AllLife s) {v : Fin kMaxPlayers}
    (hActive : (s.players v).active = true) (hDead : (s.players v).alive = false)
    {meanwhile : List (List InboundCommand)} {cmds : List InboundCommand}
    (hRemains : Remains rayDir v s (meanwhile ++ [cmds]))
    (hShort : (meanwhile.length : Int) < (s.players v).respawnTimer) :
    if (s.players v).respawnTimer - meanwhile.length ≤ 1 then
      ((s.run rayDir meanwhile).tick rayDir cmds).players v = risen (waited (s.players v) meanwhile.length) ∧
        (s.run rayDir meanwhile).happened rayDir cmds v =
          [risenEvent v (waited (s.players v) meanwhile.length) (s.currentTick + BitVec.ofNat 32 meanwhile.length)]
    else
      ((s.run rayDir meanwhile).tick rayDir cmds).players v = waited (s.players v) (meanwhile.length + 1) ∧
        (s.run rayDir meanwhile).happened rayDir cmds v = [] := by
  obtain ⟨hBefore, hStay⟩ := (remains_snoc meanwhile).mp hRemains
  have hNow := run_waits rayDir hLife hActive hDead meanwhile hBefore hShort
  have hTick := run_currentTick_from rayDir s meanwhile
  have hLater := hLife.run rayDir meanwhile
  generalize s.run rayDir meanwhile = now at hStay hNow hTick hLater ⊢
  have hDies := tick_dead rayDir hLater (by rw [hNow]; exact hActive) (by rw [hNow]; exact hDead) hStay
  rw [hNow, waited_waited, hTick] at hDies
  exact hDies

theorem awaitsRespawn_of_dead (rayDir : RayDir) {s : Sim} (hLife : AllLife s) {v : Fin kMaxPlayers}
    (hActive : (s.players v).active = true) (hDead : (s.players v).alive = false)
    (hTimer : (s.players v).respawnTimer = kRespawnDelayTicks - 1) :
    AwaitsRespawn rayDir v s (s.currentTick + BitVec.ofInt 32 (kRespawnDelayTicks - 2)) := by
  intro meanwhile cmds hRemains
  have hTurn := run_tick_dead rayDir hLife hActive hDead hRemains
  rw [hTimer] at hTurn
  simp only [kRespawnDelayTicks] at hTurn ⊢
  refine ⟨fun hEarly => ?_, fun hLast => ?_⟩
  · have hWaits := hTurn (by omega)
    rw [if_neg (by omega)] at hWaits
    exact ⟨hWaits.2, hWaits.1⟩
  · have hRises := hTurn (by omega)
    have hLength : meanwhile.length = 88 := by omega
    rw [if_pos (by omega), hLength] at hRises
    rw [hRises.1, hRises.2]
    exact ⟨rfl, rfl, rfl, rfl⟩

/-- The death of slot `v` in a tick, and what follows it. -/
def Dies (rayDir : RayDir) (v : Fin kMaxPlayers) (s : Sim) (kill : List InboundCommand) (ev : OutboundEvent) : Prop :=
  ∃ shots msg, ev = .playerKilled msg ∧ msg.victimId = idByte v ∧ msg.tick = s.currentTick ∧
    s.happened rayDir kill v = shots ++ [ev] ∧ (∀ shot ∈ shots, shot.message = some .shotFired) ∧
    ((s.tick rayDir kill).players v).position = ((s.movedBy kill).players v).position ∧
    ((s.tick rayDir kill).players v).alive = false ∧
    AwaitsRespawn rayDir v (s.tick rayDir kill) (msg.tick + BitVec.ofInt 32 (kRespawnDelayTicks - 1))

theorem dies_of_killed (rayDir : RayDir) {s : Sim} (hLife : AllLife s) {v : Fin kMaxPlayers}
    {kill : List InboundCommand} {ev : OutboundEvent} (hMem : ev ∈ s.happened rayDir kill v)
    (hKilled : ev.message = some .playerKilled) : Dies rayDir v s kill ev := by
  obtain ⟨shots, msg, hEv, hVictim, hTick, hEvents, hShots, hActive, hFallen⟩ :=
    (tick_fate rayDir hLife kill v).killed hMem hKilled
  refine ⟨shots, msg, hEv, hVictim, hTick, hEvents, hShots, hFallen.body.position, hFallen.alive, ?_⟩
  have hAwaits := awaitsRespawn_of_dead rayDir (hLife.tick rayDir kill) (hFallen.body.active.trans hActive)
    hFallen.alive hFallen.respawnTimer
  have hDue : (s.tick rayDir kill).currentTick + BitVec.ofInt 32 (kRespawnDelayTicks - 2) =
      msg.tick + BitVec.ofInt 32 (kRespawnDelayTicks - 1) := by
    rw [tick_currentTick, hTick, BitVec.add_assoc]
    rfl
  rw [← hDue]
  exact hAwaits

/-- A kill or a respawn names a slot. -/
def NamesSlot (ev : OutboundEvent) : Prop :=
  ev.message = some .playerKilled ∨ ev.message = some .playerRespawned →
    ∃ v : Fin kMaxPlayers, ev.subject = some (idByte v)

theorem NamesSlot.other {ev : OutboundEvent} {message : Option MessageType} (hMessage : ev.message = message)
    (hKilled : message ≠ some .playerKilled) (hRespawned : message ≠ some .playerRespawned) : NamesSlot ev := by
  rintro (h | h)
  · exact absurd (hMessage.symm.trans h) hKilled
  · exact absurd (hMessage.symm.trans h) hRespawned

def AllNamed (s : Sim) : Prop := ∀ ev ∈ s.outbound, NamesSlot ev

theorem AllNamed.push {s s' : Sim} (h : AllNamed s) {ev : OutboundEvent} (hEv : NamesSlot ev)
    (hOut : s'.outbound = s.outbound ++ [ev]) : AllNamed s' := by
  intro ev' hMem
  rw [hOut] at hMem
  rcases List.mem_append.mp hMem with hOld | hNew
  · exact h ev' hOld
  · rw [List.mem_singleton.mp hNew]
    exact hEv

theorem AllNamed.game {s s' : Sim} (h : AllNamed s) {type : OutboundEventType}
    (hGame : type = .tcpBroadcast ∨ type = .udpEvent) {message : MessageType} {body : EventBody}
    (hKilled : message ≠ .playerKilled) (hRespawned : message ≠ .playerRespawned)
    (hOut : s'.outbound = s.outbound ++ [serEvent type message body]) : AllNamed s' := by
  refine h.push (NamesSlot.other (OutboundEvent.message_serEvent type hGame message body) ?_ ?_) hOut
  · exact fun hSame => hKilled (Option.some.inj hSame)
  · exact fun hSame => hRespawned (Option.some.inj hSame)

theorem allNamed_preserved : Preserved AllNamed where
  command s cmd s' hApplied h := by
    cases hApplied with
    | ignored => exact h
    | join => exact h
    | leave id =>
      simp only [leaveDrop]
      split <;> exact h
    | input => exact h
  pop s h := by
    rw [popInputs_eq]
    exact h
  move s h := by
    rw [movePlayers_eq]
    exact h
  combat s s' hChange h := by
    cases hChange with
    | cool => exact h
    | shoot id msg => exact h.game (Or.inr rfl) (by decide) (by decide) rfl
    | wound => exact h
    | kill id msg hLive hFree hMsg =>
      refine h.push (fun _ => ⟨id, ?_⟩) rfl
      rw [OutboundEvent.subject_playerKilled, hMsg.1]
    | killCarrier id drop msg hDrops hLive hCarries hMsg =>
      have hDropped : AllNamed (s.push (.flagDropped drop)) := h.game (Or.inl rfl) (by decide) (by decide) rfl
      refine hDropped.push (fun _ => ⟨id, ?_⟩) rfl
      rw [OutboundEvent.subject_playerKilled, hMsg.1]
  flags s s' hChange h := by
    cases hChange with
    | follow => exact h
    | flagReturn => exact h.game (Or.inl rfl) (by decide) (by decide) rfl
    | pickUp => exact h.game (Or.inl rfl) (by decide) (by decide) rfl
    | capture => exact h.game (Or.inl rfl) (by decide) (by decide) rfl
  respawn s s' hChange h := by
    cases hChange with
    | countDown => exact h
    | respawn id msg hActive hDead hDue hMsg =>
      refine h.push (fun _ => ⟨id, ?_⟩) rfl
      rw [OutboundEvent.subject_playerRespawned, hMsg]
  win s h := by
    simp only [winCheck]
    split
    · exact h
    · split
      · exact h.game (Or.inl rfl) (by decide) (by decide) rfl
      · exact h
  publish s h := by
    cases hDue : s.publishDue with
    | true =>
      rw [publish_due s hDue]
      refine @AllNamed.push s _ h s.toPublish.event ?_ rfl
      exact NamesSlot.other (OutboundEvent.message_of_snapshot (toPublish_isSnapshot s)) (by decide) (by decide)
    | false =>
      rw [publish_not_due s hDue]
      exact h
  clock s t h := h

/-- At the end of a tick a player is alive with some health or waits to respawn; a kill is followed by nothing about
the victim but its respawn, `kRespawnDelayTicks - 1` ticks later; and every respawn follows such a kill. -/
theorem lifecycle (rayDir : RayDir) (tickHz snapshotHz : Int) (delta : Bool) (v : Fin kMaxPlayers) :
    let start := configured tickHz snapshotHz delta
    (∀ ticks, let p := (start.run rayDir ticks).players v
      p.active = true →
        (p.alive = true ∧ p.health ∈ [100, 66, 32]) ∨
        (p.alive = false ∧ p.health = 0 ∧ p.carryingFlag = false ∧ 1 ≤ p.respawnTimer ∧
          p.respawnTimer ≤ kRespawnDelayTicks - 1)) ∧
    (∀ earlier kill, ∀ ev ∈ (start.run rayDir earlier).happened rayDir kill v, ev.message = some .playerKilled →
      Dies rayDir v (start.run rayDir earlier) kill ev) ∧
    (∀ ticks cmds, ∀ ev ∈ (start.run rayDir ticks).happened rayDir cmds v, ev.message = some .playerRespawned →
      ∃ earlier kill meanwhile msg, ticks = earlier ++ kill :: meanwhile ∧
        (meanwhile.length : Int) + 1 = kRespawnDelayTicks - 1 ∧
        .playerKilled msg ∈ (start.run rayDir earlier).happened rayDir kill v ∧
        Remains rayDir v (start.run rayDir (earlier ++ [kill])) (meanwhile ++ [cmds])) ∧
    (∀ ticks, ∀ ev ∈ (start.run rayDir ticks).outbound,
      ev.message = some .playerKilled ∨ ev.message = some .playerRespawned →
        ∃ u : Fin kMaxPlayers, ev.subject = some (idByte u)) := by
  intro start
  have hLife : ∀ ticks, AllLife (start.run rayDir ticks) := allLife_run rayDir tickHz snapshotHz delta
  refine ⟨?_, ?_, ?_, ?_⟩
  · intro ticks p hActive
    rcases hLife ticks v hActive with ⟨hAlive, hSound⟩ | ⟨hDead, hHealth, hTimer⟩
    · exact Or.inl ⟨hAlive, by simpa [Sound] using hSound⟩
    · refine Or.inr ⟨hDead, hHealth, Bool.eq_false_iff.mpr fun hCarries => ?_, hTimer⟩
      have hFlags := flagInv_preserved.run rayDir _ ticks (flagInv_init tickHz snapshotHz delta)
      rw [(hFlags.carrying v hActive hCarries).1] at hDead
      cases hDead
  · intro earlier kill ev hMem hKilled
    exact dies_of_killed rayDir (hLife earlier) hMem hKilled
  · intro ticks cmds ev hMem hRespawned
    obtain ⟨hActive, hDead, hTimer⟩ := (tick_fate rayDir (hLife ticks) cmds v).respawned hMem hRespawned
    obtain ⟨hSame, hStay⟩ := movedBy_origin hActive hDead
    rw [hSame] at hActive hDead hTimer
    obtain ⟨earlier, kill, meanwhile, msg, hTicks, hKill, hRemains, hLength⟩ :=
      killed_before rayDir tickHz snapshotHz delta ticks hActive hDead
    refine ⟨earlier, kill, meanwhile, msg, hTicks, ?_, hKill, (remains_snoc meanwhile).mpr ⟨hRemains, ?_⟩⟩
    · rcases hLife ticks v hActive with ⟨hAlive, -⟩ | ⟨-, -, hMin, -⟩
      · rw [hDead] at hAlive
        cases hAlive
      · rw [hLength]
        simp only [start] at hTimer hMin
        omega
    · rw [← run_append, List.append_assoc, List.singleton_append, ← hTicks]
      exact hStay
  · have hStart : AllNamed start := fun ev hMem => absurd hMem List.not_mem_nil
    exact fun ticks => allNamed_preserved.run rayDir start ticks hStart

end Sim
end CaptureTheFlag
