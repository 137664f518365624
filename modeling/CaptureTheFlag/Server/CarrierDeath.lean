import CaptureTheFlag.Server.CarrierDrop
import CaptureTheFlag.Server.FlagLog

/-! # The death of a flag carrier

`handle_death` announces the drop under the victim's own team, not under the team of the flag it carried. Runs
without such a death have a faithful log; a volley at the carrier shows one that has not.
-/
namespace CaptureTheFlag
set_option autoImplicit false

namespace Sim

def CarrierDies (rayDir : RayDir) (s : Sim) (cmds : List InboundCommand) : Prop :=
  ∃ earlier id later, List.finRange kMaxPlayers = earlier ++ id :: later ∧
    (earlier.foldl (combatTurn rayDir) (s.drainInbound cmds).popInputs.movePlayers).KillsCarrier rayDir id

theorem LogFaithful.combatTurns (rayDir : RayDir) (s : Sim) (turns : List (Fin kMaxPlayers))
    (hSafe : ∀ earlier id later, turns = earlier ++ id :: later →
      ¬ (earlier.foldl (combatTurn rayDir) s).KillsCarrier rayDir id)
    (h : s.LogFaithful) : (turns.foldl (combatTurn rayDir) s).LogFaithful := by
  induction turns generalizing s with
  | nil => exact h
  | cons id turns ih =>
    rw [List.foldl_cons]
    refine ih _ ?_ ?_
    · intro earlier i later hSplit
      exact hSafe (id :: earlier) i later (by rw [hSplit, List.cons_append])
    · have hTurn : Relation.ReflTransGen (CombatChange False) s (s.combatTurn rayDir id) :=
        combatTurn_changes rayDir s id (hSafe [] id turns rfl)
      exact Chain.invariant (I := LogFaithful) (fun _ _ hChange hLog => hLog.combat hChange) hTurn h

theorem LogFaithful.drain (s : Sim) (cmds : List InboundCommand) (hStay : ∀ id, .playerLeft id ∉ cmds)
    (h : s.LogFaithful) : (s.drainInbound cmds).LogFaithful := by
  induction cmds generalizing s with
  | nil => exact h
  | cons cmd cmds ih =>
    rw [drainInbound, List.foldl_cons]
    refine ih _ (fun id hMem => hStay id (List.mem_cons_of_mem _ hMem)) ?_
    have hApplied := applyCommand_applied s cmd
    generalize s.applyCommand cmd = s' at hApplied ⊢
    cases hApplied with
    | ignored => exact h
    | join id team spawnIndex hGoing hFree => exact h.congr rfl rfl rfl
    | leave id hGoing hActive => exact absurd List.mem_cons_self (hStay _)
    | input id seq input hGoing hActive => exact h.congr rfl rfl rfl

theorem LogFaithful.tick (rayDir : RayDir) (s : Sim) (cmds : List InboundCommand)
    (hStay : ∀ id, .playerLeft id ∉ cmds) (hSafe : ¬ s.CarrierDies rayDir cmds) (h : s.LogFaithful) :
    (s.tick rayDir cmds).LogFaithful := by
  have hMoved : (s.drainInbound cmds).popInputs.movePlayers.LogFaithful := by
    rw [movePlayers_eq, popInputs_eq]
    exact (h.drain s cmds hStay).congr rfl rfl rfl
  have hCombat : ((s.drainInbound cmds).popInputs.movePlayers.combat rayDir).LogFaithful :=
    hMoved.combatTurns rayDir _ _ (fun earlier id later hSplit hKills => hSafe ⟨earlier, id, later, hSplit, hKills⟩)
  have hTouch := Chain.invariant (I := LogFaithful) (fun _ _ hChange hLog => hLog.flags hChange)
    (touchPhase_changes _) hCombat
  have hRespawn := Chain.invariant (I := LogFaithful) (fun _ _ hChange hLog => hLog.respawn hChange)
    (respawnPhase_changes _) hTouch
  have hPublished := hRespawn.win.publish
  rw [Sim.tick, flagsPhase_eq]
  exact hPublished.clock _

/-- No input among the commands presses fire. -/
def HoldsFire (cmds : List InboundCommand) : Prop :=
  ∀ id seq input, .playerInput id seq input ∈ cmds → input.pressed kInputFire = false

/-- No input that is kept or applied presses fire. -/
structure Unarmed (s : Sim) : Prop where
  ring : ∀ id i, ((s.players id).ring i).pressed kInputFire = false
  applied : ∀ id, (s.appliedCmds id).pressed kInputFire = false

theorem unarmed_configured (tickHz snapshotHz : Int) (delta : Bool) : Unarmed (configured tickHz snapshotHz delta) := by
  have hNone : ({} : InputCmd).pressed kInputFire = false := by decide
  exact ⟨fun _ _ => hNone, fun _ => hNone⟩

theorem ring_acceptInput {p : Player} (h : ∀ i, (p.ring i).pressed kInputFire = false) (seq : U32) {input : InputCmd}
    (hInput : input.pressed kInputFire = false) (i : Fin kInputRingSize) :
    ((p.acceptInput seq input).ring i).pressed kInputFire = false := by
  by_cases hAccepts : p.Accepts seq
  · have hRing : ∀ k, (Function.update p.ring k input i).pressed kInputFire = false := by
      intro k
      rw [Function.update_apply]
      split
      · exact hInput
      · exact h i
    rw [Player.acceptInput_accepted input hAccepts]
    simp only
    split
    · exact hRing _
    · exact hRing _
  · rw [Player.acceptInput_rejected input hAccepts]
    exact h i

theorem Unarmed.update {s s' : Sim} (h : Unarmed s) {id : Fin kMaxPlayers} {p : Player}
    (hRing : ∀ i, (p.ring i).pressed kInputFire = false) (hPlayers : s'.players = Function.update s.players id p)
    (hApplied : s'.appliedCmds = s.appliedCmds) : Unarmed s' := by
  refine ⟨fun j i => ?_, fun j => ?_⟩
  · rw [hPlayers, Function.update_apply]
    split
    · exact hRing i
    · exact h.ring j i
  · rw [hApplied]
    exact h.applied j

theorem Unarmed.drain {s : Sim} {cmds : List InboundCommand} (h : Unarmed s) (hHold : HoldsFire cmds) :
    Unarmed (s.drainInbound cmds) := by
  induction cmds generalizing s with
  | nil => exact h
  | cons cmd cmds ih =>
    rw [drainInbound_cons]
    refine ih ?_ (fun id seq input hMem => hHold id seq input (List.mem_cons_of_mem _ hMem))
    have hApplied := applyCommand_applied s cmd
    generalize s.applyCommand cmd = s' at hApplied ⊢
    cases hApplied with
    | ignored => exact h
    | join id team spawnIndex hGoing hFree =>
      refine h.update ?_ rfl rfl
      exact h.ring id
    | leave id hGoing hActive =>
      have hNone : ({} : InputCmd).pressed kInputFire = false := by decide
      refine h.update (p := {}) (fun _ => hNone) rfl ?_
      simp only [leaveDrop]
      split <;> rfl
    | input id seq input hGoing hActive =>
      exact h.update (ring_acceptInput (h.ring id) seq (hHold _ seq input List.mem_cons_self)) rfl rfl

theorem Unarmed.movedBy {s : Sim} {cmds : List InboundCommand} (h : Unarmed s) (hHold : HoldsFire cmds) :
    Unarmed (s.movedBy cmds) := by
  have hDrained := h.drain hHold
  rw [Sim.movedBy, movePlayers_eq, popInputs_eq]
  refine ⟨fun id i => ?_, fun id => ?_⟩
  · have hPopped : ∀ p : Player, p.popped.ring = p.ring := by
      intro p
      rw [Player.popped]
      split <;> rfl
    have hSame : ∀ (p : Player) (cmd : InputCmd), (p.moved cmd).ring = p.ring := fun _ _ => rfl
    simp only
    split <;> split <;> simp only [hSame, hPopped, hDrained.ring]
  · simp only
    split
    · rw [Player.nextInput]
      split
      · exact hDrained.ring id _
      · decide
    · exact hDrained.applied id

theorem Unarmed.tick {s : Sim} {cmds : List InboundCommand} (h : Unarmed s) (hHold : HoldsFire cmds) (rayDir : RayDir) :
    Unarmed (s.tick rayDir cmds) := by
  have hMoved := h.movedBy hHold
  have hFrame := settled_frame rayDir (s.movedBy cmds)
  rw [tick_eq_finish, ← Sim.movedBy, finish_eq]
  refine ⟨fun id i => ?_, fun id => ?_⟩
  · simp only [publish_players, (hFrame.inputs id).ring]
    exact hMoved.ring id i
  · simp only [publish_appliedCmds, hFrame.appliedCmds]
    exact hMoved.applied id

theorem unarmed_run (rayDir : RayDir) {start : Sim} (hStart : Unarmed start) {ticks : List (List InboundCommand)}
    (hHold : ∀ cmds ∈ ticks, HoldsFire cmds) : Unarmed (start.run rayDir ticks) := by
  induction ticks using List.reverseRecOn with
  | nil => exact hStart
  | append_singleton ticks cmds ih =>
    rw [run_snoc]
    have hBefore := ih fun cmds hMem => hHold cmds (List.mem_append_left _ hMem)
    exact hBefore.tick (hHold cmds (List.mem_append_right _ List.mem_cons_self)) rayDir

theorem Unarmed.spares {s : Sim} {cmds : List InboundCommand} (h : Unarmed s) (hHold : HoldsFire cmds)
    (rayDir : RayDir) : ¬ s.CarrierDies rayDir cmds := by
  rintro ⟨earlier, id, later, -, hKills⟩
  have hMoved := h.movedBy hHold
  have hFrame : Frame _ (earlier.foldl (combatTurn rayDir) (s.movedBy cmds)) :=
    Frame.combats (Chain.foldl (fun s id => combatTurn_changes rayDir s id (fun _ => trivial)) earlier _)
  have hFires := hKills.2.2.1
  rw [← Sim.movedBy, hFrame.appliedCmds, hMoved.applied] at hFires
  cases hFires

theorem flag_log_faithful (rayDir : RayDir) (tickHz snapshotHz : Int) (delta : Bool)
    (ticks : List (List InboundCommand)) (hStay : ∀ cmds ∈ ticks, ∀ id, .playerLeft id ∉ cmds)
    (hSafe : ∀ earlier cmds later, ticks = earlier ++ cmds :: later →
      ¬ ((configured tickHz snapshotHz delta).run rayDir earlier).CarrierDies rayDir cmds) :
    (FlagLog.ofEvents ((configured tickHz snapshotHz delta).run rayDir ticks).outbound).Matches
      ((configured tickHz snapshotHz delta).run rayDir ticks) := by
  have hInit : (configured tickHz snapshotHz delta).LogFaithful :=
    ⟨fun _ => rfl, fun _ => rfl, fun _ h => (by cases h), rfl⟩
  change ((configured tickHz snapshotHz delta).run rayDir ticks).LogFaithful
  induction ticks using List.reverseRecOn with
  | nil => exact hInit
  | append_singleton ticks cmds ih =>
    rw [run_append]
    refine LogFaithful.tick rayDir _ cmds (hStay cmds (by simp)) (hSafe ticks cmds [] rfl) (ih ?_ ?_)
    · exact fun cmds' hMem => hStay cmds' (by simp [hMem])
    · intro earlier cmds' later hSplit
      exact hSafe earlier cmds' (later ++ [cmds]) (by rw [hSplit, List.append_assoc, List.cons_append])

theorem carryTicks_march {cmds : List InboundCommand} (hMem : cmds ∈ carryTicks) :
    HoldsFire cmds ∧ ∀ id, .playerLeft id ∉ cmds := by
  simp only [carryTicks, rightTicks, downTicks, List.mem_append, List.mem_cons, List.mem_map, List.not_mem_nil,
    or_false] at hMem
  rcases hMem with (((rfl | ⟨i, -, rfl⟩) | ⟨j, -, rfl⟩) | rfl)
  · simp [HoldsFire, joinCommands]
  all_goals
    refine ⟨?_, by simp⟩
    rintro id seq input hInput
    cases List.mem_singleton.mp hInput
    decide

/-- The log tells who has taken the flag. -/
theorem flag_log_faithful_at_pickUp :
    let log := FlagLog.ofEvents ((configured 30 30 true).run eastward carryTicks).outbound
    log.Matches ((configured 30 30 true).run eastward carryTicks) ∧ (log.flags .blue).state = .carried ∧
      (log.flags .blue).carrier = idByte 0 := by
  obtain ⟨w, -, hCarrying⟩ := carryTicks_carrying
  have hMatches := flag_log_faithful eastward 30 30 true carryTicks (fun cmds hMem => (carryTicks_march hMem).2) ?_
  · have hBlue := hCarrying.blue
    rw [← hMatches.state, ← hMatches.carrier] at hBlue
    exact ⟨hMatches, hBlue⟩
  · intro earlier cmds later hSplit
    have hBefore : Unarmed ((configured 30 30 true).run eastward earlier) := by
      refine unarmed_run eastward (unarmed_configured 30 30 true) fun cmds' hMem => (carryTicks_march ?_).1
      rw [hSplit]
      exact List.mem_append_left _ hMem
    refine hBefore.spares (carryTicks_march ?_).1 eastward
    rw [hSplit]
    exact List.mem_append_right _ List.mem_cons_self

def fireInput : InputCmd := { buttons := kInputFire }

structure Target (p : Player) (health : Int) : Prop where
  active : p.active = true
  alive : p.alive = true
  team : p.team = .red
  position : p.position = dropPosition
  carryingFlag : p.carryingFlag = true
  health : p.health = health

theorem carrier_target {w : Player} {n : Nat} (h : Walker w dropPosition n) :
    Target { w with carryingFlag := true } 100 :=
  ⟨h.active, h.alive, h.team, h.position, rfl, h.health⟩

structure Shooter (p : Player) : Prop where
  active : p.active = true
  alive : p.alive = true
  team : p.team = .blue
  position : p.position = guardPlayer.position
  carryingFlag : p.carryingFlag = false

/-- The first `k` guards have fired. -/
structure Volley (s : Sim) (health : Int) (k : Nat) : Prop where
  target : Target (s.players 0) health
  shooter : ∀ i : Fin kMaxPlayers, i ≠ 0 → i.val ≤ 3 → Shooter (s.players i)
  ready : ∀ i : Fin kMaxPlayers, k < i.val → i.val ≤ 3 → (s.players i).fireCooldown = 0
  empty : ∀ i : Fin kMaxPlayers, 3 < i.val → (s.players i).active = false
  fire : ∀ i : Fin kMaxPlayers, i ≠ 0 → i.val ≤ 3 → s.appliedCmds i = fireInput
  flag : s.flags .red = init.flags .red

theorem enemyAt_target {players : Fin kMaxPlayers → Player} {health : Int} {r : Ray} (h : Target (players 0) health)
    (hBox : r.inBox dropPosition = true) : enemyAt players .blue r = some 0 := by
  rw [enemyAt, List.finRange_succ, List.find?_cons_of_pos]
  simp [h.active, h.alive, h.team, h.position, hBox]

/-- The target stands over the guards, so the first step of the ray is inside its box. -/
theorem castRay_target {players : Fin kMaxPlayers → Player} {health : Int} (h : Target (players 0) health) (aim : U16) :
    (castRay eastward players (centerOf guardPlayer.position) aim .blue).2 = some 0 := by
  change (march players .blue (1024 * kRayStepFp) (0 * kRayStepFp) (133119 + 1) _).2 = some 0
  exact march_hit 133119 (by decide +kernel) (enemyAt_target h (by decide +kernel))

/-- What a turn comes to before the damage is dealt. -/
def shotBy (s : Sim) (i : Fin kMaxPlayers) : Sim :=
  (s.push (.shotFired
    { shooterId := idByte i, origin := centerOf (s.players i).position, aimAngle := fireInput.aimAngle,
      hitPoint := (castRay eastward s.players (centerOf (s.players i).position) fireInput.aimAngle
        (s.players i).team).1 })).setPlayer i
    { s.players i with fireCooldown := kFireCooldownTicks }

theorem Volley.turn {s : Sim} {health : Int} {k : Nat} (h : Volley s health k) (i : Fin kMaxPlayers) (hk : k < i.val)
    (hLe : i.val ≤ 3) : s.combatTurn eastward i = (s.shotBy i).hurt i 0 := by
  have hi : i ≠ 0 := by
    rintro rfl
    simp at hk
  obtain ⟨hActive, hAlive, hTeam, hPosition, -⟩ := h.shooter i hi hLe
  have hLiving : (!(s.players i).active || !(s.players i).alive) = false := by rw [hActive, hAlive]; rfl
  have hReady : ¬ (s.players i).fireCooldown > 0 := by rw [h.ready i hk hLe]; decide
  have hPressed : fireInput.pressed kInputFire = true := by decide
  have hRay : (castRay eastward s.players (centerOf (s.players i).position) fireInput.aimAngle
      (s.players i).team).2 = some 0 := by
    rw [hPosition, hTeam]
    exact castRay_target h.target _
  simp only [combatTurn, hLiving, hReady, h.fire i hi hLe, hPressed, hRay, Bool.not_true, Bool.false_eq_true, if_false]
  rfl

theorem Volley.shot_players {s : Sim} {i : Fin kMaxPlayers} (hi : i ≠ 0) : (s.shotBy i).players 0 = s.players 0 := by
  simp [shotBy, setPlayer, Sim.push, Ne.symm hi]

theorem Volley.wound {s : Sim} {health : Int} {k : Nat} (h : Volley s health k) (i : Fin kMaxPlayers)
    (hk : i.val = k + 1) (hLe : i.val ≤ 3) (hHealth : health > kDamagePerShot) :
    Volley (s.combatTurn eastward i) (health - kDamagePerShot) (k + 1) := by
  have hi : i ≠ 0 := by
    rintro rfl
    simp at hk
  have hHurt : (s.shotBy i).hurt i 0 =
      (s.shotBy i).setPlayer 0 { s.players 0 with health := health - kDamagePerShot } := by
    have hLeft : ¬ health - kDamagePerShot = 0 := by omega
    simp only [hurt, Volley.shot_players hi, h.target.health, hHealth, if_true, hLeft, if_false]
  rw [h.turn i (by omega) hLe, hHurt]
  constructor
  · simpa [setPlayer] using
      (⟨h.target.active, h.target.alive, h.target.team, h.target.position, h.target.carryingFlag, rfl⟩ :
        Target { s.players 0 with health := health - kDamagePerShot } _)
  · intro j hj hjLe
    obtain ⟨hA, hL, hT, hP, hC⟩ := h.shooter j hj hjLe
    by_cases hEq : j = i
    · subst hEq
      simpa [setPlayer, shotBy, Sim.push, hj] using
        (⟨hA, hL, hT, hP, hC⟩ : Shooter { s.players j with fireCooldown := kFireCooldownTicks })
    · simpa [setPlayer, shotBy, Sim.push, hj, hEq] using h.shooter j hj hjLe
  · intro j hj hjLe
    have hne : j ≠ 0 ∧ j ≠ i := by
      constructor
      · rintro rfl
        simp at hj
      · rintro rfl
        omega
    simpa [setPlayer, shotBy, Sim.push, hne] using h.ready j (by omega) hjLe
  · intro j hj
    have hne : j ≠ 0 ∧ j ≠ i := by
      constructor
      · rintro rfl
        simp at hj
      · rintro rfl
        omega
    simpa [setPlayer, shotBy, Sim.push, hne] using h.empty j hj
  · exact h.fire
  · exact h.flag

/-- The red flag is at its base and the log says that it was dropped. -/
structure RedLost (s : Sim) : Prop where
  flag : s.flags .red = init.flags .red
  log : ((FlagLog.ofEvents s.outbound).flags .red).state = .dropped

/-- No living blue player carries or can touch the red flag. -/
def RedAlone (s : Sim) : Prop :=
  ∀ i, s.Living i → (s.players i).team = .blue →
    (s.players i).carryingFlag = false ∧ (s.players i).position = guardPlayer.position

theorem RedLost.congr {s s' : Sim} (h : RedLost s) (hFlag : s'.flags .red = s.flags .red)
    (hOut : s'.outbound = s.outbound) : RedLost s' :=
  ⟨hFlag.trans h.flag, by rw [hOut]; exact h.log⟩

theorem RedLost.event {s s' : Sim} (h : RedLost s) (ev : OutboundEvent)
    (hEv : ∀ log : FlagLog, (log.onEvent ev).flags .red = log.flags .red) (hFlag : s'.flags .red = s.flags .red)
    (hOut : s'.outbound = s.outbound ++ [ev]) : RedLost s' := by
  refine ⟨hFlag.trans h.flag, ?_⟩
  rw [hOut, FlagLog.ofEvents_append, hEv]
  exact h.log

/-- What the last shot leaves. -/
structure Felled (s : Sim) : Prop where
  target : (s.players 0).alive = false ∧ (s.players 0).carryingFlag = false
  shooter : ∀ i : Fin kMaxPlayers, i ≠ 0 → i.val ≤ 3 → Shooter (s.players i)
  empty : ∀ i : Fin kMaxPlayers, 3 < i.val → (s.players i).active = false
  lost : RedLost s
  blue : s.flags .blue = { state := .dropped, position := dropPosition, carrierId := kNoCarrier }

theorem Felled.living {s : Sim} (h : Felled s) {i : Fin kMaxPlayers} (hLive : s.Living i) : Shooter (s.players i) := by
  obtain ⟨hActive, hAlive⟩ := hLive
  have hi : i ≠ 0 := by
    rintro rfl
    rw [h.target.1] at hAlive
    cases hAlive
  refine h.shooter i hi ?_
  by_contra hOut
  rw [h.empty i (by omega)] at hActive
  cases hActive

theorem Felled.alone {s : Sim} (h : Felled s) : RedAlone s :=
  fun _ hLive _ => ⟨(h.living hLive).carryingFlag, (h.living hLive).position⟩

theorem Volley.kill {s : Sim} {health : Int} {k : Nat} (h : Volley s health k) (i : Fin kMaxPlayers)
    (hk : i.val = k + 1) (hLe : i.val ≤ 3) (hHealth : ¬ health > kDamagePerShot) : Felled (s.combatTurn eastward i) := by
  have hi : i ≠ 0 := by
    rintro rfl
    simp at hk
  have hTarget : (s.shotBy i).players 0 = s.players 0 := Volley.shot_players hi
  have hOther : (s.players 0).team.other = .blue ∧ (if (s.players 0).team = .blue then Team.blue else .red) = .red := by
    rw [h.target.team]
    decide
  rw [h.turn i (by omega) hLe]
  simp only [hurt, hTarget, h.target.health, hHealth, if_false, if_true, handleDeath, setPlayer, Function.update_self,
    h.target.carryingFlag, hOther]
  refine ⟨?_, ?_, ?_, ⟨?_, ?_⟩, ?_⟩
  · simp [Sim.push]
  · intro j hj hjLe
    simp only [Sim.push, setFlag, Function.update_of_ne hj, shotBy, setPlayer]
    by_cases hEq : j = i
    · subst hEq
      obtain ⟨hA, hL, hT, hP, hC⟩ := h.shooter j hj hLe
      simp only [Function.update_self]
      exact ⟨hA, hL, hT, hP, hC⟩
    · simp only [Function.update_of_ne hEq]
      exact h.shooter j hj hjLe
  · intro j hj
    have hne : j ≠ 0 ∧ j ≠ i := by
      constructor
      · rintro rfl
        simp at hj
      · rintro rfl
        omega
    simpa [Sim.push, setFlag, shotBy, setPlayer, hne] using h.empty j hj
  · simp only [Sim.push, setFlag, shotBy, setPlayer]
    exact (Function.update_of_ne (by decide) _ _).trans h.flag
  · simp only [Sim.push, setFlag, FlagLog.ofEvents_append, OutboundEvent.playerKilled,
      FlagLog.onEvent_other _ _ _ _ (Or.inl rfl), FlagLog.onEvent_flagDropped]
    simp [FlagLog.onDropped, FlagLog.setFlag]
  · simp [Sim.push, setFlag, h.target.position]

theorem RedLost.silent {s s' : Sim} (h : RedLost s) (ev : OutboundEvent)
    (hEv : ∀ log : FlagLog, log.onEvent ev = log) (hFlag : s'.flags .red = s.flags .red)
    (hOut : s'.outbound = s.outbound ++ [ev]) : RedLost s' :=
  h.event ev (fun log => by rw [hEv]) hFlag hOut

/-- With no blue player about, whatever is touched is the blue flag. -/
theorem RedLost.touch {s s' : Sim} (hChange : FlagChange s s') (h : RedLost s ∧ RedAlone s) :
    RedLost s' ∧ RedAlone s' := by
  obtain ⟨hLost, hAlone⟩ := h
  have hBase : (s.flags .red).state = .atBase := by rw [hLost.flag]; rfl
  cases hChange with
  | follow team position hCarried =>
    cases team with
    | red => simp [hBase] at hCarried
    | blue => exact ⟨hLost.congr rfl rfl, hAlone⟩
  | flagReturn team playerId hDropped =>
    cases team with
    | red => simp [hBase] at hDropped
    | blue =>
      refine ⟨hLost.event _ (fun log => ?_) rfl rfl, hAlone⟩
      rw [FlagLog.onEvent_flagReturned]
      rfl
  | pickUp id hLive hFree hState hTouch =>
    cases hTeam : (s.players id).team with
    | blue =>
      have hAway : aabbOverlap guardPlayer.position (init.flags .red).position = false := by decide +kernel
      rw [hTeam, (hAlone id hLive hTeam).2] at hTouch
      simp only [Team.other, hLost.flag, hAway] at hTouch
      cases hTouch
    | red =>
      refine ⟨hLost.event _ (fun log => ?_) rfl rfl, ?_⟩
      · rw [FlagLog.onEvent_flagPickedUp]
        rfl
      · intro i hLiving hBlue
        by_cases hi : i = id
        · subst hi
          simp [Sim.push, setPlayer, hTeam] at hBlue
        · simp only [Sim.push, setPlayer, setFlag, Living, Function.update_of_ne hi] at hLiving hBlue ⊢
          exact hAlone i hLiving hBlue
  | capture id hLive hCarries =>
    cases hTeam : (s.players id).team with
    | blue =>
      rw [(hAlone id hLive hTeam).1] at hCarries
      cases hCarries
    | red =>
      refine ⟨hLost.event _ (fun log => ?_) rfl rfl, ?_⟩
      · rw [FlagLog.onEvent_flagCaptured]
        rfl
      · intro i hLiving hBlue
        by_cases hi : i = id
        · subst hi
          simp [Sim.push, setPlayer, setFlag, hTeam] at hBlue
        · simp only [Sim.push, setPlayer, setFlag, Living, Function.update_of_ne hi] at hLiving hBlue ⊢
          exact hAlone i hLiving hBlue

theorem RedLost.respawn {s s' : Sim} (hChange : RespawnChange s s') (h : RedLost s) : RedLost s' := by
  cases hChange with
  | countDown id hDead => exact h.congr rfl rfl
  | respawn id msg hActive hDead hDue => exact h.silent _ (fun log => log.onEvent_other _ _ _ (by simp)) rfl rfl

theorem RedLost.win {s : Sim} (h : RedLost s) : RedLost s.winCheck := by
  simp only [winCheck]
  split
  · exact h
  · split
    · exact h.silent _ (fun log => log.onEvent_other _ _ _ (by simp)) rfl rfl
    · exact h

theorem RedLost.publish {s : Sim} (h : RedLost s) : RedLost s.publish := by
  simp only [Sim.publish]
  split
  · refine h.silent _ (fun log => log.onEvent_snapshot _ ?_) rfl rfl
    simp only [snapshotEvent, OutboundEvent.isSnapshot]
    split <;> simp
  · exact h.congr rfl rfl

theorem RedLost.clock {s : Sim} (h : RedLost s) (t : U32) : RedLost { s with currentTick := t } := h.congr rfl rfl

theorem Felled.finish {s : Sim} {rayDir : RayDir} (h : Felled (s.combat rayDir)) : RedLost (s.finish rayDir) := by
  have hTouch := Chain.invariant (I := fun s => RedLost s ∧ RedAlone s) (fun _ _ hChange h => RedLost.touch hChange h)
    (touchPhase_changes _) ⟨h.lost, h.alone⟩
  have hRespawn := Chain.invariant (I := RedLost) (fun _ _ hChange h => RedLost.respawn hChange h)
    (respawnPhase_changes _) hTouch.1
  rw [Sim.finish, flagsPhase_eq]
  exact hRespawn.win.publish.clock _

theorem Volley.kill_target {s : Sim} {health : Int} {k : Nat} (h : Volley s health k) (i : Fin kMaxPlayers)
    (hk : i.val = k + 1) (hLe : i.val ≤ 3) (hHealth : ¬ health > kDamagePerShot) :
    (s.combatTurn eastward i).players 0 =
      { s.players 0 with alive := false, health := 0, respawnTimer := kRespawnDelayTicks, carryingFlag := false } := by
  have hi : i ≠ 0 := by
    rintro rfl
    simp at hk
  rw [h.turn i (by omega) hLe]
  simp only [hurt, Volley.shot_players hi, h.target.health, hHealth, if_false, if_true, handleDeath, setPlayer,
    Function.update_self, h.target.carryingFlag, Sim.push, setFlag]

theorem Volley.combat_eq {s : Sim} (h : Volley s 100 0) (hCalm : s.combatTurn eastward 0 = s) :
    Volley ((s.combatTurn eastward 1).combatTurn eastward 2) 32 2 ∧
      s.combat eastward = ((s.combatTurn eastward 1).combatTurn eastward 2).combatTurn eastward 3 := by
  have hFirst := h.wound 1 rfl (by decide) (by decide)
  have hSecond := hFirst.wound 2 rfl (by decide) (by decide)
  have hEmpty := (hSecond.kill 3 rfl (by decide) (by decide)).empty
  have hTurns : List.finRange kMaxPlayers = [0, 1, 2, 3] ++ [4, 5, 6, 7, 8, 9] := by decide
  have hRest : ∀ turns : List (Fin kMaxPlayers), (∀ i ∈ turns, 3 < i.val) → ∀ s : Sim,
      (∀ i : Fin kMaxPlayers, 3 < i.val → (s.players i).active = false) →
      turns.foldl (combatTurn eastward) s = s := by
    intro turns
    induction turns with
    | nil => exact fun _ _ _ => rfl
    | cons i turns ih =>
      intro hOut s hInactive
      have hTurn : s.combatTurn eastward i = s := by
        simp [combatTurn, hInactive i (hOut i List.mem_cons_self)]
      rw [List.foldl_cons, hTurn]
      exact ih (fun j hj => hOut j (List.mem_cons_of_mem _ hj)) s hInactive
  refine ⟨hSecond, ?_⟩
  rw [Sim.combat, hTurns, List.foldl_append, hRest _ (by decide) _]
  · simp only [List.foldl_cons, List.foldl_nil, hCalm]
  · simp only [List.foldl_cons, List.foldl_nil, hCalm]
    exact hEmpty

theorem Volley.combat {s : Sim} (h : Volley s 100 0) (hCalm : s.combatTurn eastward 0 = s) :
    Felled (s.combat eastward) := by
  obtain ⟨hSecond, hCombat⟩ := h.combat_eq hCalm
  rw [hCombat]
  exact hSecond.kill 3 rfl (by decide) (by decide)

def killCommands : List InboundCommand :=
  [.playerInput (idByte 1) 1 fireInput, .playerInput (idByte 2) 1 fireInput, .playerInput (idByte 3) 1 fireInput]

def armed : Player := guardPlayer.acceptInput 1 fireInput

theorem armed_fires :
    armed.nextInput = fireInput ∧ Shooter (armed.popped.moved fireInput) ∧
      (armed.popped.moved fireInput).fireCooldown = 0 := by
  refine ⟨by decide, ⟨rfl, rfl, rfl, ?_, rfl⟩, rfl⟩
  exact movementStep_still _ _ _ rfl

theorem arm {s : Sim} {i : Fin kMaxPlayers} (hGuard : s.players i = guardPlayer) (hMatch : s.matchOver = false) :
    s.applyCommand (.playerInput (idByte i) 1 fireInput) = s.setPlayer i armed := by
  rw [applyCommand_input s i _ _ hMatch (by rw [hGuard]; rfl), hGuard]
  rfl

theorem drain_killCommands {s : Sim} {c : Player} (hPlayers : s.players = lineUp c guardPlayer)
    (hMatch : s.matchOver = false) :
    s.drainInbound killCommands = { s with players := lineUp c armed } := by
  have hArmed : s.drainInbound killCommands = ((s.setPlayer 1 armed).setPlayer 2 armed).setPlayer 3 armed := by
    have hFirst : s.players 1 = guardPlayer := by rw [hPlayers]; rfl
    have hSecond : (s.setPlayer 1 armed).players 2 = guardPlayer := by rw [setPlayer, hPlayers]; rfl
    have hThird : ((s.setPlayer 1 armed).setPlayer 2 armed).players 3 = guardPlayer := by
      rw [setPlayer, setPlayer, hPlayers]
      rfl
    rw [killCommands, drainInbound_cons, arm hFirst hMatch, drainInbound_cons, arm hSecond hMatch, drainInbound_cons,
      arm hThird hMatch]
    rfl
  rw [hArmed]
  simp only [setPlayer, hPlayers]
  congr 1
  funext i
  fin_cases i <;> rfl

theorem volley_due {s : Sim} {c : Player} {cmds : List InboundCommand}
    (hDrain : s.drainInbound cmds = { s with players := lineUp c armed }) (hTarget : Target c 100)
    (hStill : c.nextInput = {}) (hFlag : s.flags .red = init.flags .red) :
    Volley (s.movedBy cmds) 100 0 ∧ (s.movedBy cmds).appliedCmds 0 = {} ∧
      (s.movedBy cmds).players 0 = c.popped.moved {} := by
  obtain ⟨hNext, hShooter, hReady⟩ := armed_fires
  obtain ⟨hA, hL, hT, hH, hC, hP, -⟩ := popped_fields c
  have hArmed : armed.active = true ∧ armed.alive = true ∧ armed.popped.active = true ∧ armed.popped.alive = true := by
    decide
  have hGuards : ∀ i : Fin kMaxPlayers, i ≠ 0 → i.val ≤ 3 →
      (s.movedBy cmds).players i = armed.popped.moved fireInput ∧ (s.movedBy cmds).appliedCmds i = fireInput := by
    intro i hi hLe
    simp only [movedBy, hDrain, movePlayers_eq, popInputs_eq, lineUp_guard c armed hi hLe, hArmed, hNext, and_self,
      if_true]
  have hCarrier : (s.movedBy cmds).players 0 = c.popped.moved {} ∧ (s.movedBy cmds).appliedCmds 0 = {} := by
    have hSlot : lineUp c armed 0 = c := rfl
    simp only [movedBy, hDrain, movePlayers_eq, popInputs_eq, hSlot, hStill, hA, hL, hTarget.active, hTarget.alive,
      and_self, if_true]
  refine ⟨⟨?_, ?_, ?_, ?_, ?_, ?_⟩, hCarrier.2, hCarrier.1⟩
  · rw [hCarrier.1]
    refine ⟨hA.trans hTarget.active, hL.trans hTarget.alive, hT.trans hTarget.team, ?_, hC.trans hTarget.carryingFlag,
      hH.trans hTarget.health⟩
    have hStay := movementStep_still { position := c.popped.position } ({} : InputCmd) Map.arena rfl
    exact hStay.trans (hP.trans hTarget.position)
  · intro i hi hLe
    rw [(hGuards i hi hLe).1]
    exact hShooter
  · intro i hi hLe
    rw [(hGuards i (by rintro rfl; exact absurd hi (by decide)) hLe).1]
    exact hReady
  · intro i hi
    have hNe : ¬ i = 0 := by
      rintro rfl
      exact absurd hi (by decide)
    have hSlot : lineUp c armed i = {} := by simp only [lineUp, hNe, if_false, if_neg (Nat.not_le_of_gt hi)]
    simp only [movedBy, hDrain, movePlayers_eq, popInputs_eq, hSlot]
    rfl
  · exact fun i hi hLe => (hGuards i hi hLe).2
  · simp only [movedBy, hDrain, movePlayers_eq, popInputs_eq]
    exact hFlag

/-- In the volley the target, which does not fire, has its turn first. -/
theorem volley_calm {m : Sim} (hVolley : Volley m 100 0) (hStill : m.appliedCmds 0 = {})
    (hReady : (m.players 0).fireCooldown = 0) : m.combatTurn eastward 0 = m := by
  have hPressed : (m.appliedCmds 0).pressed kInputFire = false := by rw [hStill]; decide
  have hLiving : (!(m.players 0).active || !(m.players 0).alive) = false := by
    rw [hVolley.target.active, hVolley.target.alive]
    rfl
  have hCold : ¬ (m.players 0).fireCooldown > 0 := by rw [hReady]; decide
  simp only [combatTurn, hLiving, hCold, hPressed, Bool.false_eq_true, Bool.not_false, if_false, if_true]

/-- The guards of the line-up fire at a target that stands still and is not about to fire. -/
theorem volley_fires {s : Sim} {c : Player} {cmds : List InboundCommand}
    (hDrain : s.drainInbound cmds = { s with players := lineUp c armed }) (hTarget : Target c 100)
    (hStill : c.nextInput = {}) (hReady : c.fireCooldown = 0) (hFlag : s.flags .red = init.flags .red) :
    Volley (s.movedBy cmds) 100 0 ∧ (s.movedBy cmds).combatTurn eastward 0 = s.movedBy cmds ∧
      (s.movedBy cmds).players 0 = c.popped.moved {} := by
  obtain ⟨hVolley, hNone, hSlot⟩ := volley_due hDrain hTarget hStill hFlag
  have hCooldown : ((s.movedBy cmds).players 0).fireCooldown = 0 := by
    obtain ⟨-, -, -, -, -, -, hF⟩ := popped_fields c
    rw [hSlot]
    exact hF.trans hReady
  exact ⟨hVolley, volley_calm hVolley hNone hCooldown, hSlot⟩

theorem redLost_tick {s : Sim} {c : Player} (hPlayers : s.players = lineUp c guardPlayer) (hTarget : Target c 100)
    (hIdle : c.queued = []) (hReady : c.fireCooldown = 0) (hFlag : s.flags .red = init.flags .red)
    (hMatch : s.matchOver = false) : RedLost (s.tick eastward killCommands) := by
  have hStill : c.nextInput = {} := (Player.popped_idle (by simp [hIdle])).2
  obtain ⟨hVolley, hCalm, -⟩ := volley_fires (drain_killCommands hPlayers hMatch) hTarget hStill hReady hFlag
  rw [tick_eq_finish, ← movedBy]
  exact (hVolley.combat hCalm).finish

def killTicks : List (List InboundCommand) :=
  carryTicks ++ [killCommands]

theorem RedLost.not_matches {s : Sim} (h : RedLost s) : ¬ (FlagLog.ofEvents s.outbound).Matches s := by
  intro hMatches
  have hState := h.log.symm.trans (hMatches.state .red)
  rw [h.flag] at hState
  cases hState

theorem dropped_flag_misreported :
    (∀ cmds ∈ killTicks, ∀ id, .playerLeft id ∉ cmds) ∧
      ¬ (FlagLog.ofEvents ((configured 30 30 true).run eastward killTicks).outbound).Matches
        ((configured 30 30 true).run eastward killTicks) := by
  constructor
  · intro cmds hMem id
    rcases List.mem_append.mp hMem with hMarch | hLast
    · exact (carryTicks_march hMarch).2 id
    · rw [List.mem_singleton.mp hLast]
      simp [killCommands]
  · obtain ⟨w, hw, hCarrying⟩ := carryTicks_carrying
    have hLost := redLost_tick hCarrying.players (carrier_target hw) hw.queued hw.fireCooldown hCarrying.red
      hCarrying.matchOver
    rw [killTicks, run_snoc]
    exact hLost.not_matches

end Sim
end CaptureTheFlag
