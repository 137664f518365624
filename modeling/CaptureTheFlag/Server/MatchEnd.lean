import CaptureTheFlag.Server.Idle

/-! # When the finished world is frozen -/
namespace CaptureTheFlag
set_option autoImplicit false

namespace Sim

variable {rayDir : RayDir}

/-- Frozen whatever is sent. -/
def StaysFrozen (rayDir : RayDir) (s : Sim) : Prop := ∀ later, Frozen s (s.run rayDir later)

theorem StaysFrozen.once {s : Sim} (h : s.StaysFrozen rayDir) : Frozen s (s.tick rayDir []) := by
  have hOne := h [[]]
  rwa [run_cons] at hOne

theorem StaysFrozen.calm {s : Sim} (h : s.StaysFrozen rayDir) (hOver : s.matchOver = true) : s.stepped.Calm :=
  calm_of_games rayDir s [] hOver h.once.games

theorem StaysFrozen.calmTick {s : Sim} (h : s.StaysFrozen rayDir) (hOver : s.matchOver = true) :
    CalmTick s (s.tick rayDir []) :=
  calmTick_of_calm rayDir s [] hOver (h.calm hOver)

theorem StaysFrozen.tick {s : Sim} (h : s.StaysFrozen rayDir) : (s.tick rayDir []).StaysFrozen rayDir := by
  intro later
  have hLater := h ([] :: later)
  rw [run_cons] at hLater
  exact h.once.symm.trans hLater

/-- A dead player respawns when its timer has run out, whatever the timer shows now. -/
theorem StaysFrozen.alive {s : Sim} (h : s.StaysFrozen rayDir) (hOver : s.matchOver = true) (id : Fin kMaxPlayers)
    (hActive : (s.players id).active = true) : (s.players id).alive = true := by
  by_contra hDead
  have hDead : (s.players id).alive = false := by simpa using hDead
  obtain ⟨n, hn⟩ : ∃ n : Nat, (s.players id).respawnTimer ≤ n := ⟨(s.players id).respawnTimer.toNat, by omega⟩
  induction n generalizing s with
  | zero =>
    have := (countDown_of_dead (h.calmTick hOver) (h.calm hOver) hActive hDead).1
    omega
  | succ n ih =>
    obtain ⟨hTimer, hPlayer⟩ := countDown_of_dead (h.calmTick hOver) (h.calm hOver) hActive hDead
    refine ih h.tick (h.calmTick hOver).matchOver ?_ ?_ ?_ ?_
    · rw [hPlayer]
      exact hActive
    · rw [hPlayer]
      simp [hDead]
    · rw [hPlayer]
      exact hDead
    · rw [hPlayer]
      simp only
      omega

/-- The clock reaches the auto-return of a dropped flag. -/
theorem StaysFrozen.flags {s : Sim} (h : s.StaysFrozen rayDir) (hOver : s.matchOver = true) (team : Team) :
    (s.flags team).state ≠ .dropped := by
  intro hDropped
  have hWait : ∀ (n : Nat) (s : Sim), s.StaysFrozen rayDir → s.matchOver = true → (s.flags team).state = .dropped →
      s.currentTick + BitVec.ofNat 32 n - s.dropTick team ≠ 450 := by
    intro n
    induction n with
    | zero =>
      intro s h hOver hDropped hDue
      refine (h.calm hOver).drop team ⟨by rw [(stepped_frame s).1]; exact hDropped, ?_⟩
      rw [(stepped_frame s).2.2.1, (stepped_frame s).2.2.2.2.1]
      have hZero : s.currentTick + BitVec.ofNat 32 0 = s.currentTick := by simp
      rw [hZero] at hDue
      rw [hDue]
    | succ n ih =>
      intro s h hOver hDropped hDue
      have hTick := h.calmTick hOver
      refine ih (s.tick rayDir []) h.tick hTick.matchOver ?_ ?_
      · rw [h.once.state team]
        exact hDropped
      · rw [hTick.currentTick, hTick.dropTick, ← hDue]
        congr 1
        rw [BitVec.ofNat_add, BitVec.add_comm (BitVec.ofNat 32 n), ← BitVec.add_assoc]
        rfl
  refine hWait (450 - (s.currentTick - s.dropTick team)).toNat s h hOver hDropped ?_
  rw [BitVec.ofNat_toNat, BitVec.setWidth_eq]
  bv_omega

theorem StaysFrozen.touch {s : Sim} (h : s.StaysFrozen rayDir) (hOver : s.matchOver = true) (id : Fin kMaxPlayers) :
    ¬ s.Touches id := by
  intro hTouch
  obtain ⟨hA, hL, hT, hC, -⟩ := stepped_fields s id
  refine (h.calm hOver).touch id ((touches_congr hA hL hT ?_ hC (stepped_frame s).1).mpr hTouch)
  have hAged := aged_of_living (h.calmTick hOver) hTouch.1
  have hStill := h.once.position id
  rw [stepped_players, if_pos ⟨hTouch.1.1, hTouch.1.2⟩]
  simp only [Player.moved, (popped_fields _).2.2.2.2.2.1]
  exact hAged.position.symm.trans hStill

theorem StaysFrozen.inputs (k : Nat) {s : Sim} (h : s.StaysFrozen rayDir) (hOver : s.matchOver = true)
    (id : Fin kMaxPlayers) (hActive : (s.players id).active = true) (e : SeqInput)
    (hQueued : (s.players id).queued[k]? = some e) :
    (movementStep { position := (s.players id).position } e.2 Map.arena).position = (s.players id).position ∧
      (e.2.pressed kInputFire = true → (k : Int) < (s.players id).fireCooldown) := by
  induction k generalizing s with
  | zero =>
    have hAlive := h.alive hOver id hActive
    have hAged := aged_of_living (h.calmTick hOver) ⟨hActive, hAlive⟩
    have hNext : (s.players id).nextInput = e.2 := by
      rw [Player.nextInput_eq hAlive, List.head?_eq_getElem?, hQueued]
      rfl
    refine ⟨?_, fun hPressed => ?_⟩
    · rw [← hNext]
      exact hAged.position.symm.trans (h.once.position id)
    · by_contra hReady
      obtain ⟨hA, hL, -, -, hF⟩ := stepped_fields s id
      refine (h.calm hOver).fire id ⟨⟨hA.trans hActive, hL.trans hAlive⟩, by rw [hF]; omega, ?_⟩
      rw [stepped_appliedCmds hActive, hNext]
      exact hPressed
  | succ k ih =>
    have hAged := aged_of_living (h.calmTick hOver) ⟨hActive, h.alive hOver id hActive⟩
    have hTail : ((s.tick rayDir []).players id).queued[k]? = some e := by
      rw [hAged.queued, List.getElem?_tail]
      exact hQueued
    obtain ⟨hStill, hFire⟩ := ih h.tick (h.calmTick hOver).matchOver hAged.active hTail
    rw [h.once.position id] at hStill
    refine ⟨hStill, fun hPressed => ?_⟩
    have := hFire hPressed
    rw [hAged.fireCooldown] at this
    split at this <;> omega

theorem frozen_iff_quiet (rayDir : RayDir) (s : Sim) (hOver : s.matchOver = true) :
    (∀ later, Frozen s (s.run rayDir later)) ↔ s.Quiet := by
  constructor
  · intro h
    have hFrozen : s.StaysFrozen rayDir := h
    exact ⟨hFrozen.alive hOver, hFrozen.flags hOver, hFrozen.touch hOver,
      fun id hActive k e hQueued => hFrozen.inputs k hOver id hActive e hQueued⟩
  · exact fun h => h.frozen_run hOver

/-- The commands put `p` into slot 0 of an empty server and do nothing else. -/
structure Brings (s : Sim) (cmds : List InboundCommand) (p : Player) : Prop where
  players : (s.drainInbound cmds).players = Function.update (fun _ => {}) 0 p
  flags : (s.drainInbound cmds).flags = s.flags
  score : (s.drainInbound cmds).score = s.score
  matchOver : (s.drainInbound cmds).matchOver = false
  currentTick : (s.drainInbound cmds).currentTick = s.currentTick

/-- The player in slot 0 moves, but touches no flag and does not fire. -/
structure Harmless (p : Player) : Prop where
  active : p.active = true
  popped : p.popped.active = true ∧ p.popped.alive = true
  holdsFire : p.nextInput.pressed kInputFire = false
  away : ¬ ({ init with players := Function.update (fun _ => {}) 0 (p.popped.moved p.nextInput) } : Sim).Touches 0

theorem Brings.movedBy {s : Sim} {cmds : List InboundCommand} {p : Player} (h : Brings s cmds p) (hp : Harmless p) :
    (s.movedBy cmds).players = Function.update (fun _ => {}) 0 (p.popped.moved p.nextInput) ∧
      (s.movedBy cmds).appliedCmds 0 = p.nextInput ∧
      (s.movedBy cmds).flags = s.flags ∧ (s.movedBy cmds).score = s.score ∧
      (s.movedBy cmds).matchOver = false ∧ (s.movedBy cmds).currentTick = s.currentTick := by
  simp only [Sim.movedBy, movePlayers_eq, popInputs_eq, h.players, h.flags, h.score, h.matchOver, h.currentTick, and_true]
  refine ⟨?_, ?_⟩
  · funext i
    by_cases hi : i = 0
    · subst hi
      simp [hp.active, hp.popped]
    · simp [hi]
  · simp [hp.active]

theorem Brings.calm {s : Sim} {n : Nat} {cmds : List InboundCommand} {p : Player} (h : Brings s cmds p)
    (hp : Harmless p) (hIdle : Idle s n) : (s.movedBy cmds).Calm := by
  obtain ⟨hPlayers, hCmd, hFlags, -⟩ := h.movedBy hp
  have hOnly : ∀ id, ((s.movedBy cmds).players id).active = true → id = 0 := by
    intro id hActive
    by_contra hne
    simp [hPlayers, hne] at hActive
  constructor
  · intro id hFires
    obtain rfl := hOnly id hFires.1.1
    have hPressed := hFires.2.2
    rw [hCmd, hp.holdsFire] at hPressed
    cases hPressed
  · intro team hDue
    have := hDue.1
    simp [hFlags, hIdle.flags, init] at this
  · intro id hTouch
    obtain rfl := hOnly id hTouch.1.1
    refine hp.away ?_
    rw [Touches, Living, hPlayers, hFlags, hIdle.flags] at hTouch
    exact hTouch
  · intro id hDue
    obtain rfl := hOnly id hDue.1
    have hDead := hDue.2.1
    rw [hPlayers, Function.update_self] at hDead
    simp [Player.moved, hp.popped] at hDead

theorem Brings.tick {s : Sim} {cmds : List InboundCommand} {p : Player} (h : Brings s cmds p) (hp : Harmless p)
    (hIdle : Idle s 18000) (rayDir : RayDir) :
    (s.tick rayDir cmds).players 0 = respawned (cooled (p.popped.moved p.nextInput)) ∧
      (s.tick rayDir cmds).matchOver = true := by
  obtain ⟨hPlayers, -, -, hScore, hMatch, hTick⟩ := h.movedBy hp
  have hOver : (s.movedBy cmds).calmed.winCheck.matchOver = true := by
    have hLimit : ((s.movedBy cmds).calmed.currentTick.toNat : Int) ≥ kMatchTimeLimitSec * kTickRateHz := by
      have : (s.movedBy cmds).calmed.currentTick = BitVec.ofNat 32 18000 := hTick.trans hIdle.currentTick
      rw [this]
      decide
    have hGoing : (s.movedBy cmds).calmed.matchOver = false := hMatch
    simp only [Sim.winCheck, hGoing, Bool.false_eq_true, if_false]
    rw [if_pos (Or.inr (Or.inr hLimit))]
    rfl
  rw [(h.calm hp hIdle).tick rayDir]
  refine ⟨?_, (publish_world _).2.2.2.trans hOver⟩
  simp only [publish_players, winCheck_players, Sim.calmed, hPlayers, Function.update_self]

theorem Idle.joins {s : Sim} {n : Nat} (h : Idle s n) :
    Brings s [.playerJoined (idByte 0) .red 0] (joined {} .red 0) := by
  have hJoin := applyCommand_join s 0 .red 0 h.matchOver (by rw [h.players])
  have hDrain : s.drainInbound [.playerJoined (idByte 0) .red 0] = s.applyCommand (.playerJoined (idByte 0) .red 0) := rfl
  rw [h.players] at hJoin
  constructor <;> rw [hDrain, hJoin]
  exact h.matchOver

def rightInput : InputCmd := { buttons := kInputRight }

def lastCommands : List InboundCommand :=
  [.playerJoined (idByte 0) .red 0, .playerInput (idByte 0) 1 rightInput, .playerInput (idByte 0) 2 rightInput]

/-- The player that joins in the last tick, with both inputs in its ring. -/
def lateJoiner : Player := ((joined {} .red 0).acceptInput 1 rightInput).acceptInput 2 rightInput

theorem Brings.input {s : Sim} {cmds : List InboundCommand} {p : Player} (h : Brings s cmds p)
    (hActive : p.active = true) (seq : U32) (input : InputCmd) :
    Brings s (cmds ++ [.playerInput (idByte 0) seq input]) (p.acceptInput seq input) := by
  have hDrain : s.drainInbound (cmds ++ [.playerInput (idByte 0) seq input]) =
      (s.drainInbound cmds).applyCommand (.playerInput (idByte 0) seq input) := List.foldl_concat ..
  have hInput := applyCommand_input (s.drainInbound cmds) 0 seq input h.matchOver (by rw [h.players]; exact hActive)
  rw [h.players, Function.update_self] at hInput
  constructor <;> rw [hDrain, hInput]
  · simp only [setPlayer, h.players, Function.update_idem]
  · exact h.flags
  · exact h.score
  · exact h.matchOver
  · exact h.currentTick

theorem Idle.brings_lateJoiner {s : Sim} {n : Nat} (h : Idle s n) : Brings s lastCommands lateJoiner :=
  (h.joins.input rfl 1 rightInput).input (by decide) 2 rightInput

theorem lateJoiner_harmless : Harmless lateJoiner :=
  ⟨by decide, by decide, by decide, fun h => (by have := h.2; revert this; decide +kernel)⟩

/-- Nobody joins for 18000 ticks, and the tick that ends the match also brings the first player. -/
def timedOut : Sim :=
  (configured 30 30 true).run (fun _ => (1024, 0)) (List.replicate 18000 [] ++ [lastCommands])

theorem timedOut_facts :
    timedOut.players 0 = respawned (cooled (lateJoiner.popped.moved lateJoiner.nextInput)) ∧ timedOut.matchOver = true := by
  have hIdle := idle_replicate (fun _ => (1024, 0)) 18000 le_rfl
  have h := hIdle.brings_lateJoiner.tick lateJoiner_harmless hIdle (fun _ => (1024, 0))
  rw [timedOut, run_append, run_cons]
  exact h

theorem frozen_iff_quiet_timedOut :
    timedOut.matchOver = true ∧
      ((∀ later, Frozen timedOut (timedOut.run (fun _ => (1024, 0)) later)) ↔ timedOut.Quiet) :=
  ⟨timedOut_facts.2, frozen_iff_quiet (fun _ => (1024, 0)) timedOut timedOut_facts.2⟩

/-- Player 0 joins and moves once in the tick that ends the match; its second input moves it again. -/
theorem finished_world_moves :
    timedOut.matchOver = true ∧ ¬ ∀ later, Frozen timedOut (timedOut.run (fun _ => (1024, 0)) later) := by
  obtain ⟨hPlayer, hOver⟩ := timedOut_facts
  refine ⟨hOver, fun h => ?_⟩
  have hFrozen : StaysFrozen (fun _ => (1024, 0)) timedOut := h
  have hInputs := (hFrozen.inputs 0 hOver 0 (by rw [hPlayer]; decide +kernel) (2, rightInput)
    (by rw [hPlayer]; decide +kernel)).1
  rw [hPlayer] at hInputs
  revert hInputs
  decide +kernel

end Sim
end CaptureTheFlag
