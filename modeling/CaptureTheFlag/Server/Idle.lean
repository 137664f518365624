import CaptureTheFlag.Server.Quiet

/-! # An empty server

Nobody joins; the clock runs up to the time limit.
-/
namespace CaptureTheFlag
set_option autoImplicit false

namespace Sim

/-- Nobody has joined and nothing has happened in `n` ticks. -/
structure Idle (s : Sim) (n : Nat) : Prop where
  players : s.players = fun _ => {}
  flags : s.flags = init.flags
  score : s.score = init.score
  matchOver : s.matchOver = false
  currentTick : s.currentTick = BitVec.ofNat 32 n

theorem Idle.movedBy {s : Sim} {n : Nat} (h : Idle s n) : s.movedBy [] = s := by
  have hSlot : ({} : Player).active = false := rfl
  simp only [Sim.movedBy, drainInbound, List.foldl_nil, movePlayers_eq, popInputs_eq, h.players, hSlot,
    Bool.false_eq_true, if_false, false_and]
  rw [← h.players]

theorem Idle.calm {s : Sim} {n : Nat} (h : Idle s n) : s.Calm where
  fire id hFires := by
    have := hFires.1.1
    simp [h.players] at this
  drop team hDue := by
    have := hDue.1
    simp [h.flags, init] at this
  touch id hTouch := by
    have := hTouch.1.1
    simp [h.players] at this
  respawn id hDue := by
    have := hDue.1
    simp [h.players] at this

theorem Idle.calmed {s : Sim} {n : Nat} (h : Idle s n) : s.calmed = s := by
  have hPlayer : respawned (cooled ({} : Player)) = {} := rfl
  have hFollow : s.followed = s.flags := by
    funext team
    simp [followed, h.flags, init]
  simp only [Sim.calmed, h.players, hPlayer, hFollow]
  rw [← h.players]

theorem winCheck_early {s : Sim} {n : Nat} (hMatch : s.matchOver = false) (hScore : s.score = init.score)
    (hTick : s.currentTick = BitVec.ofNat 32 n) (hn : n < 18000) : s.winCheck = s := by
  have hNow : s.currentTick.toNat = n := by
    rw [hTick, BitVec.toNat_ofNat]
    omega
  have hPoints : (0 : U8).toNat = 0 ∧ kScoreToWin.toNat = 3 := by decide
  simp only [winCheck, hMatch, hScore, init, hNow, Bool.false_eq_true, if_false, hPoints]
  rw [if_neg]
  simp only [kMatchTimeLimitSec, kTickRateHz]
  omega

theorem Idle.tick {s : Sim} {n : Nat} (h : Idle s n) (hn : n < 18000) (rayDir : RayDir) :
    Idle (s.tick rayDir []) (n + 1) := by
  obtain ⟨hFlags, hScore, -, hMatch⟩ := publish_world s
  have hCalm : (s.movedBy []).Calm := by
    rw [h.movedBy]
    exact h.calm
  rw [hCalm.tick rayDir, h.movedBy, h.calmed, winCheck_early h.matchOver h.score h.currentTick hn]
  constructor
  · simp only [publish_players]
    exact h.players
  · exact hFlags.trans h.flags
  · exact hScore.trans h.score
  · exact hMatch.trans h.matchOver
  · simp only [publish_currentTick]
    rw [h.currentTick, BitVec.ofNat_add]
    rfl

theorem Idle.drains {s : Sim} {n : Nat} (h : Idle s n) {cmds : List InboundCommand}
    (hNone : ∀ cmd ∈ cmds, cmd.IsJoin = false) : s.drainInbound cmds = s := by
  have hNobody : ∀ id, (s.players id).active = false := fun id => by rw [h.players]
  induction cmds with
  | nil => rfl
  | cons cmd cmds ih =>
    have hApplied := applyCommand_applied s cmd
    have hIgnored : s.applyCommand cmd = s := by
      generalize s.applyCommand cmd = s' at hApplied
      cases hApplied with
      | ignored => rfl
      | join => cases hNone _ List.mem_cons_self
      | leave id hGoing hActive => cases (hNobody id).symm.trans hActive
      | input id seq input hGoing hActive => cases (hNobody id).symm.trans hActive
    rw [drainInbound_cons, hIgnored]
    exact ih fun cmd hMem => hNone cmd (List.mem_cons_of_mem _ hMem)

theorem Idle.tick_eq {s : Sim} {n : Nat} (h : Idle s n) {cmds : List InboundCommand}
    (hNone : ∀ cmd ∈ cmds, cmd.IsJoin = false) (rayDir : RayDir) : s.tick rayDir cmds = s.tick rayDir [] := by
  rw [tick_eq_finish, tick_eq_finish, h.drains hNone]
  rfl

theorem idle_run (rayDir : RayDir) (tickHz snapshotHz : Int) (delta : Bool) (idle : List (List InboundCommand))
    (hNone : ∀ cmds ∈ idle, ∀ cmd ∈ cmds, cmd.IsJoin = false) (hn : idle.length ≤ 18000) :
    Idle ((configured tickHz snapshotHz delta).run rayDir idle) idle.length := by
  induction idle using List.reverseRecOn with
  | nil => exact ⟨rfl, rfl, rfl, rfl, rfl⟩
  | append_singleton idle cmds ih =>
    rw [List.length_append, List.length_singleton] at hn ⊢
    have hBefore := ih (fun cmds hMem => hNone cmds (List.mem_append_left _ hMem)) (by omega)
    rw [run_snoc, hBefore.tick_eq (hNone cmds (List.mem_append_right _ List.mem_cons_self))]
    exact hBefore.tick (by omega) rayDir

theorem idle_replicate (rayDir : RayDir) (n : Nat) (hn : n ≤ 18000) :
    Idle ((configured 30 30 true).run rayDir (List.replicate n [])) n := by
  have hIdle := idle_run rayDir 30 30 true (List.replicate n []) ?_ (by rwa [List.length_replicate])
  · rwa [List.length_replicate] at hIdle
  · intro cmds hMem cmd hCmd
    rw [List.eq_of_mem_replicate hMem] at hCmd
    cases hCmd

end Sim
end CaptureTheFlag
