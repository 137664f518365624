import CaptureTheFlag.Server.Frozen

/-! # The match clock and the end of the match

The clock counts ticks from the start of the process. MATCH_END is pushed once, by the win check that sets
`match_over_`, and nothing resets either.
-/
namespace CaptureTheFlag
set_option autoImplicit false

namespace Sim

theorem drainInbound_frame (s : Sim) (cmds : List InboundCommand) :
    (s.drainInbound cmds).currentTick = s.currentTick ∧ (s.drainInbound cmds).matchOver = s.matchOver := by
  refine drainInbound_invariant (I := fun s' => s'.currentTick = s.currentTick ∧ s'.matchOver = s.matchOver) ?_ s cmds
    ⟨rfl, rfl⟩
  intro s₁ cmd s₂ hApplied h
  cases hApplied with
  | ignored => exact h
  | join => exact h
  | leave id =>
    simp only [leaveDrop]
    split <;> exact h
  | input => exact h

theorem movedBy_frame (s : Sim) (cmds : List InboundCommand) :
    (s.movedBy cmds).currentTick = s.currentTick ∧ (s.movedBy cmds).matchOver = s.matchOver := by
  simp only [movedBy, movePlayers_eq, popInputs_eq]
  exact drainInbound_frame s cmds

theorem phases_currentTick (rayDir : RayDir) (s : Sim) : (s.combat rayDir).flagsPhase.currentTick = s.currentTick := by
  have hCombat := Chain.invariant (I := fun s' => s'.currentTick = s.currentTick)
    (fun _ _ hChange h => by cases hChange <;> exact h) (combat_changes rayDir s) rfl
  have hTouch := Chain.invariant (I := fun s' => s'.currentTick = s.currentTick)
    (fun _ _ hChange h => by cases hChange <;> exact h) (touchPhase_changes _) hCombat
  exact Chain.invariant (I := fun s' => s'.currentTick = s.currentTick)
    (fun _ _ hChange h => by cases hChange <;> exact h) (respawnPhase_changes _) hTouch

theorem tick_at_limit (rayDir : RayDir) (s : Sim) (cmds : List InboundCommand) (h : 18000 ≤ s.currentTick.toNat) :
    (s.tick rayDir cmds).matchOver = true := by
  rw [tick_eq_finish, finish, ← movedBy]
  have hTick := phases_currentTick rayDir (s.movedBy cmds)
  rw [(movedBy_frame s cmds).1] at hTick
  generalize ((s.movedBy cmds).combat rayDir).flagsPhase = s' at hTick
  simp only
  rw [(publish_world _).2.2.2, winCheck]
  by_cases hOver : s'.matchOver = true
  · rw [if_pos hOver]
    exact hOver
  · rw [if_neg hOver]
    have hLimit : (s'.currentTick.toNat : Int) ≥ kMatchTimeLimitSec * kTickRateHz := by
      rw [hTick]
      simp only [kMatchTimeLimitSec, kTickRateHz]
      omega
    simp only
    rw [if_pos (Or.inr (Or.inr hLimit))]
    rfl

theorem run_stays_over (rayDir : RayDir) (ticks : List (List InboundCommand)) (s : Sim) (h : s.matchOver = true) :
    (s.run rayDir ticks).matchOver = true :=
  Chain.foldl_invariant (I := fun s => s.matchOver = true) (fun s cmds hOver => tick_stays_over rayDir s cmds hOver)
    ticks s h

theorem tick_currentTick (rayDir : RayDir) (s : Sim) (cmds : List InboundCommand) :
    (s.tick rayDir cmds).currentTick = s.currentTick + 1 := by
  rw [tick_eq_publish]
  simp only [publish_currentTick]
  rw [(published_publisher rayDir s cmds).currentTick]

theorem run_currentTick_from (rayDir : RayDir) (s : Sim) (ticks : List (List InboundCommand)) :
    (s.run rayDir ticks).currentTick = s.currentTick + BitVec.ofNat 32 ticks.length := by
  induction ticks using List.reverseRecOn with
  | nil => exact (BitVec.add_zero _).symm
  | append_singleton ticks cmds ih =>
    rw [run_snoc, tick_currentTick, ih, List.length_append, List.length_singleton, BitVec.ofNat_add, BitVec.add_assoc]
    rfl

theorem run_currentTick (rayDir : RayDir) (tickHz snapshotHz : Int) (delta : Bool) (ticks : List (List InboundCommand)) :
    ((configured tickHz snapshotHz delta).run rayDir ticks).currentTick = BitVec.ofNat 32 ticks.length := by
  rw [run_currentTick_from]
  exact BitVec.zero_add _

/-- Ten minutes after the process has started the match is over, whenever it began. -/
theorem run_over_of_long (rayDir : RayDir) (tickHz snapshotHz : Int) (delta : Bool) (ticks : List (List InboundCommand))
    (hn : 18000 < ticks.length) : ((configured tickHz snapshotHz delta).run rayDir ticks).matchOver = true := by
  have hLength : (ticks.take 18000).length = 18000 := by
    rw [List.length_take]
    omega
  have hClock := run_currentTick rayDir tickHz snapshotHz delta (ticks.take 18000)
  rw [hLength] at hClock
  rw [← List.take_append_drop 18000 ticks, run_append]
  cases hRest : ticks.drop 18000 with
  | nil =>
    have := congrArg List.length hRest
    rw [List.length_drop, List.length_nil] at this
    omega
  | cons cmds rest =>
    rw [run_cons]
    refine run_stays_over rayDir rest _ (tick_at_limit rayDir _ cmds ?_)
    rw [hClock]
    decide

def EndedOnce (s : Sim) : Prop := s.outbound.countP (·.isMatchEnd) = if s.matchOver then 1 else 0

theorem EndedOnce.congr {s s' : Sim} (h : EndedOnce s) (hOut : s'.outbound = s.outbound)
    (hOver : s'.matchOver = s.matchOver) : EndedOnce s' := by
  rw [EndedOnce, hOut, hOver]
  exact h

theorem EndedOnce.event {s s' : Sim} (h : EndedOnce s) (ev : OutboundEvent) (hEv : ev.isMatchEnd = false)
    (hOut : s'.outbound = s.outbound ++ [ev]) (hOver : s'.matchOver = s.matchOver) : EndedOnce s' := by
  have hNone : [ev].countP (·.isMatchEnd) = 0 := by simp [hEv]
  rw [EndedOnce, hOut, hOver, List.countP_append, hNone, Nat.add_zero]
  exact h

theorem endedOnce_preserved : Preserved EndedOnce where
  command s cmd s' hApplied h := by
    cases hApplied with
    | ignored => exact h
    | join => exact h.congr rfl rfl
    | leave id =>
      simp only [leaveDrop]
      split <;> exact h.congr rfl rfl
    | input => exact h.congr rfl rfl
  pop s h := by
    rw [popInputs_eq]
    exact h.congr rfl rfl
  move s h := by
    rw [movePlayers_eq]
    exact h.congr rfl rfl
  combat s s' hChange h := by
    cases hChange with
    | cool => exact h.congr rfl rfl
    | shoot id msg => exact h.event (.shotFired msg) rfl rfl rfl
    | wound => exact h.congr rfl rfl
    | kill id msg => exact h.event (.playerKilled msg) rfl rfl rfl
    | killCarrier id drop msg =>
      have hDropped : EndedOnce (s.push (.flagDropped drop)) := h.event (.flagDropped drop) rfl rfl rfl
      exact hDropped.event (.playerKilled msg) rfl rfl rfl
  flags s s' hChange h := by
    cases hChange with
    | follow => exact h.congr rfl rfl
    | flagReturn => exact h.event _ rfl rfl rfl
    | pickUp => exact h.event _ rfl rfl rfl
    | capture => exact h.event _ rfl rfl rfl
  respawn s s' hChange h := by
    cases hChange with
    | countDown => exact h.congr rfl rfl
    | respawn id msg => exact h.event (.playerRespawned msg) rfl rfl rfl
  win s h := by
    simp only [winCheck]
    split
    · exact h
    · rename_i hGoing
      split
      · rw [EndedOnce, if_neg hGoing] at h
        simp only [EndedOnce, push, List.countP_append, h]
        rfl
      · exact h
  publish s h := by
    simp only [publish]
    split
    · refine h.event (OutboundEvent.mk _ _ _ _ _) ?_ rfl rfl
      refine OutboundEvent.isMatchEnd_of_snapshot ?_
      split <;> rfl
    · exact h.congr rfl rfl
  clock s t h := h.congr rfl rfl

theorem endedOnce_run (rayDir : RayDir) (tickHz snapshotHz : Int) (delta : Bool) (ticks : List (List InboundCommand)) :
    EndedOnce ((configured tickHz snapshotHz delta).run rayDir ticks) :=
  endedOnce_preserved.run rayDir _ ticks rfl

theorem EndedOnce.iff {s : Sim} (h : EndedOnce s) : s.matchOver = true ↔ ∃ ev ∈ s.outbound, ev.isMatchEnd = true := by
  rw [EndedOnce] at h
  rw [← List.countP_pos_iff, h]
  cases s.matchOver <;> simp

end Sim
end CaptureTheFlag
