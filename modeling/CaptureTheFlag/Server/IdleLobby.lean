import CaptureTheFlag.Server.Idle
import CaptureTheFlag.Server.MatchClock

/-! # Waiting in the lobby

The simulation ticks from the start of the process, so the match clock runs while the lobby fills.
-/
namespace CaptureTheFlag
set_option autoImplicit false

namespace Sim

variable {rayDir : RayDir}

/-- Nothing of the match has been used up, and the joins take effect in the tick that drains them. -/
structure StartsFresh (before after : Sim) (joins : List InboundCommand) : Prop where
  going : before.matchOver = false
  silent : ∀ ev ∈ before.outbound, ev.isMatchEnd = false
  joined : ∀ id team spawnIndex, .playerJoined (idByte id) team spawnIndex ∈ joins →
    (after.players id).active = true ∧ ∃ team spawnIndex, .playerJoined (idByte id) team spawnIndex ∈ joins ∧
      (after.players id).team = team ∧ (after.players id).position = spawnPoint team (spawnSlot spawnIndex)
  goesOn : after.matchOver = false

/-- Every slot is as it was or holds a player that one of the joins brought. -/
structure Lined (s : Sim) (joins : List InboundCommand) (s' : Sim) : Prop where
  players : ∀ id, (s'.players id = {} ∧ ∀ team spawnIndex, .playerJoined (idByte id) team spawnIndex ∉ joins) ∨
    ∃ team spawnIndex, .playerJoined (idByte id) team spawnIndex ∈ joins ∧ s'.players id = joined {} team spawnIndex
  flags : s'.flags = s.flags
  score : s'.score = s.score

/-- A join takes the slot it names if that is free. -/
theorem join_players {s : Sim} (hGoing : s.matchOver = false) (id : U8) (team : Team) (spawnIndex : U8)
    (j : Fin kMaxPlayers) :
    (s.applyCommand (.playerJoined id team spawnIndex)).players j =
      if id = idByte j ∧ (s.players j).active = false then joined (s.players j) team spawnIndex else s.players j := by
  by_cases hId : id = idByte j
  · subst hId
    cases hActive : (s.players j).active with
    | false => simp [applyCommand_join s j team spawnIndex hGoing hActive]
    | true => simp [applyCommand, applyJoin_idByte, hActive]
  · rw [if_neg (fun h => hId h.1)]
    exact applyCommand_other s hId

theorem join_frame (s : Sim) (id : U8) (team : Team) (spawnIndex : U8) :
    (s.applyCommand (.playerJoined id team spawnIndex)).flags = s.flags ∧
      (s.applyCommand (.playerJoined id team spawnIndex)).score = s.score := by
  have hApplied := applyCommand_applied s (.playerJoined id team spawnIndex)
  generalize s.applyCommand (.playerJoined id team spawnIndex) = s' at hApplied ⊢
  cases hApplied with
  | ignored => exact ⟨rfl, rfl⟩
  | join => exact ⟨rfl, rfl⟩

theorem Lined.join {s s' : Sim} {joins : List InboundCommand} (h : Lined s joins s') (hGoing : s'.matchOver = false)
    (id : U8) (team : Team) (spawnIndex : U8) :
    Lined s (joins ++ [.playerJoined id team spawnIndex]) (s'.applyCommand (.playerJoined id team spawnIndex)) := by
  obtain ⟨hFlags, hScore⟩ := join_frame s' id team spawnIndex
  refine ⟨fun j => ?_, hFlags.trans h.flags, hScore.trans h.score⟩
  rw [join_players hGoing]
  rcases h.players j with ⟨hEmpty, hAbsent⟩ | ⟨team', spawnIndex', hMem, hPlayer⟩
  · by_cases hId : id = idByte j
    · subst hId
      refine Or.inr ⟨team, spawnIndex, List.mem_append_right _ List.mem_cons_self, ?_⟩
      rw [if_pos ⟨rfl, by rw [hEmpty]⟩, hEmpty]
    · rw [if_neg (fun hTaken => hId hTaken.1)]
      refine Or.inl ⟨hEmpty, fun team' spawnIndex' hMem => ?_⟩
      rcases List.mem_append.mp hMem with hMem | hMem
      · exact hAbsent team' spawnIndex' hMem
      · rw [List.mem_singleton] at hMem
        exact hId (congrArg InboundCommand.playerId hMem).symm
  · refine Or.inr ⟨team', spawnIndex', List.mem_append_left _ hMem, ?_⟩
    rw [if_neg, hPlayer]
    rintro ⟨-, hFree⟩
    rw [hPlayer] at hFree
    cases hFree

theorem Idle.lined {s : Sim} {n : Nat} (h : Idle s n) {joins : List InboundCommand}
    (hJoins : ∀ cmd ∈ joins, cmd.IsJoin = true) : Lined s joins (s.drainInbound joins) := by
  induction joins using List.reverseRecOn with
  | nil =>
    refine ⟨fun id => Or.inl ⟨?_, fun _ _ hMem => (by cases hMem)⟩, rfl, rfl⟩
    rw [drainInbound, List.foldl_nil, h.players]
  | append_singleton joins cmd ih =>
    have hLined := ih fun cmd hMem => hJoins cmd (List.mem_append_left _ hMem)
    have hGoing : (s.drainInbound joins).matchOver = false := (drainInbound_frame s joins).2.trans h.matchOver
    have hDrain : s.drainInbound (joins ++ [cmd]) = (s.drainInbound joins).applyCommand cmd := List.foldl_concat ..
    rw [hDrain]
    cases cmd with
    | playerJoined id team spawnIndex => exact hLined.join hGoing id team spawnIndex
    | playerLeft id => cases hJoins _ (List.mem_append_right _ List.mem_cons_self)
    | playerInput id seq input => cases hJoins _ (List.mem_append_right _ List.mem_cons_self)

/-- A player that has just joined and sent nothing. -/
theorem moved_joined (team : Team) (spawnIndex : U8) :
    (joined {} team spawnIndex).popped.moved (joined {} team spawnIndex).nextInput = joined {} team spawnIndex := by
  have hStill := movementStep_still { position := spawnPoint team (spawnSlot spawnIndex) } {} Map.arena (by decide)
  have hPopped : (joined {} team spawnIndex).popped = joined {} team spawnIndex := if_neg (by simp [joined])
  have hNext : (joined {} team spawnIndex).nextInput = {} := if_neg (by simp [joined])
  rw [hPopped, hNext, Player.moved]
  simp only [joined, hStill]

theorem spawn_away (team : Team) (index : Fin kMaxPlayers) :
    aabbOverlap (spawnPoint team index) (baseOf team.other) = false := by
  cases team <;> (revert index; decide +kernel)

theorem Lined.movedBy {s : Sim} {joins : List InboundCommand} (h : Lined s joins (s.drainInbound joins)) :
    (s.movedBy joins).players = (s.drainInbound joins).players ∧
      (∀ id, ((s.movedBy joins).players id).active = true → (s.movedBy joins).appliedCmds id = {}) ∧
      (s.movedBy joins).flags = s.flags ∧ (s.movedBy joins).score = s.score := by
  simp only [Sim.movedBy, movePlayers_eq, popInputs_eq, h.flags, h.score, and_true]
  refine ⟨funext fun id => ?_, fun id hActive => ?_⟩
  · rcases h.players id with ⟨hEmpty, -⟩ | ⟨team, spawnIndex, -, hPlayer⟩
    · simp only [hEmpty, Bool.false_eq_true, if_false, false_and]
    · simp only [hPlayer]
      exact moved_joined team spawnIndex
  · rcases h.players id with ⟨hEmpty, -⟩ | ⟨team, spawnIndex, -, hPlayer⟩
    · simp [hEmpty] at hActive
    · simp only [hPlayer]
      rfl

theorem Lined.calm {s : Sim} {n : Nat} {joins : List InboundCommand} (h : Lined s joins (s.drainInbound joins))
    (hIdle : Idle s n) : (s.movedBy joins).Calm := by
  obtain ⟨hPlayers, hCmds, hFlags, -⟩ := h.movedBy
  constructor
  · intro id hFires
    have hPressed := hFires.2.2
    rw [hCmds id hFires.1.1] at hPressed
    cases hPressed
  · intro team hDue
    have hDropped := hDue.1
    simp [hFlags, hIdle.flags, init] at hDropped
  · intro id hTouch
    obtain ⟨⟨hActive, -⟩, hTouch⟩ := hTouch
    rw [hPlayers] at hActive hTouch
    rw [hFlags, hIdle.flags] at hTouch
    rcases h.players id with ⟨hEmpty, -⟩ | ⟨team, spawnIndex, -, hPlayer⟩
    · simp [hEmpty] at hActive
    · rw [hPlayer] at hTouch
      rcases hTouch with ⟨hDropped, -⟩ | ⟨-, -, hOverlap⟩ | ⟨hCarries, -⟩
      · cases hDropped
      · exact Bool.false_ne_true ((spawn_away team (spawnSlot spawnIndex)).symm.trans hOverlap)
      · cases hCarries
  · intro id hDue
    obtain ⟨hActive, hDead, -⟩ := hDue
    rw [hPlayers] at hActive hDead
    rcases h.players id with ⟨hEmpty, -⟩ | ⟨team, spawnIndex, -, hPlayer⟩
    · simp [hEmpty] at hActive
    · rw [hPlayer] at hDead
      cases hDead

theorem Lined.tick {s : Sim} {n : Nat} {joins : List InboundCommand} (h : Lined s joins (s.drainInbound joins))
    (hIdle : Idle s n) (hn : n < 18000) (rayDir : RayDir) :
    (s.tick rayDir joins).players = (s.drainInbound joins).players ∧ (s.tick rayDir joins).matchOver = false := by
  obtain ⟨hPlayers, -, hFlags, hScore⟩ := h.movedBy
  obtain ⟨hTick, hMatch⟩ := movedBy_frame s joins
  have hEarly : (s.movedBy joins).calmed.winCheck = (s.movedBy joins).calmed :=
    winCheck_early (hMatch.trans hIdle.matchOver) (hScore.trans hIdle.score) (hTick.trans hIdle.currentTick) hn
  rw [(h.calm hIdle).tick rayDir, hEarly]
  refine ⟨?_, (publish_world _).2.2.2.trans (hMatch.trans hIdle.matchOver)⟩
  simp only [publish_players, calmed, hPlayers]
  funext id
  rcases h.players id with ⟨hEmpty, -⟩ | ⟨team, spawnIndex, -, hPlayer⟩
  · rw [hEmpty]
    rfl
  · rw [hPlayer]
    rfl

/-- Snapshots are all that an empty server sends. -/
theorem Idle.tick_silent {s : Sim} {n : Nat} (h : Idle s n) (hn : n < 18000) (rayDir : RayDir)
    (hSilent : ∀ ev ∈ s.outbound, ev.isSnapshot = true) : ∀ ev ∈ (s.tick rayDir []).outbound, ev.isSnapshot = true := by
  have hCalm : (s.movedBy []).Calm := by
    rw [h.movedBy]
    exact h.calm
  have hNone : s.outbound.filter (fun ev => !ev.isSnapshot) = [] := by
    rw [List.filter_eq_nil_iff]
    intro ev hMem
    simp [hSilent ev hMem]
  rw [hCalm.tick rayDir, h.movedBy, h.calmed, winCheck_early h.matchOver h.score h.currentTick hn]
  have hPublish := (publish_events s).trans hNone
  rw [List.filter_eq_nil_iff] at hPublish
  intro ev hMem
  simpa using hPublish ev hMem

theorem idle_silent (rayDir : RayDir) (tickHz snapshotHz : Int) (delta : Bool) (idle : List (List InboundCommand))
    (hNone : ∀ cmds ∈ idle, ∀ cmd ∈ cmds, cmd.IsJoin = false) (hn : idle.length ≤ 18000) :
    ∀ ev ∈ ((configured tickHz snapshotHz delta).run rayDir idle).outbound, ev.isSnapshot = true := by
  induction idle using List.reverseRecOn with
  | nil =>
    intro ev hMem
    cases hMem
  | append_singleton idle cmds ih =>
    have hNone' : ∀ cmds ∈ idle, ∀ cmd ∈ cmds, cmd.IsJoin = false := fun cmds hMem =>
      hNone cmds (List.mem_append_left _ hMem)
    rw [List.length_append, List.length_singleton] at hn
    have hBefore := idle_run rayDir tickHz snapshotHz delta idle hNone' (by omega)
    rw [run_snoc, hBefore.tick_eq (hNone cmds (List.mem_append_right _ List.mem_cons_self))]
    exact hBefore.tick_silent (by omega) rayDir (ih hNone' (by omega))

/-- The lobby may idle for less than ten minutes. -/
theorem startsFresh_iff (rayDir : RayDir) (tickHz snapshotHz : Int) (delta : Bool) (idle : List (List InboundCommand))
    (hNone : ∀ cmds ∈ idle, ∀ cmd ∈ cmds, cmd.IsJoin = false) (joins : List InboundCommand)
    (hJoins : ∀ cmd ∈ joins, cmd.IsJoin = true) :
    StartsFresh ((configured tickHz snapshotHz delta).run rayDir idle)
      (((configured tickHz snapshotHz delta).run rayDir idle).tick rayDir joins) joins ↔ idle.length < 18000 := by
  constructor
  · intro h
    by_contra hLong
    rcases Nat.lt_or_ge 18000 idle.length with hLt | hLe
    · cases h.going.symm.trans (run_over_of_long rayDir tickHz snapshotHz delta idle hLt)
    · have hIdle := idle_run rayDir tickHz snapshotHz delta idle hNone hLe
      have hLimit : 18000 ≤ ((configured tickHz snapshotHz delta).run rayDir idle).currentTick.toNat := by
        rw [hIdle.currentTick, BitVec.toNat_ofNat]
        omega
      cases h.goesOn.symm.trans (tick_at_limit rayDir _ joins hLimit)
  · intro hShort
    have hIdle := idle_run rayDir tickHz snapshotHz delta idle hNone (Nat.le_of_lt hShort)
    have hLined := hIdle.lined hJoins
    obtain ⟨hPlayers, hGoing⟩ := hLined.tick hIdle hShort rayDir
    refine ⟨hIdle.matchOver, fun ev hMem => ?_, fun id team spawnIndex hMem => ?_, hGoing⟩
    · exact OutboundEvent.isMatchEnd_of_snapshot
        (idle_silent rayDir tickHz snapshotHz delta idle hNone (Nat.le_of_lt hShort) ev hMem)
    · rw [hPlayers]
      rcases hLined.players id with ⟨-, hAbsent⟩ | ⟨team', spawnIndex', hMem', hPlayer⟩
      · exact absurd hMem (hAbsent team spawnIndex)
      · rw [hPlayer]
        exact ⟨rfl, team', spawnIndex', hMem', rfl, rfl⟩

def twoJoins : List InboundCommand := [.playerJoined (idByte 0) .red 0, .playerJoined (idByte 1) .blue 0]

/-- The lobby has been empty for 17999 ticks, and there is time for one more. -/
theorem startsFresh_just_in_time :
    let before := (configured 30 30 true).run (fun _ => (0, 0)) (List.replicate 17999 [])
    StartsFresh before (before.tick (fun _ => (0, 0)) twoJoins) twoJoins := by
  have hNone : ∀ cmds ∈ List.replicate 17999 ([] : List InboundCommand), ∀ cmd ∈ cmds, cmd.IsJoin = false := by
    intro cmds hMem cmd hCmd
    rw [List.eq_of_mem_replicate hMem] at hCmd
    cases hCmd
  apply (startsFresh_iff (fun _ => (0, 0)) 30 30 true (List.replicate 17999 []) hNone twoJoins (by decide)).mpr
  rw [List.length_replicate]
  decide

/-- After 18001 ticks without a player the match is over, and no match can begin any more. -/
theorem idle_lobby_consumes_match :
    let before := (configured 30 30 true).run (fun _ => (0, 0)) (List.replicate 18001 [])
    before.matchOver = true ∧ ¬ StartsFresh before (before.tick (fun _ => (0, 0)) twoJoins) twoJoins := by
  have hOver := run_over_of_long (fun _ => (0, 0)) 30 30 true (List.replicate 18001 []) (by rw [List.length_replicate]; omega)
  exact ⟨hOver, fun h => by cases h.going.symm.trans hOver⟩

end Sim
end CaptureTheFlag
