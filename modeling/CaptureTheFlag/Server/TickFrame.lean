import CaptureTheFlag.Server.SimPhases

/-! # What combat, flags and the win check leave alone

Neither the input side of a player nor the publishing side of the simulation is touched between movement
and `publish`; the events pushed there are game events, not snapshots.
-/
namespace CaptureTheFlag
set_option autoImplicit false

namespace Sim

structure SameInputs (p q : Player) : Prop where
  active : q.active = p.active
  team : q.team = p.team
  ring : q.ring = p.ring
  seqs : q.seqs = p.seqs
  ringHead : q.ringHead = p.ringHead
  ringCount : q.ringCount = p.ringCount
  newestSeq : q.newestSeq = p.newestSeq
  lastInputSeq : q.lastInputSeq = p.lastInputSeq

theorem SameInputs.refl (p : Player) : SameInputs p p := ⟨rfl, rfl, rfl, rfl, rfl, rfl, rfl, rfl⟩

theorem SameInputs.trans {p q r : Player} (h : SameInputs p q) (h' : SameInputs q r) : SameInputs p r where
  active := h'.active.trans h.active
  team := h'.team.trans h.team
  ring := h'.ring.trans h.ring
  seqs := h'.seqs.trans h.seqs
  ringHead := h'.ringHead.trans h.ringHead
  ringCount := h'.ringCount.trans h.ringCount
  newestSeq := h'.newestSeq.trans h.newestSeq
  lastInputSeq := h'.lastInputSeq.trans h.lastInputSeq

/-- The publishing side is the same, and whatever was pushed is no snapshot. -/
structure SamePublisher (s s' : Sim) : Prop where
  playerAcks : s'.playerAcks = s.playerAcks
  tickHz : s'.tickHz = s.tickHz
  snapshotHz : s'.snapshotHz = s.snapshotHz
  deltaSnapshots : s'.deltaSnapshots = s.deltaSnapshots
  prevPublished : s'.prevPublished = s.prevPublished
  havePublished : s'.havePublished = s.havePublished
  snapshotsPublished : s'.snapshotsPublished = s.snapshotsPublished
  currentTick : s'.currentTick = s.currentTick
  outbound : ∃ events, s'.outbound = s.outbound ++ events ∧ ∀ ev ∈ events, ev.isSnapshot = false

theorem SamePublisher.refl (s : Sim) : SamePublisher s s :=
  ⟨rfl, rfl, rfl, rfl, rfl, rfl, rfl, rfl, [], by simp, by simp⟩

theorem SamePublisher.trans {s s' s'' : Sim} (h : SamePublisher s s') (h' : SamePublisher s' s'') :
    SamePublisher s s'' where
  playerAcks := h'.playerAcks.trans h.playerAcks
  tickHz := h'.tickHz.trans h.tickHz
  snapshotHz := h'.snapshotHz.trans h.snapshotHz
  deltaSnapshots := h'.deltaSnapshots.trans h.deltaSnapshots
  prevPublished := h'.prevPublished.trans h.prevPublished
  havePublished := h'.havePublished.trans h.havePublished
  snapshotsPublished := h'.snapshotsPublished.trans h.snapshotsPublished
  currentTick := h'.currentTick.trans h.currentTick
  outbound := by
    obtain ⟨events, hEvents, hGame⟩ := h.outbound
    obtain ⟨events', hEvents', hGame'⟩ := h'.outbound
    refine ⟨events ++ events', by rw [hEvents', hEvents, List.append_assoc], ?_⟩
    intro ev hMem
    rcases List.mem_append.mp hMem with hMem | hMem
    · exact hGame ev hMem
    · exact hGame' ev hMem

structure Frame (s s' : Sim) : Prop where
  inputs : ∀ id, SameInputs (s.players id) (s'.players id)
  appliedCmds : s'.appliedCmds = s.appliedCmds
  publisher : SamePublisher s s'

theorem Frame.refl (s : Sim) : Frame s s := ⟨fun _ => SameInputs.refl _, rfl, SamePublisher.refl s⟩

theorem Frame.trans {s s' s'' : Sim} (h : Frame s s') (h' : Frame s' s'') : Frame s s'' where
  inputs id := (h.inputs id).trans (h'.inputs id)
  appliedCmds := h'.appliedCmds.trans h.appliedCmds
  publisher := h.publisher.trans h'.publisher

theorem Frame.setPlayer {s s' : Sim} (h : Frame s s') (id : Fin kMaxPlayers) (p : Player)
    (hSame : SameInputs (s'.players id) p) : Frame s (s'.setPlayer id p) where
  inputs i := by
    by_cases hi : i = id
    · subst hi
      simpa [Sim.setPlayer] using (h.inputs i).trans hSame
    · simpa [Sim.setPlayer, hi] using h.inputs i
  appliedCmds := h.appliedCmds
  publisher := { h.publisher with }

theorem Frame.push {s s' : Sim} (h : Frame s s') (ev : OutboundEvent) (hGame : ev.isSnapshot = false) :
    Frame s (s'.push ev) :=
  h.trans ⟨fun _ => SameInputs.refl _, rfl, ⟨rfl, rfl, rfl, rfl, rfl, rfl, rfl, rfl, [ev], rfl, by simpa using hGame⟩⟩

theorem Frame.world (s : Sim) (flags : Team → FlagInfo) (dropTick : Team → U32) (score : Team → U8)
    (matchOver : Bool) : Frame s { s with flags, dropTick, score, matchOver } :=
  ⟨fun _ => SameInputs.refl _, rfl, { SamePublisher.refl s with }⟩

theorem Frame.combat {s s' : Sim} (h : CombatChange True s s') : Frame s s' := by
  cases h with
  | cool id hLive => exact (Frame.refl s).setPlayer id _ ⟨rfl, rfl, rfl, rfl, rfl, rfl, rfl, rfl⟩
  | shoot id msg hLive =>
    exact ((Frame.refl s).push _ rfl).setPlayer id _ ⟨rfl, rfl, rfl, rfl, rfl, rfl, rfl, rfl⟩
  | wound id health hLive => exact (Frame.refl s).setPlayer id _ ⟨rfl, rfl, rfl, rfl, rfl, rfl, rfl, rfl⟩
  | kill id msg hLive hFree =>
    refine Frame.push ?_ _ rfl
    exact (Frame.refl s).setPlayer id _ ⟨rfl, rfl, rfl, rfl, rfl, rfl, rfl, rfl⟩
  | killCarrier id drop msg _ hLive hCarries =>
    refine Frame.push (Frame.setPlayer (Frame.push ?_ _ rfl) id _ ?_) _ rfl
    · exact Frame.world s _ _ s.score s.matchOver
    · exact ⟨rfl, rfl, rfl, rfl, rfl, rfl, rfl, rfl⟩

theorem Frame.flags {s s' : Sim} (h : FlagChange s s') : Frame s s' := by
  cases h with
  | follow team position hCarried => exact Frame.world s _ s.dropTick s.score s.matchOver
  | flagReturn team playerId hDropped =>
    refine Frame.push ?_ _ rfl
    exact Frame.world s _ s.dropTick s.score s.matchOver
  | pickUp id hLive hFree hState hTouch =>
    refine Frame.push (Frame.setPlayer ?_ id _ ?_) _ rfl
    · exact Frame.world s _ s.dropTick s.score s.matchOver
    · exact ⟨rfl, rfl, rfl, rfl, rfl, rfl, rfl, rfl⟩
  | capture id hLive hCarries =>
    have hPlayer : Frame s (s.setPlayer id { s.players id with carryingFlag := false }) :=
      (Frame.refl s).setPlayer id _ ⟨rfl, rfl, rfl, rfl, rfl, rfl, rfl, rfl⟩
    exact (hPlayer.trans (Frame.world _ _ s.dropTick _ s.matchOver)).push _ rfl

theorem Frame.respawn {s s' : Sim} (h : RespawnChange s s') : Frame s s' := by
  cases h with
  | countDown id hDead => exact (Frame.refl s).setPlayer id _ ⟨rfl, rfl, rfl, rfl, rfl, rfl, rfl, rfl⟩
  | respawn id msg hActive hDead hDue =>
    refine Frame.push (Frame.setPlayer (Frame.refl s) id _ ?_) _ rfl
    exact ⟨rfl, rfl, rfl, rfl, rfl, rfl, rfl, rfl⟩

theorem Frame.win (s : Sim) : Frame s s.winCheck := by
  simp only [winCheck]
  split
  · exact Frame.refl s
  · split
    · exact (Frame.world s s.flags s.dropTick s.score true).push _ rfl
    · exact Frame.refl s

theorem Frame.combats {s s' : Sim} (h : Relation.ReflTransGen (CombatChange True) s s') : Frame s s' :=
  Chain.invariant (I := Frame s) (fun _ _ hChange h => h.trans (Frame.combat hChange)) h (Frame.refl s)

theorem Frame.touches {s s' : Sim} (h : Relation.ReflTransGen FlagChange s s') : Frame s s' :=
  Chain.invariant (I := Frame s) (fun _ _ hChange h => h.trans (Frame.flags hChange)) h (Frame.refl s)

theorem Frame.respawns {s s' : Sim} (h : Relation.ReflTransGen RespawnChange s s') : Frame s s' :=
  Chain.invariant (I := Frame s) (fun _ _ hChange h => h.trans (Frame.respawn hChange)) h (Frame.refl s)

def settled (rayDir : RayDir) (s : Sim) : Sim := ((s.combat rayDir).flagsPhase).winCheck

theorem settled_frame (rayDir : RayDir) (s : Sim) : Frame s (s.settled rayDir) := by
  rw [settled, flagsPhase_eq]
  exact (((Frame.combats (combat_changes rayDir s)).trans (Frame.touches (touchPhase_changes _))).trans
    (Frame.respawns (respawnPhase_changes _))).trans (Frame.win _)

/-- The three phases before combat push nothing. -/
theorem drainInbound_publisher (s : Sim) (cmds : List InboundCommand) : SamePublisher s (s.drainInbound cmds) := by
  refine drainInbound_invariant (I := SamePublisher s) ?_ s cmds (SamePublisher.refl s)
  intro s' cmd s'' hApplied h
  refine h.trans ?_
  cases hApplied with
  | ignored => exact SamePublisher.refl s'
  | join id team spawnIndex hGoing hFree => exact { SamePublisher.refl s' with }
  | leave id hGoing hActive =>
    simp only [leaveDrop]
    split <;> exact { SamePublisher.refl s' with }
  | input id seq input hGoing hActive => exact { SamePublisher.refl s' with }

theorem moved_publisher (s : Sim) (cmds : List InboundCommand) :
    SamePublisher s (s.drainInbound cmds).popInputs.movePlayers := by
  rw [movePlayers_eq, popInputs_eq]
  exact { drainInbound_publisher s cmds with }

/-- The state in which a tick publishes. -/
def published (rayDir : RayDir) (s : Sim) (cmds : List InboundCommand) : Sim :=
  (s.drainInbound cmds).popInputs.movePlayers.settled rayDir

theorem published_publisher (rayDir : RayDir) (s : Sim) (cmds : List InboundCommand) :
    SamePublisher s (s.published rayDir cmds) :=
  (moved_publisher s cmds).trans (settled_frame rayDir _).publisher

theorem tick_eq_publish (rayDir : RayDir) (s : Sim) (cmds : List InboundCommand) :
    s.tick rayDir cmds =
      { (s.published rayDir cmds).publish with
        currentTick := (s.published rayDir cmds).publish.currentTick + 1 } := rfl

theorem finish_eq (rayDir : RayDir) (s : Sim) :
    s.finish rayDir =
      { (s.settled rayDir).publish with currentTick := (s.settled rayDir).publish.currentTick + 1 } := rfl

@[simp] theorem publish_players (s : Sim) : s.publish.players = s.players := by
  simp only [publish]
  split <;> rfl

@[simp] theorem publish_appliedCmds (s : Sim) : s.publish.appliedCmds = s.appliedCmds := by
  simp only [publish]
  split <;> rfl

@[simp] theorem publish_currentTick (s : Sim) : s.publish.currentTick = s.currentTick := by
  simp only [publish]
  split <;> rfl

@[simp] theorem publish_playerAcks (s : Sim) :
    s.publish.playerAcks =
      fun id => if (s.players id).active then (s.players id).lastInputSeq else s.playerAcks id := by
  simp only [publish]
  split <;> rfl

theorem publish_world (s : Sim) :
    s.publish.flags = s.flags ∧ s.publish.score = s.score ∧ s.publish.dropTick = s.dropTick ∧
      s.publish.matchOver = s.matchOver := by
  simp only [publish]
  split <;> exact ⟨rfl, rfl, rfl, rfl⟩

theorem publish_outbound (s : Sim) :
    ∃ events, s.publish.outbound = s.outbound ++ events ∧ ∀ ev ∈ events, ev.acks = s.publish.playerAcks := by
  rw [publish_playerAcks]
  simp only [publish]
  split
  · exact ⟨[_], rfl, by simp [snapshotEvent]⟩
  · exact ⟨[], by simp, by simp⟩

/-- Every snapshot of a tick carries the acks as they stand at its end. -/
theorem tick_outbound (rayDir : RayDir) (s : Sim) (cmds : List InboundCommand) :
    ∃ events, (s.tick rayDir cmds).outbound = s.outbound ++ events ∧
      ∀ ev ∈ events, ev.isSnapshot = true → ev.acks = (s.tick rayDir cmds).playerAcks := by
  obtain ⟨game, hGame, hNone⟩ := (published_publisher rayDir s cmds).outbound
  obtain ⟨snaps, hSnaps, hAcks⟩ := publish_outbound (s.published rayDir cmds)
  refine ⟨game ++ snaps, ?_, ?_⟩
  · rw [tick_eq_publish]
    simp only [hSnaps, hGame, List.append_assoc]
  · intro ev hMem hSnapshot
    rcases List.mem_append.mp hMem with hMem | hMem
    · rw [hNone ev hMem] at hSnapshot
      cases hSnapshot
    · rw [hAcks ev hMem, tick_eq_publish]

/-- The events of one kind that a tick pushes. -/
theorem tick_pushed {rayDir : RayDir} {s : Sim} {cmds : List InboundCommand} {kind : OutboundEvent → Bool}
    {events : List OutboundEvent}
    (h : (s.tick rayDir cmds).outbound.filter kind = s.outbound.filter kind ++ events) :
    ((s.tick rayDir cmds).outbound.drop s.outbound.length).filter kind = events := by
  obtain ⟨pushed, hPushed, -⟩ := tick_outbound rayDir s cmds
  rw [hPushed, List.filter_append] at h
  rw [hPushed, List.drop_left]
  exact List.append_cancel_left h

/-- `pos` is where player `id` stands, and it will not respawn in this tick. -/
def Stays (s : Sim) (id : Fin kMaxPlayers) (pos : Vec2Fixed) : Prop :=
  (s.players id).position = pos ∧ ((s.players id).alive = true ∨ (s.players id).respawnTimer = kRespawnDelayTicks)

theorem Stays.setPlayer {s : Sim} {id : Fin kMaxPlayers} {pos : Vec2Fixed} (h : Stays s id pos)
    (i : Fin kMaxPlayers) (p : Player) (hPos : p.position = (s.players i).position)
    (hLife : p.alive = true ∨ p.respawnTimer = kRespawnDelayTicks ∨
      (p.alive = (s.players i).alive ∧ p.respawnTimer = (s.players i).respawnTimer)) :
    Stays (s.setPlayer i p) id pos := by
  by_cases hi : id = i
  · subst hi
    simp only [Stays, Sim.setPlayer, Function.update_self, hPos]
    refine ⟨h.1, ?_⟩
    rcases hLife with hLife | hLife | ⟨hAlive, hTimer⟩
    · exact Or.inl hLife
    · exact Or.inr hLife
    · rw [hAlive, hTimer]
      exact h.2
  · simpa [Stays, Sim.setPlayer, hi] using h

theorem Stays.combat {s s' : Sim} {id : Fin kMaxPlayers} {pos : Vec2Fixed} (hChange : CombatChange True s s')
    (h : Stays s id pos) : Stays s' id pos := by
  cases hChange with
  | cool i hLive => exact h.setPlayer i _ rfl (Or.inr (Or.inr ⟨rfl, rfl⟩))
  | shoot i msg hLive => exact Stays.setPlayer (s := s.push (.shotFired msg)) h i _ rfl (Or.inr (Or.inr ⟨rfl, rfl⟩))
  | wound i health hLive => exact h.setPlayer i _ rfl (Or.inr (Or.inr ⟨rfl, rfl⟩))
  | kill i msg hLive hFree => exact h.setPlayer i (dead _) rfl (Or.inr (Or.inl rfl))
  | killCarrier i drop msg _ hLive hCarries =>
    exact h.setPlayer i { dead (s.players i) with carryingFlag := false } rfl (Or.inr (Or.inl rfl))

theorem Stays.flags {s s' : Sim} {id : Fin kMaxPlayers} {pos : Vec2Fixed} (hChange : FlagChange s s')
    (h : Stays s id pos) : Stays s' id pos := by
  cases hChange with
  | follow team position hCarried => exact h
  | flagReturn team playerId hDropped => exact h
  | pickUp i hLive hFree hState hTouch =>
    exact h.setPlayer i { s.players i with carryingFlag := true } rfl (Or.inr (Or.inr ⟨rfl, rfl⟩))
  | capture i hLive hCarries =>
    exact h.setPlayer i { s.players i with carryingFlag := false } rfl (Or.inr (Or.inr ⟨rfl, rfl⟩))

/-- The respawn loop decides every slot by its own record. -/
def respawned (p : Player) : Player :=
  if !p.active || p.alive then p
  else if p.respawnTimer - 1 ≤ 0 then
    { p with
      respawnTimer := p.respawnTimer - 1
      alive := true
      health := kMaxHealth
      position := spawnPoint p.team p.spawnIndex }
  else { p with respawnTimer := p.respawnTimer - 1 }

theorem respawnTurn_players (s : Sim) (id : Fin kMaxPlayers) :
    (s.respawnTurn id).players = Function.update s.players id (respawned (s.players id)) := by
  simp only [respawnTurn, respawned]
  split
  · simp
  · split <;> rfl

theorem foldl_respawnTurn_players (is : List (Fin kMaxPlayers)) (hNodup : is.Nodup) (s : Sim) :
    (is.foldl respawnTurn s).players = fun i => if i ∈ is then respawned (s.players i) else s.players i := by
  induction is generalizing s with
  | nil => simp
  | cons i is ih =>
    obtain ⟨hNotMem, hNodup⟩ := List.nodup_cons.mp hNodup
    rw [List.foldl_cons, ih hNodup, respawnTurn_players]
    funext j
    by_cases hj : j = i
    · subst hj
      simp [hNotMem]
    · simp [hj]

theorem respawnPhase_players (s : Sim) : s.respawnPhase.players = fun i => respawned (s.players i) := by
  simp [respawnPhase, foldl_respawnTurn_players _ (List.nodup_finRange _)]

theorem winCheck_players (s : Sim) : s.winCheck.players = s.players := by
  simp only [winCheck]
  split
  · rfl
  · split <;> rfl

/-- A player alive after movement keeps its position to the end of the tick, even if it is shot. -/
theorem finish_position (rayDir : RayDir) (s : Sim) (id : Fin kMaxPlayers) (hAlive : (s.players id).alive = true) :
    ((s.finish rayDir).players id).position = (s.players id).position := by
  have hStart : Stays s id (s.players id).position := ⟨rfl, Or.inl hAlive⟩
  have hCombat := Chain.invariant (fun _ _ hChange h => Stays.combat hChange h) (combat_changes rayDir s) hStart
  have hTouch := Chain.invariant (fun _ _ hChange h => Stays.flags hChange h) (touchPhase_changes _) hCombat
  have hPlayer : (s.finish rayDir).players id = respawned ((s.combat rayDir).touchPhase.players id) := by
    simp only [finish_eq, publish_players, settled, flagsPhase_eq, winCheck_players, respawnPhase_players]
  rw [hPlayer, respawned]
  obtain ⟨hPos, hLife⟩ := hTouch
  split
  · exact hPos
  · rename_i hDead
    simp only [Bool.or_eq_true, Bool.not_eq_true', not_or, Bool.not_eq_false, Bool.not_eq_true] at hDead
    have hTimer : ((s.combat rayDir).touchPhase.players id).respawnTimer = 90 :=
      hLife.resolve_left (by simp [hDead.2])
    rw [if_neg (by omega)]
    exact hPos

end Sim
end CaptureTheFlag
