import CaptureTheFlag.Server.InputRing

/-! # One input per tick, each seq at most once

A run is observed from one slot: beside the simulation goes the record of the slot's session. The record never
feeds back into the simulation.
-/
namespace CaptureTheFlag
set_option autoImplicit false

namespace Session

def drain (id : Fin kMaxPlayers) (o : Sim × Session) (cmds : List InboundCommand) : Sim × Session :=
  cmds.foldl (fun o cmd => (o.1.applyCommand cmd, o.2.onCommand id o.1 cmd)) o

/-- One tick of the simulation, and what it means for the session of slot `id`. -/
def observeTick (rayDir : RayDir) (id : Fin kMaxPlayers) (o : Sim × Session) (cmds : List InboundCommand) :
    Sim × Session :=
  (o.1.tick rayDir cmds, (drain id o cmds).2.onPop id (o.1.drainInbound cmds))

def observe (rayDir : RayDir) (id : Fin kMaxPlayers) (o : Sim × Session) (ticks : List (List InboundCommand)) :
    Sim × Session :=
  ticks.foldl (observeTick rayDir id) o

theorem drain_fst (id : Fin kMaxPlayers) (o : Sim × Session) (cmds : List InboundCommand) :
    (drain id o cmds).1 = o.1.drainInbound cmds := by
  induction cmds generalizing o with
  | nil => rfl
  | cons cmd cmds ih => exact ih _

theorem observe_fst (rayDir : RayDir) (id : Fin kMaxPlayers) (o : Sim × Session)
    (ticks : List (List InboundCommand)) : (observe rayDir id o ticks).1 = o.1.run rayDir ticks := by
  induction ticks generalizing o with
  | nil => rfl
  | cons cmds ticks ih =>
    rw [observe, Sim.run, List.foldl_cons, List.foldl_cons]
    exact ih _

theorem onCommand_other {id : Fin kMaxPlayers} {s : Sim} {g : Session} {cmd : InboundCommand}
    (hOther : cmd.playerId ≠ Sim.idByte id) : g.onCommand id s cmd = g := by
  cases cmd with
  | playerJoined i team spawnIndex => exact if_neg (fun hOwn => hOther hOwn.1)
  | playerLeft i => rfl
  | playerInput i seq input => exact if_neg (fun hOwn => hOther hOwn.1)

theorem onCommand_over {id : Fin kMaxPlayers} {s : Sim} (g : Session) (cmd : InboundCommand)
    (hOver : s.matchOver = true) :
    (s.applyCommand cmd).players id = s.players id ∧ g.onCommand id s cmd = g := by
  cases cmd <;> simp [Sim.applyCommand, onCommand, hOver]

/-- What one command does to an observed slot: nothing, a new session, an accepted input, or departure. -/
theorem onCommand_cases (id : Fin kMaxPlayers) (s : Sim) (g : Session) (cmd : InboundCommand) :
    ((s.applyCommand cmd).players id = s.players id ∧ g.onCommand id s cmd = g) ∨
    (∃ team spawnIndex, (s.players id).active = false ∧
      (s.applyCommand cmd).players id = Sim.joined (s.players id) team spawnIndex ∧
      g.onCommand id s cmd = { joins := g.joins + 1 }) ∨
    (∃ seq input, (s.players id).active = true ∧ (s.players id).Accepts seq ∧
      (s.applyCommand cmd).players id = (s.players id).acceptInput seq input ∧
      g.onCommand id s cmd = { g with accepted := g.accepted ++ [(seq, input)] }) ∨
    ((s.applyCommand cmd).players id = {} ∧ g.onCommand id s cmd = g) := by
  by_cases hOver : s.matchOver = true
  · exact Or.inl (onCommand_over g cmd hOver)
  have hGoing : s.matchOver = false := by simpa using hOver
  by_cases hOwn : cmd.playerId = Sim.idByte id
  swap
  · exact Or.inl ⟨Sim.applyCommand_other s hOwn, onCommand_other hOwn⟩
  cases cmd with
  | playerJoined i team spawnIndex =>
    obtain rfl : i = Sim.idByte id := hOwn
    cases hActive : (s.players id).active with
    | true => left; simp [Sim.applyCommand, Sim.applyJoin_idByte, onCommand, hGoing, hActive]
    | false =>
      right; left
      refine ⟨team, spawnIndex, rfl, ?_, ?_⟩
      · simp [Sim.applyCommand, Sim.applyJoin_idByte, hGoing, hActive]
      · simp [onCommand, hGoing, hActive]
  | playerLeft i =>
    obtain rfl : i = Sim.idByte id := hOwn
    cases hActive : (s.players id).active with
    | true => right; right; right; simp [Sim.applyCommand, Sim.applyLeave_idByte, onCommand, hGoing, hActive]
    | false => left; simp [Sim.applyCommand, Sim.applyLeave_idByte, onCommand, hGoing, hActive]
  | playerInput i seq input =>
    obtain rfl : i = Sim.idByte id := hOwn
    cases hActive : (s.players id).active with
    | true =>
      by_cases hAccepts : (s.players id).Accepts seq
      · right; right; left
        refine ⟨seq, input, rfl, hAccepts, ?_, ?_⟩
        · simp [Sim.applyCommand, Sim.findPlayer_idByte, Sim.setPlayer, hGoing, hActive]
        · simp [onCommand, hGoing, hActive, hAccepts]
      · left
        simp [Sim.applyCommand, Sim.findPlayer_idByte, Sim.setPlayer, onCommand, hGoing, hActive, hAccepts,
          Player.acceptInput_rejected]
    | false => left; simp [Sim.applyCommand, Sim.findPlayer_idByte, onCommand, hGoing, hActive]

/-- The slot of an active player satisfies the invariant of its session. -/
def Sound (id : Fin kMaxPlayers) (o : Sim × Session) : Prop :=
  (o.1.players id).active = true → SessionInv (o.1.players id) o.2

theorem sound_joined (p : Player) (team : Team) (spawnIndex : U8) (joins : Nat) :
    SessionInv (Sim.joined p team spawnIndex) { joins := joins } :=
  ⟨by simp [Sim.joined], by simp [Sim.joined, Player.queued], List.Pairwise.nil, by simp, rfl⟩

theorem acceptInput_active (p : Player) (seq : U32) (input : InputCmd) :
    (p.acceptInput seq input).active = p.active ∧ (p.acceptInput seq input).alive = p.alive ∧
      (p.acceptInput seq input).position = p.position := by
  by_cases h : p.Accepts seq
  · rw [Player.acceptInput_accepted input h]
    simp only
    split <;> exact ⟨rfl, rfl, rfl⟩
  · rw [Player.acceptInput_rejected input h]
    exact ⟨rfl, rfl, rfl⟩

theorem sound_drain (id : Fin kMaxPlayers) (cmds : List InboundCommand) (o : Sim × Session) (h : Sound id o) :
    Sound id (drain id o cmds) := by
  refine Chain.foldl_invariant (I := Sound id) ?_ cmds o h
  rintro ⟨s, g⟩ cmd h hActive
  simp only at h hActive ⊢
  rcases onCommand_cases id s g cmd with ⟨hp, hg⟩ | ⟨team, spawnIndex, -, hp, hg⟩ | ⟨seq, input, -, hAccepts, hp, hg⟩ |
    ⟨hp, hg⟩
  · rw [hp] at hActive
    rw [hp, hg]
    exact h hActive
  · rw [hp, hg]
    exact sound_joined _ _ _ _
  · rw [hp, (acceptInput_active _ _ _).1] at hActive
    rw [hp, hg]
    exact (h hActive).accept input hAccepts
  · rw [hp] at hActive
    cases hActive

theorem acceptInput_lastInputSeq (p : Player) (seq : U32) (input : InputCmd) :
    (p.acceptInput seq input).lastInputSeq = p.lastInputSeq := by
  by_cases h : p.Accepts seq
  · rw [Player.acceptInput_accepted input h]
    simp only
    split <;> rfl
  · rw [Player.acceptInput_rejected input h]

/-- Commands consume nothing; a join clears the record. -/
theorem drain_consumed (id : Fin kMaxPlayers) (cmds : List InboundCommand) (o : Sim × Session) :
    o.2.joins ≤ (drain id o cmds).2.joins ∧
      (drain id o cmds).2.consumed = if (drain id o cmds).2.joins = o.2.joins then o.2.consumed else [] := by
  induction cmds generalizing o with
  | nil => simp [drain]
  | cons cmd cmds ih =>
    obtain ⟨s, g⟩ := o
    have hDrain : drain id (s, g) (cmd :: cmds) = drain id (s.applyCommand cmd, g.onCommand id s cmd) cmds := rfl
    rw [hDrain]
    obtain ⟨hJoins, hConsumed⟩ := ih (s.applyCommand cmd, g.onCommand id s cmd)
    rcases onCommand_cases id s g cmd with ⟨-, hg⟩ | ⟨team, spawnIndex, -, -, hg⟩ | ⟨seq, input, -, -, -, hg⟩ | ⟨-, hg⟩
    · rw [hg] at hJoins hConsumed ⊢
      exact ⟨hJoins, hConsumed⟩
    · rw [hg] at hJoins hConsumed ⊢
      simp only [ite_self] at hJoins hConsumed ⊢
      exact ⟨by omega, by rw [hConsumed, if_neg (by omega)]⟩
    · rw [hg] at hJoins hConsumed ⊢
      exact ⟨hJoins, hConsumed⟩
    · rw [hg] at hJoins hConsumed ⊢
      exact ⟨hJoins, hConsumed⟩

/-- Within one session commands move nobody, kill nobody and acknowledge nothing. -/
structure SameLife (p q : Player) : Prop where
  active : p.active = true
  alive : q.alive = p.alive
  position : q.position = p.position
  lastInputSeq : q.lastInputSeq = p.lastInputSeq

theorem drain_sameLife (id : Fin kMaxPlayers) (cmds : List InboundCommand) (o : Sim × Session)
    (hActive : ((drain id o cmds).1.players id).active = true)
    (hJoins : (drain id o cmds).2.joins = o.2.joins) :
    SameLife (o.1.players id) ((drain id o cmds).1.players id) := by
  induction cmds generalizing o with
  | nil => exact ⟨hActive, rfl, rfl, rfl⟩
  | cons cmd cmds ih =>
    obtain ⟨s, g⟩ := o
    have hDrain : drain id (s, g) (cmd :: cmds) = drain id (s.applyCommand cmd, g.onCommand id s cmd) cmds := rfl
    rw [hDrain] at hActive hJoins ⊢
    have hLater := (drain_consumed id cmds (s.applyCommand cmd, g.onCommand id s cmd)).1
    have ih := ih (s.applyCommand cmd, g.onCommand id s cmd) hActive
    rcases onCommand_cases id s g cmd with ⟨hp, hg⟩ | ⟨team, spawnIndex, -, -, hg⟩ |
      ⟨seq, input, -, hAccepts, hp, hg⟩ | ⟨hp, hg⟩
    · obtain ⟨h1, h2, h3, h4⟩ := ih (by rw [hJoins, hg])
      simp only [hp] at h1 h2 h3 h4
      exact ⟨h1, h2, h3, h4⟩
    · rw [hJoins, hg] at hLater
      simp only at hLater
      omega
    · obtain ⟨h1, h2, h3, h4⟩ := ih (by rw [hJoins, hg])
      obtain ⟨hA, hL, hP⟩ := acceptInput_active (s.players id) seq input
      simp only [hp, hA, hL, hP, acceptInput_lastInputSeq] at h1 h2 h3 h4
      exact ⟨h1, h2, h3, h4⟩
    · have hGone := (ih (by rw [hJoins, hg])).active
      simp [hp] at hGone

theorem finish_inputs (rayDir : RayDir) (s : Sim) (id : Fin kMaxPlayers) :
    Sim.SameInputs (s.players id) ((s.finish rayDir).players id) := by
  rw [Sim.finish_eq]
  simp only [Sim.publish_players]
  exact (Sim.settled_frame rayDir s).inputs id

theorem movePlayers_inputs (s : Sim) (id : Fin kMaxPlayers) :
    Sim.SameInputs (s.players id) (s.movePlayers.players id) := by
  simp only [Sim.movePlayers_eq]
  split
  · exact ⟨rfl, rfl, rfl, rfl, rfl, rfl, rfl, rfl⟩
  · exact Sim.SameInputs.refl _

/-- After the pop a tick leaves the input side alone. -/
theorem tick_inputs (rayDir : RayDir) (s : Sim) (cmds : List InboundCommand) (id : Fin kMaxPlayers) :
    Sim.SameInputs ((s.drainInbound cmds).popInputs.players id) ((s.tick rayDir cmds).players id) := by
  rw [Sim.tick_eq_finish]
  exact (movePlayers_inputs _ id).trans (finish_inputs rayDir _ id)

theorem tick_active (rayDir : RayDir) (s : Sim) (cmds : List InboundCommand) (id : Fin kMaxPlayers) :
    ((s.tick rayDir cmds).players id).active = ((s.drainInbound cmds).players id).active := by
  rw [(tick_inputs rayDir s cmds id).active]
  simp only [Sim.popInputs_eq, Player.popped]
  split
  · split <;> rfl
  · rfl

theorem tick_acks (rayDir : RayDir) (s : Sim) (cmds : List InboundCommand) (id : Fin kMaxPlayers)
    (hActive : ((s.tick rayDir cmds).players id).active = true) :
    (s.tick rayDir cmds).playerAcks id = ((s.tick rayDir cmds).players id).lastInputSeq := by
  rw [Sim.tick_eq_publish] at hActive ⊢
  simp only [Sim.publish_players, Sim.publish_playerAcks] at hActive ⊢
  rw [if_pos hActive]

theorem tick_appliedCmds (rayDir : RayDir) (s : Sim) (cmds : List InboundCommand) (id : Fin kMaxPlayers)
    (hActive : ((s.drainInbound cmds).players id).active = true) :
    (s.tick rayDir cmds).appliedCmds id = ((s.drainInbound cmds).players id).nextInput := by
  rw [Sim.tick_eq_finish, Sim.finish_eq]
  simp only [Sim.publish_appliedCmds, (Sim.settled_frame rayDir _).appliedCmds, Sim.movePlayers_eq,
    Sim.popInputs_eq, hActive, if_true]

/-- The slot is sound and its published ack is the one it holds. -/
def Observed (id : Fin kMaxPlayers) (o : Sim × Session) : Prop :=
  (o.1.players id).active = true →
    SessionInv (o.1.players id) o.2 ∧ o.1.playerAcks id = (o.1.players id).lastInputSeq

theorem observed_tick (rayDir : RayDir) (id : Fin kMaxPlayers) (o : Sim × Session) (cmds : List InboundCommand)
    (h : Observed id o) : Observed id (observeTick rayDir id o cmds) := by
  intro hActive
  refine ⟨?_, tick_acks rayDir o.1 cmds id hActive⟩
  have hDrained : ((drain id o cmds).1.players id).active = true := by
    rw [drain_fst, ← tick_active rayDir]
    exact hActive
  have hSound := sound_drain id cmds o (fun hAct => (h hAct).1) hDrained
  rw [drain_fst] at hSound hDrained
  refine SessionInv.congr ?_ (tick_inputs rayDir o.1 cmds id)
  simp only [Sim.popInputs_eq, observeTick, onPop, hDrained, if_true, true_and]
  by_cases hAlive : ((o.1.drainInbound cmds).players id).alive = true
  · simpa only [hAlive, if_true] using hSound.pop hAlive
  · simpa only [hAlive, Bool.false_eq_true, if_false, (Player.popped_idle (fun hPop => hAlive hPop.1)).1] using hSound

theorem observed_run (rayDir : RayDir) (id : Fin kMaxPlayers) (tickHz snapshotHz : Int) (delta : Bool)
    (ticks : List (List InboundCommand)) :
    Observed id (observe rayDir id (Sim.configured tickHz snapshotHz delta, {}) ticks) :=
  Chain.foldl_invariant (fun o cmds => observed_tick rayDir id o cmds) ticks _ (fun h => by cases h)

/-- In a list of increasing seqs an entry is found by its seq. -/
theorem find_of_sorted {l : List SeqInput} (hSorted : l.Pairwise (fun a b => a.1.toNat < b.1.toNat)) {e : SeqInput}
    (hMem : e ∈ l) : l.find? (fun a => a.1 = e.1) = some e := by
  induction l with
  | nil => cases hMem
  | cons a l ih =>
    obtain ⟨hHead, hTail⟩ := List.pairwise_cons.mp hSorted
    rcases List.mem_cons.mp hMem with rfl | hMem
    · simp
    · have hne : ¬ a.1 = e.1 := fun hEq => by
        have := hHead e hMem
        rw [hEq] at this
        omega
      simpa [hne] using ih hTail hMem

theorem onPop_consumed (id : Fin kMaxPlayers) (s : Sim) (g : Session) (hActive : (s.players id).active = true) :
    ∃ popped : List SeqInput, popped.length ≤ 1 ∧ (g.onPop id s).consumed = g.consumed ++ popped ∧
      (s.players id).nextInput = (popped.head?.map Prod.snd).getD {} := by
  by_cases hAlive : (s.players id).alive = true
  · refine ⟨(s.players id).queued.take 1, by simp, by simp [onPop, hActive, hAlive], ?_⟩
    cases hQueued : (s.players id).queued with
    | nil => exact (Player.popped_idle (by simp [hQueued])).2
    | cons e rest => exact (Player.popped_cons hAlive hQueued).2.2.1
  · exact ⟨[], by simp, by simp [onPop, hAlive], (Player.popped_idle (fun h => hAlive h.1)).2⟩

theorem ack_le_of_sorted {earlier popped : List SeqInput}
    (hSorted : (earlier ++ popped).Pairwise (fun a b => a.1.toNat < b.1.toNat)) :
    (Session.ack { consumed := earlier }).toNat ≤ (Session.ack { consumed := earlier ++ popped }).toNat := by
  cases hLast : popped.getLast? with
  | none =>
    rw [List.getLast?_eq_none_iff] at hLast
    simp [hLast]
  | some e =>
    simp only [ack, List.getLast?_append, hLast, Option.some_or, Option.map_some, Option.getD_some]
    cases hEarlier : earlier.getLast? with
    | none => simp
    | some c =>
      exact Nat.le_of_lt ((List.pairwise_append.mp hSorted).2.2 c (List.mem_of_getLast? hEarlier) e
        (List.mem_of_getLast? hLast))

/-- Where a living player consumes nothing, nothing was queued. -/
theorem queued_of_unconsumed (rayDir : RayDir) (o : Sim × Session) (cmds : List InboundCommand) (id : Fin kMaxPlayers)
    (hActive : ((o.1.drainInbound cmds).players id).active = true)
    (hAlive : ((o.1.drainInbound cmds).players id).alive = true) (hJoins : (drain id o cmds).2.joins = o.2.joins)
    (hNone : (observeTick rayDir id o cmds).2.consumed = o.2.consumed) :
    ((o.1.drainInbound cmds).players id).queued = [] := by
  have hConsumed : (observeTick rayDir id o cmds).2.consumed =
      o.2.consumed ++ ((o.1.drainInbound cmds).players id).queued.take 1 := by
    have hDrained := (drain_consumed id cmds o).2
    rw [if_pos hJoins] at hDrained
    simp [observeTick, onPop, hActive, hAlive, hDrained]
  rw [hNone] at hConsumed
  simpa using hConsumed

/-- A living player that consumes nothing stays where it is. -/
theorem idle_position (rayDir : RayDir) (s : Sim) (cmds : List InboundCommand) (id : Fin kMaxPlayers)
    (hActive : ((s.drainInbound cmds).players id).active = true)
    (hAlive : ((s.drainInbound cmds).players id).alive = true)
    (hIdle : ((s.drainInbound cmds).players id).queued = []) :
    ((s.tick rayDir cmds).players id).position = ((s.drainInbound cmds).players id).position := by
  obtain ⟨hSame, hNone⟩ := Player.popped_idle (p := (s.drainInbound cmds).players id) (by simp [hIdle])
  have hMoved : ((s.drainInbound cmds).popInputs.movePlayers).players id =
      ((s.drainInbound cmds).players id).moved {} := by
    simp [Sim.movePlayers_eq, Sim.popInputs_eq, hActive, hSame, hNone, hAlive]
  rw [Sim.tick_eq_finish, Sim.finish_position _ _ _ (by rw [hMoved]; exact hAlive), hMoved]
  exact movementStep_still _ _ _ rfl

theorem inputs_consumed_once (rayDir : RayDir) (tickHz snapshotHz : Int) (delta : Bool) (id : Fin kMaxPlayers)
    (ticks : List (List InboundCommand)) (cmds : List InboundCommand) :
    let o := observe rayDir id (Sim.configured tickHz snapshotHz delta, {}) ticks
    let o' := observeTick rayDir id o cmds
    (o'.1.players id).active = true →
      (o'.2.consumed.Pairwise (fun a b => a.1.toNat < b.1.toNat)) ∧
      (∀ e ∈ o'.2.consumed, o'.2.accepted.find? (fun a => a.1 = e.1) = some e) ∧
      ((o'.1.players id).queued.Pairwise (fun a b => a.1.toNat < b.1.toNat)) ∧
      (∀ e ∈ (o'.1.players id).queued, (o'.1.players id).lastInputSeq.toNat < e.1.toNat ∧
        e.1.toNat ≤ (o'.1.players id).newestSeq.toNat) ∧
      (o'.1.playerAcks id = o'.2.ack ∧ (o'.1.players id).lastInputSeq = o'.2.ack) ∧
      (∃ events, o'.1.outbound = o.1.outbound ++ events ∧
        ∀ ev ∈ events, ev.isSnapshot = true → ev.acks id = o'.2.ack) ∧
      (∃ popped : List SeqInput, popped.length ≤ 1 ∧
        o'.2.consumed = (if o'.2.joins = o.2.joins then o.2.consumed else []) ++ popped ∧
        o'.1.appliedCmds id = (popped.head?.map Prod.snd).getD {}) ∧
      (o'.2.joins = o.2.joins →
        (o.1.playerAcks id).toNat ≤ (o'.1.playerAcks id).toNat ∧
        ((o.1.players id).alive = true → o'.2.consumed = o.2.consumed →
          (o'.1.players id).position = (o.1.players id).position ∧
          o'.1.playerAcks id = o.1.playerAcks id)) := by
  intro o o' hActive
  have hBefore : Observed id o := observed_run rayDir id tickHz snapshotHz delta ticks
  obtain ⟨hInv, hAcks⟩ := observed_tick rayDir id o cmds hBefore hActive
  have hAck : o'.1.playerAcks id = o'.2.ack := hAcks.trans hInv.ack
  have hDrained : ((o.1.drainInbound cmds).players id).active = true := by
    rw [← tick_active rayDir]
    exact hActive
  obtain ⟨popped, hOne, hPopped, hNext⟩ := onPop_consumed id (o.1.drainInbound cmds) (drain id o cmds).2 hDrained
  have hJoins : o'.2.joins = (drain id o cmds).2.joins := by
    simp only [o', observeTick, onPop]
    split <;> rfl
  have hConsumed : o'.2.consumed = (if o'.2.joins = o.2.joins then o.2.consumed else []) ++ popped := by
    rw [hJoins, ← (drain_consumed id cmds o).2]
    exact hPopped
  obtain ⟨events, hEvents, hSnaps⟩ := Sim.tick_outbound rayDir o.1 cmds
  have hSortedAll := hInv.inputs_sorted
  have hSorted := (List.pairwise_append.mp hSortedAll).1
  have hMem : ∀ e ∈ o'.2.consumed, e ∈ o'.2.accepted := fun e he =>
    hInv.sublist.subset (List.mem_append_left _ he)
  refine ⟨hSorted, fun e he => find_of_sorted hInv.sorted (hMem e he), (List.pairwise_append.mp hSortedAll).2.1,
    fun e he => ⟨hInv.ack_lt_queued e he, (hInv.bounded e (hInv.sublist.subset (List.mem_append_right _ he))).2⟩,
    ⟨hAck, hInv.ack⟩, ⟨events, hEvents, fun ev hev hSnap => ?_⟩, ⟨popped, hOne, hConsumed, ?_⟩, fun hSame => ?_⟩
  · rw [hSnaps ev hev hSnap]
    exact hAck
  · exact (tick_appliedCmds rayDir o.1 cmds id hDrained).trans hNext
  · -- The session has lasted through the tick, so the slot was in it before.
    have hLife : SameLife (o.1.players id) ((o.1.drainInbound cmds).players id) := by
      have := drain_sameLife id cmds o (by rw [drain_fst]; exact hDrained) (hJoins.symm.trans hSame)
      rwa [drain_fst] at this
    obtain ⟨hInvBefore, hAcksBefore⟩ := hBefore hLife.active
    rw [if_pos hSame] at hConsumed
    have hOld : o.1.playerAcks id = o.2.ack := hAcksBefore.trans hInvBefore.ack
    rw [hAck, hOld]
    refine ⟨?_, fun hAlive hNone => ⟨?_, ?_⟩⟩
    · have hLe := ack_le_of_sorted (hConsumed ▸ hSorted)
      simpa only [ack, hConsumed] using hLe
    · have hAliveDrained : ((o.1.drainInbound cmds).players id).alive = true := by
        rw [hLife.alive]
        exact hAlive
      have hIdle : ((o.1.drainInbound cmds).players id).queued = [] :=
        queued_of_unconsumed rayDir o cmds id hDrained hAliveDrained (hJoins.symm.trans hSame) hNone
      exact (idle_position rayDir o.1 cmds id hDrained hAliveDrained hIdle).trans hLife.position
    · simp only [ack, hNone]

/-- Two inputs and, with the second of them, the first once more; then the second once more. -/
def twiceSent : List InboundCommand :=
  [.playerJoined 0 .red 0, .playerInput 0 1 { buttons := kInputRight }, .playerInput 0 2 { buttons := kInputDown },
   .playerInput 0 1 { buttons := kInputRight }]

theorem inputs_consumed_once_twice_sent :
    let o := observe (fun _ => (1024, 0)) 0 (Sim.configured 30 30 true, {}) [twiceSent]
    let o' := observeTick (fun _ => (1024, 0)) 0 o [.playerInput 0 2 { buttons := kInputDown }]
    o'.2.consumed.Pairwise (fun a b => a.1.toNat < b.1.toNat) ∧
      o'.2.consumed = [(1, { buttons := kInputRight }), (2, { buttons := kInputDown })] ∧ o'.1.playerAcks 0 = 2 := by
  have h := inputs_consumed_once (fun _ => (1024, 0)) 30 30 true 0 [twiceSent]
    [.playerInput 0 2 { buttons := kInputDown }] (by decide +kernel)
  exact ⟨h.1, by decide +kernel, by decide +kernel⟩

end Session
end CaptureTheFlag
