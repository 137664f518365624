import CaptureTheFlag.Server.Commuting
import CaptureTheFlag.Server.InputSession
import CaptureTheFlag.Server.Lifecycle

/-! # Where the buffered inputs come from

A run is watched from one slot: beside the simulation goes, for every input in the slot's ring, the number of the
tick that drained it. The record never feeds back into the simulation.
-/
namespace CaptureTheFlag
set_option autoImplicit false

/-- An input and the number of the tick that drained it. -/
abbrev Dated := Nat × SeqInput

structure Watch where
  sim : Sim
  ticks : Nat := 0
  /-- The inputs in the ring, oldest first. -/
  pending : List Dated := []

namespace Watch

def onCommand (id : Fin kMaxPlayers) (w : Watch) : InboundCommand → List Dated
  | .playerJoined _ _ _ => if (w.sim.players id).active then w.pending else []
  | .playerLeft _ => if (w.sim.players id).active then [] else w.pending
  | .playerInput _ seq input =>
    if (w.sim.players id).active ∧ (w.sim.players id).Accepts seq then
      (if (w.sim.players id).ringCount = kInputRingSize then w.pending.tail else w.pending) ++
        [(w.ticks, seq, input)]
    else w.pending

def command (id : Fin kMaxPlayers) (w : Watch) (cmd : InboundCommand) : Watch :=
  { w with
    sim := w.sim.applyCommand cmd
    pending := if cmd.playerId = Sim.idByte id ∧ w.sim.matchOver = false then w.onCommand id cmd else w.pending }

def drain (id : Fin kMaxPlayers) (w : Watch) (cmds : List InboundCommand) : Watch := cmds.foldl (command id) w

/-- `pop_inputs` takes an input out of the slot's ring. -/
def Pops (id : Fin kMaxPlayers) (s : Sim) : Prop := (s.players id).active = true ∧ (s.players id).alive = true

instance (id : Fin kMaxPlayers) (s : Sim) : Decidable (Pops id s) := inferInstanceAs (Decidable (_ ∧ _))

def tick (rayDir : RayDir) (id : Fin kMaxPlayers) (w : Watch) (cmds : List InboundCommand) : Watch :=
  let drained := w.drain id cmds
  { sim := w.sim.tick rayDir cmds
    ticks := w.ticks + 1
    pending := if Pops id drained.sim then drained.pending.tail else drained.pending }

def run (rayDir : RayDir) (id : Fin kMaxPlayers) (w : Watch) (ticks : List (List InboundCommand)) : Watch :=
  ticks.foldl (tick rayDir id) w

/-- The tick with commands `cmds` consumes `e`, which an earlier tick or this one drained. -/
def Consumes (id : Fin kMaxPlayers) (w : Watch) (cmds : List InboundCommand) (e : Dated) : Prop :=
  Pops id (w.drain id cmds).sim ∧ (w.drain id cmds).pending.head? = some e

theorem drain_sim (id : Fin kMaxPlayers) (w : Watch) (cmds : List InboundCommand) :
    (w.drain id cmds).sim = w.sim.drainInbound cmds := by
  induction cmds generalizing w with
  | nil => rfl
  | cons cmd cmds ih => exact ih (w.command id cmd)

theorem run_snoc (rayDir : RayDir) (id : Fin kMaxPlayers) (w : Watch) (ticks : List (List InboundCommand))
    (cmds : List InboundCommand) : w.run rayDir id (ticks ++ [cmds]) = (w.run rayDir id ticks).tick rayDir id cmds :=
  List.foldl_append

theorem run_append (rayDir : RayDir) (id : Fin kMaxPlayers) (w : Watch) (earlier later : List (List InboundCommand)) :
    w.run rayDir id (earlier ++ later) = (w.run rayDir id earlier).run rayDir id later :=
  List.foldl_append

theorem run_sim (rayDir : RayDir) (id : Fin kMaxPlayers) (w : Watch) (ticks : List (List InboundCommand)) :
    (w.run rayDir id ticks).sim = w.sim.run rayDir ticks := by
  induction ticks using List.reverseRecOn with
  | nil => rfl
  | append_singleton ticks cmds ih =>
    rw [run_snoc, Sim.run_snoc, ← ih]
    rfl

theorem run_ticks (rayDir : RayDir) (id : Fin kMaxPlayers) (w : Watch) (ticks : List (List InboundCommand)) :
    (w.run rayDir id ticks).ticks = w.ticks + ticks.length := by
  induction ticks using List.reverseRecOn with
  | nil => rfl
  | append_singleton ticks cmds ih =>
    rw [run_snoc, List.length_append, List.length_singleton, ← Nat.add_assoc, ← ih]
    rfl

/-- `pending` lists what is in the ring of `p`. -/
structure Lists (pending : List Dated) (p : Player) : Prop where
  count : p.ringCount ≤ kInputRingSize
  inputs : pending.map Prod.snd = p.queued

theorem Lists.congr {pending : List Dated} {p q : Player} (h : Lists pending p) (hSame : Sim.SameInputs p q) :
    Lists pending q := by
  constructor
  · rw [hSame.ringCount]
    exact h.count
  · simp only [Player.queued, hSame.ring, hSame.seqs, hSame.ringHead, hSame.ringCount]
    exact h.inputs

theorem Lists.length {pending : List Dated} {p : Player} (h : Lists pending p) : pending.length = p.ringCount := by
  have hLength := congrArg List.length h.inputs
  rw [List.length_map, Player.queued, Circular.length_window] at hLength
  exact hLength

theorem Lists.popped {pending : List Dated} {p : Player} (h : Lists pending p) (hAlive : p.alive = true) :
    Lists pending.tail p.popped := by
  constructor
  · have hLess : p.popped.ringCount ≤ p.ringCount := by
      simp only [Player.popped]
      split
      · exact Nat.sub_le _ _
      · exact le_rfl
    exact hLess.trans h.count
  · rw [Player.queued_popped hAlive, List.map_tail, h.inputs]

theorem Lists.accept {pending : List Dated} {p : Player} (h : Lists pending p) {seq : U32} (hAccepts : p.Accepts seq)
    (input : InputCmd) (n : Nat) :
    Lists ((if p.ringCount = kInputRingSize then pending.tail else pending) ++ [(n, seq, input)])
      (p.acceptInput seq input) := by
  obtain ⟨hQueued, hCount⟩ := Player.queued_acceptInput input hAccepts h.count
  refine ⟨hCount, ?_⟩
  rw [hQueued, List.map_append, ← h.inputs]
  split
  · rw [List.map_tail]
    rfl
  · rfl

theorem lists_nil {p : Player} (h : p.ringCount = 0) : Lists [] p := by
  refine ⟨by rw [h]; exact Nat.zero_le _, ?_⟩
  rw [Player.queued, h]
  rfl

theorem applyCommand_own {s : Sim} {id : Fin kMaxPlayers} {cmd : InboundCommand} (hGoing : s.matchOver = false)
    (hOwn : cmd.playerId = Sim.idByte id) : (s.applyCommand cmd).players id = cmd.onSlot (s.players id) := by
  rw [Sim.applyCommand_eq_rewriteSlot hGoing hOwn, Sim.rewriteSlot]
  exact Function.update_self ..

theorem command_idle {id : Fin kMaxPlayers} {w : Watch} {cmd : InboundCommand}
    (h : ¬ (cmd.playerId = Sim.idByte id ∧ w.sim.matchOver = false)) :
    (w.command id cmd).pending = w.pending ∧ (w.command id cmd).sim.players id = w.sim.players id := by
  refine ⟨if_neg h, ?_⟩
  by_cases hOwn : cmd.playerId = Sim.idByte id
  · have hOver : w.sim.matchOver = true := by simpa [hOwn] using h
    exact congrArg (fun s : Sim => s.players id) (Sim.applyCommand_ignored (Or.inl hOver))
  · exact Sim.applyCommand_other w.sim hOwn

theorem lists_command {id : Fin kMaxPlayers} {w : Watch} (h : Lists w.pending (w.sim.players id))
    (cmd : InboundCommand) : Lists (w.command id cmd).pending ((w.command id cmd).sim.players id) := by
  by_cases hOwn : cmd.playerId = Sim.idByte id ∧ w.sim.matchOver = false
  · have hSlot : (w.command id cmd).sim.players id = cmd.onSlot (w.sim.players id) :=
      applyCommand_own hOwn.2 hOwn.1
    have hPending : (w.command id cmd).pending = w.onCommand id cmd := if_pos hOwn
    rw [hSlot, hPending]
    cases cmd with
    | playerJoined i team spawnIndex =>
      simp only [onCommand, InboundCommand.onSlot]
      split
      · exact h
      · exact lists_nil rfl
    | playerLeft i =>
      simp only [onCommand, InboundCommand.onSlot]
      split
      · exact lists_nil rfl
      · exact h
    | playerInput i seq input =>
      simp only [onCommand, InboundCommand.onSlot]
      by_cases hActive : (w.sim.players id).active = true
      · by_cases hAccepts : (w.sim.players id).Accepts seq
        · rw [if_pos hActive, if_pos ⟨hActive, hAccepts⟩]
          exact h.accept hAccepts input w.ticks
        · rw [if_pos hActive, if_neg (fun hBoth => hAccepts hBoth.2), Player.acceptInput_rejected input hAccepts]
          exact h
      · rw [if_neg hActive, if_neg (fun hBoth => hActive hBoth.1)]
        exact h
  · obtain ⟨hPending, hSlot⟩ := command_idle hOwn
    rw [hPending, hSlot]
    exact h

theorem lists_drain {id : Fin kMaxPlayers} {w : Watch} (h : Lists w.pending (w.sim.players id))
    (cmds : List InboundCommand) : Lists (w.drain id cmds).pending ((w.drain id cmds).sim.players id) :=
  Chain.foldl_invariant (I := fun w : Watch => Lists w.pending (w.sim.players id))
    (fun _ cmd hLists => lists_command hLists cmd) cmds w h

theorem lists_tick {rayDir : RayDir} {id : Fin kMaxPlayers} {w : Watch} (h : Lists w.pending (w.sim.players id))
    (cmds : List InboundCommand) :
    Lists (w.tick rayDir id cmds).pending ((w.tick rayDir id cmds).sim.players id) := by
  have hDrain := lists_drain h cmds
  have hSim := drain_sim id w cmds
  refine Lists.congr ?_ (Session.tick_inputs rayDir w.sim cmds id)
  simp only [tick, Sim.popInputs_eq, ← hSim]
  by_cases hActive : ((w.drain id cmds).sim.players id).active = true
  · by_cases hAlive : ((w.drain id cmds).sim.players id).alive = true
    · rw [if_pos ⟨hActive, hAlive⟩, if_pos hActive]
      exact hDrain.popped hAlive
    · rw [if_neg (fun hPops => hAlive hPops.2), if_pos hActive, Sim.popped_dead (by simpa using hAlive)]
      exact hDrain
  · rw [if_neg (fun hPops => hActive hPops.1), if_neg hActive]
    exact hDrain

theorem mem_command {id : Fin kMaxPlayers} {w : Watch} {cmd : InboundCommand} {e : Dated}
    (h : e ∈ (w.command id cmd).pending) : e ∈ w.pending ∨ e.1 = w.ticks := by
  by_cases hOwn : cmd.playerId = Sim.idByte id ∧ w.sim.matchOver = false
  · rw [command, if_pos hOwn] at h
    cases cmd with
    | playerJoined i team spawnIndex =>
      simp only [onCommand] at h
      split at h
      · exact Or.inl h
      · cases h
    | playerLeft i =>
      simp only [onCommand] at h
      split at h
      · cases h
      · exact Or.inl h
    | playerInput i seq input =>
      simp only [onCommand] at h
      split at h
      · rw [List.mem_append, List.mem_singleton] at h
        rcases h with hOld | rfl
        · left
          split at hOld
          · exact List.mem_of_mem_tail hOld
          · exact hOld
        · exact Or.inr rfl
      · exact Or.inl h
  · rw [(command_idle hOwn).1] at h
    exact Or.inl h

theorem mem_drain {id : Fin kMaxPlayers} {cmds : List InboundCommand} {w : Watch} {e : Dated}
    (h : e ∈ (w.drain id cmds).pending) : e ∈ w.pending ∨ e.1 = w.ticks := by
  induction cmds generalizing w with
  | nil => exact Or.inl h
  | cons cmd cmds ih =>
    rcases ih (w := w.command id cmd) h with hOld | hNew
    · exact mem_command hOld
    · exact Or.inr hNew

theorem mem_tick {rayDir : RayDir} {id : Fin kMaxPlayers} {cmds : List InboundCommand} {w : Watch} {e : Dated}
    (h : e ∈ (w.tick rayDir id cmds).pending) : e ∈ w.pending ∨ e.1 = w.ticks := by
  apply @mem_drain id cmds w e
  simp only [tick] at h
  split at h
  · exact List.mem_of_mem_tail h
  · exact h

/-- Inputs that come to a slot from tick `n` on have dates from `n` on. -/
theorem dates_run {rayDir : RayDir} {id : Fin kMaxPlayers} {w : Watch} {n : Nat} (hTicks : n ≤ w.ticks)
    (hPending : ∀ e ∈ w.pending, n ≤ e.1) (ticks : List (List InboundCommand)) :
    n ≤ (w.run rayDir id ticks).ticks ∧ ∀ e ∈ (w.run rayDir id ticks).pending, n ≤ e.1 := by
  refine Chain.foldl_invariant (I := fun w : Watch => n ≤ w.ticks ∧ ∀ e ∈ w.pending, n ≤ e.1) ?_ ticks w
    ⟨hTicks, hPending⟩
  rintro w cmds ⟨hTicks, hPending⟩
  refine ⟨hTicks.trans (Nat.le_succ _), ?_⟩
  intro e he
  rcases mem_tick he with hOld | hNew
  · exact hPending e hOld
  · exact hTicks.trans hNew.ge

theorem dates_past (rayDir : RayDir) (id : Fin kMaxPlayers) (s : Sim) (ticks : List (List InboundCommand)) :
    ∀ e ∈ (Watch.run rayDir id { sim := s } ticks).pending, e.1 < (Watch.run rayDir id { sim := s } ticks).ticks := by
  refine Chain.foldl_invariant (I := fun w : Watch => ∀ e ∈ w.pending, e.1 < w.ticks) ?_ ticks _ nofun
  intro w cmds h e he
  rcases mem_tick he with hOld | hNew
  · exact (h e hOld).trans (Nat.lt_succ_self _)
  · exact hNew.trans_lt (Nat.lt_succ_self _)

theorem Consumes.mem {id : Fin kMaxPlayers} {w : Watch} {cmds : List InboundCommand} {e : Dated}
    (h : w.Consumes id cmds e) : e ∈ w.pending ∨ e.1 = w.ticks :=
  mem_drain (List.mem_of_mem_head? h.2)

theorem Consumes.later {rayDir : RayDir} {id : Fin kMaxPlayers} {w : Watch} (hEmpty : w.pending = [])
    {ticks : List (List InboundCommand)} {cmds : List InboundCommand} {e : Dated}
    (h : (w.run rayDir id ticks).Consumes id cmds e) : w.ticks ≤ e.1 := by
  obtain ⟨hTicks, hDates⟩ := @dates_run rayDir id w w.ticks le_rfl (by rw [hEmpty]; exact nofun) ticks
  rcases h.mem with hOld | hNew
  · exact hDates e hOld
  · exact hTicks.trans hNew.ge

/-- An input that comes to an empty ring is consumed in the same tick. -/
theorem consumes_only {id : Fin kMaxPlayers} {w : Watch} (hEmpty : w.pending = [])
    (hCount : (w.sim.players id).ringCount = 0) (hGoing : w.sim.matchOver = false)
    (hActive : (w.sim.players id).active = true) {seq : U32} (hAccepts : (w.sim.players id).Accepts seq)
    (input : InputCmd) : w.Consumes id [.playerInput (Sim.idByte id) seq input] (w.ticks, seq, input) := by
  have hPending : (w.command id (.playerInput (Sim.idByte id) seq input)).pending = [(w.ticks, seq, input)] := by
    rw [command, if_pos ⟨rfl, hGoing⟩]
    simp only [onCommand]
    rw [if_pos ⟨hActive, hAccepts⟩, if_neg (by rw [hCount]; decide), hEmpty, List.nil_append]
  have hSlot : (w.sim.applyCommand (.playerInput (Sim.idByte id) seq input)).players id =
      (w.sim.players id).acceptInput seq input := by
    rw [Sim.applyCommand_input w.sim id seq input hGoing hActive]
    exact Function.update_self _ _ _
  have hSame := Sim.acceptInput_sameLife (w.sim.players id) seq input
  refine ⟨⟨?_, ?_⟩, ?_⟩
  · rw [drain_sim, Sim.drainInbound_cons]
    exact (congrArg Player.active hSlot).trans (hSame.active.trans hActive)
  · rw [drain_sim, Sim.drainInbound_cons]
    exact (congrArg Player.alive hSlot).trans (hSame.alive.trans hAccepts.1)
  · rw [drain, List.foldl_cons, List.foldl_nil, hPending]
    rfl

end Watch
end CaptureTheFlag
