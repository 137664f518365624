import CaptureTheFlag.Library.Mailbox
import CaptureTheFlag.Server.InboundFront
import CaptureTheFlag.Server.Rematch

/-! # The two threads, one queue operation at a time

`System.Joint` lets a tick and a wake-up happen at once. Here every push, every pop, the write of the eventfd and every read
of it is a step of its own, and the other thread may run in between.
-/
namespace CaptureTheFlag
set_option autoImplicit false

/-- An eventfd holds at most this much; a write beyond it fails and changes nothing. -/
abbrev kEventFdMax : Nat := 2 ^ 64 - 2

/-- Where the simulation thread stands. -/
inductive SimAt where
  | sleeping
  | draining
  | publishing
deriving DecidableEq, Repr

/-- A tick after `drain_inbound`. -/
def Sim.finishTick (rayDir : RayDir) (s : Sim) : Sim :=
  let s := ((((s.popInputs).movePlayers.combat rayDir).flagsPhase).winCheck).publish
  { s with currentTick := s.currentTick + 1 }

theorem Sim.tick_eq_finishTick (rayDir : RayDir) (s : Sim) (cmds : List InboundCommand) :
    s.tick rayDir cmds = (s.drainInbound cmds).finishTick rayDir := rfl

theorem Sim.finishTick_outbound (rayDir : RayDir) (s : Sim) :
    (s.finishTick rayDir).outbound = s.outbound ++ (s.finishTick rayDir).outbound.drop s.outbound.length := by
  obtain ⟨events, hEvents, -⟩ := Sim.tick_outbound rayDir s []
  have hTick : s.tick rayDir [] = s.finishTick rayDir := rfl
  rw [← hTick, hEvents, List.drop_left]

/-- The outbound queue and the eventfd are `box`; `net.inbound` is the inbound queue. -/
structure Threads where
  net : NetServer
  sim : Sim
  box : Mailbox OutboundEvent := {}
  simAt : SimAt := .sleeping
  /-- The simulation as it stood before this tick. -/
  before : Sim := sim
  /-- What `drain_inbound` has popped in this tick. -/
  drained : List InboundCommand := []

namespace Threads

def react (t : Threads) (event : NetServer.Event) : Threads := { t with net := t.net.step event }

def wake (t : Threads) : Threads := { t with box := { t.box with consumer := .reading } }

def read (t : Threads) : Threads := { t with box := t.box.read }

def pop (t : Threads) : Threads :=
  { t with net := (t.box.queue.take 1).foldl NetServer.onOutboundEvent t.net, box := t.box.pop }

def beginTick (t : Threads) : Threads :=
  { t with box := { t.box with busy := true }, simAt := .draining, before := t.sim, drained := [] }

def drain (t : Threads) (cmd : InboundCommand) (rest : List InboundCommand) : Threads :=
  { t with net := { t.net with inbound := rest }, sim := t.sim.applyCommand cmd, drained := t.drained ++ [cmd] }

def endTick (rayDir : RayDir) (t : Threads) : Threads :=
  { t with
    sim := t.sim.finishTick rayDir
    box := t.box.produce ((t.sim.finishTick rayDir).outbound.drop t.sim.outbound.length)
    simAt := .publishing }

def push (t : Threads) : Threads := { t with box := t.box.push }

def notify (t : Threads) : Threads := { t with box := t.box.notify kEventFdMax, simAt := .sleeping }

inductive Step (rayDir : RayDir) (t : Threads) : Turn → Threads → Prop where
  /-- Any other reaction of the poll loop, between two wake-ups. -/
  | react (event : NetServer.Event) (hAsleep : t.box.consumer = .asleep) (hEnabled : t.net.Enabled event)
      (hOther : ∀ events, event ≠ .wake events) : Step rayDir t .work (t.react event)
  /-- The poller reports the eventfd. -/
  | wake (hAsleep : t.box.consumer = .asleep) (hCount : 0 < t.box.count) : Step rayDir t .serve t.wake
  | read (hReading : t.box.consumer = .reading) : Step rayDir t .serve t.read
  | pop (hPopping : t.box.consumer = .popping) : Step rayDir t .serve t.pop
  | beginTick (hSleeping : t.simAt = .sleeping) : Step rayDir t .work t.beginTick
  | drain (cmd : InboundCommand) (rest : List InboundCommand) (hDraining : t.simAt = .draining)
      (hQueue : t.net.inbound = cmd :: rest) : Step rayDir t .work (t.drain cmd rest)
  /-- `drain_inbound` may find the queue empty between two pushes of one reaction. -/
  | endTick (hDraining : t.simAt = .draining) : Step rayDir t .work (t.endTick rayDir)
  | push (hTodo : t.box.todo ≠ []) : Step rayDir t .work t.push
  | notify (hPublishing : t.simAt = .publishing) (hTodo : t.box.todo = []) : Step rayDir t .notify t.notify

/-- An interleaving, with the number of steps inside `handle_wake` and of writes to the eventfd. -/
inductive Run (rayDir : RayDir) (t : Threads) : Nat → Nat → Threads → Prop where
  | refl : Run rayDir t 0 0 t
  | work {serves notifies : Nat} {t' t'' : Threads} (h : Run rayDir t serves notifies t')
      (hStep : Step rayDir t' .work t'') : Run rayDir t serves notifies t''
  | notify {serves notifies : Nat} {t' t'' : Threads} (h : Run rayDir t serves notifies t')
      (hStep : Step rayDir t' .notify t'') : Run rayDir t serves (notifies + 1) t''
  | serve {serves notifies : Nat} {t' t'' : Threads} (h : Run rayDir t serves notifies t')
      (hStep : Step rayDir t' .serve t'') : Run rayDir t (serves + 1) notifies t''

inductive Reach (rayDir : RayDir) : Threads → Prop where
  | start (udpPort : U16) (udpSilenceMs : U32) (tickHz snapshotHz : Int) (delta : Bool) :
      Reach rayDir { net := { udpPort, udpSilenceMs }, sim := Sim.configured tickHz snapshotHz delta }
  | step {t t' : Threads} {turn : Turn} (h : Reach rayDir t) (hStep : Step rayDir t turn t') : Reach rayDir t'

variable {rayDir : RayDir} {t t' : Threads}

/-- How the mailbox and the simulation thread hang together. -/
structure Ok (t : Threads) : Prop where
  sound : t.box.Sound
  busy : t.box.busy = true ↔ t.simAt ≠ .sleeping
  free : t.simAt = .draining → t.box.todo = []
  made : t.box.made = t.sim.outbound
  drained : t.simAt = .draining → t.sim = t.before.drainInbound t.drained

theorem Step.box {turn : Turn} (h : Ok t) (hStep : Step rayDir t turn t') :
    Mailbox.Step kEventFdMax t.box turn t'.box ∨ (turn = .work ∧ t'.box = t.box) := by
  cases hStep with
  | react => exact Or.inr ⟨rfl, rfl⟩
  | wake hAsleep hCount => exact Or.inl (.wake hAsleep hCount)
  | read hReading => exact Or.inl (.read hReading)
  | pop hPopping => exact Or.inl (.pop hPopping)
  | beginTick hSleeping =>
    have hFree : t.box.busy = false := by
      cases hBusy : t.box.busy with
      | false => rfl
      | true => exact absurd hSleeping (h.busy.mp hBusy)
    exact Or.inl (.start hFree)
  | drain => exact Or.inr ⟨rfl, rfl⟩
  | endTick hDraining =>
    have hBusy : t.box.busy = true := by
      apply h.busy.mpr
      rw [hDraining]
      rintro ⟨⟩
    exact Or.inl (.produce _ hBusy (h.free hDraining))
  | push hTodo => exact Or.inl (.push hTodo)
  | notify hPublishing hTodo =>
    have hBusy : t.box.busy = true := by
      apply h.busy.mpr
      rw [hPublishing]
      rintro ⟨⟩
    exact Or.inl (.notify hBusy hTodo)

theorem applyCommand_outbound (s : Sim) (cmd : InboundCommand) :
    (s.applyCommand cmd).outbound = s.outbound := by
  have hApplied := s.applyCommand_applied cmd
  generalize s.applyCommand cmd = s' at hApplied ⊢
  cases hApplied with
  | ignored => rfl
  | join => rfl
  | leave id =>
    simp only [Sim.leaveDrop]
    split <;> rfl
  | input => rfl

theorem Ok.start (udpPort : U16) (udpSilenceMs : U32) (tickHz snapshotHz : Int) (delta : Bool) :
    Ok { net := { udpPort, udpSilenceMs }, sim := Sim.configured tickHz snapshotHz delta } := by
  refine ⟨.empty, ?_, ?_, rfl, ?_⟩
  · constructor
    · rintro ⟨⟩
    · exact fun h => absurd rfl h
  · rintro ⟨⟩
  · rintro ⟨⟩

theorem Ok.step {turn : Turn} (hStep : Step rayDir t turn t') (h : Ok t) : Ok t' := by
  have hSound : t'.box.Sound := by
    rcases hStep.box h with hBox | ⟨-, hSame⟩
    · exact h.sound.step (by decide) hBox
    · exact hSame ▸ h.sound
  cases hStep with
  | react => exact ⟨hSound, h.busy, h.free, h.made, h.drained⟩
  | wake => exact ⟨hSound, h.busy, h.free, h.made, h.drained⟩
  | read hReading =>
    have hRead : t.box.read.busy = t.box.busy ∧ t.box.read.todo = t.box.todo ∧ t.box.read.made = t.box.made := by
      rw [Mailbox.read]
      split <;> exact ⟨rfl, rfl, rfl⟩
    exact ⟨hSound, hRead.1 ▸ h.busy, hRead.2.1 ▸ h.free, hRead.2.2 ▸ h.made, h.drained⟩
  | pop hPopping =>
    have hPop : t.box.pop.busy = t.box.busy ∧ t.box.pop.todo = t.box.todo ∧ t.box.pop.made = t.box.made := by
      rw [Mailbox.pop]
      split <;> exact ⟨rfl, rfl, rfl⟩
    exact ⟨hSound, hPop.1 ▸ h.busy, hPop.2.1 ▸ h.free, hPop.2.2 ▸ h.made, h.drained⟩
  | beginTick hSleeping =>
    have hFree : t.box.busy = false := by
      cases hBusy : t.box.busy with
      | false => rfl
      | true => exact absurd hSleeping (h.busy.mp hBusy)
    refine ⟨hSound, ?_, fun _ => h.sound.todo_nil hFree, h.made, fun _ => rfl⟩
    constructor
    · rintro - ⟨⟩
    · exact fun _ => rfl
  | drain cmd rest hDraining hQueue =>
    refine ⟨hSound, h.busy, h.free, ?_, fun _ => ?_⟩
    · rw [Threads.drain, applyCommand_outbound]
      exact h.made
    · rw [Threads.drain, h.drained hDraining, Sim.drainInbound, Sim.drainInbound, List.foldl_append]
      rfl
  | endTick hDraining =>
    refine ⟨hSound, ?_, ?_, ?_, ?_⟩
    · have hBusy : t.box.busy = true := by
        apply h.busy.mpr
        rw [hDraining]
        rintro ⟨⟩
      constructor
      · rintro - ⟨⟩
      · exact fun _ => hBusy
    · rintro ⟨⟩
    · simp only [Threads.endTick, Mailbox.produce, h.made]
      exact (Sim.finishTick_outbound rayDir t.sim).symm
    · rintro ⟨⟩
  | push hTodo =>
    obtain ⟨-, -, hMade, -, -⟩ := t.box.push_pushed
    have hBusy : t.box.push.busy = t.box.busy := by
      rw [Mailbox.push]
      split <;> rfl
    refine ⟨hSound, hBusy ▸ h.busy, ?_, hMade ▸ h.made, h.drained⟩
    intro hDraining
    exact absurd (h.free hDraining) hTodo
  | notify hPublishing hTodo =>
    refine ⟨hSound, ?_, ?_, h.made, ?_⟩
    · constructor
      · rintro ⟨⟩
      · exact fun hAwake => absurd rfl hAwake
    · rintro ⟨⟩
    · rintro ⟨⟩

theorem Reach.ok (h : Reach rayDir t) : Ok t := by
  induction h with
  | start udpPort udpSilenceMs tickHz snapshotHz delta => exact .start udpPort udpSilenceMs tickHz snapshotHz delta
  | step _ hStep ih => exact ih.step hStep

theorem Run.box {serves notifies : Nat} (hRun : Run rayDir t serves notifies t') (h : Ok t) :
    Ok t' ∧ Mailbox.Run kEventFdMax t.box serves notifies t'.box := by
  induction hRun with
  | refl => exact ⟨h, .refl⟩
  | work _ hStep ih =>
    obtain ⟨hOk, hBoxes⟩ := ih
    refine ⟨hOk.step hStep, ?_⟩
    rcases hStep.box hOk with hBox | ⟨-, hSame⟩
    · exact hBoxes.work hBox
    · exact hSame ▸ hBoxes
  | notify _ hStep ih =>
    obtain ⟨hOk, hBoxes⟩ := ih
    refine ⟨hOk.step hStep, ?_⟩
    rcases hStep.box hOk with hBox | ⟨hTurn, -⟩
    · exact hBoxes.notify hBox
    · cases hTurn
  | serve _ hStep ih =>
    obtain ⟨hOk, hBoxes⟩ := ih
    refine ⟨hOk.step hStep, ?_⟩
    rcases hStep.box hOk with hBox | ⟨hTurn, -⟩
    · exact hBoxes.serve hBox
    · cases hTurn

theorem Ok.quiet (h : Ok t) (hSleeping : t.simAt = .sleeping) : t.box.busy = false := by
  cases hBusy : t.box.busy with
  | false => rfl
  | true => exact absurd hSleeping (h.busy.mp hBusy)

/-- The consumer's steps of the mailbox are steps of the network thread. -/
theorem can_serve {box : Mailbox OutboundEvent} (hStep : Mailbox.Step kEventFdMax t.box .serve box) :
    ∃ t', Step rayDir t .serve t' := by
  cases hStep with
  | wake hAsleep hCount => exact ⟨_, .wake hAsleep hCount⟩
  | read hReading => exact ⟨_, .read hReading⟩
  | pop hPopping => exact ⟨_, .pop hPopping⟩

/-- No event is lost, doubled or overtaken, and no wake-up is missed. -/
theorem events_handled (h : Reach rayDir t) :
    t.sim.outbound = t.box.taken ++ t.box.queue ++ t.box.todo ∧
    (t.simAt = .sleeping → t.box.consumer = .asleep → t.box.count = 0 → t.box.taken = t.sim.outbound) ∧
    (t.simAt = .sleeping → t.box.taken ≠ t.sim.outbound → ∃ t', Step rayDir t .serve t') ∧
    (t.simAt = .sleeping → ∀ serves notifies t', Run rayDir t serves notifies t' →
      t.box.queue.length + 3 + notifies ≤ serves → t.sim.outbound <+: t'.box.taken) := by
  have hOk := h.ok
  refine ⟨?_, ?_, ?_, ?_⟩
  · rw [← hOk.made]
    exact hOk.sound.fifo
  · intro hSleeping hAsleep hCount
    rw [← hOk.made]
    exact hOk.sound.all_taken (hOk.quiet hSleeping) hAsleep hCount
  · intro hSleeping hOpen
    rw [← hOk.made] at hOpen
    obtain ⟨box, hBox⟩ : ∃ box, Mailbox.Step kEventFdMax t.box .serve box :=
      hOk.sound.can_serve (hOk.quiet hSleeping) hOpen
    exact can_serve hBox
  · intro hSleeping serves notifies t' hRun hEnough
    rw [← hOk.made]
    exact hOk.sound.served (by decide) (hOk.sound.todo_nil (hOk.quiet hSleeping)) (hRun.box hOk).2 hEnough

/-- A server that has run one tick and written its eventfd, before the network thread has noticed. -/
def ticked : Threads :=
  (((beginTick { net := { udpPort := 9, udpSilenceMs := 3000 }, sim := Sim.configured 30 30 true }).endTick
    fun _ => (0, 0)).push).notify

theorem reach_ticked : Reach (fun _ => (0, 0)) ticked := by
  have hStart : Reach (fun _ => (0, 0)) _ := .start 9 3000 30 30 true
  have hBegun := hStart.step (.beginTick rfl)
  have hEnded := hBegun.step (.endTick rfl)
  have hPushed := hEnded.step (.push (by decide +kernel))
  exact hPushed.step (.notify rfl (by decide +kernel))

/-- The same server when `handle_wake` has popped once. -/
def served : Threads := ticked.wake.read.read.pop

theorem run_served : Run (fun _ => (0, 0)) ticked 4 0 served := by
  have hWoken : Run (fun _ => (0, 0)) ticked _ _ _ := Run.refl.serve (.wake (by decide +kernel) (by decide +kernel))
  have hRead := hWoken.serve (.read rfl)
  have hDrained := hRead.serve (.read (by decide +kernel))
  exact hDrained.serve (.pop (by decide +kernel))

theorem events_handled_firstTick : ticked.sim.outbound.length = 1 ∧ ticked.sim.outbound <+: served.box.taken :=
  ⟨by decide +kernel, (events_handled reach_ticked).2.2.2 rfl 4 0 served run_served (by decide +kernel)⟩

/-- Commands popped in a tick under way count as still queued. -/
def seenNet (t : Threads) : NetServer := if t.simAt = .draining then t.net.behind t.drained else t.net

/-- A tick takes place when its drain ends. -/
def seenSim (t : Threads) : Sim := if t.simAt = .draining then t.before else t.sim

/-- `t` as a state of the system whose ticks and wake-ups are atomic. -/
def Seen (rayDir : RayDir) (t : Threads) : Prop :=
  ∃ pushed, System.Joint rayDir { net := t.seenNet, sim := t.seenSim, pushed } t.box.taken

theorem seen_congr (h : Seen rayDir t) (hNet : t'.seenNet = t.seenNet) (hSim : t'.seenSim = t.seenSim)
    (hTaken : t'.box.taken = t.box.taken) : Seen rayDir t' := by
  rw [Seen, hNet, hSim, hTaken]
  exact h

theorem enabled_behind {net : NetServer} (front : List InboundCommand) {event : NetServer.Event}
    (h : net.Enabled event) : (net.behind front).Enabled event := by
  cases event <;> exact h

theorem seenNet_step (t : Threads) (event : NetServer.Event) :
    (t.react event).seenNet = t.seenNet.step event := by
  rw [seenNet, seenNet, react]
  simp only
  split
  · exact (t.net.step_behind t.drained event).symm
  · rfl

theorem Seen.react (h : Seen rayDir t) (event : NetServer.Event) (hEnabled : t.net.Enabled event)
    (hOther : ∀ events, event ≠ .wake events) : Seen rayDir (t.react event) := by
  obtain ⟨pushed, hJoint⟩ := h
  have hSeen : t.seenNet.Enabled event := by
    rw [seenNet]
    split
    · exact enabled_behind t.drained hEnabled
    · exact hEnabled
  refine ⟨pushed ++ (t.seenNet.step event).inbound.drop t.seenNet.inbound.length, ?_⟩
  rw [seenNet_step]
  exact hJoint.netStep event hSeen hOther

theorem Ok.seenSim_outbound (h : Ok t) : t.seenSim.outbound = t.sim.outbound := by
  rw [seenSim]
  split
  · rename_i hDraining
    rw [h.drained hDraining]
    exact (Chain.foldl_invariant (I := fun s => s.outbound = t.before.outbound)
      (fun s cmd hSame => (applyCommand_outbound s cmd).trans hSame) t.drained t.before rfl).symm
  · rfl

theorem pop_taken (box : Mailbox OutboundEvent) : box.pop.taken = box.taken ++ box.queue.take 1 := by
  rw [Mailbox.pop]
  cases box.queue with
  | nil => exact (List.append_nil _).symm
  | cons ev queue => rfl

theorem Seen.pop (hOk : Ok t) (h : Seen rayDir t) : Seen rayDir t.pop := by
  obtain ⟨pushed, hJoint⟩ := h
  let event : NetServer.Event := .wake (t.box.queue.take 1)
  have hQueue : t.seenSim.outbound = t.box.taken ++ t.box.queue.take 1 ++ (t.box.queue.drop 1 ++ t.box.todo) := by
    rw [hOk.seenSim_outbound, ← hOk.made, hOk.sound.fifo, ← List.append_assoc, List.append_assoc t.box.taken (t.box.queue.take 1),
      List.take_append_drop]
  refine ⟨pushed ++ (t.seenNet.step event).inbound.drop t.seenNet.inbound.length, ?_⟩
  have hNet := t.seenNet_step event
  rw [Threads.pop, pop_taken]
  change System.Joint rayDir { net := (t.react event).seenNet, sim := t.seenSim, pushed := _ } _
  rw [hNet]
  exact hJoint.wake _ _ hQueue

theorem Seen.step {turn : Turn} (hOk : Ok t) (hStep : Step rayDir t turn t') (h : Seen rayDir t) : Seen rayDir t' := by
  cases hStep with
  | react event hAsleep hEnabled hOther => exact h.react event hEnabled hOther
  | wake => exact h
  | read hReading =>
    refine seen_congr h rfl rfl ?_
    simp only [Threads.read, Mailbox.read]
    split <;> rfl
  | pop hPopping => exact Seen.pop hOk h
  | beginTick hSleeping =>
    refine seen_congr h ?_ ?_ rfl
    · simp only [seenNet, Threads.beginTick, hSleeping, if_true]
      rfl
    · simp only [seenSim, Threads.beginTick, hSleeping, if_true]
      rfl
  | drain cmd rest hDraining hQueue =>
    refine seen_congr h ?_ ?_ rfl
    · simp only [seenNet, Threads.drain, hDraining, if_true, NetServer.behind, hQueue, List.append_assoc,
        List.singleton_append]
    · simp only [seenSim, Threads.drain, hDraining, if_true]
  | endTick hDraining =>
    obtain ⟨pushed, hJoint⟩ := h
    simp only [seenNet, seenSim, hDraining, if_true] at hJoint
    refine ⟨pushed, ?_⟩
    have hTick : t.sim.finishTick rayDir = t.before.tick rayDir t.drained := by
      rw [Sim.tick_eq_finishTick, ← hOk.drained hDraining]
    simp only [seenNet, seenSim, Threads.endTick, reduceCtorEq, if_false, hTick]
    exact hJoint.simTick t.drained t.net.inbound rfl
  | push hTodo => exact seen_congr h rfl rfl t.box.push_pushed.1
  | notify hPublishing hTodo =>
    refine seen_congr h ?_ ?_ rfl
    · simp only [seenNet, Threads.notify, hPublishing]
      rfl
    · simp only [seenSim, Threads.notify, hPublishing]
      rfl

/-- Every interleaving of the two threads is a run of the system with atomic ticks and wake-ups. -/
theorem reach_seen (h : Reach rayDir t) : Seen rayDir t := by
  induction h with
  | start udpPort udpSilenceMs tickHz snapshotHz delta =>
    exact ⟨[], .start udpPort udpSilenceMs tickHz snapshotHz delta⟩
  | step hBefore hStep ih => exact ih.step hBefore.ok hStep

theorem reach_seen_firstTick : Seen (fun _ => (0, 0)) ticked := reach_seen reach_ticked

end Threads
end CaptureTheFlag
