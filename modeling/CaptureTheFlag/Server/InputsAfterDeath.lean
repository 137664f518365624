import CaptureTheFlag.Server.CarrierDeath
import CaptureTheFlag.Server.Provenance

/-! # Inputs and deaths

`handle_death` leaves the ring alone, so what is in it at a death is consumed after the respawn. When the ring is
empty at every death, everything consumed after a respawn was drained after it.
-/
namespace CaptureTheFlag
set_option autoImplicit false

namespace Sim

def Falls (rayDir : RayDir) (id : Fin kMaxPlayers) (s : Sim) (cmds : List InboundCommand) : Prop :=
  ((s.movedBy cmds).players id).active = true ∧ ((s.movedBy cmds).players id).alive = true ∧
    ((s.tick rayDir cmds).players id).alive = false

def Rises (rayDir : RayDir) (id : Fin kMaxPlayers) (s : Sim) (cmds : List InboundCommand) : Prop :=
  ((s.movedBy cmds).players id).active = true ∧ ((s.movedBy cmds).players id).alive = false ∧
    ((s.tick rayDir cmds).players id).alive = true

/-- What slot `id` consumes in a tick after one of its deaths was drained after that death. -/
def NoneOutlives (rayDir : RayDir) (id : Fin kMaxPlayers) (start : Sim) (ticks : List (List InboundCommand)) : Prop :=
  ∀ earlier kill between cmds later, ticks = earlier ++ kill :: between ++ cmds :: later →
    Falls rayDir id (start.run rayDir earlier) kill →
    ∀ e, (Watch.run rayDir id { sim := start } (earlier ++ kill :: between)).Consumes id cmds e → earlier.length < e.1

/-- What slot `id` consumes in a tick after one of its respawns was drained after that respawn. -/
def FreshAfterRespawn (rayDir : RayDir) (id : Fin kMaxPlayers) (start : Sim) (ticks : List (List InboundCommand)) :
    Prop :=
  ∀ earlier rise between cmds later, ticks = earlier ++ rise :: between ++ cmds :: later →
    Rises rayDir id (start.run rayDir earlier) rise →
    ∀ e, (Watch.run rayDir id { sim := start } (earlier ++ rise :: between)).Consumes id cmds e → earlier.length < e.1

/-- Whenever the player of slot `id` is killed, its ring is empty. -/
def EmptyAtDeath (rayDir : RayDir) (id : Fin kMaxPlayers) (start : Sim) (ticks : List (List InboundCommand)) : Prop :=
  ∀ earlier kill later, ticks = earlier ++ kill :: later → Falls rayDir id (start.run rayDir earlier) kill →
    (((start.run rayDir earlier).movedBy kill).players id).ringCount = 0

def DeadEmpty (id : Fin kMaxPlayers) (s : Sim) : Prop :=
  (s.players id).active = true → (s.players id).alive = false → (s.players id).ringCount = 0

theorem tick_sameInputs (rayDir : RayDir) (s : Sim) (cmds : List InboundCommand) (id : Fin kMaxPlayers) :
    SameInputs ((s.movedBy cmds).players id) ((s.tick rayDir cmds).players id) := by
  rw [tick_eq_finish, ← movedBy]
  exact Session.finish_inputs rayDir _ id

theorem DeadEmpty.tick {rayDir : RayDir} {id : Fin kMaxPlayers} {s : Sim} {cmds : List InboundCommand}
    (h : DeadEmpty id s)
    (hKilled : Falls rayDir id s cmds → ((s.movedBy cmds).players id).ringCount = 0) :
    DeadEmpty id (s.tick rayDir cmds) := by
  intro hActive hDead
  have hSame := tick_sameInputs rayDir s cmds id
  rw [hSame.active] at hActive
  rw [hSame.ringCount]
  by_cases hAlive : ((s.movedBy cmds).players id).alive = true
  · exact hKilled ⟨hActive, hAlive, hDead⟩
  · have hBefore := (movedBy_origin hActive (by simpa using hAlive)).1
    rw [hBefore] at hActive hAlive ⊢
    exact h hActive (by simpa using hAlive)

theorem deadEmpty_run {rayDir : RayDir} {id : Fin kMaxPlayers} {start : Sim} (hStart : DeadEmpty id start)
    {ticks : List (List InboundCommand)} (hEmpty : EmptyAtDeath rayDir id start ticks) :
    DeadEmpty id (start.run rayDir ticks) := by
  induction ticks using List.reverseRecOn with
  | nil => exact hStart
  | append_singleton ticks cmds ih =>
    rw [run_snoc]
    refine (ih ?_).tick (hEmpty ticks cmds [] rfl)
    intro earlier kill later hSplit
    exact hEmpty earlier kill (later ++ [cmds]) (by rw [hSplit, List.append_assoc, List.cons_append])

theorem lists_run {rayDir : RayDir} {id : Fin kMaxPlayers} {start : Sim} (hStart : (start.players id).ringCount = 0)
    (ticks : List (List InboundCommand)) :
    Watch.Lists (Watch.run rayDir id { sim := start } ticks).pending ((start.run rayDir ticks).players id) := by
  have hWatch := Chain.foldl_invariant (I := fun w : Watch => Watch.Lists w.pending (w.sim.players id))
    (fun _ cmds hLists => @Watch.lists_tick rayDir id _ hLists cmds) ticks { sim := start } (Watch.lists_nil hStart)
  have hSim := Watch.run_sim rayDir id { sim := start } ticks
  rw [← hSim]
  exact hWatch

/-- After a tick that ends with an empty ring, only inputs of later ticks are consumed. -/
theorem consumed_later {rayDir : RayDir} {id : Fin kMaxPlayers} {start : Sim} (hStart : (start.players id).ringCount = 0)
    {earlier between : List (List InboundCommand)} {now cmds : List InboundCommand} {e : Dated}
    (hEmpty : (((start.run rayDir earlier).movedBy now).players id).ringCount = 0)
    (h : (Watch.run rayDir id { sim := start } (earlier ++ now :: between)).Consumes id cmds e) :
    earlier.length < e.1 := by
  have hLists := @lists_run rayDir id start hStart (earlier ++ [now])
  have hTicks := Watch.run_ticks rayDir id { sim := start } (earlier ++ [now])
  rw [run_snoc] at hLists
  have hNone : (Watch.run rayDir id { sim := start } (earlier ++ [now])).pending = [] := by
    rw [← List.length_eq_zero_iff, hLists.length, (tick_sameInputs rayDir _ now id).ringCount]
    exact hEmpty
  rw [List.append_cons, Watch.run_append] at h
  have hLater := h.later hNone
  rw [hTicks, List.length_append, List.length_singleton] at hLater
  simp only [Nat.zero_add] at hLater
  exact hLater

theorem consumed_at_once {rayDir : RayDir} {id : Fin kMaxPlayers} {start : Sim} {ticks : List (List InboundCommand)}
    (hStart : (start.players id).ringCount = 0) (hCount : ((start.run rayDir ticks).players id).ringCount = 0)
    (hGoing : (start.run rayDir ticks).matchOver = false) (hActive : ((start.run rayDir ticks).players id).active = true)
    {seq : U32} (hAccepts : ((start.run rayDir ticks).players id).Accepts seq) (input : InputCmd) :
    (Watch.run rayDir id { sim := start } ticks).Consumes id [.playerInput (idByte id) seq input]
      (ticks.length, seq, input) := by
  have hLists := @lists_run rayDir id start hStart ticks
  have hSim := Watch.run_sim rayDir id { sim := start } ticks
  have hTicks := Watch.run_ticks rayDir id { sim := start } ticks
  generalize Watch.run rayDir id { sim := start } ticks = w at hLists hSim hTicks ⊢
  rw [← hSim] at hLists hCount hGoing hActive hAccepts
  have hPending : w.pending = [] := by
    rw [← List.length_eq_zero_iff, hLists.length, hCount]
  have hConsumes := Watch.consumes_only hPending hCount hGoing hActive hAccepts input
  rw [hTicks, Nat.zero_add] at hConsumes
  exact hConsumes

/-- An active player has at most `k` inputs in its ring, and none if it is dead. -/
def HoldsAtMost (p : Player) (k : Nat) : Prop :=
  p.active = true → p.ringCount ≤ k ∧ (p.alive = false → p.ringCount = 0)

theorem HoldsAtMost.mono {p : Player} {k n : Nat} (h : HoldsAtMost p k) (hLe : k ≤ n) : HoldsAtMost p n :=
  fun hActive => ⟨(h hActive).1.trans hLe, (h hActive).2⟩

theorem HoldsAtMost.acceptInput {p : Player} {k : Nat} (h : HoldsAtMost p k) (hActive : p.active = true) (seq : U32)
    (input : InputCmd) : HoldsAtMost (p.acceptInput seq input) (k + 1) := by
  intro _
  obtain ⟨hCount, hDead⟩ := h hActive
  by_cases hAccepts : p.Accepts seq
  · have hAlive : (p.acceptInput seq input).alive = true := (acceptInput_sameLife p seq input).alive.trans hAccepts.1
    refine ⟨?_, fun hNot => nomatch hAlive.symm.trans hNot⟩
    rw [Player.acceptInput_accepted input hAccepts]
    simp only
    split
    · simp only
      omega
    · simp only
      omega
  · rw [Player.acceptInput_rejected input hAccepts]
    exact ⟨Nat.le_succ_of_le hCount, hDead⟩

/-- How many of the commands are inputs of slot `id`. -/
def inputsFor (id : Fin kMaxPlayers) (cmds : List InboundCommand) : Nat :=
  cmds.countP fun
    | .playerInput i _ _ => i == idByte id
    | _ => false

theorem HoldsAtMost.command {s : Sim} {id : Fin kMaxPlayers} {k : Nat} (h : HoldsAtMost (s.players id) k)
    (cmd : InboundCommand) : HoldsAtMost ((s.applyCommand cmd).players id) (k + inputsFor id [cmd]) := by
  by_cases hOwn : cmd.playerId = idByte id ∧ s.matchOver = false
  · rw [Watch.applyCommand_own hOwn.2 hOwn.1]
    by_cases hActive : (s.players id).active = true
    · cases cmd with
      | playerJoined i team spawnIndex =>
        rw [InboundCommand.onSlot, if_pos hActive]
        exact h
      | playerLeft i =>
        rw [InboundCommand.onSlot, if_pos hActive]
        intro hGone
        cases hGone
      | playerInput i seq input =>
        obtain rfl : i = idByte id := hOwn.1
        have hOne : inputsFor id [.playerInput (idByte id) seq input] = 1 := by simp [inputsFor]
        rw [InboundCommand.onSlot, if_pos hActive, hOne]
        exact h.acceptInput hActive seq input
    · cases cmd with
      | playerJoined i team spawnIndex =>
        rw [InboundCommand.onSlot, if_neg hActive]
        exact fun _ => ⟨Nat.zero_le _, fun _ => rfl⟩
      | playerLeft i =>
        rw [InboundCommand.onSlot, if_neg hActive]
        exact fun hBack => absurd hBack hActive
      | playerInput i seq input =>
        rw [InboundCommand.onSlot, if_neg hActive]
        exact fun hBack => absurd hBack hActive
  · have hSame : (s.applyCommand cmd).players id = s.players id := (@Watch.command_idle id { sim := s } cmd hOwn).2
    rw [hSame]
    exact h.mono (Nat.le_add_right _ _)

theorem HoldsAtMost.drain {s : Sim} {id : Fin kMaxPlayers} {k : Nat} (h : HoldsAtMost (s.players id) k)
    (cmds : List InboundCommand) : HoldsAtMost ((s.drainInbound cmds).players id) (k + inputsFor id cmds) := by
  induction cmds generalizing s k with
  | nil => exact h
  | cons cmd cmds ih =>
    have hSplit : inputsFor id (cmd :: cmds) = inputsFor id [cmd] + inputsFor id cmds := by
      rw [inputsFor, inputsFor, inputsFor, ← List.countP_append]
      rfl
    rw [drainInbound_cons, hSplit, ← Nat.add_assoc]
    exact ih (h.command cmd)

/-- A slot that gets one input in a tick at most has none left when combat starts. -/
theorem HoldsAtMost.movedBy {s : Sim} {id : Fin kMaxPlayers} {cmds : List InboundCommand}
    (h : HoldsAtMost (s.players id) 0) (hSparse : inputsFor id cmds ≤ 1) :
    HoldsAtMost ((s.movedBy cmds).players id) 0 := by
  have hDrained := (h.drain cmds).mono (n := 1) (by omega)
  intro hActive
  obtain ⟨hSameActive, hSameAlive, hKept⟩ := popMove_player (s.drainInbound cmds) id
  rw [Sim.movedBy, hSameActive] at hActive
  obtain ⟨hCount, hDead⟩ := hDrained hActive
  suffices hNone : ((s.movedBy cmds).players id).ringCount = 0 from ⟨Nat.le_of_eq hNone, fun _ => hNone⟩
  by_cases hAlive : ((s.drainInbound cmds).players id).alive = true
  · have hMoved : ((s.movedBy cmds).players id).ringCount = ((s.drainInbound cmds).players id).popped.ringCount := by
      rw [Sim.movedBy, (Session.movePlayers_inputs _ id).ringCount, popInputs_eq]
      simp only [hActive, if_true]
    rw [hMoved, Player.popped]
    split
    · simp only
      omega
    · rename_i hStill
      by_contra hSome
      exact hStill ⟨hAlive, Nat.pos_of_ne_zero hSome⟩
  · rw [Sim.movedBy, hKept (by simpa using hAlive)]
    exact hDead (by simpa using hAlive)

theorem HoldsAtMost.tick {s : Sim} {id : Fin kMaxPlayers} {cmds : List InboundCommand}
    (h : HoldsAtMost (s.players id) 0) (hSparse : inputsFor id cmds ≤ 1) (rayDir : RayDir) :
    HoldsAtMost ((s.tick rayDir cmds).players id) 0 := by
  have hSame := tick_sameInputs rayDir s cmds id
  intro hActive
  rw [hSame.active] at hActive
  have hNone := Nat.le_zero.mp ((h.movedBy hSparse) hActive).1
  rw [hSame.ringCount, hNone]
  exact ⟨le_rfl, fun _ => rfl⟩

theorem holdsNothing_run (rayDir : RayDir) {start : Sim} {id : Fin kMaxPlayers}
    (hStart : HoldsAtMost (start.players id) 0) {ticks : List (List InboundCommand)}
    (hSparse : ∀ cmds ∈ ticks, inputsFor id cmds ≤ 1) : HoldsAtMost ((start.run rayDir ticks).players id) 0 := by
  induction ticks using List.reverseRecOn with
  | nil => exact hStart
  | append_singleton ticks cmds ih =>
    rw [run_snoc]
    have hBefore := ih fun cmds hMem => hSparse cmds (List.mem_append_left _ hMem)
    exact hBefore.tick (hSparse cmds (List.mem_append_right _ List.mem_cons_self)) rayDir

/-- Whoever sends one input a tick at most dies with an empty ring. -/
theorem emptyAtDeath_of_sparse (rayDir : RayDir) {start : Sim} {id : Fin kMaxPlayers}
    (hStart : HoldsAtMost (start.players id) 0) {ticks : List (List InboundCommand)}
    (hSparse : ∀ cmds ∈ ticks, inputsFor id cmds ≤ 1) : EmptyAtDeath rayDir id start ticks := by
  intro earlier kill later hSplit hFalls
  have hBefore : HoldsAtMost ((start.run rayDir earlier).players id) 0 := by
    refine holdsNothing_run rayDir hStart fun cmds hMem => hSparse cmds ?_
    rw [hSplit]
    exact List.mem_append_left _ hMem
  have hKill : inputsFor id kill ≤ 1 := by
    refine hSparse kill ?_
    rw [hSplit]
    exact List.mem_append_right _ List.mem_cons_self
  exact Nat.le_zero.mp ((hBefore.movedBy hKill) hFalls.1).1

theorem no_input_outlives_death (rayDir : RayDir) (tickHz snapshotHz : Int) (delta : Bool)
    (ticks : List (List InboundCommand)) (id : Fin kMaxPlayers)
    (hEmpty : EmptyAtDeath rayDir id (configured tickHz snapshotHz delta) ticks) :
    NoneOutlives rayDir id (configured tickHz snapshotHz delta) ticks ∧
      FreshAfterRespawn rayDir id (configured tickHz snapshotHz delta) ticks := by
  have hStart : ((configured tickHz snapshotHz delta).players id).ringCount = 0 := rfl
  have hNone : DeadEmpty id (configured tickHz snapshotHz delta) := fun _ _ => rfl
  generalize configured tickHz snapshotHz delta = start at hEmpty hStart hNone ⊢
  constructor
  · intro earlier kill between cmds later hSplit hFalls e hConsumes
    have hKill := hEmpty earlier kill (between ++ cmds :: later) (by rw [hSplit, List.append_assoc, List.cons_append])
    exact consumed_later hStart (hKill hFalls) hConsumes
  · rintro earlier rise between cmds later hSplit ⟨hActive, hDead, -⟩ e hConsumes
    have hBefore : EmptyAtDeath rayDir id start earlier := by
      intro first kill rest hFirst
      exact hEmpty first kill (rest ++ rise :: between ++ cmds :: later) (by rw [hSplit, hFirst]; simp)
    have hSame := (movedBy_origin hActive hDead).1
    rw [hSame] at hActive hDead
    refine consumed_later hStart ?_ hConsumes
    rw [hSame]
    exact deadEmpty_run hNone hBefore hActive hDead

theorem remains_idle (rayDir : RayDir) (v : Fin kMaxPlayers) (n : Nat) (s : Sim) :
    Remains rayDir v s (List.replicate n []) := by
  induction n generalizing s with
  | zero => trivial
  | succ n ih =>
    rw [List.replicate_succ, Remains]
    exact ⟨fun hLeaves => absurd hLeaves.2 List.not_mem_nil, ih _⟩

/-- Ticks without commands leave the ring of a dead player as it is. -/
theorem pending_waits (rayDir : RayDir) {id : Fin kMaxPlayers} {w : Watch} (hLife : AllLife w.sim)
    (hActive : (w.sim.players id).active = true) (hDead : (w.sim.players id).alive = false) (n : Nat)
    (hShort : (n : Int) ≤ (w.sim.players id).respawnTimer) :
    (w.run rayDir id (List.replicate n [])).pending = w.pending := by
  induction n with
  | zero => rfl
  | succ n ih =>
    have hWaits := run_waits rayDir hLife hActive hDead (List.replicate n []) (remains_idle rayDir id n _)
      (by rw [List.length_replicate]; omega)
    have hSim := Watch.run_sim rayDir id w (List.replicate n [])
    have hNone : ¬ Watch.Pops id (w.run rayDir id (List.replicate n [])).sim := by
      rintro ⟨-, hAlive⟩
      rw [hSim, hWaits] at hAlive
      exact nomatch hDead.symm.trans hAlive
    rw [List.replicate_succ', Watch.run_snoc, ← ih (by omega)]
    exact if_neg hNone

/-- A dead player with a full timer is back after so many ticks, and as it was otherwise. -/
theorem rises_after (rayDir : RayDir) {id : Fin kMaxPlayers} {s : Sim} (hLife : AllLife s)
    (hActive : (s.players id).active = true) (hDead : (s.players id).alive = false) (n : Nat)
    (hTimer : (s.players id).respawnTimer = n + 1) :
    Rises rayDir id (s.run rayDir (List.replicate n [])) [] ∧
      (s.run rayDir (List.replicate (n + 1) [])).players id = risen (waited (s.players id) n) := by
  have hWaits := run_waits rayDir hLife hActive hDead (List.replicate n []) (remains_idle rayDir id n _)
    (by rw [List.length_replicate, hTimer]; omega)
  have hLife' := hLife.run rayDir (List.replicate n [])
  rw [List.length_replicate] at hWaits
  rw [List.replicate_succ', run_snoc]
  generalize s.run rayDir (List.replicate n []) = s' at hWaits hLife' ⊢
  have hHere : (s'.players id).active = true ∧ (s'.players id).alive = false := by
    rw [hWaits]
    exact ⟨hActive, hDead⟩
  have hStay : ¬ s'.Leaves id [] := fun hLeaves => nomatch hLeaves.2
  have hTick := tick_dead rayDir hLife' hHere.1 hHere.2 hStay
  have hDue : (s'.players id).respawnTimer ≤ 1 := by
    rw [hWaits]
    simp only [waited]
    omega
  rw [if_pos hDue, hWaits] at hTick
  have hMoved := movedBy_dead hHere.1 hHere.2 hStay
  refine ⟨⟨?_, ?_, ?_⟩, hTick.1⟩
  · rw [hMoved]
    exact hHere.1
  · rw [hMoved]
    exact hHere.2
  · rw [hTick.1]
    rfl

theorem Falls.timer {rayDir : RayDir} {id : Fin kMaxPlayers} {s : Sim} {kill : List InboundCommand}
    (hLife : AllLife s) (h : Falls rayDir id s kill) :
    ((s.tick rayDir kill).players id).respawnTimer = 89 := by
  obtain ⟨hActive, hAlive, hDead⟩ := h
  have hFate := tick_fate rayDir hLife kill id
  generalize (s.tick rayDir kill).players id = q at hFate hDead ⊢
  generalize s.happened rayDir kill id = events at hFate
  cases hFate with
  | absent hAbsent => exact nomatch hActive.symm.trans hAbsent
  | lives hLive hLives => exact nomatch hDead.symm.trans hLives
  | falls hLive hFallen => exact hFallen.respawnTimer
  | waits hHere hGone => exact nomatch hAlive.symm.trans hGone
  | rises hHere hGone => exact nomatch hAlive.symm.trans hGone

/-- The condition cannot be spared: whoever dies with an input in its ring consumes it when it is back, if nothing
else happens. -/
theorem outlives_of_held (rayDir : RayDir) {id : Fin kMaxPlayers} {start : Sim} (hLife : AllLife start)
    (hStart : (start.players id).ringCount = 0) {ticks : List (List InboundCommand)} {kill : List InboundCommand}
    (hFalls : Falls rayDir id (start.run rayDir ticks) kill)
    (hHeld : (((start.run rayDir ticks).movedBy kill).players id).ringCount ≠ 0) :
    ¬ NoneOutlives rayDir id start (ticks ++ kill :: List.replicate 89 [] ++ [[]]) := by
  intro hNone
  have hNone := hNone ticks kill (List.replicate 89 []) [] [] rfl hFalls
  have hLists := @lists_run rayDir id start hStart (ticks ++ [kill])
  have hDates := Watch.dates_past rayDir id start (ticks ++ [kill])
  have hSim := Watch.run_sim rayDir id { sim := start } (ticks ++ [kill])
  have hTicks := Watch.run_ticks rayDir id { sim := start } (ticks ++ [kill])
  have hSame := tick_sameInputs rayDir (start.run rayDir ticks) kill id
  have hTimer := hFalls.timer (hLife.run rayDir ticks)
  have hLife' := hLife.run rayDir (ticks ++ [kill])
  have hDead := hFalls.2.2
  have hActive := hSame.active.trans hFalls.1
  rw [← run_snoc] at hDead hActive hTimer hSame
  rw [List.append_cons, Watch.run_append] at hNone
  generalize Watch.run rayDir id { sim := start } (ticks ++ [kill]) = w at hNone hLists hDates hSim hTicks
  rw [← hSim] at hLists hDead hActive hTimer hSame hLife'
  have hPending := pending_waits rayDir hLife' hActive hDead 89 (by rw [hTimer]; decide)
  have hBack : ((w.sim.run rayDir (List.replicate 89 [])).players id).active = true ∧
      ((w.sim.run rayDir (List.replicate 89 [])).players id).alive = true := by
    rw [(rises_after rayDir hLife' hActive hDead 88 hTimer).2]
    exact ⟨hActive, rfl⟩
  have hLater := Watch.run_sim rayDir id w (List.replicate 89 [])
  rw [← hLater] at hBack
  -- The oldest input in the ring at the death.
  obtain ⟨e, rest, hCons⟩ : ∃ e rest, w.pending = e :: rest := by
    rw [← List.ne_nil_iff_exists_cons, ← List.length_pos_iff, hLists.length, hSame.ringCount]
    exact Nat.pos_of_ne_zero hHeld
  have hDate := hDates e (by rw [hCons]; exact List.mem_cons_self)
  have hOld := hNone e ⟨hBack, by rw [Watch.drain, List.foldl_nil, hPending, hCons]; rfl⟩
  rw [hTicks, List.length_append, List.length_singleton] at hDate
  simp only [Nat.zero_add] at hDate
  omega

/-- The volley, and two more inputs of its target: one is consumed in the same tick, the other stays in the ring. -/
def heldCommands : List InboundCommand :=
  killCommands ++ [.playerInput (idByte 0) 213 {}, .playerInput (idByte 0) 214 marchRight]

def holding (c : Player) : Player := (c.acceptInput 213 {}).acceptInput 214 marchRight

theorem Target.accept {p : Player} {health : Int} (h : Target p health) (seq : U32) (input : InputCmd) :
    Target (p.acceptInput seq input) health := by
  simp only [Player.acceptInput]
  split
  · exact h
  · split
    · exact h
    · split <;> exact ⟨h.active, h.alive, h.team, h.position, h.carryingFlag, h.health⟩

theorem holding_queued {c : Player} (hAlive : c.alive = true) (hCount : c.ringCount = 0)
    (hNewest : c.newestSeq = 212) : (holding c).queued = [(213, {}), (214, marchRight)] := by
  have hFirst : c.Accepts 213 := ⟨hAlive, by rw [hNewest]; decide⟩
  have hRecord := Player.acceptInput_accepted {} hFirst
  simp only [hCount, show ¬ (0 = kInputRingSize) by decide, if_false] at hRecord
  have hQueued := (Player.queued_acceptInput {} hFirst (by rw [hCount]; decide)).1
  have hNone : c.queued = [] := by
    rw [Player.queued, hCount]
    rfl
  rw [hCount, if_neg (by decide), hNone, List.nil_append] at hQueued
  have hSecond : (c.acceptInput 213 {}).Accepts 214 := by
    have hSeen : (c.acceptInput 213 {}).newestSeq = 213 := by rw [hRecord]
    refine ⟨(acceptInput_sameLife c 213 {}).alive.trans hAlive, ?_⟩
    rw [hSeen]
    decide
  have hOne : (c.acceptInput 213 {}).ringCount = 1 := by rw [hRecord]
  have hBoth := (Player.queued_acceptInput marchRight hSecond (by rw [hOne]; decide)).1
  rw [hOne, if_neg (by decide), hQueued] at hBoth
  exact hBoth

theorem drain_heldCommands {s : Sim} {c : Player} (hPlayers : s.players = lineUp c guardPlayer)
    (hActive : c.active = true) (hMatch : s.matchOver = false) :
    s.drainInbound heldCommands = { s with players := lineUp (holding c) armed } := by
  have hSlot : ∀ c c' : Player, Function.update (lineUp c armed) 0 c' = lineUp c' armed := by
    intro c c'
    funext i
    by_cases hi : i = 0
    · subst hi
      rw [Function.update_self]
      rfl
    · rw [Function.update_of_ne hi]
      simp only [lineUp, hi, if_false]
  have hAccepted : ∀ seq input, (c.acceptInput seq input).active = true := fun seq input =>
    (acceptInput_sameLife c seq input).active.trans hActive
  have hFirst := applyCommand_input { s with players := lineUp c armed } 0 213 {} hMatch hActive
  have hSecond := applyCommand_input { s with players := lineUp (c.acceptInput 213 {}) armed } 0 214 marchRight hMatch
    (hAccepted 213 {})
  simp only [setPlayer, hSlot] at hFirst hSecond
  have hSplit : s.drainInbound heldCommands = (s.drainInbound killCommands).drainInbound
      [.playerInput (idByte 0) 213 {}, .playerInput (idByte 0) 214 marchRight] := List.foldl_append
  rw [hSplit, drain_killCommands hPlayers hMatch, drainInbound_cons, hFirst, drainInbound_cons]
  exact hSecond

theorem holding_nextInput {c : Player} (hAlive : c.alive = true)
    (hQueued : (holding c).queued = [(213, {}), (214, marchRight)]) :
    (holding c).nextInput = {} ∧ (holding c).popped.queued = [(214, marchRight)] := by
  have hStill : (holding c).alive = true := by
    rw [holding, (acceptInput_sameLife _ _ _).alive, (acceptInput_sameLife _ _ _).alive]
    exact hAlive
  have hPopped := Player.popped_cons hStill hQueued
  exact ⟨hPopped.2.2.1, hPopped.1⟩

theorem Volley.finish_target {m : Sim} (h : Volley m 100 0) (hCalm : m.combatTurn eastward 0 = m) :
    ((m.finish eastward).players 0).alive = false := by
  obtain ⟨hSecond, hCombat⟩ := h.combat_eq hCalm
  have hDead := hSecond.kill_target 3 rfl (by decide) (by decide)
  have hActive := hSecond.target.active
  rw [← hCombat] at hDead
  generalize (m.combatTurn eastward 1).combatTurn eastward 2 = m' at hDead hActive
  have hTouch : (m.combat eastward).touchPhase.players 0 = (m.combat eastward).players 0 := by
    refine (touchPhase_silent ?_).1
    intro hLiving
    have hAlive := hLiving.2
    rw [hDead] at hAlive
    cases hAlive
  rw [finish_player, hTouch, hDead, respawned_dead]
  · rfl
  · exact hActive
  · rfl

theorem volley_falls {s : Sim} {c : Player} {cmds : List InboundCommand}
    (hDrain : s.drainInbound cmds = { s with players := lineUp c armed }) (hTarget : Target c 100)
    (hStill : c.nextInput = {}) (hReady : c.fireCooldown = 0) (hFlag : s.flags .red = init.flags .red) :
    Falls eastward 0 s cmds ∧ (s.movedBy cmds).players 0 = c.popped.moved {} := by
  obtain ⟨hVolley, hCalm, hSlot⟩ := volley_fires hDrain hTarget hStill hReady hFlag
  have hDead := hVolley.finish_target hCalm
  have hTick : s.tick eastward cmds = (s.movedBy cmds).finish eastward := by
    rw [tick_eq_finish, movedBy]
  rw [← hTick] at hDead
  exact ⟨⟨hVolley.target.active, hVolley.target.alive, hDead⟩, hSlot⟩

theorem held_tick {s : Sim} {c : Player} (hPlayers : s.players = lineUp c guardPlayer) (hTarget : Target c 100)
    (hCount : c.ringCount = 0) (hNewest : c.newestSeq = 212) (hReady : c.fireCooldown = 0)
    (hFlag : s.flags .red = init.flags .red) (hMatch : s.matchOver = false) :
    Falls eastward 0 s heldCommands ∧ ((s.movedBy heldCommands).players 0).ringCount ≠ 0 := by
  have hQueued := holding_queued hTarget.alive hCount hNewest
  obtain ⟨hNext, hLeft⟩ := holding_nextInput hTarget.alive hQueued
  have hHolding : Target (holding c) 100 := (hTarget.accept _ _).accept _ _
  have hCooldown : (holding c).fireCooldown = 0 := by
    rw [holding, acceptInput_fireCooldown, acceptInput_fireCooldown]
    exact hReady
  obtain ⟨hFalls, hSlot⟩ :=
    volley_falls (drain_heldCommands hPlayers hTarget.active hMatch) hHolding hNext hCooldown hFlag
  refine ⟨hFalls, ?_⟩
  intro hNone
  rw [hSlot] at hNone
  have hCount : (holding c).popped.ringCount = 0 := hNone
  have hLength := congrArg List.length hLeft
  rw [Player.queued, Circular.length_window, hCount] at hLength
  cases hLength

/-- Player 0 is shot with an input in its ring, and walks when it is back. -/
theorem input_outlives_death :
    ¬ NoneOutlives eastward 0 (configured 30 30 true) (carryTicks ++ heldCommands :: List.replicate 89 [] ++ [[]]) := by
  obtain ⟨w, hw, hCarrying⟩ := carryTicks_carrying
  obtain ⟨hFalls, hHeld⟩ := held_tick hCarrying.players (carrier_target hw) hw.ringCount hw.newestSeq hw.fireCooldown
    hCarrying.red hCarrying.matchOver
  have hLife : AllLife (configured 30 30 true) := allLife_run eastward 30 30 true []
  exact outlives_of_held eastward hLife rfl hFalls hHeld

/-- Nobody who lives stands on the base of its own team, so nobody scores. -/
structure Away (s : Sim) : Prop where
  position : ∀ id, s.Living id → aabbOverlap (s.players id).position (baseOf (s.players id).team) = false
  score : s.score = init.score
  matchOver : s.matchOver = false

theorem spawn_off_base (team : Team) (index : Fin kMaxPlayers) :
    aabbOverlap (spawnPoint team index) (baseOf team) = false := by
  cases team <;> (revert index; decide +kernel)

theorem Away.update {s s' : Sim} (h : Away s) {id : Fin kMaxPlayers} {p : Player}
    (hPlayers : s'.players = Function.update s.players id p)
    (hOff : p.active = true → p.alive = true → aabbOverlap p.position (baseOf p.team) = false)
    (hScore : s'.score = s.score) (hMatch : s'.matchOver = s.matchOver) : Away s' := by
  refine ⟨?_, hScore.trans h.score, hMatch.trans h.matchOver⟩
  intro i hLive
  rw [Living, hPlayers] at hLive
  rw [hPlayers]
  by_cases hi : i = id
  · subst hi
    rw [Function.update_self] at hLive ⊢
    exact hOff hLive.1 hLive.2
  · rw [Function.update_of_ne hi] at hLive ⊢
    exact h.position i hLive

theorem Away.combat {drops : Prop} {s s' : Sim} (hChange : CombatChange drops s s') (h : Away s) : Away s' := by
  cases hChange with
  | cool id hLive => exact h.update rfl (fun _ _ => h.position id hLive) rfl rfl
  | shoot id msg hLive hMsg => exact h.update rfl (fun _ _ => h.position id hLive) rfl rfl
  | wound id health hLive hHealth => exact h.update rfl (fun _ _ => h.position id hLive) rfl rfl
  | kill id msg hLive hFree hMsg => exact h.update rfl (fun _ hAlive => nomatch hAlive) rfl rfl
  | killCarrier id drop msg hDrops hLive hCarries hMsg hDrop =>
    exact h.update rfl (fun _ hAlive => nomatch hAlive) rfl rfl

theorem Away.flags {s s' : Sim} (hChange : FlagChange s s') (h : Away s) : Away s' := by
  cases hChange with
  | follow team position hCarried => exact ⟨h.position, h.score, h.matchOver⟩
  | flagReturn team playerId hDropped hBy => exact ⟨h.position, h.score, h.matchOver⟩
  | pickUp id hLive hFree hState hTouch => exact h.update rfl (fun _ _ => h.position id hLive) rfl rfl
  | capture id hLive hCarries hOwn hBase => exact nomatch (h.position id hLive).symm.trans hBase

theorem Away.respawn {s s' : Sim} (hChange : RespawnChange s s') (h : Away s) : Away s' := by
  cases hChange with
  | countDown id hDead => exact h.update rfl (fun _ hAlive => nomatch hDead.symm.trans hAlive) rfl rfl
  | respawn id msg hActive hDead hDue hMsg => exact h.update rfl (fun _ _ => spawn_off_base _ _) rfl rfl

theorem Away.finish {s : Sim} {n : Nat} (h : Away s) (hTick : s.currentTick = BitVec.ofNat 32 n) (hn : n < 18000)
    (rayDir : RayDir) : Away (s.finish rayDir) := by
  have hCombat := Chain.invariant (fun _ _ hChange h => Away.combat hChange h) (combat_changes rayDir s) h
  have hTouch := Chain.invariant (fun _ _ hChange h => Away.flags hChange h) (touchPhase_changes _) hCombat
  have hRespawn := Chain.invariant (fun _ _ hChange h => Away.respawn hChange h) (respawnPhase_changes _) hTouch
  have hClock := phases_currentTick rayDir s
  rw [← flagsPhase_eq] at hRespawn
  rw [Sim.finish]
  generalize (s.combat rayDir).flagsPhase = s' at hRespawn hClock ⊢
  obtain ⟨-, hScore, -, hMatch⟩ := publish_world s'
  rw [winCheck_early hRespawn.matchOver hRespawn.score (hClock.trans hTick) hn]
  refine ⟨?_, hScore.trans hRespawn.score, hMatch.trans hRespawn.matchOver⟩
  intro id hLive
  simp only [Living, publish_players] at hLive ⊢
  exact hRespawn.position id hLive

/-- The movement phase when nobody walks. -/
theorem Away.stepped {s : Sim} (h : Away s) (hStill : ∀ id, s.Living id → (s.players id).nextInput.Still) :
    Away s.stepped := by
  have hRest : s.stepped.score = s.score ∧ s.stepped.matchOver = s.matchOver := by
    simp only [Sim.stepped, movePlayers_eq, popInputs_eq, and_self]
  refine ⟨?_, hRest.1.trans h.score, hRest.2.trans h.matchOver⟩
  intro id hLive
  rw [Living, stepped_players] at hLive
  rw [stepped_players]
  split at hLive
  · rename_i hBefore
    obtain ⟨-, -, hT, -, -, hP, -⟩ := popped_fields (s.players id)
    have hStay := movementStep_still { position := (s.players id).popped.position } _ Map.arena (hStill id hBefore)
    rw [if_pos hBefore, Player.moved]
    simp only [hStay]
    rw [hT, hP]
    exact h.position id hBefore
  · rename_i hBefore
    exact absurd hLive hBefore

theorem Away.idle {s : Sim} {n : Nat} (h : Away s) (hNothing : ∀ id, HoldsAtMost (s.players id) 0)
    (hTick : s.currentTick = BitVec.ofNat 32 n) (hn : n < 18000) (rayDir : RayDir) : Away (s.tick rayDir []) := by
  have hMoved : Away (s.movedBy []) := by
    refine h.stepped fun id hLive => ?_
    have hNone : (s.players id).queued = [] := by
      rw [Player.queued, Nat.le_zero.mp (hNothing id hLive.1).1]
      rfl
    rw [(Player.popped_idle (by simp [hNone])).2]
    decide
  have hClock := (movedBy_frame s []).1
  rw [tick_eq_finish, ← movedBy]
  exact hMoved.finish (hClock.trans hTick) hn rayDir

theorem Away.idle_run {s : Sim} {n : Nat} (h : Away s) (hNothing : ∀ id, HoldsAtMost (s.players id) 0)
    (hTick : s.currentTick = BitVec.ofNat 32 n) (k : Nat) (hk : n + k ≤ 18000) (rayDir : RayDir) :
    Away (s.run rayDir (List.replicate k [])) := by
  induction k with
  | zero => exact h
  | succ k ih =>
    have hClock := run_currentTick_from rayDir s (List.replicate k [])
    have hStill : ∀ id, HoldsAtMost ((s.run rayDir (List.replicate k [])).players id) 0 := by
      intro id
      refine holdsNothing_run rayDir (hNothing id) fun cmds hMem => ?_
      rw [List.eq_of_mem_replicate hMem]
      exact Nat.zero_le _
    rw [List.length_replicate, hTick, ← BitVec.ofNat_add] at hClock
    rw [List.replicate_succ', run_snoc]
    exact (ih (by omega)).idle hStill hClock (by omega) rayDir

/-- Whoever was shot comes back into a match that goes on. -/
theorem Away.rises {s : Sim} {id : Fin kMaxPlayers} {t : Nat} (h : Away s) (hLife : AllLife s)
    (hNothing : ∀ id, HoldsAtMost (s.players id) 0) (hTick : s.currentTick = BitVec.ofNat 32 t)
    (hActive : (s.players id).active = true) (hDead : (s.players id).alive = false) (n : Nat)
    (hTimer : (s.players id).respawnTimer = n + 1) (hn : t + (n + 1) ≤ 18000) (rayDir : RayDir) :
    Rises rayDir id (s.run rayDir (List.replicate n [])) [] ∧
      (s.run rayDir (List.replicate (n + 1) [])).matchOver = false ∧
      ((s.run rayDir (List.replicate (n + 1) [])).players id).active = true ∧
      ((s.run rayDir (List.replicate (n + 1) [])).players id).alive = true ∧
      ((s.run rayDir (List.replicate (n + 1) [])).players id).newestSeq = (s.players id).newestSeq := by
  obtain ⟨hRises, hRisen⟩ := rises_after rayDir hLife hActive hDead n hTimer
  have hLater := h.idle_run hNothing hTick (n + 1) hn rayDir
  rw [hRisen]
  exact ⟨hRises, hLater.matchOver, hActive, rfl, rfl⟩

def returnCommands : List InboundCommand := [.playerInput (idByte 0) 213 marchRight]

/-- The carrier is shot with nothing in its ring, and sends again when it is back. -/
def returnTicks : List (List InboundCommand) := killTicks ++ List.replicate 89 [] ++ [returnCommands]

theorem sparse_return {cmds : List InboundCommand} (id : Fin kMaxPlayers) (hMem : cmds ∈ returnTicks) :
    inputsFor id cmds ≤ 1 := by
  have hOne : ∀ cmd : InboundCommand, inputsFor id [cmd] ≤ 1 := fun cmd => List.countP_le_length
  have hJoins : ∀ id, inputsFor id joinCommands ≤ 1 := by decide
  have hKill : ∀ id, inputsFor id killCommands ≤ 1 := by decide
  simp only [returnTicks, killTicks, carryTicks, rightTicks, downTicks, List.mem_append, List.mem_cons, List.mem_map,
    List.mem_replicate, List.not_mem_nil, or_false] at hMem
  rcases hMem with (((((rfl | ⟨i, -, rfl⟩) | ⟨j, -, rfl⟩) | rfl) | rfl) | ⟨-, rfl⟩) | rfl
  · exact hJoins id
  · exact hOne _
  · exact hOne _
  · exact hOne _
  · exact hKill id
  · exact Nat.zero_le _
  · exact hOne _

theorem away_volley {s : Sim} {w : Player} {n t : Nat} (h : Carrying s w) (hw : Walker w dropPosition n)
    (hTick : s.currentTick = BitVec.ofNat 32 t) (ht : t < 18000) : Away (s.tick eastward killCommands) := by
  have hFacts : aabbOverlap dropPosition (baseOf .red) = false ∧ armed.position = guardPlayer.position ∧
      aabbOverlap guardPlayer.position (baseOf .blue) = false ∧ armed.nextInput.Still := by decide +kernel
  have hLined : Away { s with players := lineUp { w with carryingFlag := true } armed } := by
    refine ⟨?_, h.score, h.matchOver⟩
    intro id hLive
    by_cases hi : id = 0
    · subst hi
      have hTarget := carrier_target hw
      have hSlot : lineUp { w with carryingFlag := true } armed 0 = { w with carryingFlag := true } := rfl
      simp only [hSlot, hTarget.position, hTarget.team]
      exact hFacts.1
    · have hGuard := lineUp_guard { w with carryingFlag := true } armed hi ((lineUp_active hLive.1).resolve_left hi)
      simp only [hGuard, hFacts.2.1]
      exact hFacts.2.2.1
  have hMoved : Away (s.movedBy killCommands) := by
    rw [movedBy, drain_killCommands h.players h.matchOver]
    refine hLined.stepped fun id hLive => ?_
    by_cases hi : id = 0
    · subst hi
      have hQueued : ({ w with carryingFlag := true } : Player).queued = [] := hw.queued
      have hNext := (Player.popped_idle (p := { w with carryingFlag := true }) (by simp [hQueued])).2
      exact (congrArg InputCmd.Still hNext).mpr (by decide)
    · have hGuard := lineUp_guard { w with carryingFlag := true } armed hi ((lineUp_active hLive.1).resolve_left hi)
      exact (congrArg (fun p : Player => p.nextInput.Still) hGuard).mpr hFacts.2.2.2
  have hClock := (movedBy_frame s killCommands).1
  rw [tick_eq_finish, ← movedBy]
  exact hMoved.finish (hClock.trans hTick) ht eastward

theorem killTicks_length : killTicks.length = 214 := by
  simp [killTicks, carryTicks, rightTicks, downTicks]

theorem killTicks_falls :
    Falls eastward 0 ((configured 30 30 true).run eastward carryTicks) killCommands ∧
      (((configured 30 30 true).run eastward killTicks).players 0).newestSeq = 212 ∧
      Away ((configured 30 30 true).run eastward killTicks) := by
  obtain ⟨w, hw, hCarrying⟩ := carryTicks_carrying
  have hTick := run_currentTick eastward 30 30 true carryTicks
  have hLength : carryTicks.length = 213 := by simp [carryTicks, rightTicks, downTicks]
  have hQueued : ({ w with carryingFlag := true } : Player).queued = [] := hw.queued
  obtain ⟨hPopped, hStill⟩ := Player.popped_idle (p := { w with carryingFlag := true }) (by simp [hQueued])
  obtain ⟨hFalls, hSlot⟩ := volley_falls (drain_killCommands hCarrying.players hCarrying.matchOver)
    (carrier_target hw) hStill hw.fireCooldown hCarrying.red
  rw [hLength] at hTick
  rw [killTicks, run_snoc]
  refine ⟨hFalls, ?_, away_volley hCarrying hw hTick (by decide)⟩
  rw [(tick_sameInputs eastward _ killCommands 0).newestSeq, hSlot, hPopped]
  exact hw.newestSeq

theorem holdsNothing_return {ticks : List (List InboundCommand)} (hPrefix : ticks <+: returnTicks)
    (id : Fin kMaxPlayers) : HoldsAtMost (((configured 30 30 true).run eastward ticks).players id) 0 := by
  have hNew : HoldsAtMost ((configured 30 30 true).players id) 0 := nofun
  exact holdsNothing_run eastward hNew fun cmds hMem => sparse_return id (hPrefix.subset hMem)

/-- The player that was shot is back, and takes inputs again. -/
theorem killTicks_rises :
    Rises eastward 0 ((configured 30 30 true).run eastward (killTicks ++ List.replicate 88 [])) [] ∧
      ((configured 30 30 true).run eastward (killTicks ++ List.replicate 89 [])).matchOver = false ∧
      (((configured 30 30 true).run eastward (killTicks ++ List.replicate 89 [])).players 0).active = true ∧
      (((configured 30 30 true).run eastward (killTicks ++ List.replicate 89 [])).players 0).Accepts 213 := by
  obtain ⟨hFalls, hNewest, hAway⟩ := killTicks_falls
  have hBefore : killTicks <+: returnTicks := (List.prefix_append _ _).trans (List.prefix_append _ _)
  have hNothing := fun id => holdsNothing_return hBefore id
  have hClock := run_currentTick eastward 30 30 true killTicks
  have hTimer := hFalls.timer (allLife_run eastward 30 30 true carryTicks)
  have hDead := hFalls.2.2
  have hActive := (tick_sameInputs eastward _ killCommands 0).active.trans hFalls.1
  rw [← run_snoc, ← killTicks] at hTimer hDead hActive
  rw [killTicks_length] at hClock
  obtain ⟨hRises, hGoing, hBack, hAlive, hSeen⟩ :=
    hAway.rises (allLife_run eastward 30 30 true killTicks) hNothing hClock hActive hDead 88 hTimer (by decide) eastward
  rw [run_append, run_append]
  refine ⟨hRises, hGoing, hBack, hAlive, ?_⟩
  rw [hSeen, hNewest]
  decide

theorem no_input_outlives_death_when_killed :
    Falls eastward 0 ((configured 30 30 true).run eastward carryTicks) killCommands ∧
      Rises eastward 0 ((configured 30 30 true).run eastward (killTicks ++ List.replicate 88 [])) [] ∧
      (Watch.run eastward 0 { sim := configured 30 30 true } (killTicks ++ List.replicate 89 [])).Consumes 0
        returnCommands (303, 213, marchRight) ∧
      NoneOutlives eastward 0 (configured 30 30 true) returnTicks ∧
      FreshAfterRespawn eastward 0 (configured 30 30 true) returnTicks := by
  obtain ⟨hRises, hGoing, hActive, hAccepts⟩ := killTicks_rises
  have hNew : HoldsAtMost ((configured 30 30 true).players 0) 0 := nofun
  have hEmpty := emptyAtDeath_of_sparse eastward hNew fun cmds hMem => sparse_return 0 hMem
  refine ⟨killTicks_falls.1, hRises, ?_, no_input_outlives_death eastward 30 30 true returnTicks 0 hEmpty⟩
  have hNone := holdsNothing_return (List.prefix_append (killTicks ++ List.replicate 89 []) [returnCommands]) 0
  have hConsumes := consumed_at_once rfl (Nat.le_zero.mp (hNone hActive).1) hGoing hActive hAccepts marchRight
  rw [List.length_append, List.length_replicate, killTicks_length] at hConsumes
  exact hConsumes

end Sim
end CaptureTheFlag
