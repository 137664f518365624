import CaptureTheFlag.Server.Frozen
import CaptureTheFlag.Server.InputSession
import CaptureTheFlag.Server.NetSteps

/-! # Three rosters and a queue

The network thread and the simulation share nothing but the inbound queue, and each may run ahead of the other.
`pushed` keeps every command the network thread has ever pushed.
-/
namespace CaptureTheFlag
set_option autoImplicit false
open Relation

/-- Who is in the match, and for which team. -/
abbrev Roster := Fin kMaxPlayers → Option Team

namespace Roster

def apply (r : Roster) : InboundCommand → Roster
  | .playerJoined i team _ => fun id => if i = Sim.idByte id ∧ r id = none then some team else r id
  | .playerLeft i => fun id => if i = Sim.idByte id then none else r id
  | .playerInput _ _ _ => r

def after (cmds : List InboundCommand) : Roster := cmds.foldl apply fun _ => none

theorem after_append (cmds more : List InboundCommand) : after (cmds ++ more) = more.foldl apply (after cmds) :=
  List.foldl_append

theorem foldl_apply_inputs (r : Roster) {cmds : List InboundCommand} (h : ∀ cmd ∈ cmds, cmd.IsInput) :
    cmds.foldl apply r = r := by
  induction cmds with
  | nil => rfl
  | cons cmd cmds ih =>
    have hRest := ih fun c hc => h c (List.mem_cons_of_mem _ hc)
    cases cmd with
    | playerInput => exact hRest
    | playerJoined => exact (h _ List.mem_cons_self).elim
    | playerLeft => exact (h _ List.mem_cons_self).elim

end Roster

/-- The players of the join commands, each with the team it was given. -/
def startTeams (cmds : List InboundCommand) : List (U8 × Team) :=
  cmds.filterMap fun
    | .playerJoined id team _ => some (id, team)
    | _ => none

theorem startTeams_append (cmds more : List InboundCommand) :
    startTeams (cmds ++ more) = startTeams cmds ++ startTeams more := List.filterMap_append

theorem startTeams_inputs {cmds : List InboundCommand} (h : ∀ cmd ∈ cmds, cmd.IsInput) : startTeams cmds = [] := by
  refine List.filterMap_eq_nil_iff.mpr fun cmd hMem => ?_
  have := h cmd hMem
  cases cmd with
  | playerInput => rfl
  | playerJoined => exact this.elim
  | playerLeft => rfl

namespace Sim

def roster (s : Sim) : Roster := fun id => if (s.players id).active then some (s.players id).team else none

theorem acceptInput_team (p : Player) (seq : U32) (input : InputCmd) : (p.acceptInput seq input).team = p.team := by
  by_cases h : p.Accepts seq
  · rw [Player.acceptInput_accepted input h]
    simp only
    split <;> rfl
  · rw [Player.acceptInput_rejected input h]

theorem roster_applyCommand {s : Sim} (hGoing : s.matchOver = false) (cmd : InboundCommand) :
    (s.applyCommand cmd).roster = s.roster.apply cmd := by
  funext id
  by_cases hOther : cmd.playerId = idByte id
  · cases cmd with
    | playerJoined i team spawnIndex =>
      obtain rfl : i = idByte id := hOther
      by_cases hActive : (s.players id).active = true
      · simp [roster, Roster.apply, applyCommand, applyJoin_idByte, hActive]
      · have hFree : (s.players id).active = false := by simpa using hActive
        simp [roster, Roster.apply, applyCommand_join s id team spawnIndex hGoing hFree, hFree, joined]
    | playerLeft i =>
      obtain rfl : i = idByte id := hOther
      simp only [applyCommand, hGoing, Bool.false_eq_true, if_false, applyLeave_idByte, roster, Roster.apply, if_true]
      by_cases hActive : (s.players id).active = true
      · rw [if_pos hActive]
        simp
      · rw [if_neg hActive, if_neg hActive]
    | playerInput i seq input =>
      obtain rfl : i = idByte id := hOther
      by_cases hActive : (s.players id).active = true
      · simp only [roster, Roster.apply, applyCommand_input s id seq input hGoing hActive, setPlayer,
          Function.update_self, (Session.acceptInput_active _ _ _).1, acceptInput_team]
      · simp [roster, Roster.apply, applyCommand, findPlayer_idByte, hActive]
  · have hSlot : (s.applyCommand cmd).roster id = s.roster id := by simp only [roster, applyCommand_other s hOther]
    rw [hSlot]
    cases cmd with
    | playerJoined i team spawnIndex => exact (if_neg fun h => hOther h.1).symm
    | playerLeft i => exact (if_neg hOther).symm
    | playerInput => rfl

theorem roster_drainInbound (cmds : List InboundCommand) {s : Sim} (hGoing : s.matchOver = false) :
    (s.drainInbound cmds).roster = cmds.foldl Roster.apply s.roster := by
  induction cmds generalizing s with
  | nil => rfl
  | cons cmd cmds ih =>
    rw [drainInbound_cons, ih ((applyCommand_matchOver s cmd).trans hGoing), roster_applyCommand hGoing, List.foldl_cons]

theorem roster_tick (rayDir : RayDir) (s : Sim) (cmds : List InboundCommand) :
    (s.tick rayDir cmds).roster = (s.drainInbound cmds).roster := by
  funext id
  have hInputs := Session.tick_inputs rayDir s cmds id
  have hTeam : ((s.drainInbound cmds).popInputs.players id).team = ((s.drainInbound cmds).players id).team := by
    simp only [popInputs_eq, Player.popped]
    split
    · split <;> rfl
    · rfl
  simp only [roster, Session.tick_active rayDir s cmds id, hInputs.team, hTeam]

theorem tick_going {rayDir : RayDir} {s : Sim} {cmds : List InboundCommand}
    (h : (s.tick rayDir cmds).matchOver = false) : s.matchOver = false := by
  by_contra hOver
  rw [tick_stays_over rayDir s cmds (by simpa using hOver)] at h
  cases h

end Sim

/-- The teams that `assign_teams` deals. -/
def dealtTeams (lobby : Lobby) (shuffle : Shuffle) : List (U8 × Team) :=
  (lobby.assignTeams shuffle).1.map (·, .red) ++ (lobby.assignTeams shuffle).2.map (·, .blue)

theorem dealtTeams_ids (lobby : Lobby) (shuffle : Shuffle) :
    ((dealtTeams lobby shuffle).map Prod.fst).Perm lobby.playerIds := by
  have hPerm := lobby.assignTeams_perm shuffle
  simpa [dealtTeams, List.map_map, Function.comp_def] using hPerm

def joinCommand (team : Team) (p : U8 × Nat) : InboundCommand := .playerJoined p.1 team (BitVec.ofNat 8 p.2)

theorem foldl_addPlayer (team : Team) (ps : List (U8 × Nat)) (setup : MatchSetup)
    (hRoom : setup.gs.playerCount.toNat + ps.length ≤ kMaxPlayers) :
    (ps.foldl (MatchSetup.addPlayer team) setup).commands = setup.commands ++ ps.map (joinCommand team) ∧
      (ps.foldl (MatchSetup.addPlayer team) setup).gs.playerCount.toNat = setup.gs.playerCount.toNat + ps.length := by
  induction ps generalizing setup with
  | nil => simp
  | cons p ps ih =>
    rw [List.length_cons] at hRoom
    have hLt : setup.gs.playerCount.toNat < kMaxPlayers := by omega
    have hCommands : (setup.addPlayer team p).commands = setup.commands ++ [joinCommand team p] := by
      simp only [MatchSetup.addPlayer, hLt, dite_true, joinCommand]
    have hCount : (setup.addPlayer team p).gs.playerCount.toNat = setup.gs.playerCount.toNat + 1 := by
      simp only [MatchSetup.addPlayer, hLt, dite_true]
      exact Protocol.toNat_count_succ hLt
    obtain ⟨hLater, hLaterCount⟩ := ih (setup.addPlayer team p) (by omega)
    refine ⟨?_, ?_⟩
    · rw [List.foldl_cons, hLater, hCommands, List.map_cons, List.append_assoc]
      rfl
    · rw [List.foldl_cons, hLaterCount, hCount, List.length_cons]
      omega

/-- Both sides fit into the message. -/
theorem matchSetup_rooms (lobby : Lobby) (shuffle : Shuffle) (hRoom : lobby.playerIds.length ≤ kMaxPlayers) :
    ({} : MatchSetup).gs.playerCount.toNat + (lobby.assignTeams shuffle).1.zipIdx.length ≤ kMaxPlayers ∧
      (({} : MatchSetup).addSide (lobby.assignTeams shuffle).1 .red).gs.playerCount.toNat +
        (lobby.assignTeams shuffle).2.zipIdx.length = lobby.playerIds.length := by
  have hLen := (lobby.assignTeams_perm shuffle).length_eq
  rw [List.length_append] at hLen
  have hStart : ({} : MatchSetup).gs.playerCount.toNat = 0 := rfl
  have hRed : ({} : MatchSetup).gs.playerCount.toNat + (lobby.assignTeams shuffle).1.zipIdx.length ≤ kMaxPlayers := by
    rw [hStart, List.length_zipIdx]
    omega
  refine ⟨hRed, ?_⟩
  rw [MatchSetup.addSide, (foldl_addPlayer .red _ {} hRed).2, hStart, List.length_zipIdx, List.length_zipIdx]
  omega

theorem matchSetup_commands (lobby : Lobby) (shuffle : Shuffle) (hRoom : lobby.playerIds.length ≤ kMaxPlayers) :
    (NetServer.matchSetup lobby shuffle).commands =
      (lobby.assignTeams shuffle).1.zipIdx.map (joinCommand .red) ++
        (lobby.assignTeams shuffle).2.zipIdx.map (joinCommand .blue) := by
  obtain ⟨hRedRoom, hTotal⟩ := matchSetup_rooms lobby shuffle hRoom
  obtain ⟨hRed, -⟩ := foldl_addPlayer .red (lobby.assignTeams shuffle).1.zipIdx {} hRedRoom
  obtain ⟨hBlue, -⟩ := foldl_addPlayer .blue (lobby.assignTeams shuffle).2.zipIdx _ (hTotal.trans_le hRoom)
  rw [NetServer.matchSetup, MatchSetup.addSide, hBlue, MatchSetup.addSide, hRed]
  rfl

theorem startTeams_joins (team : Team) (ps : List (U8 × Nat)) :
    startTeams (ps.map (joinCommand team)) = (ps.map Prod.fst).map (·, team) := by
  induction ps with
  | nil => rfl
  | cons p ps ih =>
    rw [List.map_cons, List.map_cons, List.map_cons, ← ih]
    rfl

theorem startTeams_matchSetup (lobby : Lobby) (shuffle : Shuffle) (hRoom : lobby.playerIds.length ≤ kMaxPlayers) :
    startTeams (NetServer.matchSetup lobby shuffle).commands = dealtTeams lobby shuffle := by
  rw [matchSetup_commands lobby shuffle hRoom, startTeams_append, startTeams_joins, startTeams_joins,
    List.zipIdx_map_fst, List.zipIdx_map_fst]
  rfl

theorem foldl_apply_joins (cmds : List InboundCommand) (hJoins : ∀ cmd ∈ cmds, ∃ team p, cmd = joinCommand team p)
    (hNodup : ((startTeams cmds).map Prod.fst).Nodup) (r : Roster) (id : Fin kMaxPlayers) (team : Team) :
    cmds.foldl Roster.apply r id = some team ↔
      r id = some team ∨ (r id = none ∧ (Sim.idByte id, team) ∈ startTeams cmds) := by
  induction cmds generalizing r with
  | nil => simp [startTeams]
  | cons cmd cmds ih =>
    obtain ⟨team', p, rfl⟩ := hJoins _ List.mem_cons_self
    have hCons : startTeams (joinCommand team' p :: cmds) = (p.1, team') :: startTeams cmds := rfl
    rw [hCons, List.map_cons, List.nodup_cons] at hNodup
    rw [List.foldl_cons, ih (fun c hc => hJoins c (List.mem_cons_of_mem _ hc)) hNodup.2, hCons, List.mem_cons]
    simp only [Roster.apply, joinCommand, Prod.mk.injEq]
    by_cases hId : p.1 = Sim.idByte id
    · have hLater : ∀ t, (Sim.idByte id, t) ∉ startTeams cmds := fun t hMem =>
        hNodup.1 (List.mem_map.mpr ⟨_, hMem, hId.symm⟩)
      cases hSlot : r id with
      | none => simp [hId, hLater, eq_comm]
      | some t => simp [hId]
    · have hne : ¬ Sim.idByte id = p.1 := fun h => hId h.symm
      simp [hId, hne]

namespace NetServer

/-- How the lobby follows from the commands pushed so far. -/
structure Rostered (net : NetServer) (pushed : List InboundCommand) : Prop where
  wf : Wf net
  waiting : net.lobby.inProgress = false → ∀ cmd ∈ pushed, cmd.IsInput
  dealt : net.lobby.inProgress = true → ∃ lobby shuffle, lobby.playerIds.Nodup ∧
    startTeams pushed = dealtTeams lobby shuffle
  covered : net.lobby.inProgress = true → ∀ id ∈ net.lobby.playerIds, id ∈ (startTeams pushed).map Prod.fst
  inMatch : net.lobby.inProgress = true → ∀ id team, Roster.after pushed id = some team ↔
    (Sim.idByte id, team) ∈ startTeams pushed ∧ Sim.idByte id ∈ net.lobby.playerIds
  gone : ∀ id, .playerLeft id ∈ pushed → id ∉ net.lobby.playerIds

namespace Rostered

variable {net net' : NetServer} {pushed : List InboundCommand}

theorem inputs (h : Rostered net pushed) (hWf : Wf net') (hLobby : net'.lobby = net.lobby) {more : List InboundCommand}
    (hInputs : ∀ cmd ∈ more, cmd.IsInput) : Rostered net' (pushed ++ more) := by
  have hTeams : startTeams (pushed ++ more) = startTeams pushed := by
    rw [startTeams_append, startTeams_inputs hInputs, List.append_nil]
  have hAfter : Roster.after (pushed ++ more) = Roster.after pushed := by
    rw [Roster.after_append, Roster.foldl_apply_inputs _ hInputs]
  refine ⟨hWf, ?_, ?_, ?_, ?_, ?_⟩
  · intro hWaiting cmd hMem
    rcases List.mem_append.mp hMem with hOld | hNew
    · exact h.waiting (hLobby ▸ hWaiting) cmd hOld
    · exact hInputs cmd hNew
  · rw [hLobby, hTeams]
    exact h.dealt
  · rw [hLobby, hTeams]
    exact h.covered
  · rw [hLobby, hTeams, hAfter]
    exact h.inMatch
  · intro id hMem
    rw [hLobby]
    rcases List.mem_append.mp hMem with hOld | hNew
    · exact h.gone id hOld
    · exact (hInputs _ hNew).elim

theorem same (h : Rostered net pushed) (hWf : Wf net') (hLobby : net'.lobby = net.lobby) :
    Rostered net' (pushed ++ []) := h.inputs hWf hLobby fun _ hMem => by cases hMem

/-- Between the matches any roster will do. -/
theorem lobby (h : Rostered net pushed) (hWf : Wf net') (hWaiting : net.lobby.inProgress = false)
    (hWaiting' : net'.lobby.inProgress = false) : Rostered net' (pushed ++ []) := by
  have hInputs := h.waiting hWaiting
  rw [List.append_nil]
  refine ⟨hWf, fun _ => hInputs, ?_, ?_, ?_, fun id hMem => (hInputs _ hMem).elim⟩ <;>
    (intro hStarted; rw [hWaiting'] at hStarted; cases hStarted)

theorem left (h : Rostered net pushed) (hWf : Wf net') (hStarted : net.lobby.inProgress = true) {id : U8}
    (hLobby : net'.lobby = net.lobby.removePlayer id) : Rostered net' (pushed ++ [.playerLeft id]) := by
  have hProgress : net'.lobby.inProgress = true := by
    rw [hLobby, Lobby.removePlayer_inProgress]
    exact hStarted
  have hTeams : startTeams (pushed ++ [.playerLeft id]) = startTeams pushed := by
    rw [startTeams_append]
    exact List.append_nil _
  have hIds : ∀ i, i ∈ net'.lobby.playerIds ↔ i ≠ id ∧ i ∈ net.lobby.playerIds := by
    intro i
    rw [hLobby, Lobby.removePlayer_playerIds, h.wf.nodup.mem_erase_iff]
  refine ⟨hWf, ?_, ?_, ?_, ?_, ?_⟩
  · intro hWaiting
    rw [hProgress] at hWaiting
    cases hWaiting
  · rw [hTeams]
    exact fun _ => h.dealt hStarted
  · intro _ i hMem
    rw [hTeams]
    exact h.covered hStarted i ((hIds i).mp hMem).2
  · intro _ i team
    rw [hTeams, hIds, Roster.after_append]
    have hApply : ([.playerLeft id] : List InboundCommand).foldl Roster.apply (Roster.after pushed) i =
        if id = Sim.idByte i then none else Roster.after pushed i := rfl
    rw [hApply]
    by_cases hId : id = Sim.idByte i
    · simp [hId]
    · rw [if_neg hId, h.inMatch hStarted i team]
      have hne : Sim.idByte i ≠ id := fun hEq => hId hEq.symm
      simp [hne]
  · intro i hMem hIn
    obtain ⟨hne, hOld⟩ := (hIds i).mp hIn
    rcases List.mem_append.mp hMem with hMem | hMem
    · exact h.gone i hMem hOld
    · rw [List.mem_singleton] at hMem
      exact hne (InboundCommand.playerLeft.inj hMem)

theorem start (h : Rostered net pushed) {shuffle : Shuffle} {l : Lobby} (hBegin : net.lobby.beginMatch = (true, l))
    (hWf : Wf net') (hLobby : net'.lobby = l) : Rostered net' (pushed ++ (matchSetup l shuffle).commands) := by
  obtain ⟨hWaiting, hStarted⟩ := beginMatch_true hBegin
  have hInputs := h.waiting hWaiting
  have hRoom : l.playerIds.length ≤ kMaxPlayers := by
    rw [hStarted]
    exact h.wf.roster_length
  have hNodup : l.playerIds.Nodup := by
    rw [hStarted]
    exact h.wf.nodup
  have hPerm := dealtTeams_ids l shuffle
  have hTeams : startTeams (pushed ++ (matchSetup l shuffle).commands) = dealtTeams l shuffle := by
    rw [startTeams_append, startTeams_inputs hInputs, startTeams_matchSetup l shuffle hRoom, List.nil_append]
  have hJoins : ∀ cmd ∈ (matchSetup l shuffle).commands, ∃ team p, cmd = joinCommand team p := by
    intro cmd hMem
    rw [matchSetup_commands l shuffle hRoom] at hMem
    rcases List.mem_append.mp hMem with hMem | hMem
    · obtain ⟨p, -, rfl⟩ := List.mem_map.mp hMem
      exact ⟨.red, p, rfl⟩
    · obtain ⟨p, -, rfl⟩ := List.mem_map.mp hMem
      exact ⟨.blue, p, rfl⟩
  refine ⟨hWf, ?_, fun _ => ⟨l, shuffle, hNodup, hTeams⟩, ?_, ?_, ?_⟩
  · intro hOut
    rw [hLobby, hStarted] at hOut
    cases hOut
  · intro _ id hMem
    rw [hTeams]
    rw [hLobby] at hMem
    exact hPerm.mem_iff.mpr hMem
  · intro _ id team
    have hEmpty : Roster.after pushed = fun _ => none := Roster.foldl_apply_inputs _ hInputs
    have hFold := foldl_apply_joins _ hJoins
      (by rw [startTeams_matchSetup l shuffle hRoom]; exact hPerm.nodup_iff.mpr hNodup) (fun _ => none) id team
    rw [startTeams_matchSetup l shuffle hRoom] at hFold
    rw [hTeams, Roster.after_append, hEmpty, hFold, hLobby]
    constructor
    · rintro (hNone | ⟨-, hMem⟩)
      · cases hNone
      · exact ⟨hMem, hPerm.mem_iff.mp (List.mem_map.mpr ⟨_, hMem, rfl⟩)⟩
    · exact fun hMem => Or.inr ⟨rfl, hMem.1⟩
  · intro id hMem
    rcases List.mem_append.mp hMem with hOld | hNew
    · exact (hInputs _ hOld).elim
    · obtain ⟨team, p, hJoin⟩ := hJoins _ hNew
      cases hJoin

theorem move (h : Rostered net pushed) {limits : Limits} (hMove : Move limits net net') :
    ∃ more, net'.inbound = net.inbound ++ more ∧ Rostered net' (pushed ++ more) := by
  have hWf := h.wf.move hMove
  cases hMove with
  | touch registry inputs _ _ _ _ _ _ hInputs => exact ⟨inputs, rfl, h.inputs hWf rfl hInputs⟩
  | broadcast => exact ⟨[], (List.append_nil _).symm, h.same hWf rfl⟩
  | write => exact ⟨[], (List.append_nil _).symm, h.same hWf rfl⟩
  | flush => exact ⟨[], (List.append_nil _).symm, h.same hWf rfl⟩
  | accept => exact ⟨[], (List.append_nil _).symm, h.same hWf rfl⟩
  | close => exact ⟨[], (List.append_nil _).symm, h.same hWf rfl⟩
  | buffer entry =>
    cases entry with
    | none => exact ⟨[], (List.append_nil _).symm, h.same hWf rfl⟩
    | some e => exact ⟨[], (List.append_nil _).symm, h.same hWf rfl⟩
  | enter i e registry lobby tokenCounter _ _ _ _ _ _ _ _ _ hLobby =>
    obtain ⟨hWaiting, hWaiting', -, -⟩ := addPlayer_ok hLobby
    exact ⟨[], (List.append_nil _).symm, h.lobby hWf hWaiting hWaiting'⟩
  | leave i e =>
    by_cases hProgress : net.lobby.inProgress = true
    · exact ⟨[.playerLeft e.playerId], if_pos hProgress, h.left hWf hProgress rfl⟩
    · have hWaiting : net.lobby.inProgress = false := by simpa using hProgress
      exact ⟨[], (if_neg hProgress).trans (List.append_nil _).symm,
        h.lobby hWf hWaiting ((Lobby.removePlayer_inProgress _ _).trans hWaiting)⟩
  | start shuffle lobby hBegin => exact ⟨_, rfl, h.start hBegin hWf rfl⟩

theorem moves (h : Rostered net pushed) {limits : Limits}
    (hMoves : Moves limits net net') :
    ∃ more, net'.inbound = net.inbound ++ more ∧ Rostered net' (pushed ++ more) := by
  induction hMoves with
  | refl => exact ⟨[], (List.append_nil _).symm, by rw [List.append_nil]; exact h⟩
  | tail _ hLast ih =>
    obtain ⟨more, hInbound, hRostered⟩ := ih
    obtain ⟨last, hInbound', hRostered'⟩ := hRostered.move hLast
    exact ⟨more ++ last, by rw [hInbound', hInbound, List.append_assoc], by rw [← List.append_assoc]; exact hRostered'⟩

end Rostered
end NetServer

structure System where
  net : NetServer
  sim : Sim
  pushed : List InboundCommand := []

namespace System

def netStep (sys : System) (event : NetServer.Event) : System :=
  { sys with
    net := sys.net.step event
    pushed := sys.pushed ++ (sys.net.step event).inbound.drop sys.net.inbound.length }

/-- A tick has popped some front of the queue when it stops draining. -/
def simTick (rayDir : RayDir) (sys : System) (cmds rest : List InboundCommand) : System :=
  { sys with net := { sys.net with inbound := rest }, sim := sys.sim.tick rayDir cmds }

/-- Every interleaving of the two threads; what the simulation sends back is arbitrary. -/
inductive Reach (rayDir : RayDir) : System → Prop where
  | start (udpPort : U16) (udpSilenceMs : U32) (tickHz snapshotHz : Int) (delta : Bool) :
      Reach rayDir { net := { udpPort, udpSilenceMs }, sim := Sim.configured tickHz snapshotHz delta }
  | netStep {sys : System} (h : Reach rayDir sys) (event : NetServer.Event) (hEnabled : sys.net.Enabled event) :
      Reach rayDir (sys.netStep event)
  | simTick {sys : System} (h : Reach rayDir sys) (cmds rest : List InboundCommand)
      (hQueue : sys.net.inbound = cmds ++ rest) : Reach rayDir (sys.simTick rayDir cmds rest)

/-- What is still queued takes the simulation's roster to the roster of everything pushed. -/
structure Agrees (sys : System) : Prop where
  rostered : sys.net.Rostered sys.pushed
  pending : sys.sim.matchOver = false → sys.net.inbound.foldl Roster.apply sys.sim.roster = Roster.after sys.pushed

theorem agrees_start (udpPort : U16) (udpSilenceMs : U32) (tickHz snapshotHz : Int) (delta : Bool) :
    Agrees { net := { udpPort, udpSilenceMs }, sim := Sim.configured tickHz snapshotHz delta } := by
  refine ⟨⟨.started udpPort udpSilenceMs, ?_, ?_, ?_, ?_, ?_⟩, fun _ => rfl⟩
  · intro _ cmd hMem
    cases hMem
  · intro hStarted
    cases hStarted
  · intro hStarted
    cases hStarted
  · intro hStarted
    cases hStarted
  · intro id hMem
    cases hMem

theorem agrees_of_reach {rayDir : RayDir} {sys : System} (h : Reach rayDir sys) : Agrees sys := by
  induction h with
  | start udpPort udpSilenceMs tickHz snapshotHz delta => exact agrees_start udpPort udpSilenceMs tickHz snapshotHz delta
  | @netStep sys h event hEnabled ih =>
    obtain ⟨more, hInbound, hRostered⟩ := ih.rostered.moves (NetServer.step_allMoves ih.rostered.wf hEnabled)
    rw [System.netStep, hInbound, List.drop_left]
    refine ⟨hRostered, fun hGoing => ?_⟩
    simp only [hInbound, List.foldl_append, ih.pending hGoing]
    rw [Roster.after_append]
  | @simTick sys h cmds rest hQueue ih =>
    refine ⟨?_, fun hGoing => ?_⟩
    · have hWf : NetServer.Wf { sys.net with inbound := rest } :=
        ih.rostered.wf.congr (.refl _) ih.rostered.wf.indexed.size rfl rfl rfl rfl
      have hSame := ih.rostered.same hWf rfl
      rwa [List.append_nil] at hSame
    · have hBefore := Sim.tick_going hGoing
      have hPending := ih.pending hBefore
      rw [hQueue, List.foldl_append] at hPending
      simp only [System.simTick]
      rw [Sim.roster_tick, Sim.roster_drainInbound cmds hBefore, hPending]

def liveIds (net : NetServer) : Set U8 := { id | ∃ e ∈ net.registry.live, e.playerId = id }

def activeIds (s : Sim) : Set U8 := { i | ∃ id : Fin kMaxPlayers, i = Sim.idByte id ∧ (s.players id).active = true }

theorem roster_some {s : Sim} {id : Fin kMaxPlayers} : (s.players id).active = true ↔
    s.roster id = some (s.players id).team := by
  simp [Sim.roster]

theorem roster_active {s : Sim} {id : Fin kMaxPlayers} {team : Team} (h : s.roster id = some team) :
    (s.players id).active = true := by
  by_contra hNot
  simp [Sim.roster, hNot] at h

theorem rosters_agree {rayDir : RayDir} {sys : System} (h : Reach rayDir sys) :
    ((startTeams sys.pushed).map Prod.fst).Nodup ∧
    (∀ id, .playerLeft id ∈ sys.pushed → id ∉ liveIds sys.net) ∧
    (sys.net.lobby.inProgress = true →
      (∃ lobby shuffle, startTeams sys.pushed = dealtTeams lobby shuffle) ∧
      ∀ id ∈ liveIds sys.net, id ∈ (startTeams sys.pushed).map Prod.fst) ∧
    (sys.net.inbound = [] → sys.sim.matchOver = false →
      (sys.net.lobby.inProgress = true →
        activeIds sys.sim = liveIds sys.net ∧
        ∀ id, (sys.sim.players id).active = true →
          (Sim.idByte id, (sys.sim.players id).team) ∈ startTeams sys.pushed) ∧
      (sys.net.lobby.inProgress = false → activeIds sys.sim = ∅)) := by
  obtain ⟨hRostered, hPending⟩ := agrees_of_reach h
  have hLive : ∀ id, id ∈ liveIds sys.net ↔ id ∈ sys.net.lobby.playerIds := fun id => (hRostered.wf.roster_live id).symm
  refine ⟨?_, ?_, ?_, ?_⟩
  · by_cases hStarted : sys.net.lobby.inProgress = true
    · obtain ⟨lobby, shuffle, hNodup, hTeams⟩ := hRostered.dealt hStarted
      rw [hTeams]
      exact (dealtTeams_ids lobby shuffle).nodup_iff.mpr hNodup
    · rw [startTeams_inputs (hRostered.waiting (by simpa using hStarted))]
      exact List.nodup_nil
  · intro id hMem hIn
    exact hRostered.gone id hMem ((hLive id).mp hIn)
  · intro hStarted
    obtain ⟨lobby, shuffle, -, hTeams⟩ := hRostered.dealt hStarted
    exact ⟨⟨lobby, shuffle, hTeams⟩, fun id hIn => hRostered.covered hStarted id ((hLive id).mp hIn)⟩
  · intro hDrained hGoing
    have hRoster : sys.sim.roster = Roster.after sys.pushed := by
      have := hPending hGoing
      rwa [hDrained] at this
    refine ⟨fun hStarted => ⟨?_, ?_⟩, fun hWaiting => ?_⟩
    · ext i
      rw [hLive]
      constructor
      · rintro ⟨id, rfl, hActive⟩
        rw [roster_some, hRoster] at hActive
        exact ((hRostered.inMatch hStarted id _).mp hActive).2
      · intro hMem
        obtain ⟨id, rfl⟩ := Sim.exists_idByte (hRostered.wf.roster_lt hMem)
        obtain ⟨⟨_, team⟩, hTeam, rfl⟩ := List.mem_map.mp (hRostered.covered hStarted _ hMem)
        refine ⟨id, rfl, roster_active (?_ : _ = some team)⟩
        rw [hRoster]
        exact (hRostered.inMatch hStarted id team).mpr ⟨hTeam, hMem⟩
    · intro id hActive
      rw [roster_some, hRoster] at hActive
      exact ((hRostered.inMatch hStarted id _).mp hActive).1
    · ext i
      simp only [Set.mem_empty_iff_false, iff_false]
      rintro ⟨id, rfl, hActive⟩
      rw [roster_some, hRoster, Roster.after, Roster.foldl_apply_inputs _ (hRostered.waiting hWaiting)] at hActive
      cases hActive

open NetServer Framing

def twoWaiting : System :=
  [.accept 5, .readable {} 5 [.got (encode joinFrame)] [.sent 100], .accept 6,
    .readable {} 6 [.got (encode joinFrame)] [.sent 100]].foldl netStep
    { net := { udpPort := 9, udpSilenceMs := 3000 }, sim := Sim.configured 30 30 true }

theorem reach_twoWaiting (rayDir : RayDir) : Reach rayDir twoWaiting := by
  have hStart : Reach rayDir _ := .start 9 3000 30 30 true
  have hFirst := hStart.netStep (.accept 5) ⟨by decide, rfl⟩
  have hSecond := hFirst.netStep (.readable {} 5 [.got (encode joinFrame)] [.sent 100]) rfl
  have hThird := hSecond.netStep (.accept 6) ⟨by decide, by decide +kernel⟩
  exact hThird.netStep (.readable {} 6 [.got (encode joinFrame)] [.sent 100])
    (show NetServer.watched _ 6 = true by decide +kernel)

def twoJoined : System :=
  [.accept 5, .readable {} 5 [.got (encode joinFrame)] [.sent 100], .accept 6,
    .readable {} 6 [.got (encode joinFrame)] [.sent 100], .readable {} 5 [.got (encode startFrame)] []].foldl netStep
    { net := { udpPort := 9, udpSilenceMs := 3000 }, sim := Sim.configured 30 30 true }

theorem reach_twoJoined (rayDir : RayDir) : Reach rayDir twoJoined := by
  exact (reach_twoWaiting rayDir).netStep (.readable {} 5 [.got (encode startFrame)] [])
    (show NetServer.watched _ 5 = true by decide +kernel)

def twoPlaying : System :=
  twoJoined.simTick (fun _ => (0, 0)) twoJoined.net.inbound []

theorem rosters_agree_twoPlaying : Reach (fun _ => (0, 0)) twoPlaying ∧ activeIds twoPlaying.sim = liveIds twoPlaying.net :=
  have hReach : Reach (fun _ => (0, 0)) twoPlaying :=
    (reach_twoJoined _).simTick twoJoined.net.inbound [] (List.append_nil _).symm
  have hGoing : twoPlaying.sim.matchOver = false := by decide +kernel
  have hStarted : twoPlaying.net.lobby.inProgress = true := by decide +kernel
  ⟨hReach, (((rosters_agree hReach).2.2.2 rfl hGoing).1 hStarted).1⟩

end System
end CaptureTheFlag
