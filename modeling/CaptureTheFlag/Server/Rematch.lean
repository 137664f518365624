import CaptureTheFlag.Server.MatchClock
import CaptureTheFlag.Server.Roster

/-! # After MATCH_END

Nobody calls `end_match` and the simulation has no way back from `match_over_`.
-/
namespace CaptureTheFlag
set_option autoImplicit false
open Protocol Framing

namespace NetServer

theorem onStartRequest_inProgress {net : NetServer} (h : net.lobby.inProgress = true) (env : Env) (fd : Int) :
    (net.onStartRequest env fd).lobby = net.lobby ∧ (net.onStartRequest env fd).registry = net.registry ∧
      (net.onStartRequest env fd).inbound = net.inbound := by
  rw [onStartRequest]
  split
  · exact ⟨rfl, rfl, rfl⟩
  · rw [if_neg (by simp [Lobby.canIssueStart, h])]
    exact ⟨rfl, rfl, rfl⟩

theorem tryJoin_inProgress {net : NetServer} (h : net.lobby.inProgress = true) (env : Env) (fd : Int) (name : List U8) :
    (net.tryJoin env fd name).2.1 = false ∧
      ((net.registry.add fd name).1.isSome = true → (net.tryJoin env fd name).2.2 = rejectReply .inProgress) := by
  rw [tryJoin]
  split
  · rename_i hAdd
    exact ⟨rfl, fun hSome => (by rw [hAdd] at hSome; cases hSome)⟩
  · simp [Lobby.addPlayer, h, rejectReason]

end NetServer

namespace System

/-- A run of both threads in which the network thread handles what the simulation has pushed, in order; `popped` is
what it has handled so far. -/
inductive Joint (rayDir : RayDir) : System → List OutboundEvent → Prop where
  | start (udpPort : U16) (udpSilenceMs : U32) (tickHz snapshotHz : Int) (delta : Bool) :
      Joint rayDir { net := { udpPort, udpSilenceMs }, sim := Sim.configured tickHz snapshotHz delta } []
  | netStep {sys : System} {popped : List OutboundEvent} (h : Joint rayDir sys popped) (event : NetServer.Event)
      (hEnabled : sys.net.Enabled event) (hOwn : ∀ events, event ≠ .wake events) :
      Joint rayDir (sys.netStep event) popped
  | wake {sys : System} {popped : List OutboundEvent} (h : Joint rayDir sys popped) (events rest : List OutboundEvent)
      (hQueue : sys.sim.outbound = popped ++ events ++ rest) :
      Joint rayDir (sys.netStep (.wake events)) (popped ++ events)
  | simTick {sys : System} {popped : List OutboundEvent} (h : Joint rayDir sys popped) (cmds rest : List InboundCommand)
      (hQueue : sys.net.inbound = cmds ++ rest) : Joint rayDir (sys.simTick rayDir cmds rest) popped

theorem Joint.sim {rayDir : RayDir} {sys : System} {popped : List OutboundEvent} (h : Joint rayDir sys popped) :
    (∃ tickHz snapshotHz delta ticks, sys.sim = (Sim.configured tickHz snapshotHz delta).run rayDir ticks) ∧
      popped <+: sys.sim.outbound := by
  induction h with
  | start udpPort udpSilenceMs tickHz snapshotHz delta =>
    exact ⟨⟨tickHz, snapshotHz, delta, [], rfl⟩, List.nil_prefix⟩
  | netStep h event hEnabled hOwn ih => exact ih
  | wake h events rest hQueue ih => exact ⟨ih.1, rest, hQueue.symm⟩
  | @simTick sys popped h cmds rest hQueue ih =>
    obtain ⟨⟨tickHz, snapshotHz, delta, ticks, hSim⟩, hPrefix⟩ := ih
    obtain ⟨events, hGrow, -⟩ := Sim.tick_outbound rayDir sys.sim cmds
    refine ⟨⟨tickHz, snapshotHz, delta, ticks ++ [cmds], ?_⟩, ?_⟩
    · rw [Sim.run_snoc, ← hSim]
      rfl
    · rw [System.simTick, hGrow]
      exact hPrefix.trans (List.prefix_append _ _)

theorem Joint.over {rayDir : RayDir} {sys : System} {popped : List OutboundEvent} (h : Joint rayDir sys popped)
    (hEnd : ∃ ev ∈ popped, ev.isMatchEnd = true) : sys.sim.matchOver = true := by
  obtain ⟨⟨tickHz, snapshotHz, delta, ticks, hSim⟩, hPrefix⟩ := h.sim
  obtain ⟨ev, hMem, hIs⟩ := hEnd
  have hOnce := Sim.endedOnce_run rayDir tickHz snapshotHz delta ticks
  rw [← hSim] at hOnce
  exact hOnce.iff.mpr ⟨ev, hPrefix.subset hMem, hIs⟩

/-- What START_REQUEST is to bring about: GAME_START for every client and, once the queue has been drained, a fresh
match of exactly the roster. -/
structure Rematched (rayDir : RayDir) (sys : System) (started : NetServer) : Prop where
  announced : ∀ e ∈ sys.net.registry.live, ∃ f : Frame, f.type = MessageType.gameStart.code ∧
    started.addressed e.tcpFd = sys.net.addressed e.tcpFd ++ [f]
  players : activeIds (sys.sim.tick rayDir started.inbound) = { id | id ∈ sys.net.lobby.playerIds }
  score : ∀ team, (sys.sim.tick rayDir started.inbound).score team = 0
  flags : ∀ team, ((sys.sim.tick rayDir started.inbound).flags team).state = .atBase
  going : (sys.sim.tick rayDir started.inbound).matchOver = false

theorem Joint.not_rematched {rayDir : RayDir} {sys : System} {popped : List OutboundEvent} (h : Joint rayDir sys popped)
    (hEnd : ∃ ev ∈ popped, ev.isMatchEnd = true) (started : NetServer) : ¬ Rematched rayDir sys started := by
  intro hRematched
  cases hRematched.going.symm.trans (Sim.tick_stays_over rayDir _ _ (h.over hEnd))

/-- After MATCH_END nobody's START_REQUEST brings a match; while the lobby is marked as in progress it is not even
announced, and newcomers are turned away. -/
theorem match_never_restarts {rayDir : RayDir} {sys : System} {popped : List OutboundEvent}
    (h : Joint rayDir sys popped) (hEnd : ∃ ev ∈ popped, ev.isMatchEnd = true) (env : Env) (fd : Int)
    (answers : List SendResult) :
    ¬ Rematched rayDir sys ({ sys.net with answers }.onStartRequest env fd) ∧
    (sys.net.lobby.inProgress = true →
      ({ sys.net with answers }.onStartRequest env fd).registry = sys.net.registry ∧
      ({ sys.net with answers }.onStartRequest env fd).inbound = sys.net.inbound ∧
      ∀ name, (sys.net.tryJoin env fd name).2.1 = false ∧ ((sys.net.registry.add fd name).1.isSome = true →
        (sys.net.tryJoin env fd name).2.2 = NetServer.rejectReply .inProgress)) := by
  refine ⟨h.not_rematched hEnd _, fun hProgress => ?_⟩
  obtain ⟨-, hRegistry, hInbound⟩ :=
    @NetServer.onStartRequest_inProgress { sys.net with answers } hProgress env fd
  exact ⟨hRegistry, hInbound, NetServer.tryJoin_inProgress hProgress env fd⟩

theorem handleWake_keeps (events : List OutboundEvent) {net : NetServer} (h : net.registry.Indexed) :
    NetServer.SameKeys net.registry (net.handleWake events).registry ∧ (net.handleWake events).registry.Indexed ∧
      (net.handleWake events).lobby = net.lobby := by
  rw [NetServer.handleWake]
  induction events generalizing net with
  | nil => exact ⟨.refl _, h, rfl⟩
  | cons ev events ih =>
    have hOne : NetServer.SameKeys net.registry (net.onOutboundEvent ev).registry ∧
        (net.onOutboundEvent ev).registry.Indexed ∧ (net.onOutboundEvent ev).lobby = net.lobby := by
      rw [NetServer.onOutboundEvent]
      split
      · split
        · exact ⟨.refl _, h, rfl⟩
        · have hKeys := NetServer.sameKeys_broadcast h (framePayload ev.payload)
          refine ⟨hKeys, hKeys.indexed h ?_, rfl⟩
          rw [ClientRegistry.length_broadcastTcpEvent]
          exact h.size
      · exact ⟨.refl _, h, rfl⟩
      · exact ⟨.refl _, h, rfl⟩
    obtain ⟨hKeys, hIndexed, hLobby⟩ := ih hOne.2.1
    exact ⟨hOne.1.trans hKeys, hIndexed, hLobby.trans hOne.2.2⟩

theorem Joint.ticks {rayDir : RayDir} {sys : System} {popped : List OutboundEvent} (h : Joint rayDir sys popped) (n : Nat) :
    Joint rayDir { sys with sim := sys.sim.run rayDir (List.replicate n []) } popped := by
  induction n with
  | zero => exact h
  | succ n ih =>
    rw [List.replicate_succ', Sim.run_snoc]
    exact ih.simTick [] sys.net.inbound rfl

def playedFor (n : Nat) : System :=
  { twoPlaying with sim := twoPlaying.sim.run (fun _ => (0, 0)) (List.replicate n []) }

/-- Everything that match has pushed has been handled. -/
def endedAfter (n : Nat) : System := (playedFor n).netStep (.wake (playedFor n).sim.outbound)

theorem joint_twoPlaying : Joint (fun _ => (0, 0)) twoPlaying [] := by
  have hStart : Joint (fun _ => (0, 0)) _ [] := .start 9 3000 30 30 true
  have hFirst := hStart.netStep (.accept 5) ⟨by decide, rfl⟩ (by simp)
  have hSecond := hFirst.netStep (.readable {} 5 [.got (encode NetServer.joinFrame)] [.sent 100]) rfl (by simp)
  have hThird := hSecond.netStep (.accept 6) ⟨by decide, by decide +kernel⟩ (by simp)
  have hFourth := hThird.netStep (.readable {} 6 [.got (encode NetServer.joinFrame)] [.sent 100])
    (show NetServer.watched _ 6 = true by decide +kernel) (by simp)
  have hFifth := hFourth.netStep (.readable {} 5 [.got (encode NetServer.startFrame)] [])
    (show NetServer.watched _ 5 = true by decide +kernel) (by simp)
  exact hFifth.simTick twoJoined.net.inbound [] (List.append_nil _).symm

theorem joint_endedAfter (n : Nat) : Joint (fun _ => (0, 0)) (endedAfter n) (playedFor n).sim.outbound :=
  (joint_twoPlaying.ticks n).wake (playedFor n).sim.outbound [] (List.append_nil _).symm

theorem matchEnd_popped (n : Nat) (hn : 18000 ≤ n) : ∃ ev ∈ (playedFor n).sim.outbound, ev.isMatchEnd = true := by
  have hRun : (playedFor n).sim = (Sim.configured 30 30 true).run (fun _ => (0, 0))
      (twoJoined.net.inbound :: List.replicate n []) := by
    rw [Sim.run_cons]
    rfl
  have hOver := Sim.run_over_of_long (fun _ => (0, 0)) 30 30 true (twoJoined.net.inbound :: List.replicate n [])
    (by rw [List.length_cons, List.length_replicate]; omega)
  rw [hRun]
  exact (Sim.endedOnce_run _ 30 30 true _).iff.mp hOver

theorem match_never_restarts_ended :
    ¬ Rematched (fun _ => (0, 0)) (endedAfter 18000)
      ({ (endedAfter 18000).net with answers := [] }.onStartRequest {} 5) :=
  (match_never_restarts (joint_endedAfter 18000) (matchEnd_popped 18000 le_rfl) {} 5 []).1

theorem endedAfter_host (n : Nat) :
    (∃ e, (endedAfter n).net.registry.findByFd 5 = some e ∧ e.playerId = (endedAfter n).net.lobby.hostId) ∧
      (endedAfter n).net.lobby.playerIds.length = 2 ∧ (endedAfter n).net.lobby.inProgress = true := by
  have hIndexed : twoPlaying.net.registry.Indexed :=
    (agrees_of_reach (reach_twoJoined fun _ => (0, 0))).rostered.wf.indexed
  obtain ⟨hKeys, hIndexed', hLobby⟩ := handleWake_keeps (playedFor n).sim.outbound hIndexed
  have hLobby' : (endedAfter n).net.lobby = twoPlaying.net.lobby := hLobby
  have hSome : (twoPlaying.net.registry.findByFd 5).map (·.playerId) = some twoPlaying.net.lobby.hostId := by
    decide +kernel
  obtain ⟨e, hFind, hHost⟩ := Option.map_eq_some_iff.mp hSome
  obtain ⟨e', hFind', hId⟩ := hKeys.findByFd_some hIndexed' (by decide) hFind
  rw [hLobby']
  exact ⟨⟨e', hFind', hId.trans hHost⟩, by decide +kernel, by decide +kernel⟩

/-- The host of two asks for a rematch after MATCH_END; nothing is announced, and there is no match. -/
theorem rematch_refused :
    Joint (fun _ => (0, 0)) (endedAfter 18000) (playedFor 18000).sim.outbound ∧
    (∃ ev ∈ (playedFor 18000).sim.outbound, ev.isMatchEnd = true) ∧
    (∃ e, (endedAfter 18000).net.registry.findByFd 5 = some e ∧
      e.playerId = (endedAfter 18000).net.lobby.hostId) ∧
    (endedAfter 18000).net.lobby.playerIds.length = 2 ∧
    ((endedAfter 18000).net.onStartRequest {} 5).registry = (endedAfter 18000).net.registry ∧
    ¬ Rematched (fun _ => (0, 0)) (endedAfter 18000) ((endedAfter 18000).net.onStartRequest {} 5) := by
  obtain ⟨hHost, hTwo, hProgress⟩ := endedAfter_host 18000
  exact ⟨joint_endedAfter 18000, matchEnd_popped 18000 le_rfl, hHost, hTwo,
    (NetServer.onStartRequest_inProgress hProgress {} 5).2.1,
    (joint_endedAfter 18000).not_rematched (matchEnd_popped 18000 le_rfl) _⟩

end System
end CaptureTheFlag
