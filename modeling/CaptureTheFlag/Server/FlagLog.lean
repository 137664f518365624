import CaptureTheFlag.Server.TickFrame

/-! # The flag events as a log

A client that only sees the TCP events rebuilds flags and scores by folding them. The log is read from the
bytes of the events with the client's decoders.
-/
namespace CaptureTheFlag
set_option autoImplicit false
open Protocol

structure FlagEntry where
  state : FlagState := .atBase
  carrier : U8 := kNoCarrier
  position : Vec2Fixed := {}

structure FlagLog where
  flags : Team → FlagEntry := fun _ => {}
  score : Team → U8 := fun _ => 0

namespace FlagLog

def setFlag (log : FlagLog) (team : Team) (entry : FlagEntry) : FlagLog :=
  { log with flags := Function.update log.flags team entry }

def onPickedUp (log : FlagLog) (msg : MsgFlagPickedUp) : FlagLog :=
  log.setFlag msg.flagTeam { state := .carried, carrier := msg.playerId }

def onDropped (log : FlagLog) (msg : MsgFlagDropped) : FlagLog :=
  log.setFlag msg.flagTeam { state := .dropped, position := msg.position }

def onReturned (log : FlagLog) (msg : MsgFlagReturned) : FlagLog := log.setFlag msg.flagTeam {}

def onCaptured (log : FlagLog) (msg : MsgFlagCaptured) : FlagLog :=
  { log.setFlag msg.flagTeam {} with
    score := Function.update log.score msg.flagTeam.other (log.score msg.flagTeam.other + 1) }

def onMessage (log : FlagLog) (type : MessageType) (body : List U8) : FlagLog :=
  match type with
  | .flagPickedUp => ((decodeFlagPickedUp ⟨body, false⟩).1.map log.onPickedUp).getD log
  | .flagDropped => ((decodeFlagDropped ⟨body, false⟩).1.map log.onDropped).getD log
  | .flagReturned => ((decodeFlagReturned ⟨body, false⟩).1.map log.onReturned).getD log
  | .flagCaptured => ((decodeFlagCaptured ⟨body, false⟩).1.map log.onCaptured).getD log
  | _ => log

def onEvent (log : FlagLog) (ev : OutboundEvent) : FlagLog :=
  match ev.type, ev.payload with
  | .tcpBroadcast, code :: body => ((MessageType.ofCode code).map (log.onMessage · body)).getD log
  | _, _ => log

def ofEvents (events : List OutboundEvent) : FlagLog := events.foldl onEvent {}

theorem ofEvents_append (events : List OutboundEvent) (ev : OutboundEvent) :
    ofEvents (events ++ [ev]) = (ofEvents events).onEvent ev := by
  simp [ofEvents]

theorem onEvent_serEvent (log : FlagLog) (message : MessageType) (body : EventBody) :
    log.onEvent (serEvent .tcpBroadcast message body) =
      log.onMessage message (body.write { cap := kEventPayloadCap }).buf := by
  simp [onEvent, serEvent]

theorem onEvent_flagPickedUp (log : FlagLog) (msg : MsgFlagPickedUp) :
    log.onEvent (.flagPickedUp msg) = log.onPickedUp msg := by
  have hPayload := OutboundEvent.flagTouched_payload .tcpBroadcast .flagPickedUp (.flagPickedUp msg) msg rfl
  simp only [OutboundEvent.flagPickedUp, onEvent_serEvent]
  rw [serEvent, List.cons.injEq] at hPayload
  simp [hPayload.2, onMessage, decodeFlagPickedUp]

theorem onEvent_flagReturned (log : FlagLog) (msg : MsgFlagReturned) :
    log.onEvent (.flagReturned msg) = log.onReturned msg := by
  have hPayload := OutboundEvent.flagTouched_payload .tcpBroadcast .flagReturned (.flagReturned msg) msg rfl
  simp only [OutboundEvent.flagReturned, onEvent_serEvent]
  rw [serEvent, List.cons.injEq] at hPayload
  simp [hPayload.2, onMessage, decodeFlagReturned]

theorem onEvent_flagCaptured (log : FlagLog) (msg : MsgFlagCaptured) :
    log.onEvent (.flagCaptured msg) = log.onCaptured msg := by
  have hPayload := OutboundEvent.flagTouched_payload .tcpBroadcast .flagCaptured (.flagCaptured msg) msg rfl
  simp only [OutboundEvent.flagCaptured, onEvent_serEvent]
  rw [serEvent, List.cons.injEq] at hPayload
  simp [hPayload.2, onMessage, decodeFlagCaptured]

theorem onEvent_flagDropped (log : FlagLog) (msg : MsgFlagDropped) :
    log.onEvent (.flagDropped msg) = log.onDropped { msg with position := wireVec2 msg.position } := by
  have hPayload := OutboundEvent.flagDropped_payload msg
  simp only [OutboundEvent.flagDropped, onEvent_serEvent] at hPayload ⊢
  rw [serEvent, List.cons.injEq] at hPayload
  simp [hPayload.2, onMessage]

theorem onEvent_other (log : FlagLog) (type : OutboundEventType) (message : MessageType)
    (body : EventBody)
    (h : message = .playerKilled ∨ message = .playerRespawned ∨ message = .matchEnd ∨ message = .shotFired) :
    log.onEvent (serEvent type message body) = log := by
  cases type with
  | tcpBroadcast =>
    rw [onEvent_serEvent]
    rcases h with rfl | rfl | rfl | rfl <;> rfl
  | udpSnapshot => rfl
  | udpDeltaSnapshot => rfl
  | udpEvent => rfl

theorem onEvent_snapshot (log : FlagLog) (ev : OutboundEvent) (h : ev.isSnapshot = true) : log.onEvent ev = log := by
  obtain ⟨type, payload, acks, tick, body⟩ := ev
  cases type <;> simp_all [OutboundEvent.isSnapshot, onEvent]

/-- The log tells the flags, their carriers, the scores, and where a dropped flag lies. -/
structure Matches (log : FlagLog) (s : Sim) : Prop where
  state : ∀ team, (log.flags team).state = (s.flags team).state
  carrier : ∀ team, (log.flags team).carrier = (s.flags team).carrierId
  position : ∀ team, (s.flags team).state = .dropped → (log.flags team).position = floorVec2 (s.flags team).position
  score : log.score = s.score

theorem Matches.congr {log : FlagLog} {s s' : Sim} (h : log.Matches s) (hFlags : s'.flags = s.flags)
    (hScore : s'.score = s.score) : log.Matches s' :=
  ⟨by rw [hFlags]; exact h.state, by rw [hFlags]; exact h.carrier, by rw [hFlags]; exact h.position,
    by rw [hScore]; exact h.score⟩

theorem Matches.setFlag {log : FlagLog} {s s' : Sim} (h : log.Matches s) (team : Team) (entry : FlagEntry)
    (flag : FlagInfo) (hState : entry.state = flag.state) (hCarrier : entry.carrier = flag.carrierId)
    (hPosition : flag.state = .dropped → entry.position = floorVec2 flag.position)
    (hFlags : s'.flags = Function.update s.flags team flag) (hScore : s'.score = s.score) :
    (log.setFlag team entry).Matches s' := by
  constructor
  · intro t
    by_cases ht : t = team
    · subst ht
      simpa [FlagLog.setFlag, hFlags] using hState
    · simpa [FlagLog.setFlag, hFlags, ht] using h.state t
  · intro t
    by_cases ht : t = team
    · subst ht
      simpa [FlagLog.setFlag, hFlags] using hCarrier
    · simpa [FlagLog.setFlag, hFlags, ht] using h.carrier t
  · intro t
    by_cases ht : t = team
    · subst ht
      simpa [FlagLog.setFlag, hFlags] using hPosition
    · simpa [FlagLog.setFlag, hFlags, ht] using h.position t
  · rw [hScore]
    exact h.score

end FlagLog

namespace Sim

/-- The log of everything pushed so far matches the state. -/
def LogFaithful (s : Sim) : Prop := (FlagLog.ofEvents s.outbound).Matches s

theorem LogFaithful.push {s : Sim} {ev : OutboundEvent}
    (h : ((FlagLog.ofEvents s.outbound).onEvent ev).Matches s) : (s.push ev).LogFaithful := by
  rw [LogFaithful, Sim.push, FlagLog.ofEvents_append]
  exact h.congr rfl rfl

theorem LogFaithful.silent {s s' : Sim} (h : s.LogFaithful) (ev : OutboundEvent)
    (hSilent : ∀ log : FlagLog, log.onEvent ev = log) (hFlags : s'.flags = s.flags) (hScore : s'.score = s.score)
    (hOut : s'.outbound = s.outbound ++ [ev]) : s'.LogFaithful := by
  rw [LogFaithful, hOut, FlagLog.ofEvents_append, hSilent]
  exact h.congr hFlags hScore

theorem LogFaithful.congr {s s' : Sim} (h : s.LogFaithful) (hFlags : s'.flags = s.flags)
    (hScore : s'.score = s.score) (hOut : s'.outbound = s.outbound) : s'.LogFaithful := by
  rw [LogFaithful, hOut]
  exact FlagLog.Matches.congr h hFlags hScore

theorem LogFaithful.combat {s s' : Sim} (hChange : CombatChange False s s') (h : s.LogFaithful) :
    s'.LogFaithful := by
  cases hChange with
  | cool id hLive => exact h.congr rfl rfl rfl
  | shoot id msg hLive => exact h.silent _ (fun log => log.onEvent_other _ _ _ (by simp)) rfl rfl rfl
  | wound id health hLive => exact h.congr rfl rfl rfl
  | kill id msg hLive hFree => exact h.silent _ (fun log => log.onEvent_other _ _ _ (by simp)) rfl rfl rfl
  | killCarrier id drop msg hDrops => exact hDrops.elim

theorem LogFaithful.flags {s s' : Sim} (hChange : FlagChange s s') (h : s.LogFaithful) : s'.LogFaithful := by
  cases hChange with
  | follow team position hCarried =>
    constructor
    · intro t
      by_cases ht : t = team
      · subst ht
        simpa [Sim.setFlag] using h.state t
      · simpa [Sim.setFlag, ht] using h.state t
    · intro t
      by_cases ht : t = team
      · subst ht
        simpa [Sim.setFlag] using h.carrier t
      · simpa [Sim.setFlag, ht] using h.carrier t
    · intro t
      by_cases ht : t = team
      · subst ht
        simp [Sim.setFlag, hCarried]
      · simpa [Sim.setFlag, ht] using h.position t
    · exact h.score
  | flagReturn team playerId hDropped =>
    apply LogFaithful.push
    rw [FlagLog.onEvent_flagReturned]
    exact FlagLog.Matches.setFlag h team {} _ rfl rfl (by simp) rfl rfl
  | pickUp id hLive hFree hState hTouch =>
    apply LogFaithful.push
    rw [FlagLog.onEvent_flagPickedUp]
    exact FlagLog.Matches.setFlag h _ { state := .carried, carrier := idByte id } _ rfl rfl (by simp) rfl rfl
  | capture id hLive hCarries =>
    apply LogFaithful.push
    rw [FlagLog.onEvent_flagCaptured]
    have hFlag : ((FlagLog.ofEvents s.outbound).setFlag (s.players id).team.other {}).Matches
        (s.setFlag (s.players id).team.other
          { state := .atBase, position := baseOf (s.players id).team.other, carrierId := kNoCarrier }) :=
      FlagLog.Matches.setFlag h (s.players id).team.other {} _ rfl rfl (by simp) rfl rfl
    have hScore : (FlagLog.ofEvents s.outbound).score = s.score := h.score
    refine ⟨hFlag.state, hFlag.carrier, hFlag.position, ?_⟩
    simp only [FlagLog.onCaptured, Team.other_other]
    exact congrArg (fun score : Team → U8 => Function.update score _ (score _ + 1)) hScore

theorem LogFaithful.respawn {s s' : Sim} (hChange : RespawnChange s s') (h : s.LogFaithful) : s'.LogFaithful := by
  cases hChange with
  | countDown id hDead => exact h.congr rfl rfl rfl
  | respawn id msg hActive hDead hDue =>
    exact h.silent _ (fun log => log.onEvent_other _ _ _ (by simp)) rfl rfl rfl

theorem LogFaithful.win {s : Sim} (h : s.LogFaithful) : s.winCheck.LogFaithful := by
  simp only [winCheck]
  split
  · exact h
  · split
    · exact h.silent _ (fun log => log.onEvent_other _ _ _ (by simp)) rfl rfl rfl
    · exact h

theorem LogFaithful.publish {s : Sim} (h : s.LogFaithful) : s.publish.LogFaithful := by
  simp only [Sim.publish]
  split
  · refine h.silent _ (fun log => log.onEvent_snapshot _ ?_) rfl rfl rfl
    simp only [snapshotEvent, OutboundEvent.isSnapshot]
    split <;> simp
  · exact h.congr rfl rfl rfl

theorem LogFaithful.clock {s : Sim} (h : s.LogFaithful) (t : U32) : { s with currentTick := t }.LogFaithful :=
  h.congr rfl rfl rfl

end Sim
end CaptureTheFlag
