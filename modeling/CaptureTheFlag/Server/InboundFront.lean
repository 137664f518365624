import CaptureTheFlag.Server.NetServer

/-! # Commands that are still on their way

The network thread only ever appends to the inbound queue, so what it does is the same whatever already waits there.
-/
namespace CaptureTheFlag
set_option autoImplicit false
open Framing

namespace NetServer

/-- The same state with more commands at the front of the inbound queue. -/
def behind (net : NetServer) (front : List InboundCommand) : NetServer := { net with inbound := front ++ net.inbound }

variable (net : NetServer) (front : List InboundCommand)

theorem broadcastLobbyState_behind : (net.behind front).broadcastLobbyState = net.broadcastLobbyState.behind front := rfl

theorem disconnect_behind (entry : ClientEntry) (notifySim : Bool) :
    (net.behind front).disconnect entry notifySim = (net.disconnect entry notifySim).behind front := by
  have hFront : ((net.behind front).closeUnregistered entry.tcpFd).lobby = net.lobby := rfl
  have hPlain : (net.closeUnregistered entry.tcpFd).lobby = net.lobby := rfl
  rw [disconnect, disconnect]
  simp only [hFront, hPlain]
  split
  · rw [← broadcastLobbyState_behind]
    simp only [behind, closeUnregistered, List.append_assoc]
  · rw [← broadcastLobbyState_behind]
    rfl

theorem drop_behind (fd : Int) : (net.behind front).drop fd = (net.drop fd).behind front := by
  simp only [drop]
  cases hFind : net.registry.findByFd fd with
  | none =>
    have hFind' : (net.behind front).registry.findByFd fd = none := hFind
    rw [hFind']
    rfl
  | some entry =>
    have hFind' : (net.behind front).registry.findByFd fd = some entry := hFind
    rw [hFind']
    exact net.disconnect_behind front entry true

theorem disconnectIf_behind (gone : ClientEntry → Bool) (i : Nat) :
    disconnectIf gone (net.behind front) i = (disconnectIf gone net i).behind front := by
  have hRegistry : (net.behind front).registry = net.registry := rfl
  rw [disconnectIf, disconnectIf, hRegistry]
  split
  · rfl
  · split
    · rfl
    · split
      · split
        · exact net.disconnect_behind front _ true
        · rfl
      · rfl

/-- A loop of turns that do not mind the front does not mind it either. -/
theorem foldl_behind {α : Type} {turn : NetServer → α → NetServer}
    (hTurn : ∀ net a, turn (net.behind front) a = (turn net a).behind front) (as : List α) :
    as.foldl turn (net.behind front) = (as.foldl turn net).behind front := by
  induction as generalizing net with
  | nil => rfl
  | cons a as ih => rw [List.foldl_cons, List.foldl_cons, hTurn, ih]

theorem disconnectWhere_behind (gone : ClientEntry → Bool) :
    (net.behind front).disconnectWhere gone = (net.disconnectWhere gone).behind front :=
  net.foldl_behind front (fun net i => net.disconnectIf_behind front gone i) _

theorem flushPending_behind (fd : Int) : (net.behind front).flushPending fd = (net.flushPending fd).behind front := by
  have hRegistry : (net.behind front).registry = net.registry := rfl
  have hAnswers : (net.behind front).answers = net.answers := rfl
  rw [flushPending, flushPending, hRegistry]
  split
  · rfl
  · rename_i entry _
    let loop := sendLoop net.answers entry.pendingOut
    let flushed : NetServer :=
      { net with
        registry := net.registry.setEntry entry.playerId { entry with pendingOut := entry.pendingOut.drop loop.sent }
        wire := Function.update net.wire fd (net.wire fd ++ entry.pendingOut.take loop.sent)
        answers := loop.answers }
    simp only [hAnswers]
    split
    · exact flushed.disconnect_behind front _ true
    · rfl

theorem tryJoin_behind (env : Env) (fd : Int) (name : List U8) :
    (net.behind front).tryJoin env fd name =
      ((net.tryJoin env fd name).1.behind front, (net.tryJoin env fd name).2) := by
  have hRegistry : (net.behind front).registry = net.registry := rfl
  have hLobby : (net.behind front).lobby = net.lobby := rfl
  rw [tryJoin, tryJoin, hRegistry]
  cases net.registry.add fd name with
  | mk id registry =>
    cases id with
    | none => rfl
    | some id =>
      simp only [hLobby]
      cases net.lobby.addPlayer (BitVec.ofNat 8 id) with
      | mk result lobby => cases result <;> rfl

theorem onJoinLobby_behind (env : Env) (fd : Int) (msg : Protocol.MsgJoinLobby) :
    (net.behind front).onJoinLobby env fd msg = (net.onJoinLobby env fd msg).behind front := by
  have hRegistry : (net.behind front).registry = net.registry := rfl
  rw [onJoinLobby, onJoinLobby, hRegistry, tryJoin_behind]
  cases net.registry.findByFd fd with
  | some entry => rfl
  | none =>
    simp only
    cases net.tryJoin env fd (nameString msg.name env.behind) with
    | mk joined answer =>
      cases answer with
      | mk accepted reply => cases accepted <;> rfl

theorem beginMatchAndNotify_behind (env : Env) :
    (net.behind front).beginMatchAndNotify env = (net.beginMatchAndNotify env).behind front := by
  have hLobby : (net.behind front).lobby = net.lobby := rfl
  rw [beginMatchAndNotify, beginMatchAndNotify, hLobby]
  cases net.lobby.beginMatch with
  | mk begun lobby =>
    cases begun with
    | false => rfl
    | true =>
      simp only [behind, broadcastMessage, broadcastPayload, List.append_assoc]

theorem onStartRequest_behind (env : Env) (fd : Int) :
    (net.behind front).onStartRequest env fd = (net.onStartRequest env fd).behind front := by
  have hRegistry : (net.behind front).registry = net.registry := rfl
  have hLobby : (net.behind front).lobby = net.lobby := rfl
  rw [onStartRequest, onStartRequest, hRegistry]
  split
  · rfl
  · rw [hLobby]
    split
    · exact net.beginMatchAndNotify_behind front env
    · rfl

theorem onFrame_behind (env : Env) (fd : Int) (f : Frame) :
    onFrame env fd (net.behind front) f = (onFrame env fd net f).behind front := by
  rw [onFrame, onFrame]
  split
  · split
    · exact net.onJoinLobby_behind front env fd _
    · rfl
  · split
    · exact net.onStartRequest_behind front env fd
    · rfl
  · rfl

theorem setAccum_behind (entry : Option ClientEntry) (fd : Int) (bytes : List U8) :
    (net.behind front).setAccum entry fd bytes = (net.setAccum entry fd bytes).behind front := by
  cases entry <;> rfl

theorem handleTcpReadable_behind (env : Env) (fd : Int) (recvs : List RecvResult) :
    (net.behind front).handleTcpReadable env fd recvs = (net.handleTcpReadable env fd recvs).behind front := by
  have hAccum : (net.behind front).accumFor fd = net.accumFor fd := rfl
  have hRegistry : (net.behind front).registry = net.registry := rfl
  rw [handleTcpReadable, handleTcpReadable, hAccum]
  split
  · exact net.drop_behind front fd
  · rename_i accum _
    have hServed := net.foldl_behind front (fun net f => net.onFrame_behind front env fd f)
      (deframe kTcpFrameCapBytes accum).frames
    simp only [hServed, hRegistry]
    split
    · exact drop_behind _ front fd
    · exact setAccum_behind _ front _ fd _

theorem onUdpHello_behind (now : U32) (src : SockAddr) (msg : Protocol.MsgUdpHello) :
    (net.behind front).onUdpHello now src msg = (net.onUdpHello now src msg).behind front := by
  have hAuth : (net.behind front).authUdpSender src = net.authUdpSender src := rfl
  rw [onUdpHello, onUdpHello, hAuth]
  cases net.authUdpSender src msg.playerId msg.sessionToken <;> rfl

theorem onPlayerInput_behind (now : U32) (src : SockAddr) (msg : Protocol.MsgPlayerInput) :
    (net.behind front).onPlayerInput now src msg = (net.onPlayerInput now src msg).behind front := by
  have hAuth : (net.behind front).authUdpSender src = net.authUdpSender src := rfl
  rw [onPlayerInput, onPlayerInput, hAuth]
  cases net.authUdpSender src msg.playerId msg.sessionToken with
  | none => rfl
  | some entry => simp only [behind, List.append_assoc]

theorem onUdpPacket_behind (now : U32) (src : SockAddr) (data : List U8) :
    (net.behind front).onUdpPacket now src data = (net.onUdpPacket now src data).behind front := by
  rw [onUdpPacket, onUdpPacket]
  split
  · rfl
  · simp only
    split
    · split
      · exact net.onUdpHello_behind front now src _
      · rfl
    · split
      · exact net.onPlayerInput_behind front now src _
      · rfl
    · rfl

theorem onOutboundEvent_behind (ev : OutboundEvent) :
    onOutboundEvent (net.behind front) ev = (onOutboundEvent net ev).behind front := by
  rw [onOutboundEvent, onOutboundEvent]
  split
  · split <;> rfl
  · rfl
  · rfl

/-- No reaction looks at the inbound queue. -/
theorem step_behind (event : Event) : (net.behind front).step event = (net.step event).behind front := by
  cases event with
  | accept fd => rfl
  | readable env fd recvs answers => exact handleTcpReadable_behind { net with answers } front env fd recvs
  | writable fd answers => exact flushPending_behind { net with answers } front fd
  | datagram now src data => exact net.onUdpPacket_behind front now src data
  | wake events => exact net.foldl_behind front (fun net ev => net.onOutboundEvent_behind front ev) events
  | pendingCap => exact net.disconnectWhere_behind front _
  | silence now => exact disconnectWhere_behind { net with lastSilenceCheckMs := now } front _

end NetServer
end CaptureTheFlag
