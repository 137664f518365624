import CaptureTheFlag.Client.DrainTcp
import CaptureTheFlag.Library.Observing
import CaptureTheFlag.Shared.MessageBytes

/-! # Using a client again

A `NetClient` is told to disconnect and to join again. `connect_and_join` starts from `disconnect`, which closes the
sockets and sets the state; the receive buffer, the snapshot cache, the queues and the timer of UDP_HELLO stay.
-/
namespace CaptureTheFlag.Raw
set_option autoImplicit false
open Protocol Framing Observing

abbrev kUdpHelloResendMs : U32 := 200

/-- The client with the timer of UDP_HELLO. -/
structure Session where
  tcp : TcpClient := {}
  lastUdpHelloSentMs : U32 := 0

/-- The public functions, with what they read from the outside. The clock counts milliseconds in 32 bits and wraps. -/
inductive Call where
  | connectAndJoin (deadline : U32) (rounds : List WaitRound)
  | disconnect
  | sendUdpHello (now : U32)
  | poll (now sentAt : U32) (recvs : List RecvAnswer) (datagrams : List (List U8))
  | takeSnapshots
  | takeEvents

/-- What the caller and the server see of a call. -/
inductive Seen where
  | joined (playerId : U8) (sessionToken : U32) (udpPort : U16)
  | rejected (reason : JoinRejectReason)
  | failed
  | closed
  | hello (sent : Bool)
  | polled (dispatched : List Frame) (helloSent : Bool)
  | snapshots (taken : List WorldSnapshot)
  | events (taken : List GameEvent)

/-- What `drain_udp` passes on of a datagram. -/
def udpPayload (datagram : List U8) : Option (U8 × U32 × List U8) :=
  let buf := datagram.take CaptureTheFlag.NetClient.kUdpBufferBytes
  if buf.length < kUdpHeaderBytes then none
  else match decodeUdpHeader ⟨buf, false⟩ with
    | (some hdr, ⟨_, false⟩) => some (hdr.type, hdr.tick, buf.drop kUdpHeaderBytes)
    | _ => none

/-- The result of `connect_and_join` with what the accessors tell about it. -/
def handshake : Bool × TcpClient → Seen
  | (true, c) => .joined c.playerId c.sessionToken c.serverUdpPort
  | (false, c) => if c.client.state = .rejected then .rejected c.joinRejectReason else .failed

namespace Session

def disconnect (s : Session) : Session := { s with tcp := s.tcp.disconnect }

def sendUdpHello (s : Session) (now : U32) : Bool × Session :=
  if s.tcp.connected then (true, { s with lastUdpHelloSentMs := now }) else (false, s)

/-- The clock is read a second time when the datagram is out. -/
def maybeResendUdpHello (s : Session) (now sentAt : U32) : Bool × Session :=
  if s.tcp.client.firstSnapshotReceived then (false, s)
  else if s.tcp.client.state ≠ .inLobby ∧ s.tcp.client.state ≠ .inGame then (false, s)
  else if kUdpHelloResendMs ≤ now - s.lastUdpHelloSentMs then s.sendUdpHello sentAt
  else (false, s)

/-- `poll`; the heartbeat at its end has a timer of its own and is not among the things seen. -/
def poll (s : Session) (now sentAt : U32) (recvs : List RecvAnswer) (datagrams : List (List U8)) :
    Option (Seen × Session) :=
  (s.tcp.poll recvs (datagrams.filterMap udpPayload)).map fun tcp =>
    let (sent, next) := ({ s with tcp } : Session).maybeResendUdpHello now sentAt
    (.polled (tcp.dispatched.drop s.tcp.dispatched.length) sent, next)

def call (s : Session) : Call → Option (Seen × Session)
  | .connectAndJoin deadline rounds =>
    let out := s.tcp.disconnect.connectAndJoin deadline rounds
    some (handshake out, { s with tcp := out.2 })
  | .disconnect => some (.closed, s.disconnect)
  | .sendUdpHello now =>
    let (sent, next) := s.sendUdpHello now
    some (.hello sent, next)
  | .poll now sentAt recvs datagrams => s.poll now sentAt recvs datagrams
  | .takeSnapshots => (s.tcp.deliver [.takeSnapshots]).map fun tcp =>
      (.snapshots s.tcp.client.pendingSnapshots, { s with tcp })
  | .takeEvents => (s.tcp.deliver [.takeEvents]).map fun tcp => (.events s.tcp.client.pendingEvents, { s with tcp })

/-- Disconnected and joined again, with whatever calls after that, it shows what a new client shows. -/
def LikeNew (s : Session) : Prop :=
  ∀ deadline rounds calls, observe call s.disconnect (.connectAndJoin deadline rounds :: calls) =
    observe call {} (.connectAndJoin deadline rounds :: calls)

/-- Nothing is left that a later call would look at. -/
structure Clean (s : Session) : Prop where
  buffer : s.tcp.tcpRxBuf = []
  first : s.tcp.client.firstSnapshotReceived = false
  events : s.tcp.client.pendingEvents = []
  timer : s.lastUdpHelloSentMs = 0

end Session

namespace NetClient

/-- The lobby and the match that a client remembers are never looked at, nor is the cache without a keyframe. -/
structure Alike (c d : NetClient) : Prop where
  state : c.state = d.state
  first : c.firstSnapshotReceived = d.firstSnapshotReceived
  haveLast : c.haveLastSnapshot = d.haveLastSnapshot
  cache : c.haveLastSnapshot = true → c.lastSnapshotCache = d.lastSnapshotCache
  snapshots : c.pendingSnapshots = d.pendingSnapshots
  events : c.pendingEvents = d.pendingEvents

theorem Alike.pushEvent {c d : NetClient} (h : Alike c d) (ev : GameEvent) : Alike (c.pushEvent ev) (d.pushEvent ev) where
  state := h.state
  first := h.first
  haveLast := h.haveLast
  cache := h.cache
  snapshots := h.snapshots
  events := congrArg (· ++ [ev]) h.events

theorem onDecoded_alike {σ : Type} {c d : NetClient} (h : Alike c d) (decode : Filling ByteReader σ Unit) (fresh : σ)
    (payload : List U8) {use use' : σ → NetClient} (hUse : ∀ msg, Alike (use msg) (use' msg)) :
    Option.Rel Alike (c.onDecoded decode fresh payload use) (d.onDecoded decode fresh payload use') := by
  rw [onDecoded, onDecoded]
  rcases decode (fresh, ⟨payload, false⟩) with ⟨e | _, msg, r⟩
  · cases e with
    | rejected => exact .some h
    | outOfBounds => exact .none
  · cases hFlag : r.underflow with
    | true => simpa only [hFlag, if_true] using Option.Rel.some h
    | false => simpa only [hFlag, Bool.false_eq_true, if_false] using Option.Rel.some (hUse msg)

theorem dispatchTcpFrame_alike {c d : NetClient} (h : Alike c d) (type : U8) (payload : List U8) :
    Option.Rel Alike (c.dispatchTcpFrame type payload) (d.dispatchTcpFrame type payload) := by
  rw [dispatchTcpFrame, dispatchTcpFrame]
  split
  · refine onDecoded_alike h _ _ _ fun msg => ?_
    have hSet : Alike { c with lobbyState := msg } { d with lobbyState := msg } := { h with }
    exact hSet.pushEvent _
  · refine onDecoded_alike h _ _ _ fun msg => ?_
    have hSet : Alike { c with gameStart := msg, state := .inGame } { d with gameStart := msg, state := .inGame } :=
      { h with state := rfl }
    exact hSet.pushEvent _
  · exact onDecoded_alike h _ _ _ fun msg => h.pushEvent _
  · exact onDecoded_alike h _ _ _ fun msg => h.pushEvent _
  · exact onDecoded_alike h _ _ _ fun msg => h.pushEvent _
  · exact onDecoded_alike h _ _ _ fun msg => h.pushEvent _
  · exact onDecoded_alike h _ _ _ fun msg => h.pushEvent _
  · exact onDecoded_alike h _ _ _ fun msg => h.pushEvent _
  · exact onDecoded_alike h _ _ _ fun msg => h.pushEvent _
  · exact .some h

theorem onDeltaSnapshot_alike {c d : NetClient} (h : Alike c d) (tick : U32) (payload : List U8) :
    Option.Rel Alike (c.onDeltaSnapshot tick payload) (d.onDeltaSnapshot tick payload) := by
  rw [onDeltaSnapshot, onDeltaSnapshot, ← h.haveLast]
  cases hHave : c.haveLastSnapshot with
  | false => exact .some h
  | true =>
    rw [← h.cache hHave]
    rcases decodeDeltaSnapshot tick (c.lastSnapshotCache, ⟨payload, false⟩) with ⟨e | _, cache, r⟩
    · cases e with
      | rejected => exact .some { h with haveLast := rfl, cache := by rintro ⟨⟩ }
      | outOfBounds => exact .none
    · exact .some
        { h with
          first := rfl
          haveLast := rfl
          cache := fun _ => rfl
          snapshots := congrArg (· ++ [cache]) h.snapshots }

theorem dispatchUdpPayload_alike {c d : NetClient} (h : Alike c d) (type : U8) (tick : U32) (payload : List U8) :
    Option.Rel Alike (c.dispatchUdpPayload type tick payload) (d.dispatchUdpPayload type tick payload) := by
  rw [dispatchUdpPayload, dispatchUdpPayload]
  split
  · exact onDecoded_alike h _ _ _ fun snap =>
      { h with first := rfl, haveLast := rfl, cache := fun _ => rfl, snapshots := congrArg (· ++ [snap]) h.snapshots }
  · exact onDeltaSnapshot_alike h tick payload
  · exact onDecoded_alike h _ _ _ fun msg => h.pushEvent _
  · exact .some h

theorem deliver_alike {c d : NetClient} (h : Alike c d) (x : Delivery) : Option.Rel Alike (c.deliver x) (d.deliver x) := by
  cases x with
  | tcpFrame type payload => exact dispatchTcpFrame_alike h type payload
  | udpPayload type tick payload => exact dispatchUdpPayload_alike h type tick payload
  | takeSnapshots => exact .some { h with snapshots := rfl }
  | takeEvents => exact .some { h with events := rfl }

theorem deliverAll_alike (xs : List Delivery) {c d : NetClient} (h : Alike c d) :
    Option.Rel Alike (c.deliverAll xs) (d.deliverAll xs) := by
  induction xs generalizing c d with
  | nil => exact .some h
  | cons x xs ih => exact rel_bind (deliver_alike h x) fun _ _ hNext => ih hNext

/-- Before the first snapshot there is no cache to apply a delta to, and no snapshot is queued. -/
def Unseen (c : NetClient) : Prop :=
  c.firstSnapshotReceived = false → c.haveLastSnapshot = false ∧ c.pendingSnapshots = []

theorem onDecoded_unseen {σ : Type} {c c' : NetClient} (h : c.Unseen) {decode : Filling ByteReader σ Unit} {fresh : σ}
    {payload : List U8} {use : σ → NetClient} (hRun : c.onDecoded decode fresh payload use = some c')
    (hUse : ∀ msg, (use msg).Unseen) : c'.Unseen := by
  rw [onDecoded] at hRun
  split at hRun
  · obtain rfl := Option.some.inj hRun
    split
    · exact h
    · exact hUse _
  · obtain rfl := Option.some.inj hRun
    exact h
  · cases hRun

theorem dispatchTcpFrame_unseen {c c' : NetClient} (h : c.Unseen) {type : U8} {payload : List U8}
    (hRun : c.dispatchTcpFrame type payload = some c') : c'.Unseen := by
  rw [dispatchTcpFrame] at hRun
  split at hRun
  case h_10 =>
    obtain rfl := Option.some.inj hRun
    exact h
  all_goals exact onDecoded_unseen h hRun fun _ => h

theorem onDeltaSnapshot_unseen {c c' : NetClient} (h : c.Unseen) {tick : U32} {payload : List U8}
    (hRun : c.onDeltaSnapshot tick payload = some c') : c'.Unseen := by
  rw [onDeltaSnapshot] at hRun
  split at hRun
  · obtain rfl := Option.some.inj hRun
    exact h
  · split at hRun
    · obtain rfl := Option.some.inj hRun
      rintro ⟨⟩
    · obtain rfl := Option.some.inj hRun
      exact fun hNone => ⟨rfl, (h hNone).2⟩
    · cases hRun

theorem deliver_unseen {c c' : NetClient} (h : c.Unseen) {x : Delivery} (hRun : c.deliver x = some c') : c'.Unseen := by
  cases x with
  | tcpFrame type payload => exact dispatchTcpFrame_unseen h hRun
  | udpPayload type tick payload =>
    rw [deliver, dispatchUdpPayload] at hRun
    split at hRun
    · exact onDecoded_unseen h hRun (by rintro _ ⟨⟩)
    · exact onDeltaSnapshot_unseen h hRun
    · exact onDecoded_unseen h hRun fun _ => h
    · obtain rfl := Option.some.inj hRun
      exact h
  | takeSnapshots =>
    obtain rfl := Option.some.inj hRun
    exact fun hNone => ⟨(h hNone).1, rfl⟩
  | takeEvents =>
    obtain rfl := Option.some.inj hRun
    exact h

theorem deliverAll_unseen (xs : List Delivery) {c c' : NetClient} (h : c.Unseen) (hRun : c.deliverAll xs = some c') :
    c'.Unseen := by
  induction xs generalizing c with
  | nil =>
    obtain rfl := Option.some.inj hRun
    exact h
  | cons x xs ih =>
    obtain ⟨next, hNext, hRest⟩ := Option.bind_eq_some_iff.mp hRun
    exact ih (deliver_unseen h hNext) hRest

end NetClient

namespace TcpClient

structure Alike (c d : TcpClient) : Prop where
  client : c.client.Alike d.client
  connected : c.connected = d.connected
  buffer : c.tcpRxBuf = d.tcpRxBuf

theorem Alike.disconnect {c d : TcpClient} (h : Alike c d) : Alike c.disconnect d.disconnect where
  client := { h.client with state := rfl }
  connected := rfl
  buffer := h.buffer

theorem Alike.insert {c d : TcpClient} (h : Alike c d) (chunk : List U8) : Alike (c.insert chunk) (d.insert chunk) :=
  { h with buffer := congrArg (· ++ chunk) h.buffer }

theorem waitForTcpFrame_alike (deadline : U32) (rounds : List WaitRound) {c d : TcpClient} (h : Alike c d) :
    (waitForTcpFrame deadline rounds c).1 = (waitForTcpFrame deadline rounds d).1 ∧
      Alike (waitForTcpFrame deadline rounds c).2 (waitForTcpFrame deadline rounds d).2 := by
  induction rounds generalizing c d with
  | nil =>
    rw [waitForTcpFrame.eq_def, waitForTcpFrame.eq_def, h.buffer]
    cases recvFramed d.tcpRxBuf with
    | short => exact ⟨rfl, h⟩
    | oversize => exact ⟨rfl, h⟩
    | frame f rest => exact ⟨rfl, { h with buffer := rfl }⟩
  | cons round rounds ih =>
    rw [waitForTcpFrame.eq_def, waitForTcpFrame.eq_def, h.buffer]
    cases recvFramed d.tcpRxBuf with
    | oversize => exact ⟨rfl, h⟩
    | frame f rest => exact ⟨rfl, { h with buffer := rfl }⟩
    | short =>
      simp only
      by_cases hTime : deadline ≤ round.now
      · simp only [hTime, if_true]
        exact ⟨trivial, h⟩
      · simp only [hTime, if_false]
        match round.poll with
        | .interrupted => exact ih h
        | .failed => exact ⟨rfl, h⟩
        | .timedOut => exact ih h
        | .readable (.got (b :: chunk)) => exact ih (h.insert (b :: chunk))
        | .readable (.got []) => exact ⟨rfl, h⟩
        | .readable .again => exact ⟨rfl, h⟩
        | .readable .interrupted => exact ⟨rfl, h⟩
        | .readable .failed => exact ⟨rfl, h⟩

theorem onJoinAccept_alike {c d : TcpClient} (h : Alike c d) (payload : List U8) :
    handshake (c.onJoinAccept payload) = handshake (d.onJoinAccept payload) ∧
      Alike (c.onJoinAccept payload).2 (d.onJoinAccept payload).2 := by
  rw [onJoinAccept, onJoinAccept]
  split
  · exact ⟨rfl, { h with client := { h.client with state := rfl } }⟩
  · exact ⟨rfl, h.disconnect⟩

theorem connectAndJoin_alike {c d : TcpClient} (h : Alike c d) (deadline : U32) (rounds : List WaitRound) :
    handshake (c.connectAndJoin deadline rounds) = handshake (d.connectAndJoin deadline rounds) ∧
      Alike (c.connectAndJoin deadline rounds).2 (d.connectAndJoin deadline rounds).2 := by
  have hStart : Alike { c with connected := true, client := { c.client with state := .waitingJoinAccept } }
      { d with connected := true, client := { d.client with state := .waitingJoinAccept } } :=
    ⟨{ h.client with state := rfl }, rfl, h.buffer⟩
  obtain ⟨hFrame, hAlike⟩ := waitForTcpFrame_alike deadline rounds hStart
  rw [connectAndJoin, connectAndJoin]
  generalize waitForTcpFrame deadline rounds _ = out at hFrame hAlike ⊢
  generalize waitForTcpFrame deadline rounds _ = out' at hFrame hAlike ⊢
  obtain ⟨frame, c₁⟩ := out
  obtain ⟨frame', d₁⟩ := out'
  cases hFrame
  cases frame with
  | none => exact ⟨rfl, hAlike.disconnect⟩
  | some f =>
    simp only
    split
    · exact onJoinAccept_alike hAlike f.payload
    · exact ⟨rfl, { client := { hAlike.client with state := rfl }, connected := rfl, buffer := hAlike.buffer }⟩
    · exact ⟨rfl, hAlike.disconnect⟩

theorem deliver_alike {c d : TcpClient} (h : Alike c d) (xs : List NetClient.Delivery) :
    Option.Rel Alike (c.deliver xs) (d.deliver xs) :=
  rel_map (NetClient.deliverAll_alike xs h.client) fun _ _ hClient => { h with client := hClient }

theorem dispatch_alike {c d : TcpClient} (h : Alike c d) (f : Frame) : Option.Rel Alike (c.dispatch f) (d.dispatch f) :=
  rel_map (NetClient.dispatchTcpFrame_alike h.client f.type f.payload) fun _ _ hClient => { h with client := hClient }

theorem dispatchBuffered_alike {c d : TcpClient} (h : Alike c d) :
    Option.Rel Alike c.dispatchBuffered d.dispatchBuffered := by
  rw [dispatchBuffered, dispatchBuffered, h.buffer]
  refine rel_map (rel_foldlM (fun a b f hAlike => dispatch_alike hAlike f) _ h) fun a b hAlike => ?_
  have hCut : Alike { a with tcpRxBuf := (deframe kTcpFrameCapBytes d.tcpRxBuf).rest }
      { b with tcpRxBuf := (deframe kTcpFrameCapBytes d.tcpRxBuf).rest } := { hAlike with buffer := rfl }
  simp only
  split
  · exact hCut.disconnect
  · exact hCut

theorem drainTcp_alike {c d : TcpClient} (h : Alike c d) (recvs : List RecvAnswer) :
    Option.Rel Alike (c.drainTcp recvs) (d.drainTcp recvs) := by
  have hInsert := h.insert (drainRecv recvs).1
  rw [drainTcp, drainTcp]
  split
  · exact dispatchBuffered_alike hInsert
  · exact .some hInsert.disconnect

theorem poll_eq (c : TcpClient) (recvs : List RecvAnswer) (datagrams : List (U8 × U32 × List U8)) :
    c.poll recvs datagrams = (if c.connected then c.drainTcp recvs else some c).bind fun c =>
      if c.connected then c.drainUdp datagrams else some c := by
  rw [poll]
  cases c.connected <;> rfl

theorem poll_alike {c d : TcpClient} (h : Alike c d) (recvs : List RecvAnswer) (datagrams : List (U8 × U32 × List U8)) :
    Option.Rel Alike (c.poll recvs datagrams) (d.poll recvs datagrams) := by
  have hDrain : Option.Rel Alike (if c.connected then c.drainTcp recvs else some c)
      (if d.connected then d.drainTcp recvs else some d) := by
    rw [h.connected]
    split
    · exact drainTcp_alike h recvs
    · exact .some h
  rw [poll_eq, poll_eq]
  refine rel_bind hDrain fun a b hAlike => ?_
  rw [hAlike.connected]
  split
  · exact deliver_alike hAlike _
  · exact .some hAlike

/-- The frames that a `poll` dispatches. -/
theorem Acted.frames {c c' : TcpClient} {recvs : List RecvAnswer} {datagrams : List (U8 × U32 × List U8)}
    (h : Acted c (.poll recvs datagrams) c') :
    c'.dispatched.drop c.dispatched.length =
      if c.connected = true ∧ (drainRecv recvs).2 = true then
        (deframe kTcpFrameCapBytes (c.tcpRxBuf ++ (drainRecv recvs).1)).frames
      else [] := by
  cases h with
  | idle hIdle hSame => simp [hSame.dispatched, hIdle recvs datagrams rfl]
  | closed hOpen hEnd hClosed hBuf hHeard hSame => simp [hSame, hEnd]
  | served hOpen hMore hBuf hHeard hFrames => simp [hFrames, hOpen, hMore]

theorem poll_frames {c d c' d' : TcpClient} (h : Alike c d) (hWell : c.client.WellFormed) (hWell' : d.client.WellFormed)
    {recvs : List RecvAnswer} {datagrams : List (U8 × U32 × List U8)} (hPoll : c.poll recvs datagrams = some c')
    (hPoll' : d.poll recvs datagrams = some d') :
    c'.dispatched.drop c.dispatched.length = d'.dispatched.drop d.dispatched.length := by
  obtain ⟨c₁, hAct, -, hActed⟩ := act_acted hWell (.poll recvs datagrams)
  obtain ⟨d₁, hAct', -, hActed'⟩ := act_acted hWell' (.poll recvs datagrams)
  obtain rfl := Option.some.inj (hPoll.symm.trans hAct)
  obtain rfl := Option.some.inj (hPoll'.symm.trans hAct')
  rw [hActed.frames, hActed'.frames, h.connected, h.buffer]

theorem deliver_unseen {c c' : TcpClient} (h : c.client.Unseen) {xs : List NetClient.Delivery}
    (hRun : c.deliver xs = some c') : c'.client.Unseen := by
  obtain ⟨client, hAll, rfl⟩ := Option.map_eq_some_iff.mp hRun
  exact NetClient.deliverAll_unseen xs h hAll

theorem drainTcp_unseen {c c' : TcpClient} (h : c.client.Unseen) {recvs : List RecvAnswer}
    (hRun : c.drainTcp recvs = some c') : c'.client.Unseen := by
  rw [drainTcp] at hRun
  split at hRun
  · obtain ⟨last, hAll, rfl⟩ := Option.map_eq_some_iff.mp hRun
    have hLast : last.client.Unseen := by
      refine foldlM_invariant (P := fun c => c.client.Unseen) (fun a f a' hUnseen hFrame => ?_) _ h hAll
      obtain ⟨client, hClient, rfl⟩ := Option.map_eq_some_iff.mp hFrame
      exact NetClient.dispatchTcpFrame_unseen hUnseen hClient
    simp only
    split
    · exact hLast
    · exact hLast
  · obtain rfl := Option.some.inj hRun
    exact h

theorem poll_unseen {c c' : TcpClient} (h : c.client.Unseen) {recvs : List RecvAnswer}
    {datagrams : List (U8 × U32 × List U8)} (hRun : c.poll recvs datagrams = some c') : c'.client.Unseen := by
  rw [poll_eq] at hRun
  obtain ⟨next, hFirst, hRest⟩ := Option.bind_eq_some_iff.mp hRun
  have hNext : next.client.Unseen := by
    split at hFirst
    · exact drainTcp_unseen h hFirst
    · obtain rfl := Option.some.inj hFirst
      exact h
  split at hRest
  · exact deliver_unseen hNext hRest
  · obtain rfl := Option.some.inj hRest
    exact hNext

theorem waitForTcpFrame_client (deadline : U32) (rounds : List WaitRound) (c : TcpClient) :
    (waitForTcpFrame deadline rounds c).2.client = c.client := by
  fun_induction waitForTcpFrame deadline rounds c with
  | case5 c hPeek round rounds hTime hPoll ih => exact ih
  | case7 c hPeek round rounds hTime hPoll ih => exact ih
  | case8 c hPeek round rounds hTime b chunk hPoll ih => exact ih
  | _ => rfl

/-- The handshake changes nothing of the client but its state. -/
theorem connectAndJoin_client (c : TcpClient) (deadline : U32) (rounds : List WaitRound) :
    ∃ state, (c.connectAndJoin deadline rounds).2.client = { c.client with state } := by
  have hClient := waitForTcpFrame_client deadline rounds
    { c with connected := true, client := { c.client with state := .waitingJoinAccept } }
  rw [connectAndJoin]
  generalize waitForTcpFrame deadline rounds _ = out at hClient ⊢
  obtain ⟨frame, c₁⟩ := out
  simp only at hClient
  cases frame with
  | none => exact ⟨.disconnected, by simp only [disconnect, hClient]⟩
  | some f =>
    simp only
    split
    · rw [onJoinAccept]
      split
      · exact ⟨.inLobby, by simp only [hClient]⟩
      · exact ⟨.disconnected, by simp only [disconnect, hClient]⟩
    · exact ⟨.rejected, by simp only [onJoinReject, hClient]⟩
    · exact ⟨.disconnected, by simp only [disconnect, hClient]⟩

end TcpClient

namespace Session

structure Sound (s : Session) : Prop where
  well : s.tcp.client.WellFormed
  unseen : s.tcp.client.Unseen

structure Alike (s t : Session) : Prop where
  tcp : s.tcp.Alike t.tcp
  timer : s.lastUdpHelloSentMs = t.lastUdpHelloSentMs

theorem Alike.sendUdpHello {s t : Session} (h : Alike s t) (now : U32) :
    (s.sendUdpHello now).1 = (t.sendUdpHello now).1 ∧ Alike (s.sendUdpHello now).2 (t.sendUdpHello now).2 := by
  rw [Session.sendUdpHello, Session.sendUdpHello, h.tcp.connected]
  split
  · exact ⟨rfl, { h with timer := rfl }⟩
  · exact ⟨rfl, h⟩

theorem Alike.maybeResendUdpHello {s t : Session} (h : Alike s t) (now sentAt : U32) :
    (s.maybeResendUdpHello now sentAt).1 = (t.maybeResendUdpHello now sentAt).1 ∧
      Alike (s.maybeResendUdpHello now sentAt).2 (t.maybeResendUdpHello now sentAt).2 := by
  rw [Session.maybeResendUdpHello, Session.maybeResendUdpHello, h.tcp.client.first, h.tcp.client.state, h.timer]
  split
  · exact ⟨rfl, h⟩
  · split
    · exact ⟨rfl, h⟩
    · split
      · exact h.sendUdpHello sentAt
      · exact ⟨rfl, h⟩

@[simp] theorem sendUdpHello_tcp (s : Session) (now : U32) : (s.sendUdpHello now).2.tcp = s.tcp := by
  rw [sendUdpHello]
  split <;> rfl

@[simp] theorem maybeResendUdpHello_tcp (s : Session) (now sentAt : U32) :
    (s.maybeResendUdpHello now sentAt).2.tcp = s.tcp := by
  rw [maybeResendUdpHello]
  split
  · rfl
  · split
    · rfl
    · split
      · exact sendUdpHello_tcp s sentAt
      · rfl

theorem Sound.of_tcp {s t : Session} (h : s.Sound) (hTcp : t.tcp = s.tcp) : t.Sound where
  well := by
    rw [hTcp]
    exact h.well
  unseen := by
    rw [hTcp]
    exact h.unseen

theorem call_sound {s : Session} (a : Call) (h : s.Sound) : ∃ out, s.call a = some out ∧ out.2.Sound := by
  cases a with
  | connectAndJoin deadline rounds =>
    obtain ⟨state, hClient⟩ := s.tcp.disconnect.connectAndJoin_client deadline rounds
    refine ⟨_, rfl, ?_, ?_⟩
    · rw [hClient]
      exact { h.well with }
    · rw [hClient]
      exact h.unseen
  | disconnect => exact ⟨_, rfl, { h.well with }, h.unseen⟩
  | sendUdpHello now => exact ⟨_, rfl, h.of_tcp (sendUdpHello_tcp s now)⟩
  | poll now sentAt recvs datagrams =>
    obtain ⟨tcp, hPoll, hWell, -⟩ := TcpClient.act_acted h.well (.poll recvs (datagrams.filterMap udpPayload))
    have hPoll' : s.tcp.poll recvs (datagrams.filterMap udpPayload) = some tcp := hPoll
    have hNext : Sound { s with tcp } := ⟨hWell, TcpClient.poll_unseen h.unseen hPoll'⟩
    exact ⟨_, by rw [call, poll, hPoll']; rfl, hNext.of_tcp (maybeResendUdpHello_tcp _ now sentAt)⟩
  | takeSnapshots =>
    obtain ⟨tcp, hTake, hWell, -⟩ := TcpClient.deliver_same h.well [.takeSnapshots]
    exact ⟨_, by rw [call, hTake]; rfl, hWell, TcpClient.deliver_unseen h.unseen hTake⟩
  | takeEvents =>
    obtain ⟨tcp, hTake, hWell, -⟩ := TcpClient.deliver_same h.well [.takeEvents]
    exact ⟨_, by rw [call, hTake]; rfl, hWell, TcpClient.deliver_unseen h.unseen hTake⟩

theorem poll_seen {s t : Session} (h : Alike s t) (hs : s.Sound) (ht : t.Sound) {now sentAt : U32}
    {recvs : List RecvAnswer} {datagrams : List (List U8)} {out out' : Seen × Session}
    (hOut : s.poll now sentAt recvs datagrams = some out) (hOut' : t.poll now sentAt recvs datagrams = some out') :
    out.1 = out'.1 ∧ Alike out.2 out'.2 := by
  obtain ⟨tcp, hPoll, rfl⟩ := Option.map_eq_some_iff.mp hOut
  obtain ⟨tcp', hPoll', rfl⟩ := Option.map_eq_some_iff.mp hOut'
  have hRel := TcpClient.poll_alike h.tcp recvs (datagrams.filterMap udpPayload)
  have hFrames := TcpClient.poll_frames h.tcp hs.well ht.well hPoll hPoll'
  rw [hPoll, hPoll'] at hRel
  cases hRel with
  | some hTcp =>
    have hNext : Alike { s with tcp } { t with tcp := tcp' } := ⟨hTcp, h.timer⟩
    obtain ⟨hSent, hLast⟩ := hNext.maybeResendUdpHello now sentAt
    exact ⟨by simp only [hFrames, hSent], hLast⟩

theorem take_seen {s t : Session} (h : Alike s t) (take : NetClient.Delivery) {seen seen' : Seen} (hSeen : seen = seen')
    {out out' : Seen × Session} (hOut : (s.tcp.deliver [take]).map (fun tcp => (seen, { s with tcp })) = some out)
    (hOut' : (t.tcp.deliver [take]).map (fun tcp => (seen', { t with tcp })) = some out') :
    out.1 = out'.1 ∧ Alike out.2 out'.2 := by
  obtain ⟨tcp, hTake, rfl⟩ := Option.map_eq_some_iff.mp hOut
  obtain ⟨tcp', hTake', rfl⟩ := Option.map_eq_some_iff.mp hOut'
  have hRel := TcpClient.deliver_alike h.tcp [take]
  rw [hTake, hTake'] at hRel
  cases hRel with
  | some hTcp => exact ⟨hSeen, hTcp, h.timer⟩

theorem call_alike : Simulation call fun s t => Alike s t ∧ s.Sound ∧ t.Sound := by
  rintro s t a ⟨h, hs, ht⟩
  obtain ⟨out, hOut, hSound⟩ := call_sound a hs
  obtain ⟨out', hOut', hSound'⟩ := call_sound a ht
  have hBoth : out.1 = out'.1 ∧ Alike out.2 out'.2 := by
    cases a with
    | connectAndJoin deadline rounds =>
      obtain ⟨hSeen, hTcp⟩ := TcpClient.connectAndJoin_alike h.tcp.disconnect deadline rounds
      cases hOut
      cases hOut'
      exact ⟨hSeen, hTcp, h.timer⟩
    | disconnect =>
      cases hOut
      cases hOut'
      exact ⟨rfl, h.tcp.disconnect, h.timer⟩
    | sendUdpHello now =>
      obtain ⟨hSent, hNext⟩ := h.sendUdpHello now
      cases hOut
      cases hOut'
      exact ⟨congrArg Seen.hello hSent, hNext⟩
    | poll now sentAt recvs datagrams => exact poll_seen h hs ht hOut hOut'
    | takeSnapshots => exact take_seen h .takeSnapshots (congrArg Seen.snapshots h.tcp.client.snapshots) hOut hOut'
    | takeEvents => exact take_seen h .takeEvents (congrArg Seen.events h.tcp.client.events) hOut hOut'
  rw [hOut, hOut']
  exact .some ⟨hBoth.1, hBoth.2, hSound, hSound'⟩

theorem sound_init : Sound {} := ⟨NetClient.wellFormed_init, fun _ => ⟨rfl, rfl⟩⟩

theorem Clean.likeNew {s : Session} (hClean : s.Clean) (h : s.Sound) : s.LikeNew := by
  intro deadline rounds calls
  obtain ⟨hHave, hSnapshots⟩ := h.unseen hClean.first
  have hAlike : Alike s.disconnect {} :=
    { tcp :=
        { client :=
            { state := rfl
              first := hClean.first
              haveLast := hHave
              cache := fun hSome => by
                rw [show s.disconnect.tcp.client.haveLastSnapshot = false from hHave] at hSome
                cases hSome
              snapshots := hSnapshots
              events := hClean.events }
          connected := rfl
          buffer := hClean.buffer }
      timer := hClean.timer }
  have hSound : s.disconnect.Sound := ⟨{ h.well with }, h.unseen⟩
  exact call_alike.observe_eq _ ⟨hAlike, hSound, sound_init⟩

def acceptBytes (port : U16) : List U8 := encode ⟨MessageType.joinAccept.code, joinAcceptBytes { udpPort := port }⟩

/-- JOIN_ACCEPT for player 0 with token 0, in one piece. -/
def acceptWith (port : U16) : List WaitRound := [⟨0, .readable (.got (acceptBytes port))⟩]

end Session

theorem TcpClient.handshake_joined {c : TcpClient} {deadline : U32} {rounds : List WaitRound} {id : U8} {token : U32}
    {port : U16} (h : handshake (c.connectAndJoin deadline rounds) = .joined id token port) :
    ∃ f c₁ rest, waitForTcpFrame deadline rounds
        { c with connected := true, client := { c.client with state := .waitingJoinAccept } } = (some f, c₁) ∧
      f.payload = joinAcceptBytes ⟨id, token, port⟩ ++ rest := by
  rw [connectAndJoin] at h
  generalize waitForTcpFrame deadline rounds _ = out at h ⊢
  obtain ⟨_ | f, c₁⟩ := out
  · cases h
  · refine ⟨f, c₁, ?_⟩
    simp only at h
    split at h
    · rw [onJoinAccept] at h
      split at h
      · rename_i accept rest hDecode
        cases h
        exact ⟨rest, rfl, decodeJoinAccept_bytes hDecode⟩
      · cases h
    · cases h
    · cases h

namespace TcpClient

/-- The frame found is at the front of what was left and what came. -/
theorem waitForTcpFrame_acceptWith {port : U16} {c c₁ : TcpClient} {f : Frame}
    (h : waitForTcpFrame 1 (Session.acceptWith port) c = (some f, c₁)) :
    ∃ more, c.tcpRxBuf ++ Session.acceptBytes port = encode f ++ more := by
  rw [Session.acceptWith, waitForTcpFrame.eq_def] at h
  cases hPeek : recvFramed c.tcpRxBuf with
  | oversize =>
    rw [hPeek] at h
    cases h
  | frame g rest =>
    rw [hPeek] at h
    cases h
    exact ⟨rest ++ Session.acceptBytes port, by rw [peek_bytes hPeek, List.append_assoc]⟩
  | short =>
    rw [hPeek] at h
    change waitForTcpFrame 1 [] (c.insert (Session.acceptBytes port)) = _ at h
    rw [waitForTcpFrame.eq_def] at h
    cases hPeek' : recvFramed (c.insert (Session.acceptBytes port)).tcpRxBuf with
    | short =>
      rw [hPeek'] at h
      cases h
    | oversize =>
      rw [hPeek'] at h
      cases h
    | frame g rest =>
      rw [hPeek'] at h
      cases h
      exact ⟨rest, peek_bytes hPeek'⟩

theorem waitForTcpFrame_alone (port : U16) {c : TcpClient} (hEmpty : c.tcpRxBuf = []) :
    waitForTcpFrame 1 (Session.acceptWith port) c =
      (some ⟨MessageType.joinAccept.code, joinAcceptBytes { udpPort := port }⟩,
        { c.insert (Session.acceptBytes port) with tcpRxBuf := [] }) := by
  have hBytes : (c.insert (Session.acceptBytes port)).tcpRxBuf =
      encode ⟨MessageType.joinAccept.code, joinAcceptBytes { udpPort := port }⟩ ++ [] := by
    rw [insert, hEmpty, List.append_nil]
    rfl
  have hPeek : recvFramed (c.insert (Session.acceptBytes port)).tcpRxBuf =
      .frame ⟨MessageType.joinAccept.code, joinAcceptBytes { udpPort := port }⟩ [] := by
    rw [hBytes]
    exact peek_encode (by decide) _ (by simp [joinAcceptBytes, kTcpFrameCapBytes]) []
  rw [Session.acceptWith, waitForTcpFrame.eq_def, hEmpty]
  change waitForTcpFrame 1 [] (c.insert (Session.acceptBytes port)) = _
  rw [waitForTcpFrame.eq_def, hPeek]

theorem connectAndJoin_acceptWith {c : TcpClient} (hBuffer : c.tcpRxBuf = []) (port : U16) :
    c.connectAndJoin 1 (Session.acceptWith port) =
      (true,
        { c.insert (Session.acceptBytes port) with
          connected := true
          tcpRxBuf := []
          playerId := 0
          sessionToken := 0
          serverUdpPort := port
          client := { c.client with state := .inLobby } }) := by
  have hDecode := decodeJoinAccept_run { udpPort := port } []
  rw [List.append_nil] at hDecode
  rw [connectAndJoin, waitForTcpFrame_alone port]
  · change onJoinAccept _ (joinAcceptBytes { udpPort := port }) = _
    rw [onJoinAccept, hDecode]
    rfl
  · exact hBuffer

theorem poll_nothing {c : TcpClient} (hOpen : c.connected = true) (hBuffer : c.tcpRxBuf = []) :
    c.poll [] [] = some { c.insert [] with tcpRxBuf := [] } := by
  have hDrain : c.drainTcp [] = some { c.insert [] with tcpRxBuf := [] } := by
    have hInsert : (c.insert []).tcpRxBuf = [] := by rw [insert, hBuffer]; rfl
    rw [drainTcp, drainRecv, if_pos rfl, dispatchBuffered, hInsert]
    rfl
  rw [poll_eq, if_pos hOpen, hDrain]
  exact if_pos hOpen

/-- With bytes left in the buffer, the byte read as the end of the port is not the one that was sent as such. -/
theorem buffer_of_joined {c : TcpClient}
    (h : ∀ port, handshake (c.connectAndJoin 1 (Session.acceptWith port)) = .joined 0 0 port) : c.tcpRxBuf = [] := by
  by_contra hLeft
  have hRead : ∀ port, ((c.tcpRxBuf ++ Session.acceptBytes port).take 10).drop 3 = joinAcceptBytes { udpPort := port } := by
    intro port
    obtain ⟨f, c₁, rest, hWait, hPayload⟩ := handshake_joined (h port)
    obtain ⟨more, hBytes⟩ := waitForTcpFrame_acceptWith hWait
    rw [hBytes, encode, hPayload]
    rfl
  have hShort : ∀ last : U8, (c.tcpRxBuf ++ ((Session.acceptBytes 0).take 9 ++ [last])).take 10 =
      (c.tcpRxBuf ++ (Session.acceptBytes 0).take 9).take 10 := by
    intro last
    have hLength : 0 < c.tcpRxBuf.length := List.length_pos_of_ne_nil hLeft
    rw [← List.append_assoc]
    refine List.take_append_of_le_length ?_
    rw [List.length_append, show ((Session.acceptBytes 0).take 9).length = 9 from rfl]
    omega
  have h0 := hRead 0
  have h1 := hRead 1
  rw [show Session.acceptBytes 0 = (Session.acceptBytes 0).take 9 ++ [0] from rfl, hShort] at h0
  rw [show Session.acceptBytes 1 = (Session.acceptBytes 0).take 9 ++ [1] from rfl, hShort, h0] at h1
  cases h1

end TcpClient

namespace Session

/-- The client after JOIN_ACCEPT has come to an empty buffer. -/
def rejoined (s : Session) (port : U16) : Session :=
  { s with
    tcp :=
      { s.tcp.insert (acceptBytes port) with
        connected := true
        tcpRxBuf := []
        playerId := 0
        sessionToken := 0
        serverUdpPort := port
        client := { s.tcp.client with state := .inLobby } } }

theorem observe_rejoined {s : Session} (hBuffer : s.tcp.tcpRxBuf = []) (port : U16) (calls : List Call) :
    observe call s.disconnect (.connectAndJoin 1 (acceptWith port) :: calls) =
      (observe call (s.rejoined port) calls).map (.joined 0 0 port :: ·) := by
  have hEmpty : s.disconnect.tcp.disconnect.tcpRxBuf = [] := hBuffer
  rw [observe, call, TcpClient.connectAndJoin_acceptWith hEmpty port]
  rfl

theorem maybeResendUdpHello_inLobby {s : Session} (hOpen : s.tcp.connected = true)
    (hState : s.tcp.client.state = .inLobby) (now sentAt : U32) :
    (s.maybeResendUdpHello now sentAt).1 =
      (!s.tcp.client.firstSnapshotReceived && decide (kUdpHelloResendMs ≤ now - s.lastUdpHelloSentMs)) := by
  rw [maybeResendUdpHello]
  cases s.tcp.client.firstSnapshotReceived with
  | true => rfl
  | false =>
    rw [if_neg Bool.false_ne_true, if_neg fun hNeither => hNeither.1 hState]
    by_cases hDue : kUdpHelloResendMs ≤ now - s.lastUdpHelloSentMs
    · rw [if_pos hDue, sendUdpHello, if_pos hOpen, decide_eq_true hDue]
      rfl
    · rw [if_neg hDue, decide_eq_false hDue]
      rfl

/-- A `poll` in which nothing arrives. -/
theorem observe_poll_nothing {s : Session} (hOpen : s.tcp.connected = true) (hBuffer : s.tcp.tcpRxBuf = [])
    (hState : s.tcp.client.state = .inLobby) (now : U32) :
    observe call s [.poll now 0 [] []] =
      some [.polled []
        (!s.tcp.client.firstSnapshotReceived && decide (kUdpHelloResendMs ≤ now - s.lastUdpHelloSentMs))] := by
  have hSent := @maybeResendUdpHello_inLobby { s with tcp := { s.tcp.insert [] with tcpRxBuf := [] } } hOpen hState now 0
  have hFrames : (s.tcp.insert []).dispatched.drop s.tcp.dispatched.length = [] := List.drop_length
  rw [observe, call, poll, List.filterMap_nil, TcpClient.poll_nothing hOpen hBuffer]
  simp only [Option.map_some, Option.bind_some, hSent, hFrames, observe]
  rfl

theorem LikeNew.clean {s : Session} (hNew : s.LikeNew) : s.Clean := by
  have hBuffer : s.tcp.tcpRxBuf = [] := by
    refine @TcpClient.buffer_of_joined s.disconnect.tcp.disconnect fun port => ?_
    have hShown := hNew 1 (acceptWith port) []
    have hFresh := observe_rejoined (s := {}) rfl port []
    have hBoth := hShown.trans hFresh
    exact (List.cons.inj (Option.some.inj hBoth)).1
  have hAfter : ∀ calls, observe call (s.rejoined 0) calls = observe call (({} : Session).rejoined 0) calls := by
    intro calls
    have hShown := hNew 1 (acceptWith 0) calls
    have hFresh := observe_rejoined (s := {}) rfl 0 calls
    rw [observe_rejoined hBuffer] at hShown
    exact Option.map_injective (List.cons_injective) (hShown.trans hFresh)
  have hEvents : s.tcp.client.pendingEvents = [] := by
    have hShown := hAfter [.takeEvents]
    have hSeen := (List.cons.inj (Option.some.inj hShown)).1
    exact Seen.events.inj hSeen
  have hHello : ∀ now : U32, (!s.tcp.client.firstSnapshotReceived &&
      decide (kUdpHelloResendMs ≤ now - s.lastUdpHelloSentMs)) = decide (kUdpHelloResendMs ≤ now - 0) := by
    intro now
    have hShown := hAfter [.poll now 0 [] []]
    rw [observe_poll_nothing rfl rfl rfl, observe_poll_nothing rfl rfl rfl] at hShown
    have hSeen := (List.cons.inj (Option.some.inj hShown)).1
    exact (Seen.polled.inj hSeen).2
  -- At clock 200 a new client sends, so does this one; at the time of its last hello this one does not.
  have hEarly := hHello 200
  rw [show decide (kUdpHelloResendMs ≤ 200 - 0) = true from rfl, Bool.and_eq_true] at hEarly
  have hDue : kUdpHelloResendMs ≤ 200 - s.lastUdpHelloSentMs := of_decide_eq_true hEarly.2
  have hAgain := hHello s.lastUdpHelloSentMs
  rw [BitVec.sub_self, show decide (kUdpHelloResendMs ≤ 0#32) = false from rfl, Bool.and_false,
    show s.lastUdpHelloSentMs - 0 = s.lastUdpHelloSentMs from BitVec.sub_zero _] at hAgain
  have hNotDue : ¬ kUdpHelloResendMs ≤ s.lastUdpHelloSentMs := of_decide_eq_false hAgain.symm
  refine ⟨hBuffer, by simpa using hEarly.1, hEvents, ?_⟩
  simp only [kUdpHelloResendMs] at hDue hNotDue
  bv_omega

/-- After any history, an old client behaves like a new one exactly if nothing was left behind. -/
theorem likeNew_iff (history : List Call) :
    ∃ s, reach call {} history = some s ∧ (s.LikeNew ↔ s.Clean) := by
  obtain ⟨s, hReach, hSound⟩ := reach_invariant (fun s a h => call_sound a h) history sound_init
  exact ⟨s, hReach, fun hNew => hNew.clean, fun hClean => hClean.likeNew hSound⟩

/-- A session in which JOIN_ACCEPT came with the first byte of the next frame. -/
def interrupted : List Call := [.connectAndJoin 5000 [⟨0, .readable (.got (acceptBytes 9000 ++ [0]))⟩]]

/-- The byte that was left stands before the next JOIN_ACCEPT, and the client cannot join. -/
theorem leftover_byte_blocks_join :
    ∃ s, reach call {} interrupted = some s ∧ s.tcp.tcpRxBuf = [0] ∧
      observe call s.disconnect [.connectAndJoin 5000 (acceptWith 9000)] = some [.failed] ∧
      observe call {} [.connectAndJoin 5000 (acceptWith 9000)] = some [.joined 0 0 9000] ∧ ¬ s.LikeNew := by
  refine ⟨_, rfl, rfl, rfl, rfl, ?_⟩
  intro hNew
  have hShown := hNew 5000 (acceptWith 9000) []
  cases hShown

end Session
end CaptureTheFlag.Raw
