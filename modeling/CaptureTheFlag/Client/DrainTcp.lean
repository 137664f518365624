import CaptureTheFlag.Client.Dispatch
import CaptureTheFlag.Shared.NetUtil

/-! # The client's TCP side

Two readers share one buffer: `wait_for_tcp_frame` during the handshake, `drain_tcp` from then on. The answers of the
kernel are given in advance; when they are used up, the deadline has passed or the socket has nothing more to give.
-/
namespace CaptureTheFlag.Raw
set_option autoImplicit false
open Protocol Framing

/-- What `recv` answers; no bytes are the end of the stream. -/
inductive RecvAnswer where
  | got (chunk : List U8)
  | again
  | interrupted
  | failed
deriving DecidableEq, Repr

inductive PollAnswer where
  | interrupted
  | failed
  | timedOut
  | readable (answer : RecvAnswer)
deriving DecidableEq, Repr

/-- One round of `wait_for_tcp_frame` that finds no frame in the buffer. -/
structure WaitRound where
  now : U32 := 0
  poll : PollAnswer
deriving DecidableEq, Repr

structure TcpClient where
  client : NetClient := {}
  connected : Bool := false
  tcpRxBuf : List U8 := []
  playerId : U8 := 0
  sessionToken : U32 := 0
  serverUdpPort : U16 := 0
  joinRejectReason : JoinRejectReason := .full
  /-- All that `recv` has given so far; no function reads it. -/
  heard : List U8 := []
  /-- All that `dispatch_tcp_frame` has been called with; no function reads it. -/
  dispatched : List Frame := []

namespace TcpClient

def disconnect (c : TcpClient) : TcpClient :=
  { c with connected := false, client := { c.client with state := .disconnected } }

def insert (c : TcpClient) (chunk : List U8) : TcpClient :=
  { c with tcpRxBuf := c.tcpRxBuf ++ chunk, heard := c.heard ++ chunk }

def waitForTcpFrame (deadline : U32) (rounds : List WaitRound) (c : TcpClient) : Option Frame × TcpClient :=
  match recvFramed c.tcpRxBuf, rounds with
  | .oversize, _ => (none, c)
  | .frame f rest, _ => (some f, { c with tcpRxBuf := rest })
  | .short, [] => (none, c)
  | .short, round :: rounds =>
    if deadline ≤ round.now then (none, c)
    else match round.poll with
      | .interrupted => waitForTcpFrame deadline rounds c
      | .failed => (none, c)
      | .timedOut => waitForTcpFrame deadline rounds c
      | .readable (.got (b :: chunk)) => waitForTcpFrame deadline rounds (c.insert (b :: chunk))
      | .readable _ => (none, c)

def onJoinAccept (c : TcpClient) (payload : List U8) : Bool × TcpClient :=
  match decodeJoinAccept ⟨payload, false⟩ with
  | (some accept, ⟨_, false⟩) =>
    (true,
      { c with
        playerId := accept.playerId
        sessionToken := accept.sessionToken
        serverUdpPort := accept.udpPort
        client := { c.client with state := .inLobby } })
  | _ => (false, c.disconnect)

/-- The result of `decode_join_reject` is not looked at, so a malformed one leaves the default in place. -/
def onJoinReject (c : TcpClient) (payload : List U8) : Bool × TcpClient :=
  let reason := ((decodeJoinReject ⟨payload, false⟩).1.getD {}).reason
  (false,
    { c.disconnect with joinRejectReason := reason, client := { c.client with state := .rejected } })

/-- `connect_and_join`, from where JOIN_LOBBY has been sent. -/
def connectAndJoin (c : TcpClient) (deadline : U32) (rounds : List WaitRound) : Bool × TcpClient :=
  let c := { c with connected := true, client := { c.client with state := .waitingJoinAccept } }
  match waitForTcpFrame deadline rounds c with
  | (none, c) => (false, c.disconnect)
  | (some f, c) =>
    match MessageType.ofCode f.type with
    | some .joinAccept => c.onJoinAccept f.payload
    | some .joinReject => c.onJoinReject f.payload
    | _ => (false, c.disconnect)

/-- The first loop of `drain_tcp`: what it adds to the buffer, and whether it leaves the connection open. -/
def drainRecv : List RecvAnswer → List U8 × Bool
  | [] => ([], true)
  | .again :: _ => ([], true)
  | .interrupted :: more => drainRecv more
  | .failed :: _ => ([], false)
  | .got [] :: _ => ([], false)
  | .got chunk :: more => (chunk ++ (drainRecv more).1, (drainRecv more).2)

def dispatch (c : TcpClient) (f : Frame) : Option TcpClient :=
  (c.client.dispatchTcpFrame f.type f.payload).map fun client =>
    { c with client, dispatched := c.dispatched ++ [f] }

/-- The second loop of `drain_tcp`. Dispatching does not touch the buffer, so its frames are cut off first. -/
def dispatchBuffered (c : TcpClient) : Option TcpClient :=
  let cut := deframe kTcpFrameCapBytes c.tcpRxBuf
  (cut.frames.foldlM dispatch c).map fun c =>
    let c := { c with tcpRxBuf := cut.rest }
    if cut.dead then c.disconnect else c

/-- At the end of the stream the function returns without a look at what it has buffered. -/
def drainTcp (c : TcpClient) (recvs : List RecvAnswer) : Option TcpClient :=
  let c := c.insert (drainRecv recvs).1
  if (drainRecv recvs).2 then c.dispatchBuffered else some c.disconnect

/-- What the program does with a client that has joined. Of the datagrams in a `poll` there are the type, the tick and
the payload of those with a good header. -/
inductive Act where
  | poll (recvs : List RecvAnswer) (datagrams : List (U8 × U32 × List U8))
  | takeSnapshots
  | takeEvents

def deliver (c : TcpClient) (ds : List NetClient.Delivery) : Option TcpClient :=
  (c.client.deliverAll ds).map fun client => { c with client }

def drainUdp (c : TcpClient) (datagrams : List (U8 × U32 × List U8)) : Option TcpClient :=
  c.deliver (datagrams.map fun d => .udpPayload d.1 d.2.1 d.2.2)

def poll (c : TcpClient) (recvs : List RecvAnswer) (datagrams : List (U8 × U32 × List U8)) : Option TcpClient := do
  let c ← if c.connected then c.drainTcp recvs else some c
  if c.connected then c.drainUdp datagrams else some c

def act (c : TcpClient) : Act → Option TcpClient
  | .poll recvs datagrams => c.poll recvs datagrams
  | .takeSnapshots => c.deliver [.takeSnapshots]
  | .takeEvents => c.deliver [.takeEvents]

def run (c : TcpClient) (acts : List Act) : Option TcpClient := acts.foldlM act c

structure SameTcp (c c' : TcpClient) : Prop where
  connected : c'.connected = c.connected
  tcpRxBuf : c'.tcpRxBuf = c.tcpRxBuf
  heard : c'.heard = c.heard
  dispatched : c'.dispatched = c.dispatched

/-- The three things an act can do to the connection. -/
inductive Acted (c : TcpClient) : Act → TcpClient → Prop where
  | idle {a : Act} {c' : TcpClient} (hIdle : ∀ recvs datagrams, a = .poll recvs datagrams → c.connected = false)
      (hSame : SameTcp c c') : Acted c a c'
  | closed {recvs : List RecvAnswer} {datagrams : List (U8 × U32 × List U8)} {c' : TcpClient}
      (hOpen : c.connected = true) (hEnd : (drainRecv recvs).2 = false) (hClosed : c'.connected = false)
      (hBuf : c'.tcpRxBuf = c.tcpRxBuf ++ (drainRecv recvs).1) (hHeard : c'.heard = c.heard ++ (drainRecv recvs).1)
      (hSame : c'.dispatched = c.dispatched) : Acted c (.poll recvs datagrams) c'
  | served {recvs : List RecvAnswer} {datagrams : List (U8 × U32 × List U8)} {c' : TcpClient}
      (hOpen : c.connected = true) (hMore : (drainRecv recvs).2 = true)
      (hBuf : c'.tcpRxBuf = (deframe kTcpFrameCapBytes (c.tcpRxBuf ++ (drainRecv recvs).1)).rest)
      (hHeard : c'.heard = c.heard ++ (drainRecv recvs).1)
      (hFrames : c'.dispatched =
        c.dispatched ++ (deframe kTcpFrameCapBytes (c.tcpRxBuf ++ (drainRecv recvs).1)).frames) :
      Acted c (.poll recvs datagrams) c'

theorem SameTcp.refl (c : TcpClient) : SameTcp c c := ⟨rfl, rfl, rfl, rfl⟩

theorem Acted.trans {c c' c'' : TcpClient} {a : Act} (h : Acted c a c') (hSame : SameTcp c' c'') : Acted c a c'' := by
  cases h with
  | idle hIdle hFirst =>
    exact .idle hIdle ⟨hSame.connected.trans hFirst.connected, hSame.tcpRxBuf.trans hFirst.tcpRxBuf,
      hSame.heard.trans hFirst.heard, hSame.dispatched.trans hFirst.dispatched⟩
  | closed hOpen hEnd hClosed hBuf hHeard hKept =>
    exact .closed hOpen hEnd (hSame.connected.trans hClosed) (hSame.tcpRxBuf.trans hBuf) (hSame.heard.trans hHeard)
      (hSame.dispatched.trans hKept)
  | served hOpen hMore hBuf hHeard hFrames =>
    exact .served hOpen hMore (hSame.tcpRxBuf.trans hBuf) (hSame.heard.trans hHeard) (hSame.dispatched.trans hFrames)

theorem deliver_same {c : TcpClient} (h : c.client.WellFormed) (ds : List NetClient.Delivery) :
    ∃ c', c.deliver ds = some c' ∧ c'.client.WellFormed ∧ SameTcp c c' := by
  obtain ⟨client, hRun, hWell⟩ := NetClient.deliverAll_stepsWell ds h
  refine ⟨{ c with client }, ?_, hWell, ⟨rfl, rfl, rfl, rfl⟩⟩
  rw [deliver, hRun]
  rfl

theorem foldlM_dispatch (frames : List Frame) {c : TcpClient} (h : c.client.WellFormed) :
    ∃ client : NetClient, client.WellFormed ∧
      frames.foldlM dispatch c = some { c with client, dispatched := c.dispatched ++ frames } := by
  induction frames generalizing c with
  | nil => exact ⟨c.client, h, by rw [List.append_nil]; rfl⟩
  | cons f frames ih =>
    obtain ⟨client, hDispatch, hWell⟩ := NetClient.dispatchTcpFrame_stepsWell h f.type f.payload
    have hFirst : c.dispatch f = some { c with client, dispatched := c.dispatched ++ [f] } := by
      rw [dispatch, hDispatch]
      rfl
    obtain ⟨last, hLast, hRest⟩ := ih (c := { c with client, dispatched := c.dispatched ++ [f] }) hWell
    refine ⟨last, hLast, ?_⟩
    rw [List.foldlM_cons, hFirst]
    change frames.foldlM dispatch _ = _
    rw [hRest, List.append_assoc]
    rfl

theorem drainTcp_acted {c : TcpClient} (h : c.client.WellFormed) (hOpen : c.connected = true) (recvs : List RecvAnswer)
    (datagrams : List (U8 × U32 × List U8)) :
    ∃ c', c.drainTcp recvs = some c' ∧ c'.client.WellFormed ∧ Acted c (.poll recvs datagrams) c' := by
  cases hMore : (drainRecv recvs).2 with
  | false =>
    refine ⟨(c.insert (drainRecv recvs).1).disconnect, ?_, { h with }, .closed hOpen hMore rfl rfl rfl rfl⟩
    simp only [drainTcp, hMore, Bool.false_eq_true, if_false]
  | true =>
    generalize hCut : deframe kTcpFrameCapBytes (c.tcpRxBuf ++ (drainRecv recvs).1) = cut
    obtain ⟨client, hWell, hAll⟩ := foldlM_dispatch cut.frames (c := c.insert (drainRecv recvs).1) h
    have hDrain : c.drainTcp recvs = (cut.frames.foldlM dispatch (c.insert (drainRecv recvs).1)).map fun c =>
        if cut.dead then { c with tcpRxBuf := cut.rest }.disconnect else { c with tcpRxBuf := cut.rest } := by
      simp only [drainTcp, hMore, if_true, dispatchBuffered, insert, hCut]
    rw [hAll] at hDrain
    refine ⟨_, hDrain, ?_, ?_⟩
    · split
      · exact { hWell with }
      · exact hWell
    · split
      · exact .served hOpen hMore (congrArg Deframed.rest hCut.symm) rfl (by rw [hCut]; rfl)
      · exact .served hOpen hMore (congrArg Deframed.rest hCut.symm) rfl (by rw [hCut]; rfl)

theorem act_acted {c : TcpClient} (h : c.client.WellFormed) (a : Act) :
    ∃ c', c.act a = some c' ∧ c'.client.WellFormed ∧ Acted c a c' := by
  cases a with
  | poll recvs datagrams =>
    cases hOpen : c.connected with
    | false =>
      refine ⟨c, ?_, h, .idle (fun _ _ _ => hOpen) (.refl c)⟩
      simp [act, poll, hOpen]
    | true =>
      obtain ⟨c₁, hDrain, hWell, hActed⟩ := drainTcp_acted h hOpen recvs datagrams
      cases hStill : c₁.connected with
      | false =>
        refine ⟨c₁, ?_, hWell, hActed⟩
        simp [act, poll, hOpen, hDrain, hStill]
      | true =>
        obtain ⟨c₂, hUdp, hWell', hSame⟩ :=
          deliver_same hWell (datagrams.map fun d => .udpPayload d.1 d.2.1 d.2.2)
        refine ⟨c₂, ?_, hWell', hActed.trans hSame⟩
        simp [act, poll, hOpen, hDrain, hStill, drainUdp, hUdp]
  | takeSnapshots =>
    obtain ⟨c', hTake, hWell, hSame⟩ := deliver_same h [.takeSnapshots]
    exact ⟨c', hTake, hWell, .idle (fun _ _ hPoll => nomatch hPoll) hSame⟩
  | takeEvents =>
    obtain ⟨c', hTake, hWell, hSame⟩ := deliver_same h [.takeEvents]
    exact ⟨c', hTake, hWell, .idle (fun _ _ hPoll => nomatch hPoll) hSame⟩

/-- The stream is the handshake frame, what has been dispatched and what is buffered, however it goes on. -/
def InStep (f : Frame) (c : TcpClient) : Prop :=
  ∀ more, (deframe kTcpFrameCapBytes (c.heard ++ more)).frames =
    f :: (c.dispatched ++ (deframe kTcpFrameCapBytes (c.tcpRxBuf ++ more)).frames)

theorem inStep_of_peek {c : TcpClient} {f : Frame} {rest : List U8} (hHeard : c.heard = c.tcpRxBuf)
    (hNone : c.dispatched = []) (hPeek : recvFramed c.tcpRxBuf = .frame f rest) :
    InStep f { c with tcpRxBuf := rest } := by
  intro more
  simp only [hHeard, hNone]
  rw [deframe_eq, (peek_append more).2 f rest hPeek]
  rfl

theorem waitForTcpFrame_inStep {deadline : U32} (rounds : List WaitRound) {c c' : TcpClient} {f : Frame}
    (hHeard : c.heard = c.tcpRxBuf) (hNone : c.dispatched = [])
    (hWait : waitForTcpFrame deadline rounds c = (some f, c')) :
    InStep f c' ∧ c'.connected = c.connected ∧ c'.client = c.client := by
  fun_induction waitForTcpFrame deadline rounds c with
  | case2 c rounds g rest hPeek =>
    cases hWait
    exact ⟨inStep_of_peek hHeard hNone hPeek, rfl, rfl⟩
  | case5 c hPeek round rounds hTime hPoll ih => exact ih hHeard hNone hWait
  | case7 c hPeek round rounds hTime hPoll ih => exact ih hHeard hNone hWait
  | case8 c hPeek round rounds hTime b chunk hPoll ih =>
    have hBoth : (c.insert (b :: chunk)).heard = (c.insert (b :: chunk)).tcpRxBuf :=
      congrArg (· ++ b :: chunk) hHeard
    exact ih hBoth hNone hWait
  | case1 => cases hWait
  | case3 => cases hWait
  | case4 => cases hWait
  | case6 => cases hWait
  | case9 => cases hWait

theorem connectAndJoin_inStep {deadline : U32} {rounds : List WaitRound} {c : TcpClient}
    (hJoin : ({} : TcpClient).connectAndJoin deadline rounds = (true, c)) :
    ∃ f, InStep f c ∧ c.connected = true ∧ c.client.WellFormed := by
  rw [connectAndJoin] at hJoin
  generalize hStart : ({ connected := true, client := { state := .waitingJoinAccept } } : TcpClient) = start at hJoin
  cases hWait : waitForTcpFrame deadline rounds start with
  | mk frame c₁ =>
    rw [hWait] at hJoin
    cases frame with
    | none => cases hJoin
    | some f =>
      obtain ⟨hStep, hOpen, hClient⟩ := waitForTcpFrame_inStep rounds (by rw [← hStart]) (by rw [← hStart]) hWait
      simp only at hJoin
      split at hJoin
      · rw [onJoinAccept] at hJoin
        split at hJoin
        · obtain ⟨-, rfl⟩ := Prod.mk.inj hJoin
          refine ⟨f, hStep, ?_, ?_⟩
          · rw [← hStart] at hOpen
            exact hOpen
          · rw [← hStart] at hClient
            simp only [hClient]
            exact { NetClient.wellFormed_init with }
        · cases hJoin
      · cases hJoin
      · cases hJoin

theorem Acted.inStep {f : Frame} {c c' : TcpClient} {a : Act} (hActed : Acted c a c') (h : InStep f c) :
    InStep f c' := by
  intro more
  cases hActed with
  | idle hIdle hSame =>
    rw [hSame.heard, hSame.tcpRxBuf, hSame.dispatched]
    exact h more
  | closed hOpen hEnd hClosed hBuf hHeard hSame =>
    rw [hHeard, hBuf, hSame, List.append_assoc, List.append_assoc]
    exact h _
  | @served recvs datagrams _ hOpen hMore hBuf hHeard hFrames =>
    have hSplit := congrArg Deframed.frames
      (deframe_append kTcpFrameCapBytes (c.tcpRxBuf ++ (drainRecv recvs).1) more)
    rw [hHeard, hBuf, hFrames, List.append_assoc, h, ← List.append_assoc, hSplit, List.append_assoc]

/-- The stream ends, for this `poll`, with a complete frame still in the buffer. -/
def ClosesOverFrame (c : TcpClient) : Act → Prop
  | .poll recvs _ => c.connected = true ∧ (drainRecv recvs).2 = false ∧
      ∃ f rest, recvFramed (c.tcpRxBuf ++ (drainRecv recvs).1) = .frame f rest
  | _ => False

def NeverClosesOverFrame : TcpClient → List Act → Prop
  | _, [] => True
  | c, a :: acts => ¬ c.ClosesOverFrame a ∧ ∀ c', c.act a = some c' → NeverClosesOverFrame c' acts

/-- No complete frame waits in the buffer. -/
def Settled (c : TcpClient) : Prop := (deframe kTcpFrameCapBytes c.tcpRxBuf).frames = []

/-- A `poll` on an open connection settles the buffer, or it ends over a frame. -/
theorem Acted.settled {c c' : TcpClient} {a : Act} (hActed : Acted c a c') :
    (SameTcp c c' ∧ ¬ c.ClosesOverFrame a ∧ ∀ recvs datagrams, a = .poll recvs datagrams → c.connected = false) ∨
    (c'.Settled ∧ ¬ c.ClosesOverFrame a) ∨ (¬ c'.Settled ∧ c.ClosesOverFrame a ∧ c'.connected = false) := by
  cases hActed with
  | idle hIdle hSame =>
    refine Or.inl ⟨hSame, ?_, hIdle⟩
    intro hOver
    cases a with
    | poll recvs datagrams => cases (hIdle recvs datagrams rfl).symm.trans hOver.1
    | takeSnapshots => exact hOver
    | takeEvents => exact hOver
  | @closed recvs datagrams _ hOpen hEnd hClosed hBuf hHeard hSame =>
    right
    rw [Settled, hBuf, deframe_frames_eq_nil]
    by_cases hFrame : ∃ f rest, recvFramed (c.tcpRxBuf ++ (drainRecv recvs).1) = .frame f rest
    · refine Or.inr ⟨?_, ⟨hOpen, hEnd, hFrame⟩, hClosed⟩
      obtain ⟨f, rest, hPeek⟩ := hFrame
      exact fun hNever => hNever f rest hPeek
    · exact Or.inl ⟨fun f rest hPeek => hFrame ⟨f, rest, hPeek⟩, fun hOver => hFrame hOver.2.2⟩
  | served hOpen hMore hBuf hHeard hFrames =>
    refine Or.inr (Or.inl ⟨?_, ?_⟩)
    · rw [Settled, hBuf]
      exact deframe_rest _ _
    · rintro ⟨-, hEnd, -⟩
      rw [hMore] at hEnd
      cases hEnd

theorem run_closed (acts : List Act) {f : Frame} {c : TcpClient} (h : c.client.WellFormed)
    (hClosed : c.connected = false) (hStep : InStep f c) : ∃ c', c.run acts = some c' ∧ c'.tcpRxBuf = c.tcpRxBuf ∧ InStep f c' := by
  induction acts generalizing c with
  | nil => exact ⟨c, rfl, rfl, hStep⟩
  | cons a acts ih =>
    obtain ⟨c₁, hAct, hWell, hActed⟩ := act_acted h a
    have hSame : SameTcp c c₁ := by
      cases hActed with
      | idle hIdle hSame => exact hSame
      | closed hOpen => cases hClosed.symm.trans hOpen
      | served hOpen => cases hClosed.symm.trans hOpen
    obtain ⟨c', hRun, hBuf, hStep'⟩ := ih hWell (hSame.connected.trans hClosed) (hActed.inStep hStep)
    refine ⟨c', ?_, hBuf.trans hSame.tcpRxBuf, hStep'⟩
    rw [run, List.foldlM_cons, hAct]
    exact hRun

/-- Once a `poll` is among the acts, the buffer ends up settled exactly if none of them ends over a frame. -/
theorem run_settled (acts : List Act) {f : Frame} {c : TcpClient} (h : c.client.WellFormed) (hStep : InStep f c)
    (hPolls : c.Settled ∨ c.connected = true ∧ ∃ recvs datagrams, .poll recvs datagrams ∈ acts) :
    ∃ c', c.run acts = some c' ∧ InStep f c' ∧ (c'.Settled ↔ c.NeverClosesOverFrame acts) := by
  induction acts generalizing c with
  | nil =>
    have hSettled : c.Settled := by
      rcases hPolls with hSettled | ⟨-, recvs, datagrams, hMem⟩
      · exact hSettled
      · cases hMem
    exact ⟨c, rfl, hStep, ⟨fun _ => trivial, fun _ => hSettled⟩⟩
  | cons a acts ih =>
    obtain ⟨c₁, hAct, hWell, hActed⟩ := act_acted h a
    have hStep₁ := hActed.inStep hStep
    have hRun : c.run (a :: acts) = c₁.run acts := by
      rw [run, List.foldlM_cons, hAct]
      rfl
    have hNever : c.NeverClosesOverFrame (a :: acts) ↔ ¬ c.ClosesOverFrame a ∧ c₁.NeverClosesOverFrame acts := by
      rw [NeverClosesOverFrame, hAct]
      simp
    rw [hRun, hNever]
    rcases hActed.settled with ⟨hSame, hNot, hIdle⟩ | ⟨hSettled, hNot⟩ | ⟨hLeft, hOver, hClosed⟩
    · have hPolls₁ : c₁.Settled ∨ c₁.connected = true ∧ ∃ recvs datagrams, .poll recvs datagrams ∈ acts := by
        rcases hPolls with hSettled | ⟨hOpen, recvs, datagrams, hMem⟩
        · left
          rw [Settled, hSame.tcpRxBuf]
          exact hSettled
        · rcases List.mem_cons.mp hMem with hHere | hLater
          · cases (hIdle recvs datagrams hHere.symm).symm.trans hOpen
          · exact Or.inr ⟨hSame.connected.trans hOpen, recvs, datagrams, hLater⟩
      obtain ⟨c', hEnd, hStep', hIff⟩ := ih hWell hStep₁ hPolls₁
      exact ⟨c', hEnd, hStep', hIff.trans (and_iff_right hNot).symm⟩
    · obtain ⟨c', hEnd, hStep', hIff⟩ := ih hWell hStep₁ (Or.inl hSettled)
      exact ⟨c', hEnd, hStep', hIff.trans (and_iff_right hNot).symm⟩
    · -- Whatever follows, the frame stays where it is.
      obtain ⟨c', hEnd, hSame, hStep'⟩ := run_closed acts hWell hClosed hStep₁
      refine ⟨c', hEnd, hStep', ?_⟩
      rw [Settled, hSame]
      exact ⟨fun hSettled => absurd hSettled hLeft, fun hNone => absurd hOver hNone.1⟩

/-- A client that has joined: after every `poll`, the frames it has dispatched are those it has received whole after the
handshake, exactly if the stream has not ended in a `poll` with a complete frame in the buffer. -/
theorem frames_dispatched_iff {deadline : U32} {rounds : List WaitRound} {c : TcpClient}
    (hJoin : ({} : TcpClient).connectAndJoin deadline rounds = (true, c)) (acts : List Act) (recvs : List RecvAnswer)
    (datagrams : List (U8 × U32 × List U8)) :
    ∃ c', c.run (acts ++ [.poll recvs datagrams]) = some c' ∧
      ∀ (frames : List Frame) (unread : List U8), (∀ f ∈ frames, f.payload.length ≤ kTcpFrameCapBytes) →
        c'.heard ++ unread = encodeAll frames →
        (c'.dispatched = (whole frames c'.heard.length).tail ↔
          c.NeverClosesOverFrame (acts ++ [.poll recvs datagrams])) := by
  obtain ⟨f, hStep, hOpen, hWell⟩ := connectAndJoin_inStep hJoin
  have hPolls : ∃ recvs' datagrams', Act.poll recvs' datagrams' ∈ acts ++ [.poll recvs datagrams] :=
    ⟨recvs, datagrams, List.mem_append_right _ (List.mem_singleton.mpr rfl)⟩
  obtain ⟨c', hRun, hStep', hIff⟩ := run_settled _ hWell hStep (Or.inr ⟨hOpen, hPolls⟩)
  refine ⟨c', hRun, fun frames unread hFits hStream => ?_⟩
  have hHeard := hStep' []
  rw [List.append_nil, List.append_nil] at hHeard
  rw [← deframe_whole (by decide) hFits hStream, hHeard, List.tail_cons, ← hIff, Settled]
  exact List.self_eq_append_right

def acceptFrame : Frame := ⟨MessageType.joinAccept.code, [0, 0, 0, 0, 1, 35, 40]⟩

def matchEndFrame : Frame := ⟨MessageType.matchEnd.code, [0, 3, 1]⟩

/-- The client after a handshake in which `n` bytes of the next frame were read along. -/
def joinedWith (n : Nat) : TcpClient :=
  (({} : TcpClient).connectAndJoin 5000
    [⟨0, .readable (.got (encode acceptFrame ++ (encode matchEndFrame).take n))⟩]).2

/-- MATCH_END begins with the handshake, goes on in one `poll`, and the server closes before the next. -/
theorem frames_dispatched_apart :
    ∃ c', (joinedWith 2).run [.poll [.got ((encode matchEndFrame).drop 2)] [], .poll [.got []] []] = some c' ∧
      c'.dispatched = [matchEndFrame] := by
  have hJoin : ({} : TcpClient).connectAndJoin 5000
      [⟨0, .readable (.got (encode acceptFrame ++ (encode matchEndFrame).take 2))⟩] = (true, joinedWith 2) := rfl
  obtain ⟨c', hRun, hIff⟩ := frames_dispatched_iff hJoin
    [.poll [.got ((encode matchEndFrame).drop 2)] []] [.got []] []
  have hHeard : c'.heard = encodeAll [acceptFrame, matchEndFrame] := by
    obtain rfl := Option.some.inj (hRun.symm.trans rfl)
    decide +kernel
  refine ⟨c', hRun, ?_⟩
  rw [(hIff [acceptFrame, matchEndFrame] [] (by decide) (by rw [hHeard, List.append_nil])).mpr, hHeard]
  · decide +kernel
  · refine ⟨fun hOver => (nomatch hOver.2.1), fun c₁ hAct => ⟨?_, fun _ _ => trivial⟩⟩
    obtain rfl := Option.some.inj (hAct.symm.trans rfl)
    rintro ⟨-, -, f, rest, hPeek⟩
    cases hPeek

/-- MATCH_END and the end of the stream in the same `poll`. -/
theorem match_end_lost :
    ({} : TcpClient).connectAndJoin 5000 [⟨0, .readable (.got (encode acceptFrame))⟩] = (true, joinedWith 0) ∧
    (∀ f ∈ [acceptFrame, matchEndFrame], f.payload.length ≤ kTcpFrameCapBytes) ∧
    ∃ c', (joinedWith 0).run [.poll [.got (encode matchEndFrame), .got []] []] = some c' ∧
      c'.heard = encodeAll [acceptFrame, matchEndFrame] ∧
      c'.dispatched ≠ (whole [acceptFrame, matchEndFrame] c'.heard.length).tail := by
  refine ⟨rfl, by decide, _, rfl, by decide +kernel, by decide +kernel⟩

end TcpClient
end CaptureTheFlag.Raw
