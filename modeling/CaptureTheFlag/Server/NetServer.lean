import CaptureTheFlag.Server.Broadcast
import CaptureTheFlag.Server.Lobby
import CaptureTheFlag.Shared.Map
import CaptureTheFlag.Shared.NetUtil

/-! # The network thread

The clock, the random numbers, the shuffle and the kernel's answers are inputs of each step. `watched` is the set of
the poller. For each connection `wire` holds the bytes its socket has accepted and `addressed` the frames meant for it.
-/
namespace CaptureTheFlag
set_option autoImplicit false
open Protocol BigEndian Framing

abbrev kAccumCap : Nat := kTcpFrameCapBytes
abbrev kRecvChunkBytes : Nat := 2048
abbrev kReplyCap : Nat := 512
abbrev kLobbyStateCap : Nat := 600
abbrev kGameStartCap : Nat := 1200

structure NetServer where
  registry : ClientRegistry := {}
  lobby : Lobby := {}
  inbound : List InboundCommand := []
  udpPort : U16 := 0
  udpSilenceMs : U32 := BitVec.ofNat 32 (kUdpSilenceTimeoutSec * 1000)
  lastSilenceCheckMs : U32 := 0
  tokenCounter : U32 := 0
  /-- `tcp_in_`, indexed by player id. -/
  tcpIn : U8 → List U8 := fun _ => []
  /-- `pre_join_`: a connection without an entry in the map has no bytes. -/
  preJoin : Int → List U8 := fun _ => []
  watched : Int → Bool := fun _ => false
  wire : Int → List U8 := fun _ => []
  addressed : Int → List Frame := fun _ => []
  answers : List SendResult := []
  datagrams : List (SockAddr × List U8) := []

/-- What one call reads from the outside besides the sockets. -/
structure Env where
  now : U32 := 0
  /-- `rand() << 16 ^ rand()`. -/
  rand : U32 := 0
  shuffle : Shuffle := ⟨id, List.Perm.refl⟩
  /-- What lies in memory behind the name of a decoded JOIN_LOBBY. -/
  behind : List U8 := []

/-- An answer of `recv`; no bytes mean that the peer has closed. -/
inductive RecvResult where
  | got (chunk : List U8)
  | again
  | failed
deriving DecidableEq, Repr

/-- A [u8 type][fields] payload as a TCP frame. -/
def framePayload (payload : List U8) : List U8 := split16 (BitVec.ofNat 16 (payload.length - 1)) ++ payload

/-- `snprintf` into a name field: at most fifteen bytes and a NUL. -/
def nameField (name : List U8) : Name := fun i => if i.val + 1 < kNameBytes then name.getD i.val 0 else 0

/-- `std::string(const char*)`: the bytes before the first NUL, and whether it looked for that outside the array. -/
def cString : List U8 → List U8 → List U8 × Bool
  | [], behind => (behind.takeWhile (· != 0), true)
  | c :: array, behind =>
    if c = 0 then ([], false)
    else
      let (s, outside) := cString array behind
      (c :: s, outside)

/-- A name field as a string. -/
def nameString (name : Name) (behind : List U8) : List U8 := (cString ((List.finRange kNameBytes).map name) behind).1

/-- GAME_START as it is filled in, with the commands pushed on the way. -/
structure MatchSetup where
  gs : MsgGameStart := {}
  commands : List InboundCommand := []

namespace MatchSetup

/-- One iteration of `add_side`, for a player and its place in the side. -/
def addPlayer (team : Team) (setup : MatchSetup) (p : U8 × Nat) : MatchSetup :=
  if h : setup.gs.playerCount.toNat < kMaxPlayers then
    let slot : Fin kMaxPlayers := ⟨setup.gs.playerCount.toNat, h⟩
    let spawn := if h : p.2 < kMaxPlayers then spawnPoint team ⟨p.2, h⟩ else {}
    { gs :=
        { setup.gs with
          playerCount := setup.gs.playerCount + 1
          ids := Function.update setup.gs.ids slot p.1
          teams := Function.update setup.gs.teams slot team
          spawnPoints := Function.update setup.gs.spawnPoints slot spawn }
      commands := setup.commands ++ [.playerJoined p.1 team (BitVec.ofNat 8 p.2)] }
  else setup

def addSide (setup : MatchSetup) (ids : List U8) (team : Team) : MatchSetup := ids.zipIdx.foldl (addPlayer team) setup

end MatchSetup

namespace NetServer

/-- `broadcast_tcp_event` of a [u8 type][fields] payload. -/
def broadcastPayload (net : NetServer) (payload : List U8) : NetServer :=
  { net with
    registry := net.registry.broadcastTcpEvent (framePayload payload)
    addressed := fun fd =>
      net.addressed fd ++ (net.registry.live.filter (·.tcpFd = fd)).map fun _ => ⟨payload.headD 0, payload.tail⟩ }

def broadcastMessage (net : NetServer) (type : MessageType) (cap : Nat) (write : ByteWriter → ByteWriter) : NetServer :=
  net.broadcastPayload (type.code :: (write { cap }).buf)

def replyFrame (type : MessageType) (write : ByteWriter → ByteWriter) : Frame :=
  ⟨type.code, (write { cap := kReplyCap }).buf⟩

/-- `send_frame_generic`: straight to the socket, the result of `send_all` unread. -/
def sendFrameGeneric (net : NetServer) (fd : Int) (reply : Frame) : NetServer :=
  let loop := (sendAll net.answers (encode reply)).2
  { net with
    wire := Function.update net.wire fd (net.wire fd ++ (encode reply).take loop.sent)
    addressed := Function.update net.addressed fd (net.addressed fd ++ [reply])
    answers := loop.answers }

/-- One client in LOBBY_STATE. -/
def lobbySlot (st : MsgLobbyState) (e : ClientEntry) : MsgLobbyState :=
  if e.tcpFd < 0 then st
  else if h : st.playerCount.toNat < kMaxPlayers then
    let slot : Fin kMaxPlayers := ⟨st.playerCount.toNat, h⟩
    { st with
      playerCount := st.playerCount + 1
      ids := Function.update st.ids slot e.playerId
      names := Function.update st.names slot (nameField e.name) }
  else st

def lobbyState (net : NetServer) : MsgLobbyState :=
  { net.registry.storage.foldl lobbySlot {} with hostId := net.lobby.hostId }

def broadcastLobbyState (net : NetServer) : NetServer :=
  net.broadcastMessage .lobbyState kLobbyStateCap (encodeLobbyState · net.lobbyState)

/-- The part of closing that needs no entry; also `close_unregistered`. -/
def closeUnregistered (net : NetServer) (fd : Int) : NetServer :=
  { net with watched := Function.update net.watched fd false, preJoin := Function.update net.preJoin fd [] }

/-- `entry` is the slot of its player id. -/
def disconnect (net : NetServer) (entry : ClientEntry) (notifySim : Bool) : NetServer :=
  let net := net.closeUnregistered entry.tcpFd
  let id := entry.playerId
  let wasInProgress := net.lobby.inProgress
  let registry := (net.registry.setEntry id { entry with tcpFd := kFreeFd }).remove id
  let net :=
    { net with registry, lobby := net.lobby.removePlayer id, tcpIn := Function.update net.tcpIn id [] }
  let net := if notifySim && wasInProgress then { net with inbound := net.inbound ++ [.playerLeft id] } else net
  net.broadcastLobbyState

/-- Close a connection, with its entry if it has one. -/
def drop (net : NetServer) (fd : Int) : NetServer :=
  match net.registry.findByFd fd with
  | some entry => net.disconnect entry true
  | none => net.closeUnregistered fd

/-- One connection of `accept_new_clients`. -/
def acceptClient (net : NetServer) (fd : Int) : NetServer :=
  { net with
    watched := Function.update net.watched fd true
    wire := Function.update net.wire fd []
    addressed := Function.update net.addressed fd [] }

/-- One slot in the loops of `enforce_pending_cap` and `check_silence_timeouts`. -/
def disconnectIf (gone : ClientEntry → Bool) (net : NetServer) (i : Nat) : NetServer :=
  match net.registry.storage[i]? with
  | none => net
  | some entry =>
    if entry.tcpFd < 0 then net
    else if gone entry then
      match net.registry.findById entry.playerId with
      | some e => net.disconnect e true
      | none => net
    else net

def disconnectWhere (net : NetServer) (gone : ClientEntry → Bool) : NetServer :=
  (List.range net.registry.storage.length).foldl (disconnectIf gone) net

def enforcePendingCap (net : NetServer) : NetServer :=
  net.disconnectWhere fun entry => entry.pendingOut.length > kTcpPendingBufferCapBytes

def checkSilenceTimeouts (net : NetServer) (now : U32) : NetServer :=
  { net with lastSilenceCheckMs := now }.disconnectWhere fun entry =>
    (now - entry.lastInputTick).toNat > net.udpSilenceMs.toNat

def flushPending (net : NetServer) (fd : Int) : NetServer :=
  match net.registry.findByFd fd with
  | none => net
  | some entry =>
    let loop := sendLoop net.answers entry.pendingOut
    let left := { entry with pendingOut := entry.pendingOut.drop loop.sent }
    let net :=
      { net with
        registry := net.registry.setEntry entry.playerId left
        wire := Function.update net.wire fd (net.wire fd ++ entry.pendingOut.take loop.sent)
        answers := loop.answers }
    if loop.status = .broken then net.disconnect left true else net

def makeToken (net : NetServer) (env : Env) : U32 × NetServer :=
  let counter := net.tokenCounter + 1
  -- Never zero.
  ((env.rand ^^^ counter * 2654435761) ||| 1, { net with tokenCounter := counter })

def rejectReason : JoinResult → JoinRejectReason
  | .inProgress => .inProgress
  | _ => .full

def acceptReply (playerId : U8) (token : U32) (udpPort : U16) : Frame :=
  replyFrame .joinAccept (encodeJoinAccept · { playerId, sessionToken := token, udpPort })

def rejectReply (reason : JoinRejectReason) : Frame := replyFrame .joinReject (encodeJoinReject · { reason })

/-- Registry and lobby after the JOIN_LOBBY of a new connection, whether it was accepted, and the answer to it. -/
def tryJoin (net : NetServer) (env : Env) (fd : Int) (name : List U8) : NetServer × Bool × Frame :=
  match net.registry.add fd name with
  | (none, registry) => ({ net with registry }, false, rejectReply .full)
  | (some id, registry) =>
    let playerId : U8 := BitVec.ofNat 8 id
    match net.lobby.addPlayer playerId with
    | (.ok, lobby) =>
      let (token, net) := net.makeToken env
      -- The silence clock starts at join.
      let registry := registry.setEntry playerId
        { playerId, tcpFd := fd, name, sessionToken := token, lastInputTick := env.now }
      ({ net with registry, lobby }, true, acceptReply playerId token net.udpPort)
    | (result, _) =>
      -- Roll the registry back so the slot is not leaked.
      ({ net with registry := registry.remove playerId }, false, rejectReply (rejectReason result))

def onJoinLobby (net : NetServer) (env : Env) (fd : Int) (msg : MsgJoinLobby) : NetServer :=
  match net.registry.findByFd fd with
  | some _ => net
  | none =>
    match net.tryJoin env fd (nameString msg.name env.behind) with
    | (net, true, reply) => (net.sendFrameGeneric fd reply).broadcastLobbyState
    | (net, false, reply) => net.sendFrameGeneric fd reply

def beginMatchAndNotify (net : NetServer) (env : Env) : NetServer :=
  match net.lobby.beginMatch with
  | (false, _) => net
  | (true, lobby) =>
    let (red, blue) := lobby.assignTeams env.shuffle
    let setup := (({} : MatchSetup).addSide red .red).addSide blue .blue
    { net with lobby, inbound := net.inbound ++ setup.commands }.broadcastMessage .gameStart kGameStartCap
      (encodeGameStart · setup.gs)

def onStartRequest (net : NetServer) (env : Env) (fd : Int) : NetServer :=
  match net.registry.findByFd fd with
  | none => net
  | some entry =>
    if net.lobby.canIssueStart entry.playerId then net.beginMatchAndNotify env
    else net.sendFrameGeneric fd (rejectReply .inProgress)

/-- What `onFrame` answers straight to the socket, if it does. -/
def reply (net : NetServer) (env : Env) (fd : Int) (f : Frame) : Option Frame :=
  match MessageType.ofCode f.type, net.registry.findByFd fd with
  | some .joinLobby, none =>
    (decodeJoinLobby ⟨f.payload, false⟩).1.map fun msg => (net.tryJoin env fd (nameString msg.name env.behind)).2.2
  | some .startRequest, some entry =>
    if net.lobby.canIssueStart entry.playerId then none
    else (decodeStartRequest ⟨f.payload, false⟩).1.map fun _ => rejectReply .inProgress
  | _, _ => none

/-- The dispatch switch; heartbeats and frames that do not decode are consumed and ignored. -/
def onFrame (env : Env) (fd : Int) (net : NetServer) (f : Frame) : NetServer :=
  match MessageType.ofCode f.type with
  | some .joinLobby =>
    match (decodeJoinLobby ⟨f.payload, false⟩).1 with
    | some msg => net.onJoinLobby env fd msg
    | none => net
  | some .startRequest =>
    match (decodeStartRequest ⟨f.payload, false⟩).1 with
    | some _ => net.onStartRequest env fd
    | none => net
  | _ => net

def accumFor (net : NetServer) (fd : Int) : List U8 :=
  match net.registry.findByFd fd with
  | some entry => net.tcpIn entry.playerId
  | none => net.preJoin fd

/-- Write through the reference that `accum_for` gave while `entry` was the connection's entry. -/
def setAccum (net : NetServer) (entry : Option ClientEntry) (fd : Int) (bytes : List U8) : NetServer :=
  match entry with
  | some entry => { net with tcpIn := Function.update net.tcpIn entry.playerId bytes }
  | none => { net with preJoin := Function.update net.preJoin fd bytes }

/-- The receive loop: the bytes accumulated, or `none` if the connection goes down. -/
def recvLoop : List RecvResult → List U8 → Option (List U8)
  | [], accum => some accum
  | .again :: _, accum => some accum
  | .failed :: _, _ => none
  | .got [] :: _, _ => none
  | .got chunk :: more, accum =>
    if (accum ++ chunk).length > kAccumCap then none
    else if chunk.length < kRecvChunkBytes then some (accum ++ chunk)
    else recvLoop more (accum ++ chunk)

/-- No handler touches the buffer, so its frames are cut off before they are dispatched. -/
def handleTcpReadable (net : NetServer) (env : Env) (fd : Int) (recvs : List RecvResult) : NetServer :=
  match recvLoop recvs (net.accumFor fd) with
  | none => net.drop fd
  | some accum =>
    let cut := deframe kTcpFrameCapBytes accum
    let served := cut.frames.foldl (onFrame env fd) net
    if cut.dead then served.drop fd
    else served.setAccum (net.registry.findByFd fd) fd cut.rest

def authUdpSender (net : NetServer) (src : SockAddr) (playerId : U8) (token : U32) : Option ClientEntry :=
  (net.registry.findById playerId).filter fun entry =>
    entry.sessionToken == token && (!entry.hasUdpAddr || (entry.udpAddr.port == src.port && entry.udpAddr.addr == src.addr))

def onUdpHello (net : NetServer) (now : U32) (src : SockAddr) (msg : MsgUdpHello) : NetServer :=
  match net.authUdpSender src msg.playerId msg.sessionToken with
  | none => net
  | some entry =>
    { net with
      registry := net.registry.setEntry msg.playerId
        { entry with udpAddr := src, hasUdpAddr := true, lastInputTick := now } }

/-- One command for each redundant input; the seqs are counted back from `base_seq`. -/
def inputCommands (msg : MsgPlayerInput) : List InboundCommand :=
  let count := min msg.count.toNat kInputRedundancy
  (firstInputs count).map fun i =>
    .playerInput msg.playerId (msg.baseSeq - BitVec.ofNat 32 count + 1 + BitVec.ofNat 32 i.val) (msg.inputs i)

def onPlayerInput (net : NetServer) (now : U32) (src : SockAddr) (msg : MsgPlayerInput) : NetServer :=
  match net.authUdpSender src msg.playerId msg.sessionToken with
  | none => net
  | some entry =>
    { net with
      registry := net.registry.setEntry msg.playerId { entry with lastInputTick := now }
      inbound := net.inbound ++ inputCommands msg }

def onUdpPacket (net : NetServer) (now : U32) (src : SockAddr) (data : List U8) : NetServer :=
  match (decodeUdpHeader ⟨data, false⟩).1 with
  | none => net
  | some hdr =>
    let payload := data.drop kUdpHeaderBytes
    match MessageType.ofCode hdr.type with
    | some .udpHello =>
      match (decodeUdpHello ⟨payload, false⟩).1 with
      | some msg => net.onUdpHello now src msg
      | none => net
    | some .playerInput =>
      match (decodePlayerInput ⟨payload, false⟩).1 with
      | some msg => net.onPlayerInput now src msg
      | none => net
    | _ => net

/-- The UdpEvent case: the type byte of the payload moves into the header, whose tick stays zero. -/
def sendUdpEvent (r : ClientRegistry) (payload : List U8) : List (ClientEntry × List U8) :=
  r.live.filterMap fun entry =>
    if entry.hasUdpAddr then
      (r.findById entry.playerId).map fun e => (e, udpHeaderBytes (payload.headD 0) 0 ++ payload.drop 1)
    else none

/-- One event of `handle_wake`. -/
def onOutboundEvent (net : NetServer) (ev : OutboundEvent) : NetServer :=
  match ev.type with
  | .tcpBroadcast =>
    if ev.payload = [] then net else net.broadcastPayload ev.payload
  | .udpEvent =>
    { net with
      datagrams := net.datagrams ++ (sendUdpEvent net.registry ev.payload).map fun d => (d.1.udpAddr, d.2) }
  | _ =>
    { net with
      datagrams := net.datagrams ++ (net.registry.sendSnapshotEvent ev).map fun d => (d.1.udpAddr, d.2) }

def handleWake (net : NetServer) (events : List OutboundEvent) : NetServer := events.foldl onOutboundEvent net

/-- What the poll loop reacts to, with everything the reaction reads from the outside. -/
inductive Event where
  | accept (fd : Int)
  | readable (env : Env) (fd : Int) (recvs : List RecvResult) (answers : List SendResult)
  | writable (fd : Int) (answers : List SendResult)
  | datagram (now : U32) (src : SockAddr) (data : List U8)
  | wake (events : List OutboundEvent)
  | pendingCap
  | silence (now : U32)

/-- The kernel numbers new connections with unused descriptors, the poller reports watched ones, and an event has a
buffer of fixed size. -/
def Enabled (net : NetServer) : Event → Prop
  | .accept fd => 0 ≤ fd ∧ net.watched fd = false
  | .readable _ fd _ _ => net.watched fd = true
  | .writable fd _ => net.watched fd = true
  | .wake events => ∀ ev ∈ events, ev.payload.length ≤ kPayloadDataBytes
  | _ => True

def step (net : NetServer) : Event → NetServer
  | .accept fd => net.acceptClient fd
  | .readable env fd recvs answers => { net with answers }.handleTcpReadable env fd recvs
  | .writable fd answers => { net with answers }.flushPending fd
  | .datagram now src data => net.onUdpPacket now src data
  | .wake events => net.handleWake events
  | .pendingCap => net.enforcePendingCap
  | .silence now => net.checkSilenceTimeouts now

def joinFrame : Frame := ⟨MessageType.joinLobby.code, List.replicate (kNameBytes - 1) 65 ++ [0]⟩

def startFrame : Frame := ⟨MessageType.startRequest.code, []⟩

end NetServer
end CaptureTheFlag
