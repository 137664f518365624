import CaptureTheFlag.Server.NetMoves

/-! # Every reaction is a chain of moves -/
namespace CaptureTheFlag
set_option autoImplicit false
open Protocol Framing Relation ByteWriter

namespace NetServer

variable {limits : Limits}

theorem bounded_writeName (name : Name) : Bounded (fun w => writeName w name) :=
  bounded_foldl _ (fun i => bounded_put [name i])

theorem bounded_writeVec2 (v : Vec2Fixed) : Bounded (fun w => writeVec2 w v) := (bounded_put _).andThen (bounded_put _)

theorem bounded_encodeLobbyState (msg : MsgLobbyState) : Bounded (encodeLobbyState · msg) :=
  ((bounded_put _).andThen (bounded_foldl _ fun i => (bounded_put _).andThen (bounded_writeName (msg.names i)))).andThen
    (bounded_put _)

theorem bounded_encodeGameStart (msg : MsgGameStart) : Bounded (encodeGameStart · msg) :=
  ((bounded_put _).andThen (bounded_put _)).andThen
    (bounded_foldl _ fun i => ((bounded_put _).andThen (bounded_put _)).andThen (bounded_writeVec2 (msg.spawnPoints i)))

theorem bounded_encodeJoinAccept (msg : MsgJoinAccept) : Bounded (encodeJoinAccept · msg) :=
  ((bounded_put _).andThen (bounded_put _)).andThen (bounded_put _)

theorem bounded_encodeJoinReject (msg : MsgJoinReject) : Bounded (encodeJoinReject · msg) := bounded_put _

theorem replyFrame_fits (type : MessageType) {write : ByteWriter → ByteWriter} (h : Bounded write) :
    (replyFrame type write).payload.length < 2 ^ 16 :=
  Nat.lt_of_le_of_lt (h.fresh kReplyCap) (by decide)

theorem broadcastMessage_move (net : NetServer) (type : MessageType) {cap : Nat} {write : ByteWriter → ByteWriter}
    (h : Bounded write) (hCap : cap < 2 ^ 16) : Move limits net (net.broadcastMessage type cap write) := by
  exact .broadcast ⟨type.code, (write { cap }).buf⟩ (Nat.lt_of_le_of_lt (h.fresh cap) hCap)

theorem broadcastLobbyState_move (net : NetServer) : Move limits net net.broadcastLobbyState :=
  broadcastMessage_move net _ (bounded_encodeLobbyState _) (by decide)

/-- `disconnect` with its conditional push in one record. -/
theorem disconnect_eq (net : NetServer) (e : ClientEntry) : net.disconnect e true =
    ({ net.closeUnregistered e.tcpFd with
      registry := (net.registry.setEntry e.playerId { e with tcpFd := kFreeFd }).remove e.playerId
      lobby := net.lobby.removePlayer e.playerId
      tcpIn := Function.update net.tcpIn e.playerId []
      inbound := if net.lobby.inProgress then net.inbound ++ [.playerLeft e.playerId] else net.inbound } :
        NetServer).broadcastLobbyState := by
  simp only [disconnect, closeUnregistered, Bool.true_and]
  split <;> rfl

theorem disconnect_moves {net : NetServer} (h : Wf net) {i : Nat} {e : ClientEntry}
    (hAt : net.registry.client i = some e) : Moves limits net (net.disconnect e true) := by
  have hId := h.indexed.id i e hAt
  have hSlot : e.playerId.toNat < net.registry.storage.length := by
    rw [hId]
    exact ClientRegistry.client_lt hAt
  have hClient : ((net.registry.setEntry e.playerId { e with tcpFd := kFreeFd }).remove e.playerId).client =
      Function.update net.registry.client i none := by
    rw [ClientRegistry.client_remove, ClientRegistry.client_setEntry _ hSlot, Function.update_idem, hId]
  have hLeave : Move limits net _ := Move.leave i e _ hAt hClient (by simpa using h.indexed.size)
  refine (ReflTransGen.single hLeave).trans (.single ?_)
  rw [disconnect_eq]
  exact broadcastLobbyState_move _

theorem drop_moves {net : NetServer} (h : Wf net) {fd : Int} (hFd : 0 ≤ fd) : Moves limits net (net.drop fd) := by
  rw [drop]
  cases hFind : net.registry.findByFd fd with
  | none => exact .single (.close fd hFind)
  | some e =>
    obtain ⟨-, i, hAt⟩ := ClientRegistry.findByFd_some hFd hFind
    exact disconnect_moves h hAt

theorem disconnectIf_moves {net : NetServer} (h : Wf net) (gone : ClientEntry → Bool) (i : Nat) :
    Moves limits net (net.disconnectIf gone i) := by
  rw [disconnectIf]
  split
  · exact .refl
  · split
    · exact .refl
    · split
      · split
        · rename_i e hFind
          rw [ClientRegistry.findById_eq] at hFind
          exact disconnect_moves h hFind
        · exact .refl
      · exact .refl

theorem foldl_moves {α : Type} {turn : NetServer → α → NetServer}
    (hTurn : ∀ net a, Wf net → Moves limits net (turn net a)) (as : List α) (net : NetServer) (h : Wf net) :
    Moves limits net (as.foldl turn net) := by
  induction as generalizing net with
  | nil => exact .refl
  | cons a as ih => exact (hTurn net a h).trans (ih _ (h.moves (hTurn net a h)))

theorem disconnectWhere_moves {net : NetServer} (h : Wf net) (gone : ClientEntry → Bool) :
    Moves limits net (net.disconnectWhere gone) :=
  foldl_moves (fun _ i hWf => disconnectIf_moves hWf gone i) _ net h

theorem sendFrameGeneric_move {net : NetServer} {fd : Int} {reply : Frame} (hFits : reply.payload.length < 2 ^ 16)
    (hWrites : limits.writes (net.wire fd) reply (sendLoop net.answers (encode reply)).sent) :
    Move limits net (net.sendFrameGeneric fd reply) := .write fd reply _ _ hFits hWrites

/-- A JOIN_LOBBY of a new connection is answered by the lobby's state alone: rejected, it leaves the clients as they
are; accepted, it fills the lowest free slot. -/
theorem tryJoin_cases {net : NetServer} (h : Wf net) (env : Env) {fd : Int} (hWatched : net.watched fd = true)
    (name : List U8) :
    (¬ net.lobby.Open ∧ ∃ registry reason,
      net.tryJoin env fd name = ({ net with registry }, false, rejectReply reason) ∧
      registry.client = net.registry.client ∧ registry.storage.length ≤ kMaxPlayers) ∨
    (net.lobby.Open ∧ ∃ i e registry lobby,
      net.tryJoin env fd name =
        ({ net with registry, lobby, tokenCounter := net.tokenCounter + 1 }, true,
          acceptReply e.playerId e.sessionToken net.udpPort) ∧
      e.tcpFd = fd ∧ e.playerId.toNat = i ∧ e.pendingOut = [] ∧ e.name = name ∧
      net.registry.client i = none ∧ (∀ j < i, (net.registry.client j).isSome = true) ∧
      registry.client = Function.update net.registry.client i (some e) ∧ registry.storage.length ≤ kMaxPlayers ∧
      net.lobby.addPlayer e.playerId = (.ok, lobby)) := by
  have hFd : 0 ≤ fd := h.opened fd hWatched
  have hLive : fd ≠ kFreeFd := by
    simp only [kFreeFd]
    omega
  rcases ClientRegistry.add_cases h.indexed.size fd hLive name with
    ⟨registry, hAdd, hClient, hSize, hTaken⟩ | ⟨i, registry, hAdd, hi, hFree, hLowest, hSlot, hSize, hClient⟩
  · refine Or.inl ⟨fun hOpen => ?_, registry, .full, by simp only [tryJoin, hAdd], hClient, hSize⟩
    exact Nat.ne_of_lt hOpen.2 (h.roster_full hTaken)
  · have hByte : (BitVec.ofNat 8 i).toNat = i := by
      simp only [kMaxPlayers] at hi
      rw [BitVec.toNat_ofNat]
      omega
    have hNew : BitVec.ofNat 8 i ∉ net.lobby.playerIds := by
      rw [h.roster, hByte, hFree]
      simp
    have hOpen := Lobby.addPlayer_open hNew
    cases hLobby : net.lobby.addPlayer (BitVec.ofNat 8 i) with
    | mk result lobby =>
      rw [hLobby] at hOpen
      by_cases hOk : result = .ok
      · subst hOk
        let e : ClientEntry :=
          { playerId := BitVec.ofNat 8 i, tcpFd := fd, name, sessionToken := (net.makeToken env).1,
            lastInputTick := env.now }
        have hUpdate := @ClientRegistry.client_setEntry registry (BitVec.ofNat 8 i) e
          (by rw [hByte]; exact hSlot)
        rw [hByte, hClient, Function.update_idem, if_neg hLive] at hUpdate
        refine Or.inr ⟨hOpen.mp rfl, i, e, _, lobby, ?_, rfl, hByte, rfl, rfl, hFree, hLowest, hUpdate,
          by simpa using hSize, hLobby⟩
        simp only [tryJoin, hAdd, hLobby, makeToken, e]
      · refine Or.inl ⟨fun hIs => hOk (hOpen.mpr hIs), registry.remove (BitVec.ofNat 8 i), rejectReason result, ?_, ?_,
          by simpa using hSize⟩
        · simp only [tryJoin, hAdd, hLobby]
        · rw [ClientRegistry.client_remove, hClient, hByte, Function.update_idem, ← hFree, Function.update_eq_self]

theorem tryJoin_moves {net : NetServer} (h : Wf net) (env : Env) {fd : Int} (hServes : limits.serves fd)
    (hWatched : net.watched fd = true) (hNew : net.registry.findByFd fd = none) (name : List U8) :
    Moves limits net (net.tryJoin env fd name).1 ∧ (net.tryJoin env fd name).1.wire = net.wire ∧
      (net.tryJoin env fd name).1.answers = net.answers ∧
      (net.tryJoin env fd name).2.2.payload.length < 2 ^ 16 := by
  rcases tryJoin_cases h env hWatched name with
    ⟨-, registry, reason, hSame, hClient, hSize⟩ |
    ⟨-, i, e, registry, lobby, hSame, rfl, hId, hPending, -, hFree, -, hClient, hSize, hLobby⟩
  · rw [hSame]
    refine ⟨.single ?_, rfl, rfl, replyFrame_fits _ (bounded_encodeJoinReject _)⟩
    have hTouch : Move limits net _ := Move.touch registry [] net.lastSilenceCheckMs net.tokenCounter
      net.answers net.datagrams (fun j => by rw [hClient]) hSize (fun cmd hMem => by cases hMem)
    rwa [List.append_nil] at hTouch
  · rw [hSame]
    refine ⟨.single ?_, rfl, rfl, replyFrame_fits _ (bounded_encodeJoinAccept _)⟩
    exact .enter i e registry lobby _ hServes (h.opened _ hWatched) hWatched hNew hFree hId hPending hClient hSize hLobby

/-- What a frame makes the server write straight to the socket is allowed. -/
def Allowed (limits : Limits) (env : Env) (fd : Int) (net : NetServer) (f : Frame) : Prop :=
  ∀ reply, net.reply env fd f = some reply → limits.writes (net.wire fd) reply (sendLoop net.answers (encode reply)).sent

def AllAllowed (limits : Limits) (env : Env) (fd : Int) : NetServer → List Frame → Prop
  | _, [] => True
  | net, f :: frames => Allowed limits env fd net f ∧ AllAllowed limits env fd (net.onFrame env fd f) frames

theorem onJoinLobby_moves {net : NetServer} (h : Wf net) (env : Env) {fd : Int} (hServes : limits.serves fd)
    (hWatched : net.watched fd = true) (msg : MsgJoinLobby)
    (hWrites : net.registry.findByFd fd = none →
      limits.writes (net.wire fd) (net.tryJoin env fd (nameString msg.name env.behind)).2.2
      (sendLoop net.answers (encode (net.tryJoin env fd (nameString msg.name env.behind)).2.2)).sent) :
    Moves limits net (net.onJoinLobby env fd msg) := by
  rw [onJoinLobby]
  cases hNew : net.registry.findByFd fd with
  | some e => exact .refl
  | none =>
    obtain ⟨hMoves, hWire, hAnswers, hFits⟩ := tryJoin_moves h env hServes hWatched hNew (nameString msg.name env.behind)
    have hAllowed := hWrites hNew
    simp only
    generalize net.tryJoin env fd (nameString msg.name env.behind) = out at hMoves hWire hAnswers hFits hAllowed
    obtain ⟨net', accepted, reply⟩ := out
    simp only at hMoves hWire hAnswers hFits hAllowed
    rw [← hWire, ← hAnswers] at hAllowed
    have hSent := hMoves.tail (sendFrameGeneric_move hFits hAllowed)
    cases accepted with
    | true => exact hSent.tail (broadcastLobbyState_move _)
    | false => exact hSent

theorem onJoinLobby_cases {net : NetServer} (h : Wf net) (env : Env) {fd : Int} (hWatched : net.watched fd = true)
    (hNew : net.registry.findByFd fd = none) (msg : MsgJoinLobby) :
    ((net.tryJoin env fd (nameString msg.name env.behind)).2.1 = false ∧ ¬ net.lobby.Open ∧
      (net.onJoinLobby env fd msg).lobby = net.lobby ∧
      (net.onJoinLobby env fd msg).registry.client = net.registry.client) ∨
    ((net.tryJoin env fd (nameString msg.name env.behind)).2.1 = true ∧ net.lobby.Open ∧ ∃ id : U8,
      (net.onJoinLobby env fd msg).registry.idOf fd = some id ∧
      (net.onJoinLobby env fd msg).lobby.playerIds = net.lobby.playerIds ++ [id] ∧
      net.registry.client id.toNat = none ∧ ∀ j < id.toNat, (net.registry.client j).isSome = true) := by
  have hFd := h.opened fd hWatched
  have hMoves : Moves {} net (net.onJoinLobby env fd msg) := onJoinLobby_moves h env trivial hWatched msg fun _ => trivial
  have hWf := h.moves hMoves
  simp only [onJoinLobby, hNew] at hWf ⊢
  rcases tryJoin_cases h env hWatched (nameString msg.name env.behind) with
    ⟨hShut, registry, reason, hSame, hClient, -⟩ |
    ⟨hOpen, i, e, registry, lobby, hSame, rfl, rfl, -, -, hFree, hLowest, hClient, hSize, hLobby⟩
  · rw [hSame]
    exact Or.inl ⟨rfl, hShut, rfl, hClient⟩
  · rw [hSame] at hWf ⊢
    obtain ⟨-, -, -, hIds⟩ := addPlayer_ok hLobby
    refine Or.inr ⟨rfl, hOpen, e.playerId, ?_, hIds, hFree, hLowest⟩
    have hEntered := h.enter (net.tokenCounter + 1) hFd hWatched hNew hFree rfl hClient hSize hLobby
    have hKeys := sameKeys_broadcast hEntered.indexed
    refine ((hKeys _).idOf hEntered.indexed hWf.indexed hFd).trans ?_
    rw [ClientRegistry.idOf_eq_some hEntered.indexed hFd]
    refine ⟨e, ?_, rfl⟩
    simp only
    rw [hClient, Function.update_self]

theorem beginMatchAndNotify_moves (net : NetServer) (env : Env) : Moves limits net (net.beginMatchAndNotify env) := by
  rw [beginMatchAndNotify]
  cases hBegin : net.lobby.beginMatch with
  | mk begun lobby =>
    cases begun with
    | false => exact .refl
    | true =>
      exact (ReflTransGen.single (.start env.shuffle lobby hBegin)).tail
        (broadcastMessage_move _ _ (bounded_encodeGameStart _) (by decide))

theorem onStartRequest_moves (net : NetServer) (env : Env) (fd : Int)
    (hWrites : ∀ e, net.registry.findByFd fd = some e → net.lobby.canIssueStart e.playerId = false →
      limits.writes (net.wire fd) (rejectReply .inProgress)
        (sendLoop net.answers (encode (rejectReply .inProgress))).sent) :
    Moves limits net (net.onStartRequest env fd) := by
  rw [onStartRequest]
  cases hFind : net.registry.findByFd fd with
  | none => exact .refl
  | some e =>
    simp only
    split
    · exact beginMatchAndNotify_moves net env
    · rename_i hNot
      exact .single (sendFrameGeneric_move (replyFrame_fits _ (bounded_encodeJoinReject _))
        (hWrites e hFind (by simpa using hNot)))

theorem onFrame_moves {net : NetServer} (h : Wf net) {env : Env} {fd : Int} (hServes : limits.serves fd)
    (hWatched : net.watched fd = true) {f : Frame} (hAllowed : Allowed limits env fd net f) :
    Moves limits net (net.onFrame env fd f) := by
  rw [onFrame]
  split
  · rename_i hType
    split
    · rename_i msg hMsg
      refine onJoinLobby_moves h env hServes hWatched msg fun hNew => hAllowed _ ?_
      simp only [reply, hType, hNew, hMsg, Option.map_some]
    · exact .refl
  · rename_i hType
    split
    · rename_i hMsg
      refine onStartRequest_moves net env fd fun e hFind hNot => hAllowed _ ?_
      simp only [reply, hType, hFind, hMsg, hNot, Bool.false_eq_true, if_false, Option.map_some]
    · exact .refl
  · exact .refl

/-- Dispatching a frame closes no connection and reads nothing. -/
structure SameInput (net net' : NetServer) : Prop where
  tcpIn : net'.tcpIn = net.tcpIn
  preJoin : net'.preJoin = net.preJoin
  watched : net'.watched = net.watched

theorem tryJoin_sameInput (net : NetServer) (env : Env) (fd : Int) (name : List U8) :
    SameInput net (net.tryJoin env fd name).1 := by
  simp only [tryJoin]
  split
  · exact ⟨rfl, rfl, rfl⟩
  · split <;> exact ⟨rfl, rfl, rfl⟩

theorem onJoinLobby_sameInput (net : NetServer) (env : Env) (fd : Int) (msg : MsgJoinLobby) :
    SameInput net (net.onJoinLobby env fd msg) := by
  have hJoin := tryJoin_sameInput net env fd (nameString msg.name env.behind)
  simp only [onJoinLobby]
  split
  · exact ⟨rfl, rfl, rfl⟩
  · split <;> (rename_i hOut; rw [hOut] at hJoin; exact ⟨hJoin.tcpIn, hJoin.preJoin, hJoin.watched⟩)

theorem onFrame_sameInput (net : NetServer) (env : Env) (fd : Int) (f : Frame) :
    SameInput net (net.onFrame env fd f) := by
  rw [onFrame]
  split
  · split
    · exact onJoinLobby_sameInput net env fd _
    · exact ⟨rfl, rfl, rfl⟩
  · split
    · rw [onStartRequest]
      split
      · exact ⟨rfl, rfl, rfl⟩
      · split
        · rw [beginMatchAndNotify]
          split <;> exact ⟨rfl, rfl, rfl⟩
        · exact ⟨rfl, rfl, rfl⟩
    · exact ⟨rfl, rfl, rfl⟩
  · exact ⟨rfl, rfl, rfl⟩

theorem frames_sameInput (env : Env) (fd : Int) (frames : List Frame) (net : NetServer) :
    SameInput net (frames.foldl (onFrame env fd) net) := by
  refine Chain.foldl_invariant (I := SameInput net) ?_ frames net ⟨rfl, rfl, rfl⟩
  intro net' f h
  have hFrame := onFrame_sameInput net' env fd f
  exact ⟨hFrame.tcpIn.trans h.tcpIn, hFrame.preJoin.trans h.preJoin, hFrame.watched.trans h.watched⟩

theorem frames_moves {env : Env} {fd : Int} (hServes : limits.serves fd) (frames : List Frame) {net : NetServer}
    (h : Wf net) (hWatched : net.watched fd = true) (hAllowed : AllAllowed limits env fd net frames) :
    Moves limits net (frames.foldl (onFrame env fd) net) := by
  induction frames generalizing net with
  | nil => exact .refl
  | cons f frames ih =>
    have hFirst := onFrame_moves h hServes hWatched hAllowed.1
    refine hFirst.trans (ih (h.moves hFirst) ?_ hAllowed.2)
    rw [(onFrame_sameInput net env fd f).watched]
    exact hWatched

theorem SameKeys.refl (r : ClientRegistry) : SameKeys r r := fun _ => rfl

theorem SameKeys.trans {r r' r'' : ClientRegistry} (h : SameKeys r r') (h' : SameKeys r' r'') : SameKeys r r'' :=
  fun i => (h' i).trans (h i)

theorem SameKeys.findByFd_some {r r' : ClientRegistry} (h : SameKeys r r') (hIndexed : r'.Indexed) {fd : Int}
    (hFd : 0 ≤ fd) {e : ClientEntry} (hFind : r.findByFd fd = some e) :
    ∃ e', r'.findByFd fd = some e' ∧ e'.playerId = e.playerId := by
  obtain ⟨rfl, i, hAt⟩ := ClientRegistry.findByFd_some hFd hFind
  have hBack : SameKeys r' r := fun j => (h j).symm
  obtain ⟨e', hAt', hId, hFd'⟩ := hBack.client hAt
  rw [← hFd']
  exact ⟨e', ClientRegistry.findByFd_of_client hIndexed hAt', hId⟩

theorem onFrame_registered {net : NetServer} (h : Wf net) (env : Env) {fd : Int} {e : ClientEntry}
    (hFind : net.registry.findByFd fd = some e) (f : Frame) :
    SameKeys net.registry (net.onFrame env fd f).registry := by
  rw [onFrame]
  split
  · split
    · simp only [onJoinLobby, hFind]
      exact .refl _
    · exact .refl _
  · split
    · simp only [onStartRequest, hFind]
      split
      · rw [beginMatchAndNotify]
        split
        · exact .refl _
        · exact sameKeys_broadcast h.indexed _
      · exact .refl _
    · exact .refl _
  · exact .refl _

theorem frames_registered (env : Env) {fd : Int} (frames : List Frame) {net : NetServer} (h : Wf net)
    (hWatched : net.watched fd = true) {e : ClientEntry} (hFind : net.registry.findByFd fd = some e) :
    SameKeys net.registry (frames.foldl (onFrame env fd) net).registry := by
  induction frames generalizing net e with
  | nil => exact .refl _
  | cons f frames ih =>
    have hKeys := onFrame_registered h env hFind f
    have hMoves : Moves {} net (net.onFrame env fd f) :=
      onFrame_moves h trivial hWatched (fun _ _ => trivial)
    have hNext := h.moves hMoves
    obtain ⟨e', hFind', -⟩ := hKeys.findByFd_some hNext.indexed (h.opened fd hWatched) hFind
    exact hKeys.trans (ih hNext (by rw [(onFrame_sameInput net env fd f).watched]; exact hWatched) hFind')

theorem handleTcpReadable_moves {net : NetServer} (h : Wf net) {env : Env} {fd : Int} (hServes : limits.serves fd)
    (hWatched : net.watched fd = true) (recvs : List RecvResult)
    (hAllowed : ∀ accum, recvLoop recvs (net.accumFor fd) = some accum →
      AllAllowed limits env fd net (deframe kTcpFrameCapBytes accum).frames) :
    Moves limits net (net.handleTcpReadable env fd recvs) := by
  have hFd := h.opened fd hWatched
  rw [handleTcpReadable]
  split
  · exact drop_moves h hFd
  · rename_i accum hRecv
    have hServed := frames_moves hServes _ h hWatched (hAllowed accum hRecv)
    have hSame := frames_sameInput env fd (deframe kTcpFrameCapBytes accum).frames net
    simp only
    split
    · exact hServed.trans (drop_moves (h.moves hServed) hFd)
    · refine hServed.tail (.buffer _ fd _ hServes (by rw [hSame.watched]; exact hWatched) ?_)
      intro e hFind
      have hKeys := frames_registered env (deframe kTcpFrameCapBytes accum).frames h hWatched hFind
      exact hKeys.findByFd_some (h.moves hServed).indexed hFd hFind

theorem flushPending_moves {net : NetServer} (h : Wf net) {fd : Int} (hWatched : net.watched fd = true) :
    Moves limits net (net.flushPending fd) := by
  have hFd := h.opened fd hWatched
  rw [flushPending]
  split
  · exact .refl
  · rename_i e hFind
    obtain ⟨rfl, i, hAt⟩ := ClientRegistry.findByFd_some hFd hFind
    have hId := h.indexed.id i e hAt
    have hSlot : e.playerId.toNat < net.registry.storage.length := by
      rw [hId]
      exact ClientRegistry.client_lt hAt
    have hClient := ClientRegistry.client_setEntry
      { e with pendingOut := e.pendingOut.drop (sendLoop net.answers e.pendingOut).sent } hSlot
    rw [if_neg (ClientRegistry.client_eq_some.mp hAt).2, hId] at hClient
    have hFlush : Move limits net _ := Move.flush i e (sendLoop net.answers e.pendingOut).sent _
      (sendLoop net.answers e.pendingOut).answers hAt hClient (by simpa using h.indexed.size)
    simp only
    split
    · refine (ReflTransGen.single hFlush).trans (disconnect_moves (i := i) (h.move hFlush) ?_)
      simp only
      rw [hClient, Function.update_self]
    · exact .single hFlush

theorem touch_move {net : NetServer} (h : Wf net) {id : U8} {e : ClientEntry} (hFind : net.registry.findById id = some e)
    (e' : ClientEntry) (hCore : core e' = core e) (inputs : List InboundCommand) (hInputs : ∀ cmd ∈ inputs, cmd.IsInput) :
    Move limits net { net with registry := net.registry.setEntry id e', inbound := net.inbound ++ inputs } := by
  rw [ClientRegistry.findById_eq] at hFind
  have hFd : e'.tcpFd = e.tcpFd := congrArg (fun k => k.2.1) hCore
  have hClient := ClientRegistry.client_setEntry e' (ClientRegistry.client_lt hFind)
  rw [if_neg (by rw [hFd]; exact (ClientRegistry.client_eq_some.mp hFind).2)] at hClient
  refine .touch _ inputs _ _ _ _ (fun i => ?_) (by simpa using h.indexed.size) hInputs
  rw [hClient]
  by_cases hi : i = id.toNat
  · rw [hi, Function.update_self, hFind, Option.map_some, Option.map_some, hCore]
  · rw [Function.update_of_ne hi]

theorem authUdpSender_some {net : NetServer} {src : SockAddr} {id : U8} {token : U32} {e : ClientEntry}
    (h : net.authUdpSender src id token = some e) : net.registry.findById id = some e :=
  (Option.filter_eq_some_iff.mp h).1

theorem inputCommands_isInput (msg : MsgPlayerInput) : ∀ cmd ∈ inputCommands msg, cmd.IsInput := by
  intro cmd hMem
  obtain ⟨i, -, rfl⟩ := List.mem_map.mp hMem
  exact trivial

theorem onUdpPacket_moves {net : NetServer} (h : Wf net) (now : U32) (src : SockAddr) (data : List U8) :
    Moves limits net (net.onUdpPacket now src data) := by
  rw [onUdpPacket]
  split
  · exact .refl
  · simp only
    split
    · split
      · rw [onUdpHello]
        split
        · exact .refl
        · rename_i e hAuth
          have hTouch : Move limits net _ := touch_move h (authUdpSender_some hAuth)
            { e with udpAddr := src, hasUdpAddr := true, lastInputTick := now } rfl [] (by simp)
          rw [List.append_nil] at hTouch
          exact .single hTouch
      · exact .refl
    · split
      · rw [onPlayerInput]
        split
        · exact .refl
        · rename_i e hAuth
          exact .single (touch_move h (authUdpSender_some hAuth) { e with lastInputTick := now } rfl _
            (inputCommands_isInput _))
      · exact .refl
    · exact .refl

theorem sends_move {net : NetServer} (h : Wf net) (lastSilenceCheckMs : U32) (answers : List SendResult)
    (datagrams : List (SockAddr × List U8)) : Move limits net { net with lastSilenceCheckMs, answers, datagrams } := by
  have hTouch : Move limits net _ := Move.touch net.registry [] lastSilenceCheckMs net.tokenCounter answers
    datagrams (fun _ => rfl) h.indexed.size (fun cmd hMem => by cases hMem)
  rwa [List.append_nil] at hTouch

theorem onOutboundEvent_moves {net : NetServer} (h : Wf net) {ev : OutboundEvent}
    (hFits : ev.payload.length ≤ kPayloadDataBytes) : Moves limits net (net.onOutboundEvent ev) := by
  rw [onOutboundEvent]
  split
  · split
    · exact .refl
    · cases hPayload : ev.payload with
      | nil => contradiction
      | cons type fields =>
        rw [hPayload, List.length_cons] at hFits
        simp only [kPayloadDataBytes] at hFits
        exact .single (.broadcast ⟨type, fields⟩ (by simp only; omega))
  · exact .single (sends_move h _ _ _)
  · exact .single (sends_move h _ _ _)

theorem handleWake_moves (events : List OutboundEvent) {net : NetServer} (h : Wf net)
    (hFits : ∀ ev ∈ events, ev.payload.length ≤ kPayloadDataBytes) : Moves limits net (net.handleWake events) := by
  rw [handleWake]
  induction events generalizing net with
  | nil => exact .refl
  | cons ev events ih =>
    have hFirst : Moves limits net _ := onOutboundEvent_moves h (hFits ev List.mem_cons_self)
    exact hFirst.trans (ih (h.moves hFirst) fun ev' hMem => hFits ev' (List.mem_cons_of_mem _ hMem))

/-- The connections an event is about. -/
def Event.serves : Event → Int → Prop
  | .accept fd => fun fd' => fd' = fd
  | .readable _ fd _ _ => fun fd' => fd' = fd
  | _ => fun _ => False

/-- The event is about connections within the limits, and so is what it makes the server write straight to one. -/
structure EventAllowed (limits : Limits) (net : NetServer) (event : Event) : Prop where
  serves : ∀ fd, event.serves fd → limits.serves fd
  writes : ∀ env fd recvs answers, event = .readable env fd recvs answers →
    ∀ accum, recvLoop recvs (net.accumFor fd) = some accum →
      AllAllowed limits env fd { net with answers } (deframe kTcpFrameCapBytes accum).frames

theorem step_moves {net : NetServer} (h : Wf net) {event : Event} (hEnabled : net.Enabled event)
    (hAllowed : EventAllowed limits net event) : Moves limits net (net.step event) := by
  cases event with
  | accept fd => exact .single (.accept fd (hAllowed.serves fd rfl) hEnabled.1 hEnabled.2)
  | readable env fd recvs answers =>
    have hSends : Move limits net _ := sends_move h net.lastSilenceCheckMs answers net.datagrams
    exact (ReflTransGen.single hSends).trans
      (handleTcpReadable_moves (h.move hSends) (hAllowed.serves fd rfl) hEnabled recvs
        (hAllowed.writes env fd recvs answers rfl))
  | writable fd answers =>
    have hSends : Move limits net _ := sends_move h net.lastSilenceCheckMs answers net.datagrams
    exact (ReflTransGen.single hSends).trans (flushPending_moves (h.move hSends) hEnabled)
  | datagram now src data => exact onUdpPacket_moves h now src data
  | wake events => exact handleWake_moves events h hEnabled
  | pendingCap => exact disconnectWhere_moves h _
  | silence now =>
    have hSends : Move limits net _ := sends_move h now net.answers net.datagrams
    exact (ReflTransGen.single hSends).trans (disconnectWhere_moves (h.move hSends) _)

theorem allAllowed_any (hAny : ∀ taken f n, limits.writes taken f n) (env : Env) (fd : Int) (frames : List Frame)
    (net : NetServer) : AllAllowed limits env fd net frames := by
  induction frames generalizing net with
  | nil => exact trivial
  | cons f frames ih => exact ⟨fun _ _ => hAny _ _ _, ih _⟩

/-- Where anything may be written, a reaction is a chain of moves about its own connection. -/
theorem step_allMoves {net : NetServer} (h : Wf net) {event : Event} (hEnabled : net.Enabled event) :
    Moves { serves := event.serves } net (net.step event) :=
  step_moves h hEnabled ⟨fun _ hServes => hServes, fun _ _ _ _ _ _ _ => allAllowed_any (fun _ _ _ => trivial) _ _ _ _⟩

/-- Any sequence of allowed reactions; between them the simulation takes commands from the queue. -/
inductive ReachableBy (allowed : NetServer → Event → Prop) : NetServer → Prop where
  | start (udpPort : U16) (udpSilenceMs : U32) : ReachableBy allowed { udpPort, udpSilenceMs }
  | step {net : NetServer} (h : ReachableBy allowed net) (event : Event) (hEnabled : net.Enabled event)
      (hAllowed : allowed net event) : ReachableBy allowed (net.step event)
  | drained {net : NetServer} (h : ReachableBy allowed net) (cmds rest : List InboundCommand)
      (hQueue : net.inbound = cmds ++ rest) : ReachableBy allowed { net with inbound := rest }

abbrev Reachable : NetServer → Prop := ReachableBy fun _ _ => True

theorem Wf.started (udpPort : U16) (udpSilenceMs : U32) : Wf { udpPort, udpSilenceMs } :=
  Wf.init.congr (.refl _) (Nat.zero_le _) rfl rfl rfl rfl

theorem ReachableBy.wf {allowed : NetServer → Event → Prop} {net : NetServer} (h : ReachableBy allowed net) : Wf net := by
  induction h with
  | start udpPort udpSilenceMs => exact Wf.started udpPort udpSilenceMs
  | step h event hEnabled hAllowed ih => exact ih.moves (step_allMoves ih hEnabled)
  | drained h cmds rest hQueue ih => exact { ih with }

end NetServer
end CaptureTheFlag
