import CaptureTheFlag.Server.PollLoop
import CaptureTheFlag.Server.UdpAuth

/-! # Who has fallen silent

The silence clock counts milliseconds in 32 bits and wraps around. In real time a client is dropped for its silence only
if it has been silent for too long, and no turn of the poll loop leaves one behind that has been silent much longer.
-/
namespace CaptureTheFlag
set_option autoImplicit false
open Protocol Framing Relation

namespace ClientRegistry

/-- What the clock read when the client of a slot was last heard. -/
def heardAt (r : ClientRegistry) (i : Nat) : Option U32 := (r.client i).map (·.lastInputTick)

variable {r : ClientRegistry}

theorem heardAt_broadcast (h : r.Indexed) (payload : List U8) : (r.broadcastTcpEvent payload).heardAt = r.heardAt := by
  funext i
  rw [heardAt, client_broadcastTcpEvent h, Option.map_map]
  rfl

theorem heardAt_update {r' : ClientRegistry} {i : Nat} {slot : Option ClientEntry}
    (hClient : r'.client = Function.update r.client i slot) :
    r'.heardAt = Function.update r.heardAt i (slot.map (·.lastInputTick)) := by
  funext j
  rw [heardAt, hClient]
  by_cases hj : j = i
  · rw [hj, Function.update_self, Function.update_self]
  · rw [Function.update_of_ne hj, Function.update_of_ne hj]
    rfl

theorem heardAt_setEntry {id : U8} {e : ClientEntry} (hAt : r.client id.toNat = some e) (e' : ClientEntry)
    (hFd : e'.tcpFd = e.tcpFd) :
    (r.setEntry id e').heardAt = Function.update r.heardAt id.toNat (some e'.lastInputTick) := by
  have hClient := client_setEntry e' (client_lt hAt)
  rw [hFd, if_neg (client_eq_some.mp hAt).2] at hClient
  exact heardAt_update hClient

theorem heardAt_eq_none {i : Nat} : r.heardAt i = none ↔ r.client i = none := by
  rw [heardAt, Option.map_eq_none_iff]

end ClientRegistry

namespace NetServer

/-- Nobody is new, and what the clients were last heard at stands. -/
def NoneNew (net net' : NetServer) : Prop :=
  ∀ i t, net'.registry.heardAt i = some t → net.registry.heardAt i = some t

theorem noneNew_of_eq {net net' : NetServer} (h : net'.registry.heardAt = net.registry.heardAt) : NoneNew net net' := by
  intro i t hAt
  rwa [h] at hAt

theorem NoneNew.trans {net net' net'' : NetServer} (h : NoneNew net net') (h' : NoneNew net' net'') : NoneNew net net'' :=
  fun i t hAt => h i t (h' i t hAt)

theorem noneNew_of_left {net net' : NetServer} {i : Nat}
    (h : net'.registry.heardAt = Function.update net.registry.heardAt i none) : NoneNew net net' := by
  intro j t hAt
  rw [h] at hAt
  by_cases hj : j = i
  · rw [hj, Function.update_self] at hAt
    cases hAt
  · rwa [Function.update_of_ne hj] at hAt

theorem disconnect_heardAt {net : NetServer} (h : Wf net) {i : Nat} {e : ClientEntry}
    (hAt : net.registry.client i = some e) :
    (net.disconnect e true).registry.heardAt = Function.update net.registry.heardAt i none := by
  have hId := h.indexed.id i e hAt
  have hSlot : e.playerId.toNat < net.registry.storage.length := by
    rw [hId]
    exact ClientRegistry.client_lt hAt
  have hLeft : ((net.registry.setEntry e.playerId { e with tcpFd := kFreeFd }).remove e.playerId).client =
      Function.update net.registry.client i none := by
    rw [ClientRegistry.client_remove, ClientRegistry.client_setEntry _ hSlot, Function.update_idem, hId]
  have hIndexed := h.indexed.leave hLeft (by simpa using h.indexed.size)
  rw [disconnect_eq, broadcastLobbyState, broadcastMessage, broadcastPayload,
    ClientRegistry.heardAt_broadcast hIndexed, ClientRegistry.heardAt_update hLeft]
  rfl

theorem drop_noneNew {net : NetServer} (h : Wf net) {fd : Int} (hFd : 0 ≤ fd) : NoneNew net (net.drop fd) := by
  rw [drop]
  cases hFind : net.registry.findByFd fd with
  | none => exact noneNew_of_eq rfl
  | some e =>
    obtain ⟨-, i, hAt⟩ := ClientRegistry.findByFd_some hFd hFind
    exact noneNew_of_left (disconnect_heardAt h hAt)

theorem disconnectIf_noneNew {net : NetServer} (h : Wf net) (gone : ClientEntry → Bool) (i : Nat) :
    NoneNew net (net.disconnectIf gone i) := by
  rw [disconnectIf]
  split
  · exact noneNew_of_eq rfl
  · split
    · exact noneNew_of_eq rfl
    · split
      · split
        · rename_i e hFind
          rw [ClientRegistry.findById_eq] at hFind
          exact noneNew_of_left (disconnect_heardAt h hFind)
        · exact noneNew_of_eq rfl
      · exact noneNew_of_eq rfl

theorem disconnectWhere_noneNew {net : NetServer} (h : Wf net) (gone : ClientEntry → Bool) :
    NoneNew net (net.disconnectWhere gone) := by
  have hTurn : ∀ net' i, Wf net' ∧ NoneNew net net' →
      Wf (disconnectIf gone net' i) ∧ NoneNew net (disconnectIf gone net' i) := by
    rintro net' i ⟨hWf, hSoFar⟩
    have hMoves : Moves {} net' (net'.disconnectIf gone i) := disconnectIf_moves hWf gone i
    exact ⟨hWf.moves hMoves, hSoFar.trans (disconnectIf_noneNew hWf gone i)⟩
  exact (Chain.foldl_invariant hTurn (List.range net.registry.storage.length) net ⟨h, noneNew_of_eq rfl⟩).2

theorem flushPending_noneNew {net : NetServer} (h : Wf net) {fd : Int} (hFd : 0 ≤ fd) :
    NoneNew net (net.flushPending fd) := by
  rw [flushPending]
  cases hFind : net.registry.findByFd fd with
  | none => exact noneNew_of_eq rfl
  | some e =>
    obtain ⟨rfl, i, hAt⟩ := ClientRegistry.findByFd_some hFd hFind
    have hId := h.indexed.id i e hAt
    have hSlot : e.playerId.toNat < net.registry.storage.length := by
      rw [hId]
      exact ClientRegistry.client_lt hAt
    have hClient := ClientRegistry.client_setEntry
      { e with pendingOut := e.pendingOut.drop (sendLoop net.answers e.pendingOut).sent } hSlot
    rw [if_neg (ClientRegistry.client_eq_some.mp hAt).2, hId] at hClient
    have hSame := ClientRegistry.heardAt_update hClient
    rw [Option.map_some, Function.update_eq_self_iff.mpr (by rw [ClientRegistry.heardAt, hAt]; rfl)] at hSame
    simp only
    split
    · refine NoneNew.trans (noneNew_of_eq hSame) (noneNew_of_left (disconnect_heardAt (i := i) ?_ ?_))
      · exact h.congr (sameKeys_update hAt hClient rfl rfl) (by simpa using h.indexed.size) rfl rfl rfl rfl
      · simp only
        rw [hClient, Function.update_self]
    · exact noneNew_of_eq hSame

/-- Whoever is new was heard now, and the others stay as they are. -/
def Joins (now : U32) (net net' : NetServer) : Prop :=
  ∀ i, net'.registry.heardAt i = net.registry.heardAt i ∨
    (net.registry.heardAt i = none ∧ net'.registry.heardAt i = some now)

theorem joins_of_eq {now : U32} {net net' : NetServer} (h : net'.registry.heardAt = net.registry.heardAt) :
    Joins now net net' := fun i => Or.inl (congrFun h i)

theorem Joins.trans {now : U32} {net net' net'' : NetServer} (h : Joins now net net') (h' : Joins now net' net'') :
    Joins now net net'' := by
  intro i
  rcases h' i with hSame' | ⟨hNone', hNow'⟩
  · rw [hSame']
    exact h i
  · rcases h i with hSame | ⟨-, hNow⟩
    · exact Or.inr ⟨hSame.symm.trans hNone', hNow'⟩
    · cases hNone'.symm.trans hNow

theorem tryJoin_joins {net : NetServer} (h : Wf net) (env : Env) {fd : Int} (hWatched : net.watched fd = true)
    (name : List U8) : Joins env.now net (net.tryJoin env fd name).1 := by
  have hLive : fd ≠ kFreeFd := by
    have hFd := h.opened fd hWatched
    simp only [kFreeFd]
    omega
  rcases ClientRegistry.add_cases h.indexed.size fd hLive name with
    ⟨registry, hAdd, hClient, -, -⟩ | ⟨i, registry, hAdd, hi, hFree, -, hSlot, -, hClient⟩
  · simp only [tryJoin, hAdd]
    refine joins_of_eq (funext fun j => ?_)
    simp only [ClientRegistry.heardAt, hClient]
  · have hByte : (BitVec.ofNat 8 i).toNat = i := by
      simp only [kMaxPlayers] at hi
      rw [BitVec.toNat_ofNat]
      omega
    have hNone := ClientRegistry.heardAt_eq_none.mpr hFree
    have hAdded := ClientRegistry.heardAt_update hClient
    cases hLobby : net.lobby.addPlayer (BitVec.ofNat 8 i) with
    | mk result lobby =>
      by_cases hOk : result = .ok
      · subst hOk
        simp only [tryJoin, hAdd, hLobby, makeToken]
        have hAt : registry.client (BitVec.ofNat 8 i).toNat =
            some { playerId := BitVec.ofNat 8 i, tcpFd := fd, name } := by
          rw [hByte, hClient, Function.update_self]
        intro j
        simp only
        rw [ClientRegistry.heardAt_setEntry hAt, hByte, hAdded, Function.update_idem]
        · by_cases hj : j = i
          · rw [hj, Function.update_self]
            exact Or.inr ⟨hNone, rfl⟩
          · rw [Function.update_of_ne hj]
            exact Or.inl rfl
        · rfl
      · refine joins_of_eq ?_
        simp only [tryJoin, hAdd, hLobby]
        rw [ClientRegistry.heardAt_update (ClientRegistry.client_remove registry _), hByte, hAdded,
          Function.update_idem, Option.map_none, ← hNone, Function.update_eq_self]

theorem onJoinLobby_joins {net : NetServer} (h : Wf net) (env : Env) {fd : Int} (hWatched : net.watched fd = true)
    (msg : MsgJoinLobby) : Joins env.now net (net.onJoinLobby env fd msg) := by
  rw [onJoinLobby]
  cases hNew : net.registry.findByFd fd with
  | some e => exact joins_of_eq rfl
  | none =>
    have hJoins := tryJoin_joins h env hWatched (nameString msg.name env.behind)
    have hMoves : Moves {} net (net.tryJoin env fd (nameString msg.name env.behind)).1 :=
      (tryJoin_moves h env trivial hWatched hNew _).1
    have hWf := h.moves hMoves
    simp only
    generalize net.tryJoin env fd (nameString msg.name env.behind) = out at hJoins hWf
    obtain ⟨net', accepted, reply⟩ := out
    cases accepted with
    | true => exact hJoins.trans (joins_of_eq (ClientRegistry.heardAt_broadcast hWf.indexed _))
    | false => exact hJoins

theorem onFrame_joins {net : NetServer} (h : Wf net) (env : Env) {fd : Int} (hWatched : net.watched fd = true)
    (f : Frame) : Joins env.now net (net.onFrame env fd f) := by
  rw [onFrame]
  split
  · split
    · exact onJoinLobby_joins h env hWatched _
    · exact joins_of_eq rfl
  · split
    · rw [onStartRequest]
      split
      · exact joins_of_eq rfl
      · split
        · rw [beginMatchAndNotify]
          split
          · exact joins_of_eq rfl
          · exact joins_of_eq (ClientRegistry.heardAt_broadcast h.indexed _)
        · exact joins_of_eq rfl
    · exact joins_of_eq rfl
  · exact joins_of_eq rfl

theorem frames_joins (env : Env) {fd : Int} (frames : List Frame) {net : NetServer} (h : Wf net)
    (hWatched : net.watched fd = true) :
    Wf (frames.foldl (onFrame env fd) net) ∧ Joins env.now net (frames.foldl (onFrame env fd) net) := by
  induction frames generalizing net with
  | nil => exact ⟨h, joins_of_eq rfl⟩
  | cons f frames ih =>
    have hMoves : Moves {} net (net.onFrame env fd f) := onFrame_moves h trivial hWatched (fun _ _ => trivial)
    have hStill := (onFrame_sameInput net env fd f).watched
    obtain ⟨hWf, hRest⟩ := ih (h.moves hMoves) (by rw [hStill]; exact hWatched)
    exact ⟨hWf, (onFrame_joins h env hWatched f).trans hRest⟩

/-- After a readable event every client was there before and heard when it was, or is new and heard now. -/
theorem handleTcpReadable_heard {net : NetServer} (h : Wf net) (env : Env) {fd : Int} (hWatched : net.watched fd = true)
    (recvs : List RecvResult) {i : Nat} {t : U32} (hAt : (net.handleTcpReadable env fd recvs).registry.heardAt i = some t) :
    net.registry.heardAt i = some t ∨ (net.registry.heardAt i = none ∧ t = env.now) := by
  have hFd := h.opened fd hWatched
  have hOf : ∀ {net' : NetServer}, Joins env.now net net' → net'.registry.heardAt i = some t →
      net.registry.heardAt i = some t ∨ (net.registry.heardAt i = none ∧ t = env.now) := by
    intro net' hJoins hSome
    rcases hJoins i with hSame | ⟨hNone, hNow⟩
    · exact Or.inl (hSame.symm.trans hSome)
    · exact Or.inr ⟨hNone, Option.some.inj (hSome.symm.trans hNow)⟩
  rw [handleTcpReadable] at hAt
  split at hAt
  · exact Or.inl (drop_noneNew h hFd i t hAt)
  · rename_i accum hRecv
    obtain ⟨hWf, hJoins⟩ := frames_joins env (deframe kTcpFrameCapBytes accum).frames h hWatched
    simp only at hAt
    split at hAt
    · exact hOf hJoins (drop_noneNew hWf hFd i t hAt)
    · apply hOf hJoins
      cases hEntry : net.registry.findByFd fd with
      | none =>
        rw [hEntry] at hAt
        exact hAt
      | some e =>
        rw [hEntry] at hAt
        exact hAt

/-- What a datagram that presents an id and a token does to the registry. -/
theorem onUdpPacket_cases (net : NetServer) (now : U32) (src : SockAddr) (data : List U8) :
    (presented data = none ∧ net.onUdpPacket now src data = net) ∨
      ∃ id token, presented data = some (id, token) ∧
        ((net.authUdpSender src id token = none ∧ net.onUdpPacket now src data = net) ∨
          ∃ e e', net.authUdpSender src id token = some e ∧ e'.tcpFd = e.tcpFd ∧ e'.lastInputTick = now ∧
            (net.onUdpPacket now src data).registry = net.registry.setEntry id e') := by
  cases hHeader : (decodeUdpHeader ⟨data, false⟩).1 with
  | none =>
    refine Or.inl ⟨?_, ?_⟩
    · simp only [presented, hHeader, Option.bind_none]
    · simp only [onUdpPacket, hHeader]
  | some hdr =>
    simp only [presented, onUdpPacket, hHeader, Option.bind_some]
    cases hType : MessageType.ofCode hdr.type with
    | none => exact Or.inl ⟨rfl, rfl⟩
    | some type =>
      cases type with
      | udpHello =>
        dsimp only
        cases hMsg : (decodeUdpHello ⟨data.drop kUdpHeaderBytes, false⟩).1 with
        | none => exact Or.inl ⟨rfl, rfl⟩
        | some msg =>
          refine Or.inr ⟨msg.playerId, msg.sessionToken, rfl, ?_⟩
          simp only [onUdpHello]
          cases hSender : net.authUdpSender src msg.playerId msg.sessionToken with
          | none => exact Or.inl ⟨rfl, rfl⟩
          | some e =>
            exact Or.inr ⟨e, { e with udpAddr := src, hasUdpAddr := true, lastInputTick := now }, rfl, rfl, rfl, rfl⟩
      | playerInput =>
        dsimp only
        cases hMsg : (decodePlayerInput ⟨data.drop kUdpHeaderBytes, false⟩).1 with
        | none => exact Or.inl ⟨rfl, rfl⟩
        | some msg =>
          refine Or.inr ⟨msg.playerId, msg.sessionToken, rfl, ?_⟩
          simp only [onPlayerInput]
          cases hSender : net.authUdpSender src msg.playerId msg.sessionToken with
          | none => exact Or.inl ⟨rfl, rfl⟩
          | some e => exact Or.inr ⟨e, { e with lastInputTick := now }, rfl, rfl, rfl, rfl⟩
      | _ => exact Or.inl ⟨rfl, rfl⟩

theorem disconnectIf_heardAt {net : NetServer} (h : Wf net) (late : U32 → Bool) (k : Nat) :
    (net.disconnectIf (fun e => late e.lastInputTick) k).registry.heardAt =
      Function.update net.registry.heardAt k ((net.registry.heardAt k).filter fun t => !late t) := by
  rw [disconnectIf]
  cases hEntry : net.registry.storage[k]? with
  | none =>
    have hFree : net.registry.heardAt k = none := by simp [ClientRegistry.heardAt, ClientRegistry.client, hEntry]
    simp only
    rw [hFree, Option.filter_none, ← hFree, Function.update_eq_self]
  | some e =>
    simp only
    by_cases hFree : e.tcpFd < 0
    · have hNone : net.registry.heardAt k = none := by
        rw [ClientRegistry.heardAt_eq_none]
        cases hAt : net.registry.client k with
        | none => rfl
        | some e' =>
          have hSame := (ClientRegistry.client_eq_some.mp hAt).1
          rw [hEntry] at hSame
          cases hSame
          exact absurd (h.indexed.fd k e hAt) (Int.not_le.mpr hFree)
      rw [if_pos hFree, hNone, Option.filter_none, ← hNone, Function.update_eq_self]
    · have hAt : net.registry.client k = some e := by
        refine ClientRegistry.client_eq_some.mpr ⟨hEntry, ?_⟩
        simp only [kFreeFd]
        omega
      have hHeard : net.registry.heardAt k = some e.lastInputTick := by rw [ClientRegistry.heardAt, hAt, Option.map_some]
      have hFind : net.registry.findById e.playerId = some e := by
        rw [ClientRegistry.findById_eq, h.indexed.id k e hAt]
        exact hAt
      rw [if_neg hFree, hFind, hHeard, Option.filter_some]
      cases late e.lastInputTick with
      | true => exact disconnect_heardAt h hAt
      | false => exact (by rw [← hHeard]; exact (Function.update_eq_self k _).symm)

/-- The sweep drops the late ones and no other. -/
theorem disconnectWhere_heardAt {net : NetServer} (h : Wf net) (late : U32 → Bool) (i : Nat) :
    (net.disconnectWhere fun e => late e.lastInputTick).registry.heardAt i =
      (net.registry.heardAt i).filter fun t => !late t := by
  have hSoFar : ∀ n, Wf ((List.range n).foldl (disconnectIf fun e => late e.lastInputTick) net) ∧
      ∀ i, ((List.range n).foldl (disconnectIf fun e => late e.lastInputTick) net).registry.heardAt i =
        if i < n then (net.registry.heardAt i).filter fun t => !late t else net.registry.heardAt i := by
    intro n
    induction n with
    | zero => exact ⟨h, fun i => rfl⟩
    | succ n ih =>
      rw [List.range_succ, List.foldl_append, List.foldl_cons, List.foldl_nil]
      obtain ⟨hWf, hHeard⟩ := ih
      have hMoves : Moves {} _ _ := disconnectIf_moves hWf (fun e => late e.lastInputTick) n
      refine ⟨hWf.moves hMoves, fun i => ?_⟩
      rw [disconnectIf_heardAt hWf]
      by_cases hi : i = n
      · rw [hi, Function.update_self, hHeard, if_neg (Nat.lt_irrefl n), if_pos (Nat.lt_succ_self n)]
      · rw [Function.update_of_ne hi, hHeard]
        by_cases hLt : i < n
        · rw [if_pos hLt, if_pos (by omega)]
        · rw [if_neg hLt, if_neg (by omega)]
  rw [disconnectWhere, (hSoFar _).2]
  split
  · rfl
  · rename_i hOut
    have hNone : net.registry.heardAt i = none := by
      rw [ClientRegistry.heardAt, ClientRegistry.client, List.getElem?_eq_none (by omega)]
      rfl
    rw [hNone, Option.filter_none]

/-- What only a look for silent clients changes, and what nothing does. -/
def settings (net : NetServer) : U32 × U32 := (net.lastSilenceCheckMs, net.udpSilenceMs)

theorem disconnect_settings (net : NetServer) (e : ClientEntry) : (net.disconnect e true).settings = net.settings := by
  rw [disconnect_eq]
  rfl

theorem drop_settings (net : NetServer) (fd : Int) : (net.drop fd).settings = net.settings := by
  rw [drop]
  split
  · exact disconnect_settings _ _
  · rfl

theorem disconnectWhere_settings (net : NetServer) (gone : ClientEntry → Bool) :
    (net.disconnectWhere gone).settings = net.settings := by
  refine Chain.foldl_invariant (I := fun net' : NetServer => net'.settings = net.settings) ?_ _ net rfl
  intro net' k h
  rw [← h, disconnectIf]
  split
  · rfl
  · split
    · rfl
    · split
      · split
        · exact disconnect_settings _ _
        · rfl
      · rfl

theorem tryJoin_settings (net : NetServer) (env : Env) (fd : Int) (name : List U8) :
    (net.tryJoin env fd name).1.settings = net.settings := by
  simp only [tryJoin]
  split
  · rfl
  · split <;> rfl

theorem onJoinLobby_settings (net : NetServer) (env : Env) (fd : Int) (msg : MsgJoinLobby) :
    (net.onJoinLobby env fd msg).settings = net.settings := by
  have hJoin := tryJoin_settings net env fd (nameString msg.name env.behind)
  simp only [onJoinLobby]
  split
  · rfl
  · split <;> (rename_i hOut; rw [hOut] at hJoin; exact hJoin)

theorem onFrame_settings (net : NetServer) (env : Env) (fd : Int) (f : Frame) :
    (net.onFrame env fd f).settings = net.settings := by
  rw [onFrame]
  split
  · split
    · exact onJoinLobby_settings net env fd _
    · rfl
  · split
    · rw [onStartRequest]
      split
      · rfl
      · split
        · rw [beginMatchAndNotify]
          split <;> rfl
        · rfl
    · rfl
  · rfl

theorem handleTcpReadable_settings (net : NetServer) (env : Env) (fd : Int) (recvs : List RecvResult) :
    (net.handleTcpReadable env fd recvs).settings = net.settings := by
  have hFrames : ∀ frames : List Frame, (frames.foldl (onFrame env fd) net).settings = net.settings := by
    intro frames
    refine Chain.foldl_invariant (I := fun net' : NetServer => net'.settings = net.settings) ?_ frames net rfl
    exact fun net' f h => (onFrame_settings net' env fd f).trans h
  rw [handleTcpReadable]
  split
  · exact drop_settings net fd
  · simp only
    split
    · exact (drop_settings _ fd).trans (hFrames _)
    · cases net.registry.findByFd fd with
      | none => exact hFrames _
      | some e => exact hFrames _

theorem flushPending_settings (net : NetServer) (fd : Int) : (net.flushPending fd).settings = net.settings := by
  rw [flushPending]
  split
  · rfl
  · simp only
    split
    · exact disconnect_settings _ _
    · rfl

theorem onUdpPacket_settings (net : NetServer) (now : U32) (src : SockAddr) (data : List U8) :
    (net.onUdpPacket now src data).settings = net.settings := by
  have hHello : ∀ msg, (net.onUdpHello now src msg).settings = net.settings := by
    intro msg
    rw [onUdpHello]
    split <;> rfl
  have hInput : ∀ msg, (net.onPlayerInput now src msg).settings = net.settings := by
    intro msg
    rw [onPlayerInput]
    split <;> rfl
  rw [onUdpPacket]
  split
  · rfl
  · simp only
    split
    · split
      · exact hHello _
      · rfl
    · split
      · exact hInput _
      · rfl
    · rfl

theorem onOutboundEvent_registry {net : NetServer} (h : Wf net) (ev : OutboundEvent) :
    (net.onOutboundEvent ev).registry.heardAt = net.registry.heardAt ∧
      (net.onOutboundEvent ev).settings = net.settings := by
  rw [onOutboundEvent]
  split
  · split
    · exact ⟨rfl, rfl⟩
    · exact ⟨ClientRegistry.heardAt_broadcast h.indexed _, rfl⟩
  · exact ⟨rfl, rfl⟩
  · exact ⟨rfl, rfl⟩

theorem handleWake_heardAt (events : List OutboundEvent) {net : NetServer} (h : Wf net)
    (hFits : ∀ ev ∈ events, ev.payload.length ≤ kPayloadDataBytes) :
    (net.handleWake events).registry.heardAt = net.registry.heardAt ∧
      (net.handleWake events).settings = net.settings := by
  induction events generalizing net with
  | nil => exact ⟨rfl, rfl⟩
  | cons ev events ih =>
    have hFirst : Moves {} net _ := onOutboundEvent_moves h (hFits ev List.mem_cons_self)
    obtain ⟨hHeard, hSettings⟩ := onOutboundEvent_registry h ev
    obtain ⟨hRest, hStill⟩ := ih (h.moves hFirst) fun ev' hMem => hFits ev' (List.mem_cons_of_mem _ hMem)
    exact ⟨hRest.trans hHeard, hStill.trans hSettings⟩

theorem step_settings {net : NetServer} (h : Wf net) {event : Event} (hEnabled : net.Enabled event)
    (hOther : ∀ now, event ≠ .silence now) : (net.step event).settings = net.settings := by
  cases event with
  | accept fd => rfl
  | readable env fd recvs answers => exact handleTcpReadable_settings { net with answers } env fd recvs
  | writable fd answers => exact flushPending_settings { net with answers } fd
  | datagram now src data => exact onUdpPacket_settings net now src data
  | wake events => exact (handleWake_heardAt events h hEnabled).2
  | pendingCap => exact disconnectWhere_settings net _
  | silence now => exact absurd rfl (hOther now)

/-- What a step reads off the clock. -/
def Event.clock : Event → Option U32
  | .readable env _ _ _ => some env.now
  | .datagram now _ _ => some now
  | .silence now => some now
  | _ => none

/-- A client is heard when it joins and when a datagram speaks for it. -/
def Hears (net : NetServer) (event : Event) (i : Nat) : Prop :=
  (net.registry.client i = none ∧ (net.step event).registry.client i ≠ none) ∨
    ∃ now src data id e, event = .datagram now src data ∧ net.SpeaksFor src data id e ∧ id.toNat = i

theorem not_hears_of_kept {net : NetServer} {event : Event} {i : Nat} {t : U32}
    (hNotData : ∀ now src data, event ≠ .datagram now src data) (hAt : net.registry.heardAt i = some t) :
    ¬ net.Hears event i := by
  rintro (⟨hNone, -⟩ | ⟨now, src, data, -, -, hData, -⟩)
  · rw [ClientRegistry.heardAt, hNone] at hAt
    cases hAt
  · exact hNotData now src data hData

theorem datagram_heard {net : NetServer} {now : U32} {src : SockAddr} {data : List U8} {i : Nat} {t : U32}
    (hAt : (net.onUdpPacket now src data).registry.heardAt i = some t) :
    (net.Hears (.datagram now src data) i ∧ t = now) ∨
      (¬ net.Hears (.datagram now src data) i ∧ net.registry.heardAt i = some t) := by
  have hSilent : (∀ id e, net.SpeaksFor src data id e → id.toNat ≠ i) → net.registry.heardAt i = some t →
      ¬ net.Hears (.datagram now src data) i := by
    rintro hOthers hBefore (⟨hNone, -⟩ | ⟨now', src', data', id, e, hData, hSpeaks, hId⟩)
    · rw [ClientRegistry.heardAt, hNone] at hBefore
      cases hBefore
    · cases hData
      exact hOthers id e hSpeaks hId
  rcases net.onUdpPacket_cases now src data with
    ⟨hNothing, hSame⟩ | ⟨id, token, hPresented, ⟨hRefused, hSame⟩ | ⟨e, e', hAuth, hFd, hNow, hEntry⟩⟩
  · rw [hSame] at hAt
    refine Or.inr ⟨hSilent (fun id e hSpeaks => ?_) hAt, hAt⟩
    cases hNothing.symm.trans hSpeaks.1
  · rw [hSame] at hAt
    refine Or.inr ⟨hSilent (fun id' e hSpeaks => ?_) hAt, hAt⟩
    obtain ⟨hSame', hClient, hAddr⟩ := hSpeaks
    cases hPresented.symm.trans hSame'
    cases hRefused.symm.trans (authUdpSender_iff.mpr ⟨hClient, rfl, hAddr⟩)
  · obtain ⟨hClient, rfl, hAddr⟩ := authUdpSender_iff.mp hAuth
    rw [hEntry, ClientRegistry.heardAt_setEntry hClient e' hFd] at hAt
    by_cases hi : i = id.toNat
    · rw [hi, Function.update_self] at hAt
      refine Or.inl ⟨Or.inr ⟨now, src, data, id, e, rfl, ⟨hPresented, hClient, hAddr⟩, hi.symm⟩, ?_⟩
      rw [← hNow]
      exact (Option.some.inj hAt).symm
    · rw [Function.update_of_ne hi] at hAt
      refine Or.inr ⟨hSilent (fun id' e'' hSpeaks => ?_) hAt, hAt⟩
      obtain ⟨rfl, -⟩ := Prod.mk.inj (Option.some.inj (hPresented.symm.trans hSpeaks.1))
      exact Ne.symm hi

/-- Whoever is there after a step is heard in it, or was there before and last heard then. -/
theorem step_heard {net : NetServer} (h : Wf net) {event : Event} (hEnabled : net.Enabled event) {i : Nat} {t : U32}
    (hAt : (net.step event).registry.heardAt i = some t) :
    (net.Hears event i ∧ event.clock = some t) ∨ (¬ net.Hears event i ∧ net.registry.heardAt i = some t) := by
  have hKeep : (∀ now src data, event ≠ .datagram now src data) → NoneNew net (net.step event) →
      (net.Hears event i ∧ event.clock = some t) ∨ (¬ net.Hears event i ∧ net.registry.heardAt i = some t) :=
    fun hNotData hNone => Or.inr ⟨not_hears_of_kept hNotData (hNone i t hAt), hNone i t hAt⟩
  cases event with
  | accept fd => exact hKeep (by simp) (noneNew_of_eq rfl)
  | readable env fd recvs answers =>
    have hWf : Wf { net with answers } := h.congr (.refl _) h.indexed.size rfl rfl rfl rfl
    rcases handleTcpReadable_heard hWf env hEnabled recvs hAt with hBefore | ⟨hNone, rfl⟩
    · exact Or.inr ⟨not_hears_of_kept (by simp) hBefore, hBefore⟩
    · refine Or.inl ⟨Or.inl ⟨ClientRegistry.heardAt_eq_none.mp hNone, fun hGone => ?_⟩, rfl⟩
      rw [ClientRegistry.heardAt, hGone] at hAt
      cases hAt
  | writable fd answers =>
    have hWf : Wf { net with answers } := h.congr (.refl _) h.indexed.size rfl rfl rfl rfl
    exact hKeep (by simp) (flushPending_noneNew hWf (h.opened fd hEnabled))
  | datagram now src data =>
    rcases datagram_heard hAt with ⟨hHears, rfl⟩ | hSilent
    · exact Or.inl ⟨hHears, rfl⟩
    · exact Or.inr hSilent
  | wake events => exact hKeep (by simp) (noneNew_of_eq (handleWake_heardAt events h hEnabled).1)
  | pendingCap => exact hKeep (by simp) (disconnectWhere_noneNew h _)
  | silence now =>
    have hWf : Wf { net with lastSilenceCheckMs := now } := h.congr (.refl _) h.indexed.size rfl rfl rfl rfl
    exact hKeep (by simp) (disconnectWhere_noneNew hWf _)

/-- `check_silence_timeouts` behind its test in the poll loop; `checked` is the clock as it reads it again. -/
def lookForSilent (net : NetServer) (now checked : U32) : NetServer :=
  if (now - net.lastSilenceCheckMs).toNat ≥ kSilenceCheckMs then net.step (.silence checked) else net

/-- Milliseconds since the machine has started, without wrapping. -/
structure Times where
  clock : Nat
  /-- When the client of a slot was last heard. -/
  heard : Nat → Nat
  /-- When the thread last looked for silent clients. -/
  looked : Nat

open Classical in
/-- After a step at the time `later`. -/
noncomputable def Times.after (times : Times) (net : NetServer) (event : Event) (later : Nat) : Times :=
  { times with clock := later, heard := fun i => if net.Hears event i then later else times.heard i }

/-- The network thread in real time. It reads the lowest 32 bits of the clock, and is never held up for so long that
these come round again. -/
inductive Timed : NetServer → Times → Prop where
  | start (udpPort : U16) (udpSilenceMs : U32) (clock : Nat) (heard : Nat → Nat) :
      Timed { udpPort, udpSilenceMs, lastSilenceCheckMs := BitVec.ofNat 32 clock } ⟨clock, heard, clock⟩
  | step {net : NetServer} {times : Times} (h : Timed net times) (event : Event) (later : Nat)
      (hEnabled : net.Enabled event) (hOther : ∀ now, event ≠ .silence now) (hLater : times.clock ≤ later)
      (hClock : ∀ t ∈ event.clock, t = BitVec.ofNat 32 later) : Timed (net.step event) (times.after net event later)
  | look {net : NetServer} {times : Times} (h : Timed net times) (now checked : Nat) (hNow : times.clock ≤ now)
      (hChecked : now ≤ checked) (hSoon : checked + net.udpSilenceMs.toNat < times.looked + 2 ^ 32) :
      Timed (net.lookForSilent (BitVec.ofNat 32 now) (BitVec.ofNat 32 checked))
        { times with clock := checked
                     looked := if times.looked + kSilenceCheckMs ≤ now then checked else times.looked }
  | drained {net : NetServer} {times : Times} (h : Timed net times) (cmds rest : List InboundCommand)
      (hQueue : net.inbound = cmds ++ rest) : Timed { net with inbound := rest } times

/-- What the entries hold is the time in 32 bits, and nobody was late when the thread last looked. -/
structure OnTime (net : NetServer) (times : Times) : Prop where
  wf : Wf net
  looked : net.lastSilenceCheckMs = BitVec.ofNat 32 times.looked
  past : times.looked ≤ times.clock
  heard : ∀ i t, net.registry.heardAt i = some t →
    t = BitVec.ofNat 32 (times.heard i) ∧ times.heard i ≤ times.clock ∧
      times.looked ≤ times.heard i + net.udpSilenceMs.toNat

/-- The difference of two readings is the time between them, unless that is too long for 32 bits. -/
theorem elapsed {before now : Nat} (hPast : before ≤ now) (hNear : now < before + 2 ^ 32) :
    (BitVec.ofNat 32 now - BitVec.ofNat 32 before).toNat = now - before := by
  rw [BitVec.toNat_sub, BitVec.toNat_ofNat, BitVec.toNat_ofNat]
  omega

theorem OnTime.step {net : NetServer} {times : Times} (h : OnTime net times) {event : Event} {later : Nat}
    (hEnabled : net.Enabled event) (hOther : ∀ now, event ≠ .silence now) (hLater : times.clock ≤ later)
    (hClock : ∀ t ∈ event.clock, t = BitVec.ofNat 32 later) : OnTime (net.step event) (times.after net event later) := by
  obtain ⟨hLooked, hSilence⟩ := Prod.mk.inj (step_settings h.wf hEnabled hOther)
  refine ⟨h.wf.moves (step_allMoves h.wf hEnabled), hLooked.trans h.looked, h.past.trans hLater, ?_⟩
  intro i t hAt
  rw [hSilence]
  have hPast := h.past
  simp only [Times.after]
  rcases step_heard h.wf hEnabled hAt with ⟨hHears, hNow⟩ | ⟨hSilent, hBefore⟩
  · rw [if_pos hHears]
    exact ⟨hClock t hNow, Nat.le_refl later, by omega⟩
  · rw [if_neg hSilent]
    obtain ⟨hTime, hClock', hOnTime⟩ := h.heard i t hBefore
    exact ⟨hTime, hClock'.trans hLater, hOnTime⟩

theorem OnTime.look_heard {net : NetServer} {times : Times} (h : OnTime net times) {now checked : Nat}
    (hNow : times.clock ≤ now) (hChecked : now ≤ checked)
    (hSoon : checked + net.udpSilenceMs.toNat < times.looked + 2 ^ 32) (i : Nat) :
    (net.lookForSilent (BitVec.ofNat 32 now) (BitVec.ofNat 32 checked)).registry.heardAt i =
      (net.registry.heardAt i).filter fun _ =>
        decide (now < times.looked + kSilenceCheckMs ∨ checked ≤ times.heard i + net.udpSilenceMs.toNat) := by
  have hPast := h.past
  have hDue : (BitVec.ofNat 32 now - net.lastSilenceCheckMs).toNat = now - times.looked := by
    rw [h.looked]
    exact elapsed (by omega) (by omega)
  rw [lookForSilent, hDue]
  split
  · rename_i hLooks
    have hWf : Wf { net with lastSilenceCheckMs := BitVec.ofNat 32 checked } :=
      h.wf.congr (.refl _) h.wf.indexed.size rfl rfl rfl rfl
    refine (disconnectWhere_heardAt hWf (fun t => decide ((BitVec.ofNat 32 checked - t).toNat > net.udpSilenceMs.toNat))
      i).trans ?_
    simp only
    cases hAt : net.registry.heardAt i with
    | none => rfl
    | some t =>
      obtain ⟨rfl, hClock, hOnTime⟩ := h.heard i t hAt
      rw [Option.filter_some, Option.filter_some, elapsed (by omega) (by omega)]
      congr 1
      rw [eq_iff_iff, Bool.not_eq_true', decide_eq_false_iff_not, decide_eq_true_iff]
      omega
  · rename_i hWaits
    cases net.registry.heardAt i with
    | none => rfl
    | some t =>
      rw [Option.filter_some, if_pos]
      rw [decide_eq_true_iff]
      omega

theorem OnTime.look {net : NetServer} {times : Times} (h : OnTime net times) {now checked : Nat}
    (hNow : times.clock ≤ now) (hChecked : now ≤ checked)
    (hSoon : checked + net.udpSilenceMs.toNat < times.looked + 2 ^ 32) :
    OnTime (net.lookForSilent (BitVec.ofNat 32 now) (BitVec.ofNat 32 checked))
      { times with clock := checked
                   looked := if times.looked + kSilenceCheckMs ≤ now then checked else times.looked } := by
  have hPast := h.past
  have hHeard := h.look_heard hNow hChecked hSoon
  have hDue : (BitVec.ofNat 32 now - net.lastSilenceCheckMs).toNat = now - times.looked := by
    rw [h.looked]
    exact elapsed (by omega) (by omega)
  rw [lookForSilent, hDue] at hHeard ⊢
  by_cases hLooks : now - times.looked ≥ kSilenceCheckMs
  · have hSettings : (net.step (.silence (BitVec.ofNat 32 checked))).settings = (BitVec.ofNat 32 checked, net.udpSilenceMs) :=
      disconnectWhere_settings _ _
    obtain ⟨hLooked, hSilence⟩ := Prod.mk.inj hSettings
    rw [if_pos hLooks] at hHeard ⊢
    rw [if_pos (show times.looked + kSilenceCheckMs ≤ now by omega)]
    refine ⟨h.wf.moves (step_allMoves h.wf trivial), hLooked, Nat.le_refl checked, ?_⟩
    intro i t hAt
    rw [hHeard, Option.filter_eq_some_iff, decide_eq_true_iff] at hAt
    obtain ⟨hTime, hClock, -⟩ := h.heard i t hAt.1
    rw [hSilence]
    exact ⟨hTime, by simp only; omega, by simp only; omega⟩
  · rw [if_neg hLooks, if_neg (show ¬ times.looked + kSilenceCheckMs ≤ now by omega)]
    refine ⟨h.wf, h.looked, by simp only; omega, ?_⟩
    intro i t hAt
    obtain ⟨hTime, hClock, hOnTime⟩ := h.heard i t hAt
    exact ⟨hTime, by simp only; omega, hOnTime⟩

theorem Timed.onTime {net : NetServer} {times : Times} (h : Timed net times) : OnTime net times := by
  induction h with
  | start udpPort udpSilenceMs clock heard =>
    refine ⟨(Wf.started udpPort udpSilenceMs).congr (.refl _) (Nat.zero_le _) rfl rfl rfl rfl, rfl, Nat.le_refl clock, ?_⟩
    intro i t hAt
    cases hAt
  | step h event later hEnabled hOther hLater hClock ih => exact ih.step hEnabled hOther hLater hClock
  | look h now checked hNow hChecked hSoon ih => exact ih.look hNow hChecked hSoon
  | drained h cmds rest hQueue ih => exact ⟨{ ih.wf with }, ih.looked, ih.past, ih.heard⟩

/-- The end of a turn of the poll loop looks for silent clients after it has dropped the slow ones. -/
theorem sweep_net (loop : PollLoop) (now checked : U32) :
    (loop.sweep now checked).net = (loop.net.step .pendingCap).lookForSilent now checked := by
  rw [PollLoop.sweep]
  exact apply_ite PollLoop.net _ _ _

/-- In every run, whatever the 32-bit clock has wrapped around meanwhile, a turn of the loop drops for silence exactly the
clients that have been silent for too long when it looks, and leaves none that has been so for a whole pause between
two looks. -/
theorem silent_dropped {net : NetServer} {times : Times} (h : Timed net times) {now checked : Nat}
    (hNow : times.clock ≤ now) (hChecked : now ≤ checked)
    (hSoon : checked + net.udpSilenceMs.toNat < times.looked + 2 ^ 32) {i : Nat}
    (hThere : (net.registry.client i).isSome = true) :
    let after := net.lookForSilent (BitVec.ofNat 32 now) (BitVec.ofNat 32 checked)
    (after.registry.client i = none ↔
      times.looked + kSilenceCheckMs ≤ now ∧ times.heard i + net.udpSilenceMs.toNat < checked) ∧
    ((after.registry.client i).isSome = true → now < times.heard i + net.udpSilenceMs.toNat + kSilenceCheckMs) := by
  have hOnTime := h.onTime
  have hHeard := hOnTime.look_heard hNow hChecked hSoon i
  obtain ⟨e, hAt⟩ := Option.isSome_iff_exists.mp hThere
  have hBefore : net.registry.heardAt i = some e.lastInputTick := by rw [ClientRegistry.heardAt, hAt, Option.map_some]
  obtain ⟨-, -, hRecent⟩ := hOnTime.heard i _ hBefore
  rw [hBefore, Option.filter_some] at hHeard
  intro after
  have hDropped : after.registry.client i = none ↔
      ¬ (now < times.looked + kSilenceCheckMs ∨ checked ≤ times.heard i + net.udpSilenceMs.toNat) := by
    rw [← ClientRegistry.heardAt_eq_none, hHeard]
    split
    · rename_i hStays
      exact ⟨fun hSome => (by cases hSome), fun hNot => absurd (of_decide_eq_true hStays) hNot⟩
    · rename_i hGoes
      exact ⟨fun _ hStays => hGoes (decide_eq_true hStays), fun _ => rfl⟩
  constructor
  · rw [hDropped]
    omega
  · intro hSome
    have hStays : ¬ after.registry.client i = none := by
      intro hNone
      rw [hNone] at hSome
      cases hSome
    rw [hDropped, Classical.not_not] at hStays
    have hPause : 0 < kSilenceCheckMs := by decide
    omega

/-- A connection shortly before the 32-bit clock wraps around. -/
def lateOpened : NetServer :=
  ({ udpPort := 9, udpSilenceMs := 3000, lastSilenceCheckMs := BitVec.ofNat 32 4294966000 } : NetServer).step (.accept 7)

def lateJoin : Event := .readable { now := BitVec.ofNat 32 4294966400 } 7 [.got (encode joinFrame)] [.sent 100]

/-- The clock has wrapped around between the join and the looks: too early the client stays, and then it goes. -/
theorem silent_dropped_wrapped :
    ((lateOpened.step lateJoin).lookForSilent (BitVec.ofNat 32 4294969300) (BitVec.ofNat 32 4294969301)).registry.client 0 ≠
        none ∧
      ((lateOpened.step lateJoin).lookForSilent (BitVec.ofNat 32 4294969500) (BitVec.ofNat 32 4294969501)).registry.client 0 =
        none := by
  have hStart := Timed.start 9 3000 4294966000 (fun _ => 0)
  have hOpened : Timed lateOpened _ :=
    hStart.step (.accept 7) 4294966200 ⟨by decide, rfl⟩ (by simp) (by decide) (by simp [Event.clock])
  have hOpen : lateOpened.watched 7 = true := by decide +kernel
  have hJoined := hOpened.step lateJoin 4294966400 hOpen (by simp [lateJoin]) (by decide) (by simp [lateJoin, Event.clock])
  have hThere : ((lateOpened.step lateJoin).registry.client 0).isSome = true := by decide +kernel
  have hHeard : lateOpened.Hears lateJoin 0 := Or.inl ⟨rfl, Option.isSome_iff_ne_none.mp hThere⟩
  have hEarly := (@silent_dropped _ _ hJoined 4294969300 4294969301 (by decide) (by decide) (by decide +kernel) 0 hThere).1
  have hLate := (@silent_dropped _ _ hJoined 4294969500 4294969501 (by decide) (by decide) (by decide +kernel) 0 hThere).1
  have hSilence : (lateOpened.step lateJoin).udpSilenceMs = 3000 := by decide +kernel
  simp only [Times.after, if_pos hHeard, hSilence] at hEarly hLate
  exact ⟨fun hGone => absurd (hEarly.mp hGone).2 (by decide), hLate.mpr ⟨by decide, by decide⟩⟩

end NetServer
end CaptureTheFlag
