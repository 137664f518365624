import CaptureTheFlag.Server.UdpAuth
import CaptureTheFlag.Shared.MessageBytes

/-! # A client whose UDP socket rebinds

UDP_HELLO and PLAYER_INPUT pass the same check, and that check insists on the address a client is bound to already.
So a hello binds a client that has no address yet, and moves none that has one.
-/
namespace CaptureTheFlag
set_option autoImplicit false
open Protocol Framing

namespace NetServer

/-- What the packets of a client are checked against. -/
def binding (e : ClientEntry) : U32 × Bool × SockAddr := (e.sessionToken, e.hasUdpAddr, e.udpAddr)

def BoundTo (net : NetServer) (id : U8) (token : U32) (src : SockAddr) : Prop :=
  (net.registry.client id.toNat).map binding = some (token, true, src)

instance (net : NetServer) (id : U8) (token : U32) (src : SockAddr) : Decidable (net.BoundTo id token src) :=
  inferInstanceAs (Decidable (_ = _))

/-- The client in slot `i` is gone, or bound as before. -/
def Keeps (i : Nat) (r r' : ClientRegistry) : Prop :=
  r'.client i = none ∨ (r'.client i).map binding = (r.client i).map binding

theorem Keeps.refl (i : Nat) (r : ClientRegistry) : Keeps i r r := Or.inr rfl

theorem Keeps.trans {i : Nat} {r r' r'' : ClientRegistry} (h : Keeps i r r') (h' : Keeps i r' r'') : Keeps i r r'' := by
  rcases h' with hGone | hSame
  · exact Or.inl hGone
  · rcases h with hGone | hSame'
    · rw [hGone, Option.map_none, Option.map_eq_none_iff] at hSame
      exact Or.inl hSame
    · exact Or.inr (hSame.trans hSame')

theorem binding_broadcast {r : ClientRegistry} (h : r.Indexed) (payload : List U8) (i : Nat) :
    ((r.broadcastTcpEvent payload).client i).map binding = (r.client i).map binding := by
  rw [ClientRegistry.client_broadcastTcpEvent h, Option.map_map]
  rfl

theorem binding_setEntry {r : ClientRegistry} {id : U8} {e e' : ClientEntry} (hAt : r.client id.toNat = some e)
    (hFd : e'.tcpFd = e.tcpFd) {i : Nat} (hSame : i = id.toNat → binding e' = binding e) :
    ((r.setEntry id e').client i).map binding = (r.client i).map binding := by
  have hLive : e'.tcpFd ≠ kFreeFd := by
    rw [hFd]
    exact (ClientRegistry.client_eq_some.mp hAt).2
  rw [ClientRegistry.client_setEntry e' (ClientRegistry.client_lt hAt), if_neg hLive]
  by_cases hi : i = id.toNat
  · rw [hi, Function.update_self, hAt, Option.map_some, Option.map_some, hSame hi]
  · rw [Function.update_of_ne hi]

theorem keeps_disconnect {net : NetServer} (h : Wf net) {j : Nat} {e : ClientEntry}
    (hAt : net.registry.client j = some e) (i : Nat) : Keeps i net.registry (net.disconnect e true).registry := by
  have hId := h.indexed.id j e hAt
  have hSlot : e.playerId.toNat < net.registry.storage.length := by
    rw [hId]
    exact ClientRegistry.client_lt hAt
  have hClient : ((net.registry.setEntry e.playerId { e with tcpFd := kFreeFd }).remove e.playerId).client =
      Function.update net.registry.client j none := by
    rw [ClientRegistry.client_remove, ClientRegistry.client_setEntry _ hSlot, Function.update_idem, hId]
  have hLeave : Move {} net _ := Move.leave j e _ hAt hClient (by simpa using h.indexed.size)
  have hAfter : ((net.disconnect e true).registry.client i).map binding =
      (Function.update net.registry.client j none i).map binding := by
    rw [disconnect_eq, ← hClient]
    exact binding_broadcast (h.move hLeave).indexed _ i
  by_cases hi : i = j
  · rw [hi, Function.update_self, Option.map_none, Option.map_eq_none_iff] at hAfter
    rw [hi]
    exact Or.inl hAfter
  · rw [Function.update_of_ne hi] at hAfter
    exact Or.inr hAfter

theorem keeps_drop {net : NetServer} (h : Wf net) {fd : Int} (hFd : 0 ≤ fd) (i : Nat) :
    Keeps i net.registry (net.drop fd).registry := by
  rw [drop]
  cases hFind : net.registry.findByFd fd with
  | none => exact Keeps.refl i _
  | some e =>
    obtain ⟨-, j, hAt⟩ := ClientRegistry.findByFd_some hFd hFind
    exact keeps_disconnect h hAt i

theorem keeps_disconnectIf {net : NetServer} (h : Wf net) (gone : ClientEntry → Bool) (j i : Nat) :
    Keeps i net.registry (net.disconnectIf gone j).registry := by
  rw [disconnectIf]
  split
  · exact Keeps.refl i _
  · split
    · exact Keeps.refl i _
    · split
      · split
        · rename_i e hFind
          exact keeps_disconnect h hFind i
        · exact Keeps.refl i _
      · exact Keeps.refl i _

theorem keeps_disconnectWhere {net : NetServer} (h : Wf net) (gone : ClientEntry → Bool) (i : Nat) :
    Keeps i net.registry (net.disconnectWhere gone).registry := by
  refine (Chain.foldl_invariant (I := fun net' => Wf net' ∧ Keeps i net.registry net'.registry) ?_ _ net
    ⟨h, Keeps.refl i _⟩).2
  rintro net' j ⟨hWf, hSoFar⟩
  have hMoves : Moves {} net' (net'.disconnectIf gone j) := disconnectIf_moves hWf gone j
  exact ⟨hWf.moves hMoves, hSoFar.trans (keeps_disconnectIf hWf gone j i)⟩

theorem keeps_flushPending {net : NetServer} (h : Wf net) {fd : Int} (hFd : 0 ≤ fd) (i : Nat) :
    Keeps i net.registry (net.flushPending fd).registry := by
  rw [flushPending]
  cases hFind : net.registry.findByFd fd with
  | none => exact Keeps.refl i _
  | some e =>
    obtain ⟨rfl, j, hAt⟩ := ClientRegistry.findByFd_some hFd hFind
    obtain rfl := h.indexed.id j e hAt
    have hClient := ClientRegistry.client_setEntry
      { e with pendingOut := e.pendingOut.drop (sendLoop net.answers e.pendingOut).sent } (ClientRegistry.client_lt hAt)
    rw [if_neg (ClientRegistry.client_eq_some.mp hAt).2] at hClient
    have hFlush : Move {} net _ := Move.flush _ e (sendLoop net.answers e.pendingOut).sent _
      (sendLoop net.answers e.pendingOut).answers hAt hClient (by simpa using h.indexed.size)
    have hSame : Keeps i net.registry (net.registry.setEntry e.playerId
        { e with pendingOut := e.pendingOut.drop (sendLoop net.answers e.pendingOut).sent }) := by
      right
      apply binding_setEntry hAt
      · rfl
      · exact fun _ => rfl
    simp only
    split
    · refine hSame.trans (keeps_disconnect (j := e.playerId.toNat) (h.move hFlush) ?_ i)
      simp only
      rw [hClient, Function.update_self]
    · exact hSame

theorem binding_onJoinLobby {net : NetServer} (h : Wf net) (env : Env) {fd : Int} (hWatched : net.watched fd = true)
    (msg : MsgJoinLobby) {i : Nat} (hLive : (net.registry.client i).isSome = true) :
    ((net.onJoinLobby env fd msg).registry.client i).map binding = (net.registry.client i).map binding := by
  rw [onJoinLobby]
  cases hNew : net.registry.findByFd fd with
  | some e => rfl
  | none =>
    rcases tryJoin_cases h env hWatched (nameString msg.name env.behind) with
      ⟨-, registry, reason, hSame, hClient, -⟩ |
      ⟨-, j, e, registry, lobby, hSame, rfl, hId, -, -, hFree, -, hClient, hSize, hLobby⟩
    · simp only [hSame, sendFrameGeneric]
      rw [hClient]
    · simp only [hSame]
      have hEntered := h.enter (net.tokenCounter + 1) (h.opened _ hWatched) hWatched hNew hFree hId hClient hSize hLobby
      refine (binding_broadcast hEntered.indexed _ i).trans ?_
      have hi : i ≠ j := by
        rintro rfl
        rw [hFree] at hLive
        cases hLive
      simp only
      rw [hClient, Function.update_of_ne hi]

theorem binding_onFrame {net : NetServer} (h : Wf net) (env : Env) {fd : Int} (hWatched : net.watched fd = true)
    (f : Frame) {i : Nat} (hLive : (net.registry.client i).isSome = true) :
    ((net.onFrame env fd f).registry.client i).map binding = (net.registry.client i).map binding := by
  rw [onFrame]
  split
  · split
    · exact binding_onJoinLobby h env hWatched _ hLive
    · rfl
  · split
    · rw [onStartRequest]
      split
      · rfl
      · split
        · rw [beginMatchAndNotify]
          split
          · rfl
          · exact binding_broadcast h.indexed _ i
        · rfl
    · rfl
  · rfl

theorem binding_frames (env : Env) {fd : Int} (frames : List Frame) {net : NetServer} (h : Wf net)
    (hWatched : net.watched fd = true) {i : Nat} (hLive : (net.registry.client i).isSome = true) :
    ((frames.foldl (onFrame env fd) net).registry.client i).map binding = (net.registry.client i).map binding := by
  induction frames generalizing net with
  | nil => rfl
  | cons f frames ih =>
    have hFirst := binding_onFrame h env hWatched f hLive
    have hMoves : Moves {} net (net.onFrame env fd f) := onFrame_moves h trivial hWatched (fun _ _ => trivial)
    refine (ih (h.moves hMoves) ?_ ?_).trans hFirst
    · rw [(onFrame_sameInput net env fd f).watched]
      exact hWatched
    · have hSome := congrArg Option.isSome hFirst
      rw [Option.isSome_map, Option.isSome_map] at hSome
      exact hSome.trans hLive

theorem keeps_handleTcpReadable {net : NetServer} (h : Wf net) (env : Env) {fd : Int} (hWatched : net.watched fd = true)
    (recvs : List RecvResult) {i : Nat} (hLive : (net.registry.client i).isSome = true) :
    Keeps i net.registry (net.handleTcpReadable env fd recvs).registry := by
  have hFd := h.opened fd hWatched
  rw [handleTcpReadable]
  split
  · exact keeps_drop h hFd i
  · rename_i accum hRecv
    have hServed := binding_frames env (deframe kTcpFrameCapBytes accum).frames h hWatched hLive
    have hMoves : Moves {} net ((deframe kTcpFrameCapBytes accum).frames.foldl (onFrame env fd) net) :=
      frames_moves trivial _ h hWatched (allAllowed_any (fun _ _ _ => trivial) env fd _ net)
    simp only
    split
    · exact (show Keeps i net.registry _ from Or.inr hServed).trans (keeps_drop (h.moves hMoves) hFd i)
    · cases net.registry.findByFd fd with
      | none => exact Or.inr hServed
      | some e => exact Or.inr hServed

def helloIn (data : List U8) : Option MsgUdpHello :=
  (decodeUdpHeader ⟨data, false⟩).1.bind fun hdr =>
    if MessageType.ofCode hdr.type = some .udpHello then (decodeUdpHello ⟨data.drop kUdpHeaderBytes, false⟩).1 else none

def inputIn (data : List U8) : Option MsgPlayerInput :=
  (decodeUdpHeader ⟨data, false⟩).1.bind fun hdr =>
    if MessageType.ofCode hdr.type = some .playerInput then (decodePlayerInput ⟨data.drop kUdpHeaderBytes, false⟩).1
    else none

theorem onUdpPacket_hello {data : List U8} {msg : MsgUdpHello} (h : helloIn data = some msg) (net : NetServer) (now : U32)
    (src : SockAddr) : net.onUdpPacket now src data = net.onUdpHello now src msg := by
  obtain ⟨hdr, hHeader, hBody⟩ := Option.bind_eq_some_iff.mp h
  by_cases hType : MessageType.ofCode hdr.type = some .udpHello
  · rw [if_pos hType] at hBody
    simp only [onUdpPacket, hHeader, hType, hBody]
  · rw [if_neg hType] at hBody
    cases hBody

theorem onUdpPacket_inputIn {data : List U8} {msg : MsgPlayerInput} (h : inputIn data = some msg) (net : NetServer)
    (now : U32) (src : SockAddr) : net.onUdpPacket now src data = net.onPlayerInput now src msg := by
  obtain ⟨hdr, hHeader, hBody⟩ := Option.bind_eq_some_iff.mp h
  by_cases hType : MessageType.ofCode hdr.type = some .playerInput
  · rw [if_pos hType] at hBody
    simp only [onUdpPacket, hHeader, hType, hBody]
  · rw [if_neg hType] at hBody
    cases hBody

theorem BoundTo.entry {net : NetServer} {id : U8} {token : U32} {src : SockAddr} (h : BoundTo net id token src) :
    ∃ e, net.registry.client id.toNat = some e ∧ e.sessionToken = token ∧ e.hasUdpAddr = true ∧ e.udpAddr = src := by
  obtain ⟨e, hAt, hBinding⟩ := Option.map_eq_some_iff.mp h
  obtain ⟨hToken, hRest⟩ := Prod.mk.inj hBinding
  exact ⟨e, hAt, hToken, Prod.mk.inj hRest⟩

/-- Whoever passes the check for a bound client sends from its address. -/
theorem BoundTo.setEntry {net : NetServer} {id : U8} {token : U32} {src : SockAddr} (h : BoundTo net id token src)
    {sender : SockAddr} {id' : U8} {token' : U32} {e e' : ClientEntry}
    (hAuth : net.authUdpSender sender id' token' = some e) (hFd : e'.tcpFd = e.tcpFd)
    (hToken : e'.sessionToken = e.sessionToken)
    (hAddr : e'.hasUdpAddr = e.hasUdpAddr ∧ e'.udpAddr = e.udpAddr ∨ e'.hasUdpAddr = true ∧ e'.udpAddr = sender) :
    ((net.registry.setEntry id' e').client id.toNat).map binding = some (token, true, src) := by
  obtain ⟨hAt, -, hFrom⟩ := authUdpSender_iff.mp hAuth
  refine (binding_setEntry hAt hFd ?_).trans h
  intro hSlot
  obtain ⟨bound, hBound, -, hHas, -⟩ := h.entry
  rw [hSlot, hAt] at hBound
  cases hBound
  rw [binding, binding, hToken]
  rcases hAddr with ⟨hHas', hAddr'⟩ | ⟨hHas', hAddr'⟩
  · rw [hHas', hAddr']
  · rw [hHas', hAddr', hHas, hFrom hHas]

theorem BoundTo.datagram {net : NetServer} {id : U8} {token : U32} {src : SockAddr} (h : BoundTo net id token src)
    (now : U32) (sender : SockAddr) (data : List U8) : BoundTo (net.onUdpPacket now sender data) id token src := by
  rw [onUdpPacket]
  split
  · exact h
  · simp only
    split
    · split
      · rw [onUdpHello]
        split
        · exact h
        · rename_i e hAuth
          exact h.setEntry hAuth rfl rfl (Or.inr ⟨rfl, rfl⟩)
      · exact h
    · split
      · rw [onPlayerInput]
        split
        · exact h
        · rename_i e hAuth
          exact h.setEntry hAuth rfl rfl (Or.inl ⟨rfl, rfl⟩)
      · exact h
    · exact h

theorem BoundTo.keeps {net net' : NetServer} {id : U8} {token : U32} {src : SockAddr} (h : BoundTo net id token src)
    (hKeeps : Keeps id.toNat net.registry net'.registry) (hStays : (net'.registry.client id.toNat).isSome = true) :
    BoundTo net' id token src := by
  rcases hKeeps with hGone | hSame
  · rw [hGone] at hStays
    cases hStays
  · exact hSame.trans h

theorem binding_handleWake (events : List OutboundEvent) {net : NetServer} (h : Wf net)
    (hFits : ∀ ev ∈ events, ev.payload.length ≤ kPayloadDataBytes) (i : Nat) :
    ((net.handleWake events).registry.client i).map binding = (net.registry.client i).map binding := by
  rw [handleWake]
  induction events generalizing net with
  | nil => rfl
  | cons ev events ih =>
    have hMoves : Moves {} net (net.onOutboundEvent ev) := onOutboundEvent_moves h (hFits ev List.mem_cons_self)
    rw [List.foldl_cons]
    refine (ih (h.moves hMoves) fun ev' hMem => hFits ev' (List.mem_cons_of_mem _ hMem)).trans ?_
    rw [onOutboundEvent]
    split
    · split
      · rfl
      · exact binding_broadcast h.indexed _ i
    · rfl
    · rfl

theorem BoundTo.step {net : NetServer} {id : U8} {token : U32} {src : SockAddr} (h : BoundTo net id token src)
    (hWf : Wf net) {event : Event} (hEnabled : net.Enabled event)
    (hStays : ((net.step event).registry.client id.toNat).isSome = true) : BoundTo (net.step event) id token src := by
  have hLive : (net.registry.client id.toNat).isSome = true := by
    obtain ⟨e, hAt, -⟩ := h.entry
    rw [hAt]
    rfl
  cases event with
  | accept fd => exact h
  | readable env fd recvs answers =>
    have hSends : Move {} net _ := sends_move hWf net.lastSilenceCheckMs answers net.datagrams
    exact h.keeps (keeps_handleTcpReadable (hWf.move hSends) env hEnabled recvs hLive) hStays
  | writable fd answers =>
    have hSends : Move {} net _ := sends_move hWf net.lastSilenceCheckMs answers net.datagrams
    exact h.keeps (keeps_flushPending (hWf.move hSends) (hWf.opened fd hEnabled) _) hStays
  | datagram now sender data => exact h.datagram now sender data
  | wake events => exact (binding_handleWake events hWf hEnabled _).trans h
  | pendingCap => exact h.keeps (keeps_disconnectWhere hWf _ _) hStays
  | silence now =>
    have hSends : Move {} net _ := sends_move hWf now net.answers net.datagrams
    exact h.keeps (keeps_disconnectWhere (hWf.move hSends) _ _) hStays

/-- What the server can come to while the client with that id stays connected. -/
inductive Following (id : U8) (net : NetServer) : NetServer → Prop where
  | refl : Following id net net
  | step {later : NetServer} (h : Following id net later) (event : Event) (hEnabled : later.Enabled event)
      (hStays : ((later.step event).registry.client id.toNat).isSome = true) : Following id net (later.step event)
  | drained {later : NetServer} (h : Following id net later) (cmds rest : List InboundCommand)
      (hQueue : later.inbound = cmds ++ rest) : Following id net { later with inbound := rest }

theorem BoundTo.following {net later : NetServer} {id : U8} {token : U32} {src : SockAddr}
    (h : BoundTo net id token src) (hWf : Wf net) (hLater : Following id net later) :
    Wf later ∧ BoundTo later id token src := by
  induction hLater with
  | refl => exact ⟨hWf, h⟩
  | step _ event hEnabled hStays ih =>
    exact ⟨ih.1.moves (step_allMoves ih.1 hEnabled), ih.2.step ih.1 hEnabled hStays⟩
  | drained _ cmds rest hQueue ih => exact ⟨{ ih.1 with }, ih.2⟩

/-- Where the snapshots for one client go. -/
def snapshotTargets (net : NetServer) (ev : OutboundEvent) (id : U8) : List SockAddr :=
  ((net.registry.sendSnapshotEvent ev).filter fun d => d.1.playerId = id).map fun d => d.1.udpAddr

/-- `send_udp_snapshots` sends no body without an ack field and none beyond its buffer. -/
def Sendable (ev : OutboundEvent) : Prop :=
  ev.isSnapshot = true ∧ 4 ≤ ev.payload.length ∧ kUdpHeaderBytes + ev.payload.length ≤ kDatagramBytes

theorem live_filter_id {r : ClientRegistry} (h : r.Indexed) {id : U8} {e : ClientEntry}
    (hAt : r.client id.toNat = some e) : (r.live.filter fun e' => e'.playerId = id) = [e] := by
  have hId : e.playerId = id := BitVec.eq_of_toNat_eq (h.id _ _ hAt)
  obtain ⟨before, after, hLive⟩ := List.append_of_mem (h.mem_live hAt)
  have hNodup := h.live_ids_nodup
  rw [hLive, List.map_append, List.map_cons, List.nodup_append] at hNodup
  obtain ⟨-, hAfter, hApart⟩ := hNodup
  have hNone : ∀ es : List ClientEntry, (∀ e' ∈ es, e'.playerId ≠ e.playerId) →
      (es.filter fun e' => e'.playerId = id) = [] := by
    intro es hOthers
    rw [List.filter_eq_nil_iff]
    intro e' hMem hSame
    exact hOthers e' hMem ((of_decide_eq_true hSame).trans hId.symm)
  rw [hLive, List.filter_append, List.filter_cons_of_pos (by rw [hId]; exact decide_eq_true rfl), hNone before, hNone after,
    List.nil_append]
  · intro e' hMem hSame
    exact (List.nodup_cons.mp hAfter).1 (List.mem_map.mpr ⟨e', hMem, hSame⟩)
  · intro e' hMem hSame
    exact hApart _ (List.mem_map_of_mem hMem) _ List.mem_cons_self hSame

theorem sendUdpSnapshots_targets {r : ClientRegistry} (h : r.Indexed) {id : U8} {e : ClientEntry}
    (hAt : r.client id.toNat = some e) (hHas : e.hasUdpAddr = true) {body : List U8}
    (hFits : 4 ≤ body.length ∧ kUdpHeaderBytes + body.length ≤ kDatagramBytes) (acks : Fin kMaxPlayers → U32) (tick : U32)
    (type : U8) :
    ((r.sendUdpSnapshots body acks tick type).filter fun d => d.1.playerId = id).map (fun d => d.1.udpAddr) =
      [e.udpAddr] := by
  have hSent : ∀ es : List ClientEntry, (∀ e' ∈ es, r.findById e'.playerId = some e') →
      ((es.filterMap fun entry =>
        if entry.hasUdpAddr then
          (r.findById entry.playerId).map fun e =>
            (e, ClientRegistry.snapshotDatagram body (ClientRegistry.ackOf acks e.playerId) tick type)
        else none).filter fun d => d.1.playerId = id).map (fun d => d.1.udpAddr) =
      ((es.filter fun e' => e'.playerId = id).filter (·.hasUdpAddr)).map (·.udpAddr) := by
    intro es hFound
    induction es with
    | nil => rfl
    | cons e' es ih =>
      have hRest := ih fun e'' hMem => hFound e'' (List.mem_cons_of_mem _ hMem)
      rw [List.filterMap_cons, hFound e' List.mem_cons_self]
      by_cases hHas' : e'.hasUdpAddr = true
      · by_cases hOwn : e'.playerId = id
        · simp only [hHas', if_true, Option.map_some, hOwn, decide_true, List.filter_cons_of_pos, List.map_cons, hRest]
        · simp only [hHas', if_true, Option.map_some, hOwn, decide_false, Bool.false_eq_true, not_false_eq_true,
            List.filter_cons_of_neg, hRest]
      · by_cases hOwn : e'.playerId = id
        · simp only [hHas', Bool.false_eq_true, if_false, hOwn, decide_true, List.filter_cons_of_pos, not_false_eq_true,
            List.filter_cons_of_neg, hRest]
        · simp only [hHas', Bool.false_eq_true, if_false, hOwn, decide_false, not_false_eq_true,
            List.filter_cons_of_neg, hRest]
  have hShort : ¬ (body.length < 4 ∨ kUdpHeaderBytes + body.length > kDatagramBytes) := by
    omega
  rw [ClientRegistry.sendUdpSnapshots, if_neg hShort, hSent, live_filter_id h hAt,
    List.filter_cons_of_pos hHas, List.filter_nil, List.map_singleton]
  intro e' hMem
  obtain ⟨i, hClient⟩ := ClientRegistry.mem_live hMem
  rw [ClientRegistry.findById_eq, h.id i e' hClient]
  exact hClient

theorem BoundTo.snapshotTargets {net : NetServer} {id : U8} {token : U32} {src : SockAddr} (h : BoundTo net id token src)
    (hWf : Wf net) {ev : OutboundEvent} (hSendable : Sendable ev) : net.snapshotTargets ev id = [src] := by
  obtain ⟨e, hAt, -, hHas, hAddr⟩ := h.entry
  obtain ⟨hSnapshot, hFits⟩ := hSendable
  have hTargets := sendUdpSnapshots_targets hWf.indexed hAt hHas hFits ev.acks ev.tick
  rw [NetServer.snapshotTargets, ClientRegistry.sendSnapshotEvent, ← hAddr]
  split
  · exact hTargets _
  · exact hTargets _
  · rename_i hSnap hDelta
    rw [OutboundEvent.isSnapshot] at hSnapshot
    cases hType : ev.type with
    | udpSnapshot => exact absurd hType hSnap
    | udpDeltaSnapshot => exact absurd hType hDelta
    | tcpBroadcast =>
      rw [hType] at hSnapshot
      cases hSnapshot
    | udpEvent =>
      rw [hType] at hSnapshot
      cases hSnapshot

/-- The client `e`, once bound, as it was before its hello from `src`: everything moves over to that address, for as
long as the client stays. -/
structure Recovers (id : U8) (e : ClientEntry) (src : SockAddr) (net : NetServer) : Prop where
  bound : BoundTo net id e.sessionToken src
  inputs : ∀ later, Following id net later → ∀ now data msg, inputIn data = some msg → msg.playerId = id →
    msg.sessionToken = e.sessionToken → (later.onUdpPacket now src data).inbound = later.inbound ++ inputCommands msg
  snapshots : ∀ later, Following id net later → ∀ ev, Sendable ev → later.snapshotTargets ev id = [src]
  previous : ∀ later, Following id net later → e.hasUdpAddr = true → e.udpAddr ≠ src →
    ∀ now data, presented data = some (id, e.sessionToken) → later.onUdpPacket now e.udpAddr data = later

theorem BoundTo.recovers {net : NetServer} {id : U8} {e : ClientEntry} {src : SockAddr}
    (h : BoundTo net id e.sessionToken src) (hWf : Wf net) : Recovers id e src net := by
  refine ⟨h, ?_, ?_, ?_⟩
  · rintro later hLater now data msg hData rfl hToken
    obtain ⟨e', hAt, hToken', -, hAddr⟩ := (h.following hWf hLater).2.entry
    have hAuth : later.authUdpSender src msg.playerId msg.sessionToken = some e' :=
      authUdpSender_iff.mpr ⟨hAt, hToken'.trans hToken.symm, fun _ => hAddr⟩
    rw [onUdpPacket_inputIn hData]
    simp only [onPlayerInput, hAuth]
  · intro later hLater ev hSendable
    obtain ⟨hWf', hBound⟩ := h.following hWf hLater
    exact hBound.snapshotTargets hWf' hSendable
  · intro later hLater hHas hMoved now data hPresented
    obtain ⟨e', hAt, -, hHas', hAddr⟩ := (h.following hWf hLater).2.entry
    apply (datagram_effect later now e.udpAddr data).1
    rintro id' speaker ⟨hSame, hSpeaker, hFrom⟩
    obtain ⟨rfl, -⟩ := Prod.mk.inj (Option.some.inj (hPresented.symm.trans hSame))
    rw [hAt] at hSpeaker
    cases hSpeaker
    exact hMoved ((hFrom hHas').symm.trans hAddr)

/-- A hello from an address moves the client there exactly if the client is not bound to another one. -/
theorem hello_recovers_iff {net : NetServer} (h : Reachable net) {id : U8} {e : ClientEntry}
    (hAt : net.registry.client id.toNat = some e) {data : List U8} (hHello : helloIn data = some ⟨id, e.sessionToken⟩)
    (now : U32) (src : SockAddr) :
    Recovers id e src (net.onUdpPacket now src data) ↔ (e.hasUdpAddr = true → e.udpAddr = src) := by
  rw [onUdpPacket_hello hHello, onUdpHello]
  constructor
  · intro hRecovers hHas
    by_contra hMoved
    have hRefused : net.authUdpSender src id e.sessionToken = none := by
      rw [Option.eq_none_iff_forall_ne_some]
      intro speaker hAuth
      obtain ⟨hSpeaker, -, hFrom⟩ := authUdpSender_iff.mp hAuth
      rw [hAt] at hSpeaker
      cases hSpeaker
      exact hMoved (hFrom hHas)
    simp only [hRefused] at hRecovers
    obtain ⟨e', hAt', -, -, hAddr⟩ := hRecovers.bound.entry
    rw [hAt] at hAt'
    cases hAt'
    exact hMoved hAddr
  · intro hFree
    have hAuth : net.authUdpSender src id e.sessionToken = some e := authUdpSender_iff.mpr ⟨hAt, rfl, hFree⟩
    have hWf : Wf (net.onUdpPacket now src data) := by
      have hMoves : Moves {} net (net.onUdpPacket now src data) := onUdpPacket_moves h.wf now src data
      exact h.wf.moves hMoves
    rw [onUdpPacket_hello hHello, onUdpHello] at hWf
    simp only [hAuth] at hWf ⊢
    refine BoundTo.recovers ?_ hWf
    rw [BoundTo]
    simp only
    rw [ClientRegistry.client_setEntry _ (ClientRegistry.client_lt hAt), Function.update_self,
      if_neg (ClientRegistry.client_eq_some.mp hAt).2]
    rfl

def helloPacket (msg : MsgUdpHello) : List U8 := udpHeaderBytes MessageType.udpHello.code 0 ++ udpHelloBytes msg

theorem helloIn_helloPacket (msg : MsgUdpHello) : helloIn (helloPacket msg) = some msg := by
  have hHeader : (decodeUdpHeader ⟨helloPacket msg, false⟩).1 = some { type := MessageType.udpHello.code, tick := 0 } := by
    rw [helloPacket, decodeUdpHeader_run]
  have hBody : (helloPacket msg).drop kUdpHeaderBytes = udpHelloBytes msg ++ [] := by
    rw [helloPacket, List.append_nil]
    rfl
  rw [helloIn, hHeader, Option.bind_some, if_pos (MessageType.ofCode_code _), hBody, decodeUdpHello_run]

def joinedNet : NetServer :=
  (({ udpPort := 9, udpSilenceMs := 3000 } : NetServer).step (.accept 5)).step
    (.readable {} 5 [.got (encode joinFrame)] [.sent 100])

def joinedToken : U32 := 2654435761

def firstAddr : SockAddr := { addr := 1, port := 1000 }

def secondAddr : SockAddr := { addr := 1, port := 1001 }

def greetedNet : NetServer := joinedNet.step (.datagram 0 firstAddr (helloPacket ⟨0, joinedToken⟩))

theorem reachable_joinedNet : Reachable joinedNet := by
  have hStart : Reachable _ := .start 9 3000
  have hAccepted := hStart.step (.accept 5) ⟨by decide, rfl⟩ trivial
  exact hAccepted.step (.readable {} 5 [.got (encode joinFrame)] [.sent 100]) rfl trivial

theorem reachable_greetedNet : Reachable greetedNet :=
  reachable_joinedNet.step (.datagram 0 firstAddr (helloPacket ⟨0, joinedToken⟩)) trivial trivial

/-- The hello from the new address changes nothing. -/
theorem rebound_hello_refused :
    Reachable greetedNet ∧ ∃ e, greetedNet.registry.client (0 : U8).toNat = some e ∧ e.sessionToken = joinedToken ∧
      helloIn (helloPacket ⟨0, joinedToken⟩) = some ⟨0, joinedToken⟩ ∧
      ¬ Recovers 0 e secondAddr (greetedNet.onUdpPacket 0 secondAddr (helloPacket ⟨0, joinedToken⟩)) := by
  have hBound : BoundTo greetedNet 0 joinedToken firstAddr := by decide +kernel
  have hStill : BoundTo (greetedNet.onUdpPacket 0 secondAddr (helloPacket ⟨0, joinedToken⟩)) 0 joinedToken firstAddr := by
    decide +kernel
  obtain ⟨e, hAt, hToken, -⟩ := hBound.entry
  refine ⟨reachable_greetedNet, e, hAt, hToken, helloIn_helloPacket _, ?_⟩
  intro hRecovers
  have hMoved := hRecovers.bound
  rw [BoundTo, hToken, hStill] at hMoved
  exact absurd hMoved (by decide)

theorem hello_recovers_first : Reachable joinedNet ∧ ∃ e, joinedNet.registry.client (0 : U8).toNat = some e ∧
    Recovers 0 e firstAddr (joinedNet.onUdpPacket 0 firstAddr (helloPacket ⟨0, joinedToken⟩)) := by
  have hJoined : (joinedNet.registry.client (0 : U8).toNat).map binding = some (joinedToken, false, {}) := by
    decide +kernel
  obtain ⟨e, hAt, hBinding⟩ := Option.map_eq_some_iff.mp hJoined
  obtain ⟨hToken, hRest⟩ := Prod.mk.inj hBinding
  have hHello : helloIn (helloPacket ⟨0, joinedToken⟩) = some ⟨0, e.sessionToken⟩ := by
    rw [hToken]
    exact helloIn_helloPacket _
  refine ⟨reachable_joinedNet, e, hAt, (hello_recovers_iff reachable_joinedNet hAt hHello 0 firstAddr).mpr ?_⟩
  intro hHas
  rw [(Prod.mk.inj hRest).1] at hHas
  cases hHas

end NetServer
end CaptureTheFlag
