import CaptureTheFlag.Server.NetSteps

/-! # The bytes a client is sent

Broadcasts wait in `pending_out` until the socket takes them; replies go to the socket at once.
-/
namespace CaptureTheFlag
set_option autoImplicit false
open Protocol Framing Relation

namespace ClientRegistry

def queued (r : ClientRegistry) (fd : Int) : List U8 := ((r.findByFd fd).map (·.pendingOut)).getD []

theorem queued_of_client {r : ClientRegistry} (h : r.Indexed) {i : Nat} {e : ClientEntry} (hAt : r.client i = some e) :
    r.queued e.tcpFd = e.pendingOut := by
  rw [queued, findByFd_of_client h hAt]
  rfl

theorem queued_of_none {r : ClientRegistry} {fd : Int} (h : r.findByFd fd = none) : r.queued fd = [] := by
  rw [queued, h]
  rfl

theorem queued_cases {r : ClientRegistry} {fd : Int} (hFd : 0 ≤ fd) :
    (r.findByFd fd = none ∧ r.queued fd = []) ∨
    (∃ i e, r.client i = some e ∧ e.tcpFd = fd ∧ r.queued fd = e.pendingOut) := by
  cases hFind : r.findByFd fd with
  | none => exact Or.inl ⟨rfl, queued_of_none hFind⟩
  | some e =>
    obtain ⟨hEq, i, hAt⟩ := findByFd_some hFd hFind
    refine Or.inr ⟨i, e, hAt, hEq, ?_⟩
    rw [queued, hFind]
    rfl

theorem queued_congr {r r' : ClientRegistry} (h : r.Indexed) {fd : Int} (hFd : 0 ≤ fd)
    (hThere : ∀ i e, r.client i = some e → e.tcpFd = fd → ∃ e', r'.client i = some e' ∧ e'.tcpFd = fd)
    (hBack : ∀ i e, r'.client i = some e → e.tcpFd = fd →
      ∃ e', r.client i = some e' ∧ e'.tcpFd = fd ∧ e'.pendingOut = e.pendingOut) :
    r'.queued fd = r.queued fd := by
  rcases queued_cases (r := r') hFd with ⟨hNone, hEmpty⟩ | ⟨i, e, hAt, hEq, hQueue⟩
  · rw [hEmpty]
    rcases queued_cases (r := r) hFd with ⟨-, hEmpty'⟩ | ⟨j, e, hAt, hEq, -⟩
    · exact hEmpty'.symm
    · obtain ⟨e', hAt', hEq'⟩ := hThere j e hAt hEq
      exact absurd hEq' (findByFd_none hNone hAt')
  · obtain ⟨e', hAt', rfl, hPending⟩ := hBack i e hAt hEq
    rw [hQueue, queued_of_client h hAt', hPending]

theorem queued_update {r r' : ClientRegistry} (h : r.Indexed) {fd : Int} (hFd : 0 ≤ fd) {i : Nat}
    {slot : Option ClientEntry} (hClient : r'.client = Function.update r.client i slot)
    (hNew : ∀ e, slot = some e → e.tcpFd ≠ fd) (hOld : ∀ e, r.client i = some e → e.tcpFd ≠ fd) :
    r'.queued fd = r.queued fd := by
  refine queued_congr h hFd ?_ ?_
  · intro j e hAt hEq
    refine ⟨e, ?_, hEq⟩
    rw [hClient, Function.update_of_ne]
    · exact hAt
    · rintro rfl
      exact hOld e hAt hEq
  · intro j e hAt hEq
    rw [hClient] at hAt
    by_cases hj : j = i
    · subst hj
      rw [Function.update_self] at hAt
      exact absurd hEq (hNew e hAt)
    · rw [Function.update_of_ne hj] at hAt
      exact ⟨e, hAt, hEq, rfl⟩

/-- Exactly the connections with a client are addressed by a broadcast, once each. -/
theorem live_filter_fd {r : ClientRegistry} (h : r.Indexed) {i : Nat} {e : ClientEntry} (hAt : r.client i = some e) :
    r.live.filter (fun e' => e'.tcpFd = e.tcpFd) = [e] := by
  have hOnly : ∀ e' ∈ r.live.filter (fun e' => e'.tcpFd = e.tcpFd), e' = e := by
    intro e' hMem
    obtain ⟨hLive, hEq⟩ := List.mem_filter.mp hMem
    obtain ⟨j, hAt'⟩ := mem_live hLive
    obtain rfl := h.distinct j i e' e hAt' hAt (by simpa using hEq)
    rw [hAt] at hAt'
    exact (Option.some.inj hAt').symm
  have hMem : e ∈ r.live.filter (fun e' => e'.tcpFd = e.tcpFd) := List.mem_filter.mpr ⟨h.mem_live hAt, by simp⟩
  have hNodup : (r.live.filter (fun e' => e'.tcpFd = e.tcpFd)).Nodup := (List.Nodup.of_map _ h.live_ids_nodup).filter _
  rw [List.eq_replicate_of_mem hOnly] at hMem hNodup ⊢
  rw [List.nodup_replicate] at hNodup
  have hPos : (r.live.filter (fun e' => e'.tcpFd = e.tcpFd)).length ≠ 0 := (List.mem_replicate.mp hMem).1
  rw [show (r.live.filter (fun e' => e'.tcpFd = e.tcpFd)).length = 1 by omega]
  rfl

theorem live_filter_none {r : ClientRegistry} {fd : Int} (h : r.findByFd fd = none) :
    r.live.filter (fun e => e.tcpFd = fd) = [] := by
  rw [List.filter_eq_nil_iff]
  intro e hMem
  obtain ⟨i, hAt⟩ := mem_live hMem
  simpa using findByFd_none h hAt

end ClientRegistry

namespace NetServer

abbrev kWireFrameCap : Nat := 2 ^ 16 - 1

/-- The bytes are whole frames out of those given, each at most once. -/
def Whole (frames : List Frame) (bytes : List U8) : Prop :=
  ∃ taken : List Frame, taken.Subperm frames ∧ (∀ f ∈ taken, f.payload.length ≤ kWireFrameCap) ∧ bytes = encodeAll taken

/-- No frame is truncated before other data, none is inserted into another. -/
def Intact (net : NetServer) (fd : Int) : Prop :=
  ∃ taken : List Frame, taken.Subperm (net.addressed fd) ∧ net.wire fd <+: encodeAll taken

/-- What the socket has taken and what waits for it are whole frames. -/
def Streams (net : NetServer) : Prop :=
  ∀ fd, net.watched fd = true → Whole (net.addressed fd) (net.wire fd ++ net.registry.queued fd)

/-- The kernel takes none of a reply, or all of it where the frames before are complete. -/
def wholeWrites : Limits where
  writes taken f n := n = 0 ∨ ((deframe kWireFrameCap taken).rest = [] ∧ n = (encode f).length)

theorem encodeAll_append (frames more : List Frame) : encodeAll (frames ++ more) = encodeAll frames ++ encodeAll more :=
  List.flatMap_append

theorem encodeAll_singleton (f : Frame) : encodeAll [f] = encode f := List.flatMap_singleton _ _

theorem Whole.append {frames : List Frame} {bytes : List U8} (h : Whole frames bytes) {f : Frame}
    (hFits : f.payload.length < 2 ^ 16) : Whole (frames ++ [f]) (bytes ++ encode f) := by
  obtain ⟨taken, hSub, hAll, rfl⟩ := h
  refine ⟨taken ++ [f], hSub.append (List.Subperm.refl _), ?_, by rw [encodeAll_append, encodeAll_singleton]⟩
  intro g hMem
  rcases List.mem_append.mp hMem with hMem | hMem
  · exact hAll g hMem
  · rw [List.mem_singleton.mp hMem]
    simp only [kWireFrameCap]
    omega

theorem Whole.lost {frames : List Frame} {bytes : List U8} (h : Whole frames bytes) (f : Frame) :
    Whole (frames ++ [f]) bytes := by
  obtain ⟨taken, hSub, hAll, rfl⟩ := h
  exact ⟨taken, hSub.trans (List.sublist_append_left _ _).subperm, hAll, rfl⟩

theorem Whole.between {frames : List Frame} {sent waiting : List U8} (h : Whole frames (sent ++ waiting))
    (hWhole : (deframe kWireFrameCap sent).rest = []) {f : Frame} (hFits : f.payload.length < 2 ^ 16) :
    Whole (frames ++ [f]) (sent ++ encode f ++ waiting) := by
  obtain ⟨taken, hSub, hAll, hBytes⟩ := h
  obtain ⟨later, rfl, hLater⟩ := deframe_split (by decide) hAll hBytes
  have hSent := deframe_bytes kWireFrameCap sent
  rw [hWhole, List.append_nil] at hSent
  rw [hWhole, List.nil_append] at hLater
  generalize (deframe kWireFrameCap sent).frames = front at hSub hAll hSent
  have hPerm : (front ++ [f] ++ later).Perm (front ++ later ++ [f]) := by
    rw [List.append_assoc, List.append_assoc]
    exact List.perm_append_comm.append_left front
  refine ⟨front ++ [f] ++ later, hPerm.subperm.trans (hSub.append (List.Subperm.refl _)), ?_, ?_⟩
  · intro g hMem
    rcases List.mem_append.mp (hPerm.subset hMem) with hMem | hMem
    · exact hAll g hMem
    · rw [List.mem_singleton.mp hMem]
      simp only [kWireFrameCap]
      omega
  · rw [encodeAll_append, encodeAll_append, encodeAll_singleton, hSent, hLater]

theorem Streams.intact {net : NetServer} (h : Streams net) {fd : Int} (hWatched : net.watched fd = true) :
    Intact net fd := by
  obtain ⟨taken, hSub, -, hBytes⟩ := h fd hWatched
  exact ⟨taken, hSub, _, hBytes⟩

theorem Streams.congr {net net' : NetServer} (h : Streams net)
    (hWatched : ∀ fd, net'.watched fd = true → net.watched fd = true)
    (hWire : net'.wire = net.wire) (hAddressed : net'.addressed = net.addressed)
    (hQueued : ∀ fd, net'.watched fd = true → net'.registry.queued fd = net.registry.queued fd) : Streams net' := by
  intro fd hIs
  rw [hWire, hAddressed, hQueued fd hIs]
  exact h fd (hWatched fd hIs)

theorem queued_of_core {net net' : NetServer} (hWf : Wf net)
    (hSame : ∀ i, (net'.registry.client i).map core = (net.registry.client i).map core) {fd : Int} (hFd : 0 ≤ fd) :
    net'.registry.queued fd = net.registry.queued fd := by
  refine ClientRegistry.queued_congr hWf.indexed hFd ?_ ?_
  · intro i e hAt hEq
    have hCore := hSame i
    rw [hAt, Option.map_some] at hCore
    obtain ⟨e', hAt', hKey⟩ := Option.map_eq_some_iff.mp hCore
    exact ⟨e', hAt', (congrArg (fun k => k.2.1) hKey).trans hEq⟩
  · intro i e hAt hEq
    have hCore := (hSame i).symm
    rw [hAt, Option.map_some] at hCore
    obtain ⟨e', hAt', hKey⟩ := Option.map_eq_some_iff.mp hCore
    exact ⟨e', hAt', (congrArg (fun k => k.2.1) hKey).trans hEq, congrArg (fun k => k.2.2) hKey⟩

theorem Streams.broadcast {net : NetServer} (h : Streams net) (hWf : Wf net) {f : Frame}
    (hFits : f.payload.length < 2 ^ 16) : Streams (net.broadcastPayload (f.type :: f.payload)) := by
  intro fd hWatched
  have hBroadcast : Move {} net _ := Move.broadcast f hFits
  have hIndexed := (hWf.move hBroadcast).indexed
  have hOld := h fd hWatched
  rcases ClientRegistry.queued_cases (r := net.registry) (hWf.opened fd hWatched) with
    ⟨hNone, hEmpty⟩ | ⟨i, e, hAt, rfl, hQueue⟩
  · have hNone' := (sameKeys_broadcast hWf.indexed (framePayload (f.type :: f.payload))).findByFd
      (hWf.opened fd hWatched) hNone
    simp only [broadcastPayload, ClientRegistry.live_filter_none hNone, List.map_nil, List.append_nil,
      ClientRegistry.queued_of_none hNone']
    rw [hEmpty, List.append_nil] at hOld
    exact hOld
  · have hAt' : (net.broadcastPayload (f.type :: f.payload)).registry.client i =
        some { e with pendingOut := e.pendingOut ++ encode f } := by
      rw [broadcastPayload, ClientRegistry.client_broadcastTcpEvent hWf.indexed, hAt]
      rfl
    have hQueue' := ClientRegistry.queued_of_client hIndexed hAt'
    simp only at hQueue'
    rw [hQueue']
    simp only [broadcastPayload, ClientRegistry.live_filter_fd hWf.indexed hAt, List.map_cons, List.map_nil,
      List.headD_cons, List.tail_cons]
    rw [← List.append_assoc, ← hQueue]
    exact hOld.append hFits

theorem Streams.write {net : NetServer} (h : Streams net) {fd : Int} {f : Frame} {n : Nat} (answers : List SendResult)
    (hFits : f.payload.length < 2 ^ 16) (hWrites : wholeWrites.writes (net.wire fd) f n) :
    Streams { net with
      wire := Function.update net.wire fd (net.wire fd ++ (encode f).take n)
      addressed := Function.update net.addressed fd (net.addressed fd ++ [f])
      answers } := by
  intro fd' hWatched
  have hOld := h fd' hWatched
  by_cases hEq : fd' = fd
  · subst hEq
    simp only [Function.update_self]
    rcases hWrites with rfl | ⟨hWhole, rfl⟩
    · rw [List.take_zero, List.append_nil]
      exact hOld.lost f
    · rw [List.take_length]
      exact hOld.between hWhole hFits
  · simp only [Function.update_of_ne hEq]
    exact hOld

theorem Streams.flush {net : NetServer} (h : Streams net) (hWf : Wf net) {i : Nat} {e : ClientEntry} {n : Nat}
    {registry : ClientRegistry} (answers : List SendResult) (hAt : net.registry.client i = some e)
    (hClient : registry.client =
      Function.update net.registry.client i (some { e with pendingOut := e.pendingOut.drop n }))
    (hIndexed : registry.Indexed) :
    Streams { net with
      registry
      wire := Function.update net.wire e.tcpFd (net.wire e.tcpFd ++ e.pendingOut.take n)
      answers } := by
  intro fd hWatched
  have hOld := h fd hWatched
  by_cases hEq : fd = e.tcpFd
  · subst hEq
    have hQueue := ClientRegistry.queued_of_client hIndexed
      (show registry.client i = some { e with pendingOut := e.pendingOut.drop n } by rw [hClient, Function.update_self])
    simp only at hQueue
    simp only [Function.update_self, hQueue]
    rw [ClientRegistry.queued_of_client hWf.indexed hAt] at hOld
    rw [List.append_assoc, List.take_append_drop]
    exact hOld
  · simp only [Function.update_of_ne hEq]
    rw [ClientRegistry.queued_update hWf.indexed (hWf.opened fd hWatched) hClient]
    · exact hOld
    · rintro e' hSome rfl
      cases hSome
      exact hEq rfl
    · rintro e' hAt' rfl
      cases hAt.symm.trans hAt'
      exact hEq rfl

/-- A connection without a client stays one until it joins, and joining starts with an empty queue. -/
theorem Streams.enter {net : NetServer} (h : Streams net) (hWf : Wf net) {i : Nat} {e : ClientEntry}
    {registry : ClientRegistry} (lobby : Lobby) (tokenCounter : U32) (hNew : net.registry.findByFd e.tcpFd = none)
    (hFree : net.registry.client i = none) (hPending : e.pendingOut = [])
    (hClient : registry.client = Function.update net.registry.client i (some e)) (hIndexed : registry.Indexed) :
    Streams { net with registry, lobby, tokenCounter } := by
  refine h.congr (fun _ hIs => hIs) rfl rfl fun fd hWatched => ?_
  by_cases hEq : fd = e.tcpFd
  · subst hEq
    rw [ClientRegistry.queued_of_none hNew]
    refine (ClientRegistry.queued_of_client (i := i) hIndexed ?_).trans hPending
    rw [hClient, Function.update_self]
  · refine ClientRegistry.queued_update hWf.indexed (hWf.opened fd hWatched) hClient ?_ ?_
    · rintro e' hSome rfl
      cases hSome
      exact hEq rfl
    · intro e' hAt
      cases hFree.symm.trans hAt

theorem Streams.move {net net' : NetServer} (h : Streams net) (hWf : Wf net) (hMove : Move wholeWrites net net') :
    Streams net' := by
  have hWf' := hWf.move hMove
  cases hMove with
  | touch registry inputs _ _ _ _ hSame hSize =>
    exact h.congr (fun _ hIs => hIs) rfl rfl fun fd hWatched => queued_of_core hWf hSame (hWf.opened fd hWatched)
  | broadcast f hFits => exact h.broadcast hWf hFits
  | write fd f n answers hFits hWrites => exact h.write answers hFits hWrites
  | flush i e n registry answers hAt hClient hSize => exact h.flush hWf answers hAt hClient hWf'.indexed
  | enter i e registry lobby tokenCounter _ _ _ hNew hFree _ hPending hClient =>
    exact h.enter hWf lobby tokenCounter hNew hFree hPending hClient hWf'.indexed
  | leave i e registry hAt hClient hSize =>
    have hOpen : ∀ fd, Function.update net.watched e.tcpFd false fd = true → fd ≠ e.tcpFd ∧ net.watched fd = true := by
      intro fd hIs
      by_cases hEq : fd = e.tcpFd
      · rw [hEq, Function.update_self] at hIs
        cases hIs
      · rw [Function.update_of_ne hEq] at hIs
        exact ⟨hEq, hIs⟩
    refine h.congr (fun fd hIs => (hOpen fd hIs).2) rfl rfl fun fd hIs => ?_
    refine ClientRegistry.queued_update hWf.indexed (hWf'.opened fd hIs) hClient (fun _ hNone => (by cases hNone)) ?_
    rintro e' hAt' rfl
    cases hAt.symm.trans hAt'
    exact (hOpen _ hIs).1 rfl
  | start => exact h.congr (fun _ hIs => hIs) rfl rfl fun _ _ => rfl
  | accept fd _ hFd hNew =>
    intro fd' hWatched
    by_cases hEq : fd' = fd
    · subst hEq
      have hNone : net.registry.findByFd fd' = none := by
        by_contra hSome
        obtain ⟨e, hFind⟩ := Option.ne_none_iff_exists'.mp hSome
        obtain ⟨rfl, i, hAt⟩ := ClientRegistry.findByFd_some hFd hFind
        cases hNew.symm.trans (hWf.watched i e hAt)
      simp only [acceptClient, Function.update_self, ClientRegistry.queued_of_none hNone]
      exact ⟨[], List.Subperm.refl _, fun _ hMem => (by cases hMem), rfl⟩
    · simp only [acceptClient, Function.update_of_ne hEq] at hWatched ⊢
      exact h fd' hWatched
  | close fd hNone =>
    refine h.congr (fun fd' hIs => ?_) rfl rfl fun _ _ => rfl
    by_cases hEq : fd' = fd
    · simp [closeUnregistered, hEq] at hIs
    · simpa [closeUnregistered, hEq] using hIs
  | buffer entry fd bytes =>
    cases entry with
    | none => exact h.congr (fun _ hIs => hIs) rfl rfl fun _ _ => rfl
    | some e => exact h.congr (fun _ hIs => hIs) rfl rfl fun _ _ => rfl

theorem Streams.moves {net net' : NetServer} (h : Streams net) (hWf : Wf net) (hMoves : Moves wholeWrites net net') :
    Streams net' :=
  (Chain.invariant (I := fun net => Wf net ∧ Streams net)
    (fun _ _ hMove hBoth => ⟨hBoth.1.move hMove, hBoth.2.move hBoth.1 hMove⟩) hMoves ⟨hWf, h⟩).2

theorem streams_of_reachable {net : NetServer} (h : ReachableBy (EventAllowed wholeWrites) net) : Streams net := by
  induction h with
  | start udpPort udpSilenceMs =>
    intro fd hWatched
    cases hWatched
  | step h event hEnabled hAllowed ih => exact ih.moves h.wf (step_moves h.wf hEnabled hAllowed)
  | drained h cmds rest hQueue ih => exact ih.congr (fun _ hIs => hIs) rfl rfl fun _ _ => rfl

theorem output_intact {net : NetServer} (h : ReachableBy (EventAllowed wholeWrites) net) {e : ClientEntry}
    (hLive : e ∈ net.registry.live) : Intact net e.tcpFd := by
  obtain ⟨i, hAt⟩ := ClientRegistry.mem_live hLive
  exact (streams_of_reachable h).intact (h.wf.watched i e hAt)

/-- A client joins; the socket takes its JOIN_ACCEPT as `answers` say, and then whatever waits. -/
def joinedWith (answers : List SendResult) : NetServer :=
  ((({} : NetServer).step (.accept 5)).step (.readable {} 5 [.got (encode joinFrame)] answers)).step
    (.writable 5 [.sent 100])

theorem joinedWith_reachable {allowed : NetServer → Event → Prop} (answers : List SendResult)
    (hAccept : allowed {} (.accept 5))
    (hJoin : allowed (({} : NetServer).step (.accept 5)) (.readable {} 5 [.got (encode joinFrame)] answers))
    (hFlush : ∀ net, allowed net (.writable 5 [.sent 100])) (hOpen :
      ((({} : NetServer).step (.accept 5)).step (.readable {} 5 [.got (encode joinFrame)] answers)).watched 5 = true) :
    ReachableBy allowed (joinedWith answers) := by
  have hStart : ReachableBy allowed {} := .start 0 _
  have hAccepted := hStart.step (.accept 5) ⟨by decide, rfl⟩ hAccept
  have hJoined := hAccepted.step (.readable {} 5 [.got (encode joinFrame)] answers) rfl hJoin
  exact hJoined.step (.writable 5 [.sent 100]) hOpen (hFlush _)

theorem output_intact_joined :
    (∃ e ∈ (joinedWith [.sent 100]).registry.live, e.tcpFd = 5) ∧ Intact (joinedWith [.sent 100]) 5 := by
  have hAccum : recvLoop [.got (encode joinFrame)] ((({} : NetServer).step (.accept 5)).accumFor 5) =
      some (encode joinFrame) := by decide +kernel
  have hJoin : EventAllowed wholeWrites (({} : NetServer).step (.accept 5))
      (.readable {} 5 [.got (encode joinFrame)] [.sent 100]) := by
    refine ⟨fun _ _ => trivial, ?_⟩
    rintro env fd recvs answers hEvent accum hRecv
    cases hEvent
    cases hAccum.symm.trans hRecv
    rw [show (deframe kTcpFrameCapBytes (encode joinFrame)).frames = [joinFrame] by decide +kernel]
    refine ⟨?_, trivial⟩
    have hAll : ∀ reply ∈ NetServer.reply { ({} : NetServer).step (.accept 5) with answers := [.sent 100] } {} 5 joinFrame,
        (sendLoop [.sent 100] (encode reply)).sent = (encode reply).length := by decide +kernel
    exact fun reply hReply => Or.inr ⟨rfl, hAll reply hReply⟩
  have hNone : ∀ event : Event, (∀ env fd recvs answers, event ≠ .readable env fd recvs answers) →
      ∀ net, EventAllowed wholeWrites net event := fun event hNot net =>
    ⟨fun _ _ => trivial, fun env fd recvs answers hEvent => absurd hEvent (hNot env fd recvs answers)⟩
  have hReach := joinedWith_reachable [.sent 100] (hNone (.accept 5) (by simp) _) hJoin
    (hNone (.writable 5 [.sent 100]) (by simp)) (by decide +kernel)
  obtain ⟨e, hLive, hFd⟩ : ∃ e ∈ (joinedWith [.sent 100]).registry.live, e.tcpFd = 5 := by decide +kernel
  refine ⟨⟨e, hLive, hFd⟩, ?_⟩
  rw [← hFd]
  exact output_intact hReach hLive

theorem Intact.head {net : NetServer} {fd : Int} (h : Intact net fd) :
    net.wire fd = [] ∨ ∃ f ∈ net.addressed fd, (net.wire fd).take (encode f).length <+: encode f := by
  obtain ⟨taken, hSub, hWire⟩ := h
  cases taken with
  | nil => exact Or.inl (List.prefix_nil.mp hWire)
  | cons f later =>
    refine Or.inr ⟨f, hSub.subset List.mem_cons_self, ?_⟩
    have hTake := hWire.take (encode f).length
    rw [encodeAll, List.flatMap_cons, List.take_left] at hTake
    exact hTake

/-- The first three bytes of a JOIN_ACCEPT are followed by a LOBBY_STATE. -/
theorem short_accept_torn :
    Reachable (joinedWith [.sent 3, .again]) ∧ (∃ e ∈ (joinedWith [.sent 3, .again]).registry.live, e.tcpFd = 5) ∧
      ¬ Intact (joinedWith [.sent 3, .again]) 5 := by
  refine ⟨joinedWith_reachable _ trivial trivial (fun _ => trivial) (by decide +kernel), by decide +kernel, ?_⟩
  intro hIntact
  have hNot : ¬ ((joinedWith [.sent 3, .again]).wire 5 = [] ∨ ∃ f ∈ (joinedWith [.sent 3, .again]).addressed 5,
      ((joinedWith [.sent 3, .again]).wire 5).take (encode f).length <+: encode f) := by decide +kernel
  exact hNot hIntact.head

end NetServer
end CaptureTheFlag
