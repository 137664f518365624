import CaptureTheFlag.Server.OutputStream

/-! # One order for all

Every client that stays gets the same broadcasts in the same order, whatever replies its socket is given in between.
-/
namespace CaptureTheFlag
set_option autoImplicit false
open Protocol Framing Relation

namespace NetServer

/-- JOIN_ACCEPT and JOIN_REJECT go to one connection, straight to its socket. -/
def IsReply (f : Frame) : Prop := f.type = MessageType.joinAccept.code ∨ f.type = MessageType.joinReject.code

instance (f : Frame) : Decidable (IsReply f) := inferInstanceAs (Decidable (_ ∨ _))

def broadcasts (frames : List Frame) : List Frame := frames.filter fun f => ¬ IsReply f

theorem broadcasts_append (frames more : List Frame) : broadcasts (frames ++ more) = broadcasts frames ++ broadcasts more :=
  List.filter_append _ _

theorem broadcasts_reply {f : Frame} (h : IsReply f) : broadcasts [f] = [] := by simp [broadcasts, h]

/-- The bytes its socket has taken, and those that wait for it. -/
def stream (net : NetServer) (fd : Int) : List U8 := net.wire fd ++ net.registry.queued fd

/-- The broadcasts that are complete in the bytes its socket has taken. -/
def delivered (net : NetServer) (fd : Int) : List Frame := broadcasts (deframe kWireFrameCap (net.wire fd)).frames

/-- The broadcasts that it has received or that wait for it. -/
def owed (net : NetServer) (fd : Int) : List Frame := broadcasts (deframe kWireFrameCap (net.stream fd)).frames

def Joined (net : NetServer) (fd : Int) : Prop := ∃ e ∈ net.registry.live, e.tcpFd = fd

theorem joined_iff {net : NetServer} (h : Wf net) {fd : Int} :
    Joined net fd ↔ ∃ i e, net.registry.client i = some e ∧ e.tcpFd = fd := by
  constructor
  · rintro ⟨e, hLive, hFd⟩
    obtain ⟨i, hAt⟩ := ClientRegistry.mem_live hLive
    exact ⟨i, e, hAt, hFd⟩
  · rintro ⟨i, e, hAt, hFd⟩
    exact ⟨e, h.indexed.mem_live hAt, hFd⟩

/-- The kernel takes none of a reply, or all of it between two frames, and nothing but a reply is written so. -/
def replying (serves : Int → Prop) : Limits where
  writes taken f n := wholeWrites.writes taken f n ∧ IsReply f
  serves

/-- `stream` is whole frames, of which these are broadcasts. -/
def Carries (bytes : List U8) (sent : List Frame) : Prop :=
  ∃ taken : List Frame, (∀ f ∈ taken, f.payload.length ≤ kWireFrameCap) ∧ bytes = encodeAll taken ∧
    broadcasts taken = sent

theorem Carries.frames {bytes : List U8} {sent : List Frame} (h : Carries bytes sent) :
    broadcasts (deframe kWireFrameCap bytes).frames = sent := by
  obtain ⟨taken, hAll, rfl, hSent⟩ := h
  rw [deframe_encodeAll (by decide) taken hAll]
  exact hSent

theorem Carries.append {bytes : List U8} {sent : List Frame} (h : Carries bytes sent) {f : Frame}
    (hFits : f.payload.length < 2 ^ 16) : Carries (bytes ++ encode f) (sent ++ broadcasts [f]) := by
  obtain ⟨taken, hAll, rfl, rfl⟩ := h
  refine ⟨taken ++ [f], ?_, by rw [encodeAll_append, encodeAll_singleton], broadcasts_append _ _⟩
  intro g hMem
  rcases List.mem_append.mp hMem with hOld | hNew
  · exact hAll g hOld
  · rw [List.mem_singleton.mp hNew]
    exact Nat.le_pred_of_lt hFits

/-- A whole reply between two frames changes nothing for the broadcasts. -/
theorem Carries.between {before after : List U8} {sent : List Frame} (h : Carries (before ++ after) sent)
    (hWhole : (deframe kWireFrameCap before).rest = []) {f : Frame} (hFits : f.payload.length < 2 ^ 16)
    (hReply : IsReply f) : Carries (before ++ encode f ++ after) sent := by
  obtain ⟨taken, hAll, hBytes, rfl⟩ := h
  obtain ⟨later, rfl, hLater⟩ := deframe_split (by decide) hAll hBytes
  have hBefore := deframe_bytes kWireFrameCap before
  rw [hWhole, List.append_nil] at hBefore
  rw [hWhole, List.nil_append] at hLater
  refine ⟨(deframe kWireFrameCap before).frames ++ [f] ++ later, ?_, ?_, ?_⟩
  · intro g hMem
    rcases List.mem_append.mp hMem with hFront | hBack
    · rcases List.mem_append.mp hFront with hOld | hNew
      · exact hAll g (List.mem_append_left _ hOld)
      · rw [List.mem_singleton.mp hNew]
        exact Nat.le_pred_of_lt hFits
    · exact hAll g (List.mem_append_right _ hBack)
  · rw [encodeAll_append, encodeAll_append, encodeAll_singleton, hBefore, hLater]
  · rw [broadcasts_append, broadcasts_append, broadcasts_append, broadcasts_reply hReply, List.append_nil]

theorem Streams.carries {net : NetServer} (h : Streams net) {fd : Int} (hWatched : net.watched fd = true) :
    Carries (net.stream fd) (net.owed fd) := by
  obtain ⟨taken, -, hAll, hBytes⟩ := h fd hWatched
  refine ⟨taken, hAll, hBytes, ?_⟩
  rw [owed, stream, hBytes, deframe_encodeAll (by decide) taken hAll]

/-- What has been received is a beginning of what is owed. -/
theorem Streams.delivered {net : NetServer} (h : Streams net) {fd : Int} (hWatched : net.watched fd = true) :
    net.delivered fd <+: net.owed fd := by
  obtain ⟨taken, -, hAll, hBytes⟩ := h fd hWatched
  obtain ⟨later, hTaken, -⟩ := deframe_split (by decide) hAll hBytes
  rw [NetServer.delivered, owed, stream, hBytes, deframe_encodeAll (by decide) taken hAll, hTaken, broadcasts_append]
  exact List.prefix_append _ _

/-- Over a stretch of the run `fd` has been sent these broadcasts, or it has been closed. -/
def Passes (fd : Int) (sent : List Frame) (net net' : NetServer) : Prop :=
  (Joined net' fd ∧ net'.owed fd = net.owed fd ++ sent) ∨ net'.watched fd = false

theorem passes_same {net net' : NetServer} {fd : Int} (hJoined : Joined net' fd) (hSame : net'.stream fd = net.stream fd) :
    Passes fd [] net net' := by
  apply Or.inl
  rw [owed, owed, hSame, List.append_nil]
  exact ⟨hJoined, rfl⟩

section Move

variable {net net' : NetServer} (hWf : Wf net) {i : Nat} {e : ClientEntry} (hAt : net.registry.client i = some e)
include hWf hAt

theorem Streams.broadcast_passes (h : Streams net) {f : Frame} (hFits : f.payload.length < 2 ^ 16) :
    Passes e.tcpFd (broadcasts [f]) net (net.broadcastPayload (f.type :: f.payload)) := by
  have hBroadcast : Move {} net _ := Move.broadcast f hFits
  have hWf' := hWf.move hBroadcast
  have hAt' : (net.broadcastPayload (f.type :: f.payload)).registry.client i =
      some { e with pendingOut := e.pendingOut ++ encode f } := by
    rw [broadcastPayload, ClientRegistry.client_broadcastTcpEvent hWf.indexed, hAt]
    rfl
  have hStream : (net.broadcastPayload (f.type :: f.payload)).stream e.tcpFd = net.stream e.tcpFd ++ encode f := by
    have hQueue := ClientRegistry.queued_of_client hWf'.indexed hAt'
    simp only at hQueue
    rw [stream, hQueue, stream, ClientRegistry.queued_of_client hWf.indexed hAt, List.append_assoc]
    rfl
  refine Or.inl ⟨(joined_iff hWf').mpr ⟨i, _, hAt', rfl⟩, ?_⟩
  have hOld := h.carries (hWf.watched i e hAt)
  rw [owed, hStream]
  exact (hOld.append hFits).frames

theorem Streams.write_passes (h : Streams net) {fd : Int} {f : Frame} {n : Nat} (answers : List SendResult)
    (hFits : f.payload.length < 2 ^ 16) (hWrites : wholeWrites.writes (net.wire fd) f n ∧ IsReply f) :
    Passes e.tcpFd [] net { net with
      wire := Function.update net.wire fd (net.wire fd ++ (encode f).take n)
      addressed := Function.update net.addressed fd (net.addressed fd ++ [f])
      answers } := by
  have hJoined : Joined net e.tcpFd := (joined_iff hWf).mpr ⟨i, e, hAt, rfl⟩
  by_cases hEq : e.tcpFd = fd
  · subst hEq
    refine Or.inl ⟨hJoined, ?_⟩
    obtain ⟨hWhole, hReply⟩ := hWrites
    rw [List.append_nil, owed, stream]
    simp only [Function.update_self]
    rcases hWhole with rfl | ⟨hRest, rfl⟩
    · rw [List.take_zero, List.append_nil]
      rfl
    · rw [List.take_length]
      exact ((h.carries (hWf.watched i e hAt)).between hRest hFits hReply).frames
  · apply passes_same
    · exact hJoined
    · simp only [stream, Function.update_of_ne hEq]

/-- Another slot changes. -/
theorem update_passes (hWf' : Wf net') (hWire : net'.wire e.tcpFd = net.wire e.tcpFd) {j : Nat}
    {slot : Option ClientEntry} (hClient : net'.registry.client = Function.update net.registry.client j slot)
    (hOther : i ≠ j) (hNew : ∀ e', slot = some e' → e'.tcpFd ≠ e.tcpFd) : Passes e.tcpFd [] net net' := by
  have hAt' : net'.registry.client i = some e := by rw [hClient, Function.update_of_ne hOther, hAt]
  apply passes_same ((joined_iff hWf').mpr ⟨i, e, hAt', rfl⟩)
  rw [stream, stream, hWire]
  congr 1
  apply ClientRegistry.queued_update hWf.indexed (hWf.indexed.fd i e hAt) hClient hNew
  intro e' hAt'' hEq
  exact hOther (hWf.indexed.distinct i j e e' hAt hAt'' hEq.symm)

end Move

theorem Move.widen {limits wider : Limits} (hWrites : ∀ taken f n, limits.writes taken f n → wider.writes taken f n)
    (hServes : ∀ fd, limits.serves fd → wider.serves fd) {net net' : NetServer} (h : Move limits net net') :
    Move wider net net' := by
  cases h with
  | touch registry inputs check counter answers datagrams hSame hSize hInputs =>
    exact .touch registry inputs check counter answers datagrams hSame hSize hInputs
  | broadcast f hFits => exact .broadcast f hFits
  | write fd f n answers hFits hWrite => exact .write fd f n answers hFits (hWrites _ _ _ hWrite)
  | flush i e n registry answers hAt hClient hSize => exact .flush i e n registry answers hAt hClient hSize
  | enter i e registry lobby counter hServe hFd hWatched hNew hFree hId hPending hClient hSize hLobby =>
    exact .enter i e registry lobby counter (hServes _ hServe) hFd hWatched hNew hFree hId hPending hClient hSize hLobby
  | leave i e registry hAt hClient hSize => exact .leave i e registry hAt hClient hSize
  | start shuffle lobby hBegin => exact .start shuffle lobby hBegin
  | accept fd hServe hFd hNew => exact .accept fd (hServes _ hServe) hFd hNew
  | close fd hNone => exact .close fd hNone
  | buffer entry fd bytes hServe hFd hEntry => exact .buffer entry fd bytes (hServes _ hServe) hFd hEntry

/-- Each move sends all clients the same: the one broadcast there is, or nothing. -/
theorem Move.sends {serves : Int → Prop} {net net' : NetServer} (hWf : Wf net) (hStreams : Streams net)
    (hMove : Move (replying serves) net net') :
    ∃ sent, ∀ fd, Joined net fd → Passes fd sent net net' := by
  have hWf' := hWf.move hMove
  cases hMove with
  | broadcast f hFits =>
    refine ⟨broadcasts [f], fun fd hJoined => ?_⟩
    obtain ⟨i, e, hAt, rfl⟩ := (joined_iff hWf).mp hJoined
    exact hStreams.broadcast_passes hWf hAt hFits
  | touch registry inputs check counter answers datagrams hSame hSize hInputs =>
    refine ⟨[], fun fd hJoined => ?_⟩
    obtain ⟨i, e, hAt, rfl⟩ := (joined_iff hWf).mp hJoined
    have hCore := hSame i
    rw [hAt, Option.map_some] at hCore
    obtain ⟨e', hAt', hKey⟩ := Option.map_eq_some_iff.mp hCore
    apply passes_same
    · exact (joined_iff hWf').mpr ⟨i, e', hAt', congrArg (fun k => k.2.1) hKey⟩
    · exact congrArg (net.wire e.tcpFd ++ ·) (queued_of_core hWf hSame (hWf.indexed.fd i e hAt))
  | write fd f n answers hFits hWrites =>
    refine ⟨[], fun fd' hJoined => ?_⟩
    obtain ⟨i, e, hAt, rfl⟩ := (joined_iff hWf).mp hJoined
    exact hStreams.write_passes hWf hAt answers hFits hWrites
  | flush j e' n registry answers hAt' hClient hSize =>
    refine ⟨[], fun fd hJoined => ?_⟩
    obtain ⟨i, e, hAt, rfl⟩ := (joined_iff hWf).mp hJoined
    by_cases hSlot : i = j
    · subst hSlot
      obtain rfl := Option.some.inj (hAt.symm.trans hAt')
      have hLeft : registry.client i = some { e with pendingOut := e.pendingOut.drop n } := by
        rw [hClient, Function.update_self]
      have hQueue := ClientRegistry.queued_of_client hWf'.indexed hLeft
      apply passes_same
      · exact (joined_iff hWf').mpr ⟨i, _, hLeft, rfl⟩
      · simp only at hQueue
        simp only [stream, Function.update_self]
        rw [hQueue, ClientRegistry.queued_of_client hWf.indexed hAt, List.append_assoc, List.take_append_drop]
    · have hFd : e.tcpFd ≠ e'.tcpFd := fun hEq => hSlot (hWf.indexed.distinct i j e e' hAt hAt' hEq)
      apply update_passes hWf hAt hWf' (Function.update_of_ne hFd _ _) hClient hSlot
      rintro e'' hSome hEq
      cases hSome
      exact hFd hEq.symm
  | enter j e' registry lobby counter hServe hFd hWatched hNew hFree hId hPending hClient hSize hLobby =>
    refine ⟨[], fun fd hJoined => ?_⟩
    obtain ⟨i, e, hAt, rfl⟩ := (joined_iff hWf).mp hJoined
    have hOther : i ≠ j := by
      rintro rfl
      cases hFree.symm.trans hAt
    apply update_passes hWf hAt hWf' rfl hClient hOther
    rintro e'' hSome hEq
    cases hSome
    exact ClientRegistry.findByFd_none hNew hAt hEq.symm
  | leave j e' registry hAt' hClient hSize =>
    refine ⟨[], fun fd hJoined => ?_⟩
    obtain ⟨i, e, hAt, rfl⟩ := (joined_iff hWf).mp hJoined
    by_cases hSlot : i = j
    · subst hSlot
      obtain rfl := Option.some.inj (hAt.symm.trans hAt')
      apply Or.inr
      simp only [closeUnregistered, Function.update_self]
    · apply update_passes hWf hAt hWf' rfl hClient hSlot
      rintro e'' hNone
      cases hNone
  | start shuffle lobby hBegin => exact ⟨[], fun fd hJoined => passes_same hJoined rfl⟩
  | accept fd hServe hFd hNew =>
    refine ⟨[], fun fd' hJoined => ?_⟩
    obtain ⟨i, e, hAt, rfl⟩ := (joined_iff hWf).mp hJoined
    have hOther : e.tcpFd ≠ fd := by
      rintro rfl
      cases hNew.symm.trans (hWf.watched i e hAt)
    apply passes_same
    · exact hJoined
    · simp only [stream, acceptClient, Function.update_of_ne hOther]
  | close fd hNone => exact ⟨[], fun fd' hJoined => passes_same hJoined rfl⟩
  | buffer entry fd bytes hServe hFd hEntry =>
    refine ⟨[], fun fd' hJoined => ?_⟩
    cases entry with
    | none => exact passes_same hJoined rfl
    | some e => exact passes_same hJoined rfl

/-- What is closed stays closed until it is accepted again. -/
theorem Move.closed {limits : Limits} {net net' : NetServer} (hMove : Move limits net net') {fd : Int}
    (hServes : ¬ limits.serves fd) (hClosed : net.watched fd = false) : net'.watched fd = false := by
  have hShut : ∀ fd', Function.update net.watched fd' false fd = false := by
    intro fd'
    by_cases hEq : fd = fd'
    · rw [hEq, Function.update_self]
    · rw [Function.update_of_ne hEq]
      exact hClosed
  cases hMove with
  | accept fd' hServe =>
    have hOther : fd ≠ fd' := by
      rintro rfl
      exact hServes hServe
    exact (Function.update_of_ne hOther _ _).trans hClosed
  | leave i e => exact hShut e.tcpFd
  | close fd' => exact hShut fd'
  | buffer entry =>
    cases entry with
    | none => exact hClosed
    | some e => exact hClosed
  | _ => exact hClosed

theorem Passes.trans {net mid net' : NetServer} {fd : Int} {sent more : List Frame} (h : Passes fd sent net mid)
    (hMore : Joined mid fd → Passes fd more mid net') (hClosed : mid.watched fd = false → net'.watched fd = false) :
    Passes fd (sent ++ more) net net' := by
  rcases h with ⟨hJoined, hOwed⟩ | hShut
  · rcases hMore hJoined with ⟨hJoined', hOwed'⟩ | hShut'
    · exact Or.inl ⟨hJoined', by rw [hOwed', hOwed, List.append_assoc]⟩
    · exact Or.inr hShut'
  · exact Or.inr (hClosed hShut)

/-- Along a chain of moves the clients that are not closed are sent one and the same. -/
theorem Moves.sends {serves : Int → Prop} {net net' : NetServer} (hWf : Wf net) (hStreams : Streams net)
    (hMoves : Moves (replying serves) net net') :
    Streams net' ∧ ∃ sent, ∀ fd, ¬ serves fd → Joined net fd → Passes fd sent net net' := by
  induction hMoves with
  | refl => exact ⟨hStreams, [], fun fd _ hJoined => passes_same hJoined rfl⟩
  | @tail mid net' hFront hMove ih =>
    obtain ⟨hMid, sent, hSent⟩ := ih
    have hWfMid := hWf.moves hFront
    obtain ⟨more, hMore⟩ := hMove.sends hWfMid hMid
    have hWide : Move wholeWrites mid net' := hMove.widen (fun _ _ _ hWrite => And.left hWrite) fun _ _ => trivial
    refine ⟨hMid.move hWfMid hWide, sent ++ more, fun fd hServes hJoined => ?_⟩
    exact (hSent fd hServes hJoined).trans (hMore fd) (hMove.closed hServes)

theorem reply_isReply {net : NetServer} {env : Env} {fd : Int} {f reply : Frame} (h : net.reply env fd f = some reply) :
    IsReply reply := by
  rw [NetServer.reply] at h
  split at h
  · obtain ⟨msg, -, rfl⟩ := Option.map_eq_some_iff.mp h
    rw [tryJoin]
    split
    · exact Or.inr rfl
    · simp only
      split
      · exact Or.inl rfl
      · exact Or.inr rfl
  · split at h
    · cases h
    · obtain ⟨-, -, rfl⟩ := Option.map_eq_some_iff.mp h
      exact Or.inr rfl
  · cases h

theorem allAllowed_replying (serves : Int → Prop) {env : Env} {fd : Int} (frames : List Frame) {net : NetServer}
    (h : AllAllowed wholeWrites env fd net frames) : AllAllowed (replying serves) env fd net frames := by
  induction frames generalizing net with
  | nil => exact trivial
  | cons f frames ih =>
    constructor
    · exact fun reply hReply => ⟨h.1 reply hReply, reply_isReply hReply⟩
    · exact ih h.2

/-- A connection that has a client is neither entered nor accepted by its frames. -/
theorem onFrame_moves_joined {limits : Limits} {net : NetServer} {env : Env} {fd : Int} {e : ClientEntry}
    (hFind : net.registry.findByFd fd = some e) {f : Frame} (hAllowed : Allowed limits env fd net f) :
    Moves limits net (net.onFrame env fd f) := by
  rw [onFrame]
  split
  · split
    · simp only [onJoinLobby, hFind]
      exact .refl
    · exact .refl
  · rename_i hType
    split
    · rename_i hMsg
      apply onStartRequest_moves net env fd
      intro e' hFind' hNot
      apply hAllowed
      simp only [NetServer.reply, hType, hFind', hMsg, hNot, Bool.false_eq_true, if_false, Option.map_some]
    · exact .refl
  · exact .refl

theorem frames_moves_joined {limits : Limits} {env : Env} {fd : Int} (frames : List Frame) {net : NetServer} (h : Wf net)
    (hWatched : net.watched fd = true) {e : ClientEntry} (hFind : net.registry.findByFd fd = some e)
    (hAllowed : AllAllowed limits env fd net frames) : Moves limits net (frames.foldl (onFrame env fd) net) := by
  induction frames generalizing net e with
  | nil => exact .refl
  | cons f frames ih =>
    have hFirst := onFrame_moves_joined hFind hAllowed.1
    have hNext := h.moves hFirst
    obtain ⟨e', hFind', -⟩ := (onFrame_registered h env hFind f).findByFd_some hNext.indexed (h.opened fd hWatched) hFind
    apply hFirst.trans
    apply ih hNext _ hFind' hAllowed.2
    rw [(onFrame_sameInput net env fd f).watched]
    exact hWatched

theorem stream_setAccum (net : NetServer) (entry : Option ClientEntry) (fd : Int) (bytes : List U8) (fd' : Int) :
    (net.setAccum entry fd bytes).stream fd' = net.stream fd' ∧
      (Joined (net.setAccum entry fd bytes) fd' ↔ Joined net fd') ∧
      (net.setAccum entry fd bytes).watched fd' = net.watched fd' := by
  cases entry <;> exact ⟨rfl, Iff.rfl, rfl⟩

theorem Passes.setAccum {net net' : NetServer} {fd : Int} {sent : List Frame} (h : Passes fd sent net net')
    (entry : Option ClientEntry) (fd' : Int) (bytes : List U8) : Passes fd sent net (net'.setAccum entry fd' bytes) := by
  obtain ⟨hStream, hJoined, hWatched⟩ := stream_setAccum net' entry fd' bytes fd
  rw [Passes, hJoined, hWatched, owed, hStream]
  exact h

theorem readable_sends {net : NetServer} (hWf : Wf net) (hStreams : Streams net) {env : Env} {fd : Int}
    (hWatched : net.watched fd = true) {e : ClientEntry} (hFind : net.registry.findByFd fd = some e)
    (recvs : List RecvResult) (hAllowed : ∀ accum, recvLoop recvs (net.accumFor fd) = some accum →
      AllAllowed wholeWrites env fd net (deframe kTcpFrameCapBytes accum).frames) :
    ∃ sent, ∀ fd', Joined net fd' → Passes fd' sent net (net.handleTcpReadable env fd recvs) := by
  have hFd := hWf.opened fd hWatched
  have hSends : ∀ {net'}, Moves (replying fun _ => False) net net' →
      ∃ sent, ∀ fd', Joined net fd' → Passes fd' sent net net' := by
    intro net' hMoves
    obtain ⟨-, sent, hSent⟩ := hMoves.sends hWf hStreams
    exact ⟨sent, fun fd' hJoined => hSent fd' id hJoined⟩
  rw [handleTcpReadable]
  split
  · exact hSends (drop_moves hWf hFd)
  · rename_i accum hRecv
    have hServed := frames_moves_joined (deframe kTcpFrameCapBytes accum).frames hWf hWatched hFind
      (allAllowed_replying (fun _ => False) _ (hAllowed accum hRecv))
    simp only
    split
    · exact hSends (hServed.trans (drop_moves (hWf.moves hServed) hFd))
    · obtain ⟨sent, hSent⟩ := hSends hServed
      exact ⟨sent, fun fd' hJoined => (hSent fd' hJoined).setAccum _ _ _⟩

/-- Whatever the reaction is, the clients it does not close are sent one and the same. -/
theorem step_sends {net : NetServer} (hWf : Wf net) (hStreams : Streams net) {event : Event}
    (hEnabled : net.Enabled event) (hAllowed : EventAllowed wholeWrites net event) :
    ∃ sent, ∀ fd, Joined net fd → Passes fd sent net (net.step event) := by
  have hServing : EventAllowed (replying event.serves) net event := by
    refine ⟨fun _ hServes => hServes, fun env fd recvs answers hEvent accum hRecv => ?_⟩
    exact allAllowed_replying _ _ (hAllowed.writes env fd recvs answers hEvent accum hRecv)
  have hOthers : (∀ fd, Joined net fd → ¬ event.serves fd) → 
      ∃ sent, ∀ fd, Joined net fd → Passes fd sent net (net.step event) := by
    intro hNot
    obtain ⟨-, sent, hSent⟩ := (step_moves hWf hEnabled hServing).sends hWf hStreams
    exact ⟨sent, fun fd hJoined => hSent fd (hNot fd hJoined) hJoined⟩
  cases event with
  | accept fd =>
    apply hOthers
    rintro fd' hJoined rfl
    obtain ⟨i, e, hAt, rfl⟩ := (joined_iff hWf).mp hJoined
    cases hEnabled.2.symm.trans (hWf.watched i e hAt)
  | readable env fd recvs answers =>
    cases hFind : net.registry.findByFd fd with
    | none =>
      apply hOthers
      rintro fd' hJoined rfl
      obtain ⟨i, e, hAt, rfl⟩ := (joined_iff hWf).mp hJoined
      exact ClientRegistry.findByFd_none hFind hAt rfl
    | some e =>
      have hSends : Move {} net { net with answers } := sends_move hWf net.lastSilenceCheckMs answers net.datagrams
      have hStreams' : Streams { net with answers } := hStreams.congr (fun _ hIs => hIs) rfl rfl fun _ _ => rfl
      obtain ⟨sent, hSent⟩ := readable_sends (hWf.move hSends) hStreams' hEnabled hFind recvs
        (hAllowed.writes env fd recvs answers rfl)
      exact ⟨sent, hSent⟩
  | _ => exact hOthers fun fd _ hServes => hServes

/-- A stretch of a run in which all connections of the group keep their clients. -/
inductive Meanwhile (group : Int → Prop) (net : NetServer) : NetServer → Prop where
  | refl : Meanwhile group net net
  | step {later : NetServer} (h : Meanwhile group net later) (event : Event) (hEnabled : later.Enabled event)
      (hAllowed : EventAllowed wholeWrites later event) (hStay : ∀ fd, group fd → Joined (later.step event) fd) :
      Meanwhile group net (later.step event)
  | drained {later : NetServer} (h : Meanwhile group net later) (cmds rest : List InboundCommand)
      (hQueue : later.inbound = cmds ++ rest) : Meanwhile group net { later with inbound := rest }

theorem Meanwhile.reachable {group : Int → Prop} {net later : NetServer} (h : Meanwhile group net later)
    (hReach : ReachableBy (EventAllowed wholeWrites) net) : ReachableBy (EventAllowed wholeWrites) later := by
  induction h with
  | refl => exact hReach
  | step _ event hEnabled hAllowed _ ih => exact ih.step event hEnabled hAllowed
  | drained _ cmds rest hQueue ih => exact ih.drained cmds rest hQueue

theorem Meanwhile.joined {group : Int → Prop} {net later : NetServer} (h : Meanwhile group net later)
    (hJoined : ∀ fd, group fd → Joined net fd) : ∀ fd, group fd → Joined later fd := by
  induction h with
  | refl => exact hJoined
  | step _ _ _ _ hStay _ => exact hStay
  | drained _ _ _ _ ih => exact ih

theorem joined_watched {net : NetServer} (h : Wf net) {fd : Int} (hJoined : Joined net fd) : net.watched fd = true := by
  obtain ⟨i, e, hAt, rfl⟩ := (joined_iff h).mp hJoined
  exact h.watched i e hAt

theorem Meanwhile.sends {group : Int → Prop} {net later : NetServer} (h : Meanwhile group net later)
    (hReach : ReachableBy (EventAllowed wholeWrites) net) (hJoined : ∀ fd, group fd → Joined net fd) :
    ∃ sent, ∀ fd, group fd → later.owed fd = net.owed fd ++ sent := by
  induction h with
  | refl => exact ⟨[], fun fd _ => (List.append_nil _).symm⟩
  | @step later hFront event hEnabled hAllowed hStay ih =>
    obtain ⟨sent, hSent⟩ := ih
    have hLater := hFront.reachable hReach
    obtain ⟨more, hMore⟩ := step_sends hLater.wf (streams_of_reachable hLater) hEnabled hAllowed
    refine ⟨sent ++ more, fun fd hIn => ?_⟩
    rcases hMore fd (hFront.joined hJoined fd hIn) with ⟨-, hOwed⟩ | hShut
    · rw [hOwed, hSent fd hIn, List.append_assoc]
    · have hOpen := joined_watched (hLater.wf.moves (step_allMoves hLater.wf hEnabled)) (hStay fd hIn)
      cases hShut.symm.trans hOpen
  | drained _ cmds rest hQueue ih => exact ih

/-- While they stay, all clients are owed the same further broadcasts in the same order, and what each of them has
received of all that it is owed is a beginning. -/
theorem broadcasts_ordered {group : Int → Prop} {net later : NetServer}
    (hReach : ReachableBy (EventAllowed wholeWrites) net) (hJoined : ∀ fd, group fd → Joined net fd)
    (hLater : Meanwhile group net later) :
    ∃ sent, ∀ fd, group fd → later.owed fd = net.owed fd ++ sent ∧ later.delivered fd <+: net.owed fd ++ sent := by
  obtain ⟨sent, hSent⟩ := hLater.sends hReach hJoined
  have hEnd := hLater.reachable hReach
  refine ⟨sent, fun fd hIn => ⟨hSent fd hIn, ?_⟩⟩
  rw [← hSent fd hIn]
  exact (streams_of_reachable hEnd).delivered (joined_watched hEnd.wf (hLater.joined hJoined fd hIn))

/-- The connection is accepted and its JOIN_LOBBY read; the socket takes the answer. -/
def letJoin (net : NetServer) (fd : Int) : NetServer :=
  (net.step (.accept fd)).step (.readable {} fd [.got (encode joinFrame)] [.sent 100])

/-- What the socket does with the answer to a first JOIN_LOBBY, as a check. -/
def TakesAnswer (net : NetServer) (fd : Int) : Prop :=
  recvLoop [.got (encode joinFrame)] ((net.step (.accept fd)).accumFor fd) = some (encode joinFrame) ∧
    ∀ reply ∈ NetServer.reply { net.step (.accept fd) with answers := [.sent 100] } {} fd joinFrame,
      (sendLoop [.sent 100] (encode reply)).sent = (encode reply).length

instance (net : NetServer) (fd : Int) : Decidable (TakesAnswer net fd) := inferInstanceAs (Decidable (_ ∧ _))

theorem letJoin_reachable {net : NetServer} (h : ReachableBy (EventAllowed wholeWrites) net) {fd : Int}
    (hNew : 0 ≤ fd ∧ net.watched fd = false) (hTakes : TakesAnswer net fd) :
    ReachableBy (EventAllowed wholeWrites) (net.letJoin fd) := by
  have hAccepted := h.step (.accept fd) hNew ⟨fun _ _ => trivial, fun _ _ _ _ hEvent => by cases hEvent⟩
  apply hAccepted.step
  · exact Function.update_self fd true net.watched
  · refine ⟨fun _ _ => trivial, ?_⟩
    rintro env fd' recvs answers hEvent accum hRecv
    cases hEvent
    cases hTakes.1.symm.trans hRecv
    have hFrames : (deframe kTcpFrameCapBytes (encode joinFrame)).frames = [joinFrame] := by decide +kernel
    have hFresh : (net.step (.accept fd)).wire fd = [] := by
      simp only [step, acceptClient, Function.update_self]
    rw [hFrames]
    refine ⟨fun reply hReply => Or.inr ⟨?_, hTakes.2 reply hReply⟩, trivial⟩
    simp only [hFresh]
    rfl

def bothJoined : NetServer := (({} : NetServer).letJoin 5).letJoin 7

def twoEvents : List OutboundEvent := [.playerKilled {}, .matchEnd {}]

/-- Two events go out, and one of the two sockets takes what waits for it. -/
def bothTold : NetServer := (bothJoined.step (.wake twoEvents)).step (.writable 7 [.sent 1000])

theorem quiet_allowed {net : NetServer} {event : Event}
    (h : ∀ env fd recvs answers, event ≠ .readable env fd recvs answers) :
    EventAllowed wholeWrites net event :=
  ⟨fun _ _ => trivial, fun env fd recvs answers hEvent => absurd hEvent (h env fd recvs answers)⟩

theorem broadcasts_ordered_both :
    ∃ sent, ∀ fd, (fd = 5 ∨ fd = 7) →
      bothTold.owed fd = bothJoined.owed fd ++ sent ∧ bothTold.delivered fd <+: bothJoined.owed fd ++ sent := by
  have hFirst : ReachableBy (EventAllowed wholeWrites) (({} : NetServer).letJoin 5) :=
    letJoin_reachable (.start 0 _) ⟨by decide, rfl⟩ (by decide +kernel)
  have hReach : ReachableBy (EventAllowed wholeWrites) bothJoined :=
    letJoin_reachable hFirst ⟨by decide, by decide +kernel⟩ (by decide +kernel)
  have hStay : ∀ net : NetServer,
      ((∃ e ∈ net.registry.live, e.tcpFd = 5) ∧ ∃ e ∈ net.registry.live, e.tcpFd = 7) →
      ∀ fd, (fd = 5 ∨ fd = 7) → Joined net fd := by
    rintro net ⟨h5, h7⟩ fd (rfl | rfl)
    · exact h5
    · exact h7
  have hFits : ∀ ev ∈ twoEvents, ev.payload.length ≤ kPayloadDataBytes := by decide +kernel
  have hOpen : (bothJoined.step (.wake twoEvents)).watched 7 = true := by decide +kernel
  have hTold : Meanwhile (fun fd => fd = 5 ∨ fd = 7) bothJoined bothTold := by
    apply Meanwhile.step
    · apply Meanwhile.step .refl
      · exact hFits
      · exact quiet_allowed (by simp)
      · exact hStay _ (by decide +kernel)
    · exact hOpen
    · exact quiet_allowed (by simp)
    · exact hStay _ (by decide +kernel)
  exact broadcasts_ordered hReach (hStay _ (by decide +kernel)) hTold

end NetServer
end CaptureTheFlag
