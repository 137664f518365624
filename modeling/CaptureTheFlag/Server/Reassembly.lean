import CaptureTheFlag.Server.NetSteps

/-! # Reassembly of a client's stream

A connection is served by a number of calls of `handle_tcp_readable`, with the rest of the poll loop in between.
-/
namespace CaptureTheFlag
set_option autoImplicit false
open Protocol Framing Relation

namespace NetServer

/-- Nothing that decides how the connection's bytes are read has changed. -/
structure Kept (fd : Int) (net net' : NetServer) : Prop where
  watched : net'.watched fd = net.watched fd
  idOf : net'.registry.idOf fd = net.registry.idOf fd
  preJoin : net'.preJoin fd = net.preJoin fd
  tcpIn : ∀ id, net.registry.idOf fd = some id → net'.tcpIn id = net.tcpIn id

theorem accumFor_eq (net : NetServer) (fd : Int) :
    net.accumFor fd = match net.registry.idOf fd with
      | some id => net.tcpIn id
      | none => net.preJoin fd := by
  rw [accumFor, ClientRegistry.idOf]
  cases net.registry.findByFd fd <;> rfl

theorem Kept.accumFor {fd : Int} {net net' : NetServer} (h : Kept fd net net') : net'.accumFor fd = net.accumFor fd := by
  rw [accumFor_eq, accumFor_eq, h.idOf]
  cases hId : net.registry.idOf fd with
  | none => exact h.preJoin
  | some id => exact h.tcpIn id hId

theorem Kept.trans {fd : Int} {net net' net'' : NetServer} (h : Kept fd net net') (h' : Kept fd net' net'') :
    Kept fd net net'' :=
  ⟨h'.watched.trans h.watched, h'.idOf.trans h.idOf, h'.preJoin.trans h.preJoin,
    fun id hId => (h'.tcpIn id (h.idOf.trans hId)).trans (h.tcpIn id hId)⟩

theorem Move.kept {limits : Limits} {net net' : NetServer} (h : Wf net) (hMove : Move limits net net') {fd : Int}
    (hFd : 0 ≤ fd) (hOther : ¬ limits.serves fd) : net'.watched fd = false ∨ Kept fd net net' := by
  have hWf := h.move hMove
  cases hMove with
  | touch registry inputs _ _ _ _ hSame hSize =>
    exact Or.inr ⟨rfl, (sameKeys_of_core hSame).idOf h.indexed hWf.indexed hFd, rfl, fun _ _ => rfl⟩
  | broadcast f => exact Or.inr ⟨rfl, (sameKeys_broadcast h.indexed _).idOf h.indexed hWf.indexed hFd, rfl, fun _ _ => rfl⟩
  | write => exact Or.inr ⟨rfl, rfl, rfl, fun _ _ => rfl⟩
  | flush i e n registry answers hAt hClient hSize =>
    exact Or.inr ⟨rfl, (sameKeys_update hAt hClient rfl rfl).idOf h.indexed hWf.indexed hFd, rfl, fun _ _ => rfl⟩
  | enter i e registry lobby tokenCounter hServes _ _ _ hFree _ _ hClient =>
    refine Or.inr ⟨rfl, ClientRegistry.idOf_update h.indexed hWf.indexed hFd hClient ?_ ?_, rfl, fun _ _ => rfl⟩
    · rintro e' hEq rfl
      cases hEq
      exact hOther hServes
    · intro e' hAt
      cases hFree.symm.trans hAt
  | leave i e registry hAt hClient hSize =>
    by_cases hEq : fd = e.tcpFd
    · refine Or.inl ?_
      simp [closeUnregistered, hEq]
    · refine Or.inr ⟨Function.update_of_ne hEq _ _, ?_, Function.update_of_ne hEq _ _, ?_⟩
      · refine ClientRegistry.idOf_update h.indexed hWf.indexed hFd hClient (fun _ hNone => (by cases hNone)) ?_
        rintro e' hAt' rfl
        cases hAt.symm.trans hAt'
        exact hEq rfl
      · intro id hId
        refine Function.update_of_ne ?_ _ _
        rintro rfl
        obtain ⟨e', hAt', hFd'⟩ := (ClientRegistry.idOf_eq_some h.indexed hFd).mp hId
        rw [h.indexed.id i e hAt, hAt] at hAt'
        cases hAt'
        exact hEq hFd'.symm
  | start => exact Or.inr ⟨rfl, rfl, rfl, fun _ _ => rfl⟩
  | accept fd' hServes =>
    refine Or.inr ⟨Function.update_of_ne ?_ _ _, rfl, rfl, fun _ _ => rfl⟩
    rintro rfl
    exact hOther hServes
  | close fd' hNone =>
    by_cases hEq : fd = fd'
    · refine Or.inl ?_
      simp [closeUnregistered, hEq]
    · exact Or.inr ⟨Function.update_of_ne hEq _ _, rfl, Function.update_of_ne hEq _ _, fun _ _ => rfl⟩
  | buffer entry fd' bytes hServes hWatched hEntry =>
    have hne : fd ≠ fd' := by
      rintro rfl
      exact hOther hServes
    cases entry with
    | none => exact Or.inr ⟨rfl, rfl, Function.update_of_ne hne _ _, fun _ _ => rfl⟩
    | some e =>
      refine Or.inr ⟨rfl, rfl, rfl, fun id hId => Function.update_of_ne ?_ _ _⟩
      rintro rfl
      obtain ⟨e', hFind, hSame⟩ := hEntry e rfl
      have hId' : net.registry.idOf fd' = some e.playerId := by rw [ClientRegistry.idOf, hFind, Option.map_some, hSame]
      obtain ⟨f, hAt, hFdF⟩ := (ClientRegistry.idOf_eq_some h.indexed hFd).mp hId
      obtain ⟨f', hAt', hFdF'⟩ := (ClientRegistry.idOf_eq_some h.indexed (h.opened fd' hWatched)).mp hId'
      cases hAt.symm.trans hAt'
      exact hne (hFdF.symm.trans hFdF')

theorem Moves.kept {limits : Limits} {net net' : NetServer} (h : Wf net) (hMoves : Moves limits net net') {fd : Int}
    (hFd : 0 ≤ fd) (hOther : ¬ limits.serves fd) : net'.watched fd = false ∨ Kept fd net net' := by
  induction hMoves with
  | refl => exact Or.inr ⟨rfl, rfl, rfl, fun _ _ => rfl⟩
  | tail hFirst hLast ih =>
    rcases Move.kept (h.moves hFirst) hLast hFd hOther with hClosed | hKept
    · exact Or.inl hClosed
    · rcases ih with hClosed | hSoFar
      · exact Or.inl (hKept.watched.trans hClosed)
      · exact Or.inr (hSoFar.trans hKept)

def IsJoin (f : Frame) : Prop :=
  MessageType.ofCode f.type = some .joinLobby ∧ (decodeJoinLobby ⟨f.payload, false⟩).1.isSome = true

def Enters (net : NetServer) (fd : Int) (frames : List Frame) : Prop :=
  net.registry.idOf fd = none ∧ net.lobby.Open ∧ ∃ f ∈ frames, IsJoin f

theorem onFrame_notJoin {net : NetServer} {env : Env} {fd : Int} {f : Frame} (hNew : net.registry.idOf fd = none)
    (hNot : ¬ IsJoin f) : net.onFrame env fd f = net := by
  rw [onFrame]
  split
  · rename_i hType
    split
    · rename_i msg hMsg
      exact absurd ⟨hType, by rw [hMsg]; rfl⟩ hNot
    · rfl
  · split
    · simp only [onStartRequest, ClientRegistry.findByFd_of_idOf hNew]
    · rfl
  · rfl

theorem idOf_frames (env : Env) {fd : Int} (frames : List Frame) {net : NetServer} (h : Wf net)
    (hWatched : net.watched fd = true) {id : U8} (hId : net.registry.idOf fd = some id) :
    (frames.foldl (onFrame env fd) net).registry.idOf fd = some id := by
  obtain ⟨e, hFind, -⟩ := Option.map_eq_some_iff.mp hId
  have hServed : Moves {} net (frames.foldl (onFrame env fd) net) :=
    frames_moves trivial frames h hWatched (allAllowed_any (fun _ _ _ => trivial) _ _ _ _)
  have hKeys := frames_registered env frames h hWatched hFind
  rw [hKeys.idOf h.indexed (h.moves hServed).indexed (h.opened fd hWatched)]
  exact hId

theorem onFrame_join {net : NetServer} (h : Wf net) (env : Env) {fd : Int} (hWatched : net.watched fd = true)
    (hNew : net.registry.idOf fd = none) {f : Frame} (hJoin : IsJoin f) :
    (¬ net.lobby.Open ∧ (net.onFrame env fd f).lobby = net.lobby ∧
      (net.onFrame env fd f).registry.client = net.registry.client) ∨
    (net.lobby.Open ∧ ∃ id : U8, (net.onFrame env fd f).registry.idOf fd = some id ∧
      net.registry.client id.toNat = none) := by
  obtain ⟨hType, hSome⟩ := hJoin
  obtain ⟨msg, hMsg⟩ := Option.isSome_iff_exists.mp hSome
  have hFrame : net.onFrame env fd f = net.onJoinLobby env fd msg := by simp only [onFrame, hType, hMsg]
  rw [hFrame]
  rcases onJoinLobby_cases h env hWatched (ClientRegistry.findByFd_of_idOf hNew) msg with
    ⟨-, hShut, hLobby, hClient⟩ | ⟨-, hOpen, id, hId, -, hFree, -⟩
  · exact Or.inl ⟨hShut, hLobby, hClient⟩
  · exact Or.inr ⟨hOpen, id, hId, hFree⟩

theorem frames_enter (env : Env) {fd : Int} (frames : List Frame) {net : NetServer} (h : Wf net)
    (hWatched : net.watched fd = true) (hNew : net.registry.idOf fd = none) :
    (¬ net.Enters fd frames ∧ (frames.foldl (onFrame env fd) net).registry.idOf fd = none) ∨
    (net.Enters fd frames ∧ ∃ id : U8, (frames.foldl (onFrame env fd) net).registry.idOf fd = some id ∧
      net.registry.client id.toNat = none) := by
  induction frames generalizing net with
  | nil => exact Or.inl ⟨fun hEnters => (by obtain ⟨-, -, f, hMem, -⟩ := hEnters; cases hMem), hNew⟩
  | cons f frames ih =>
    have hMoves : Moves {} net (net.onFrame env fd f) := onFrame_moves h trivial hWatched (fun _ _ => trivial)
    have hWf := h.moves hMoves
    have hStill : (net.onFrame env fd f).watched fd = true := by
      rw [(onFrame_sameInput net env fd f).watched]
      exact hWatched
    rw [List.foldl_cons]
    by_cases hJoin : IsJoin f
    · rcases onFrame_join h env hWatched hNew hJoin with ⟨hShut, hLobby, hClient⟩ | ⟨hOpen, id, hId, hFree⟩
      · have hKeys : SameKeys net.registry (net.onFrame env fd f).registry := fun i => by rw [hClient]
        have hNew' : (net.onFrame env fd f).registry.idOf fd = none := by
          rw [hKeys.idOf h.indexed hWf.indexed (h.opened fd hWatched)]
          exact hNew
        rcases ih hWf hStill hNew' with ⟨-, hNone⟩ | ⟨⟨-, hOpen, -⟩, -⟩
        · exact Or.inl ⟨fun hEnters => hShut hEnters.2.1, hNone⟩
        · rw [hLobby] at hOpen
          exact absurd hOpen hShut
      · exact Or.inr ⟨⟨hNew, hOpen, f, List.mem_cons_self, hJoin⟩, id, idOf_frames env frames hWf hStill hId, hFree⟩
    · rw [onFrame_notJoin hNew hJoin]
      have hSame : net.Enters fd (f :: frames) ↔ net.Enters fd frames := by
        simp [Enters, hJoin]
      rw [hSame]
      exact ih h hWatched hNew

/-- The bytes that the receive loop takes off the socket, or `none` if the peer closes or the socket fails. -/
def received : List RecvResult → Option (List U8)
  | [] => some []
  | .again :: _ => some []
  | .failed :: _ => none
  | .got [] :: _ => none
  | .got chunk :: more => if chunk.length < kRecvChunkBytes then some chunk else (received more).map (chunk ++ ·)

theorem recvLoop_received (recvs : List RecvResult) {accum bytes : List U8} (hBytes : received recvs = some bytes)
    (hCap : (accum ++ bytes).length ≤ kAccumCap) : recvLoop recvs accum = some (accum ++ bytes) := by
  induction recvs generalizing accum bytes with
  | nil =>
    cases hBytes
    simp [recvLoop]
  | cons answer more ih =>
    match answer, hBytes with
    | .again, hBytes =>
      cases hBytes
      simp [recvLoop]
    | .got (b :: chunk), hBytes =>
      simp only [received] at hBytes
      simp only [recvLoop]
      split at hBytes
      · rename_i hShort
        cases hBytes
        rw [if_neg (by omega), if_pos hShort]
      · rename_i hLong
        obtain ⟨tail, hTail, rfl⟩ := Option.map_eq_some_iff.mp hBytes
        rw [← List.append_assoc] at hCap ⊢
        rw [if_neg (by rw [List.length_append] at hCap; omega), if_neg hLong]
        exact ih hTail hCap

/-- The frames that one call hands to the dispatch switch. -/
def dispatched (net : NetServer) (fd : Int) (recvs : List RecvResult) : List Frame :=
  match recvLoop recvs (net.accumFor fd) with
  | none => []
  | some accum => (deframe kTcpFrameCapBytes accum).frames

/-- Every frame is handled once and in order, before the buffer is written back or the connection is closed. -/
theorem handleTcpReadable_dispatched (net : NetServer) (env : Env) (fd : Int) (recvs : List RecvResult) :
    net.handleTcpReadable env fd recvs = ((net.dispatched fd recvs).foldl (onFrame env fd) net).drop fd ∨
    ∃ rest, net.handleTcpReadable env fd recvs =
      ((net.dispatched fd recvs).foldl (onFrame env fd) net).setAccum (net.registry.findByFd fd) fd rest := by
  simp only [handleTcpReadable, dispatched]
  cases recvLoop recvs (net.accumFor fd) with
  | none => exact Or.inl rfl
  | some accum =>
    simp only
    split
    · exact Or.inl rfl
    · exact Or.inr ⟨_, rfl⟩

theorem drop_closed {net : NetServer} {fd : Int} (hFd : 0 ≤ fd) : (net.drop fd).watched fd = false := by
  rw [drop]
  split
  · rename_i e hFind
    obtain ⟨rfl, -⟩ := ClientRegistry.findByFd_some hFd hFind
    rw [disconnect_eq]
    exact Function.update_self _ _ net.watched
  · exact Function.update_self _ _ net.watched

theorem handleTcpReadable_accum {net : NetServer} (h : Wf net) (env : Env) {fd : Int} (hWatched : net.watched fd = true)
    {recvs : List RecvResult} {accum : List U8} (hRecv : recvLoop recvs (net.accumFor fd) = some accum)
    (hAlive : (deframe kTcpFrameCapBytes accum).dead = false) :
    (net.handleTcpReadable env fd recvs).watched fd = true ∧
    (net.Enters fd (deframe kTcpFrameCapBytes accum).frames → (net.handleTcpReadable env fd recvs).accumFor fd = []) ∧
    (¬ net.Enters fd (deframe kTcpFrameCapBytes accum).frames →
      (net.handleTcpReadable env fd recvs).accumFor fd = (deframe kTcpFrameCapBytes accum).rest) := by
  generalize hCut : deframe kTcpFrameCapBytes accum = cut at hAlive
  have hCall : net.handleTcpReadable env fd recvs =
      (cut.frames.foldl (onFrame env fd) net).setAccum (net.registry.findByFd fd) fd cut.rest := by
    rw [handleTcpReadable, hRecv]
    simp only [hCut, hAlive, Bool.false_eq_true, if_false]
  have hSame := frames_sameInput env fd cut.frames net
  rw [hCall]
  cases hId : net.registry.idOf fd with
  | some id =>
    obtain ⟨e, hFind, rfl⟩ := Option.map_eq_some_iff.mp hId
    have hStill := idOf_frames env cut.frames h hWatched hId
    rw [hFind, accumFor_eq]
    simp only [setAccum]
    rw [hStill]
    refine ⟨by rw [hSame.watched]; exact hWatched, fun hEnters => ?_, fun _ => Function.update_self _ _ _⟩
    rw [Enters, hId] at hEnters
    cases hEnters.1
  | none =>
    rw [ClientRegistry.findByFd_of_idOf hId, accumFor_eq]
    simp only [setAccum]
    refine ⟨by rw [hSame.watched]; exact hWatched, ?_⟩
    rcases frames_enter env cut.frames h hWatched hId with ⟨hNot, hNone⟩ | ⟨hEnters, id, hSome, hFree⟩
    · rw [hNone]
      exact ⟨fun hEnters => absurd hEnters hNot, fun _ => Function.update_self _ _ _⟩
    · rw [hSome]
      refine ⟨fun _ => ?_, fun hNot => absurd hEnters hNot⟩
      simp only
      rw [hSame.tcpIn]
      exact h.idle id hFree

/-- What else the poll loop did since the last call, and the call. -/
structure Call where
  others : List Event := []
  env : Env := {}
  recvs : List RecvResult
  answers : List SendResult := []

namespace Call

def before (c : Call) (net : NetServer) : NetServer := c.others.foldl step net

def bytes (c : Call) : List U8 := (received c.recvs).getD []

/-- The poller does not report a connection that has been closed. -/
def serve (c : Call) (fd : Int) (net : NetServer) : NetServer :=
  if (c.before net).watched fd then (c.before net).step (.readable c.env fd c.recvs c.answers) else c.before net

def frames (c : Call) (fd : Int) (net : NetServer) : List Frame :=
  if (c.before net).watched fd then (c.before net).dispatched fd c.recvs else []

end Call

def dispatchedBy (fd : Int) : NetServer → List Call → List Frame
  | _, [] => []
  | net, c :: calls => c.frames fd net ++ dispatchedBy fd (c.serve fd net) calls

/-- The events are about other connections; they may close this one. -/
def OthersOnly (fd : Int) : NetServer → List Event → Prop
  | _, [] => True
  | net, event :: events => net.Enabled event ∧ ¬ event.serves fd ∧ OthersOnly fd (net.step event) events

/-- The events are about other connections and do not close this one. -/
def Elsewhere (fd : Int) : NetServer → List Event → Prop
  | _, [] => True
  | net, event :: events =>
    net.Enabled event ∧ ¬ event.serves fd ∧ (net.step event).watched fd = net.watched fd ∧
      Elsewhere fd (net.step event) events

/-- The peer stays connected and the buffer stays within its cap. -/
def Undisturbed (fd : Int) : NetServer → List Call → Prop
  | _, [] => True
  | net, c :: calls =>
    Elsewhere fd net c.others ∧ (received c.recvs).isSome = true ∧
      ((c.before net).accumFor fd ++ c.bytes).length ≤ kAccumCap ∧ Undisturbed fd (c.serve fd net) calls

/-- The call lets the client in and stops inside a frame. -/
def CutsJoin (net : NetServer) (fd : Int) (bytes : List U8) : Prop :=
  net.Enters fd (deframe kTcpFrameCapBytes (net.accumFor fd ++ bytes)).frames ∧
    (deframe kTcpFrameCapBytes (net.accumFor fd ++ bytes)).rest ≠ []

def NeverCutsJoin (fd : Int) : NetServer → List Call → Prop
  | _, [] => True
  | net, c :: calls => ¬ (c.before net).CutsJoin fd c.bytes ∧ NeverCutsJoin fd (c.serve fd net) calls

theorem OthersOnly.kept {fd : Int} (hFd : 0 ≤ fd) {events : List Event} {net : NetServer} (h : Wf net)
    (hOthers : OthersOnly fd net events) :
    Wf (events.foldl step net) ∧
      ((events.foldl step net).watched fd = false ∨ Kept fd net (events.foldl step net)) := by
  induction events generalizing net with
  | nil => exact ⟨h, Or.inr ⟨rfl, rfl, rfl, fun _ _ => rfl⟩⟩
  | cons event events ih =>
    obtain ⟨hEnabled, hOther, hRest⟩ := hOthers
    have hMoves := step_allMoves h hEnabled
    obtain ⟨hWf, hLater⟩ := ih (h.moves hMoves) hRest
    refine ⟨hWf, ?_⟩
    rcases hLater with hClosed | hKept
    · exact Or.inl hClosed
    · rcases Moves.kept h hMoves hFd hOther with hClosed | hFirst
      · exact Or.inl (hKept.watched.trans hClosed)
      · exact Or.inr (hFirst.trans hKept)

theorem Elsewhere.othersOnly {fd : Int} {events : List Event} {net : NetServer} (h : Elsewhere fd net events) :
    OthersOnly fd net events ∧ (events.foldl step net).watched fd = net.watched fd := by
  induction events generalizing net with
  | nil => exact ⟨trivial, rfl⟩
  | cons event events ih =>
    obtain ⟨hEnabled, hOther, hOpen, hRest⟩ := h
    obtain ⟨hOthers, hWatched⟩ := ih hRest
    exact ⟨⟨hEnabled, hOther, hOthers⟩, hWatched.trans hOpen⟩

theorem Elsewhere.kept {fd : Int} (hFd : 0 ≤ fd) {events : List Event} {net : NetServer} (h : Wf net)
    (hElse : Elsewhere fd net events) :
    Wf (events.foldl step net) ∧ (events.foldl step net).watched fd = net.watched fd ∧
      (net.watched fd = true → Kept fd net (events.foldl step net)) := by
  obtain ⟨hOthers, hWatched⟩ := hElse.othersOnly
  obtain ⟨hWf, hKept⟩ := hOthers.kept hFd h
  refine ⟨hWf, hWatched, fun hIs => hKept.resolve_left fun hClosed => ?_⟩
  rw [hWatched, hIs] at hClosed
  cases hClosed

theorem serve_of_closed {fd : Int} {net : NetServer} {c : Call} (hClosed : (c.before net).watched fd = false) :
    c.serve fd net = c.before net := by
  simp only [Call.serve, hClosed, Bool.false_eq_true, if_false]

theorem serve_eq {fd : Int} {net : NetServer} {c : Call} (hOpen : (c.before net).watched fd = true) :
    c.serve fd net = ({ c.before net with answers := c.answers } : NetServer).handleTcpReadable c.env fd c.recvs := by
  simp only [Call.serve, hOpen, if_true]
  rfl

theorem serve_wf {fd : Int} {net : NetServer} {c : Call} (h : Wf (c.before net))
    (hOpen : (c.before net).watched fd = true) : Wf (c.serve fd net) := by
  have hWf : Wf { c.before net with answers := c.answers } := { h with }
  have hMoves : Moves {} _ (handleTcpReadable _ c.env fd c.recvs) := handleTcpReadable_moves hWf trivial hOpen
    c.recvs fun _ _ => allAllowed_any (fun _ _ _ => trivial) _ _ _ _
  rw [serve_eq hOpen]
  exact hWf.moves hMoves

theorem dispatchedBy_closed {fd : Int} (hFd : 0 ≤ fd) (calls : List Call) {net : NetServer} (h : Wf net)
    (hClosed : net.watched fd = false) (hUndisturbed : Undisturbed fd net calls) : dispatchedBy fd net calls = [] := by
  induction calls generalizing net with
  | nil => rfl
  | cons c calls ih =>
    obtain ⟨hElse, -, -, hRest⟩ := hUndisturbed
    obtain ⟨hWf, hWatched, -⟩ := hElse.kept hFd h
    have hStill : (c.before net).watched fd = false := hWatched.trans hClosed
    have hServe := serve_of_closed hStill
    rw [hServe] at hRest
    simp only [dispatchedBy, Call.frames, hStill, Bool.false_eq_true, if_false, List.nil_append, hServe]
    exact ih hWf hStill hRest

theorem serve_open {fd : Int} {net : NetServer} (h : Wf net) (hWatched : net.watched fd = true) {c : Call}
    {calls : List Call} (hUndisturbed : Undisturbed fd net (c :: calls)) :
    Wf (c.before net) ∧ Kept fd net (c.before net) ∧ Wf (c.serve fd net) ∧
      c.frames fd net = (deframe kTcpFrameCapBytes (net.accumFor fd ++ c.bytes)).frames ∧
      ((deframe kTcpFrameCapBytes (net.accumFor fd ++ c.bytes)).dead = true → (c.serve fd net).watched fd = false) ∧
      ((deframe kTcpFrameCapBytes (net.accumFor fd ++ c.bytes)).dead = false →
        (c.serve fd net).watched fd = true ∧
        ((c.before net).Enters fd (deframe kTcpFrameCapBytes (net.accumFor fd ++ c.bytes)).frames →
          (c.serve fd net).accumFor fd = []) ∧
        (¬ (c.before net).Enters fd (deframe kTcpFrameCapBytes (net.accumFor fd ++ c.bytes)).frames →
          (c.serve fd net).accumFor fd = (deframe kTcpFrameCapBytes (net.accumFor fd ++ c.bytes)).rest)) := by
  have hFd := h.opened fd hWatched
  obtain ⟨hElse, hSome, hCap, -⟩ := hUndisturbed
  obtain ⟨hWf, hSame, hKept⟩ := hElse.kept hFd h
  have hKept' : Kept fd net (c.before net) := hKept hWatched
  have hOpen : (c.before net).watched fd = true := hSame.trans hWatched
  obtain ⟨bytes, hBytes⟩ := Option.isSome_iff_exists.mp hSome
  have hIs : c.bytes = bytes := by simp only [Call.bytes, hBytes, Option.getD_some]
  rw [hIs] at hCap ⊢
  have hRecv := recvLoop_received c.recvs hBytes hCap
  rw [hKept'.accumFor] at hRecv
  have hServe := serve_eq hOpen
  have hRecv' : recvLoop c.recvs (({ c.before net with answers := c.answers } : NetServer).accumFor fd) =
      some (net.accumFor fd ++ bytes) := (congrArg _ hKept'.accumFor).trans hRecv
  have hWf' : Wf { c.before net with answers := c.answers } := { hWf with }
  refine ⟨hWf, hKept', serve_wf hWf hOpen, ?_, fun hDead => ?_, fun hAlive => ?_⟩
  · simp only [Call.frames, hOpen, if_true, dispatched, hKept'.accumFor, hRecv]
  · rw [hServe, handleTcpReadable, hRecv']
    simp only [hDead, if_true]
    exact drop_closed hFd
  · rw [hServe]
    exact handleTcpReadable_accum hWf' c.env hOpen hRecv' hAlive

theorem dispatchedBy_length {fd : Int} (calls : List Call) {net : NetServer} (h : Wf net)
    (hWatched : net.watched fd = true) (hUndisturbed : Undisturbed fd net calls) :
    (encodeAll (dispatchedBy fd net calls)).length ≤
      (net.accumFor fd).length + (calls.flatMap Call.bytes).length := by
  induction calls generalizing net with
  | nil => simp [dispatchedBy, encodeAll]
  | cons c calls ih =>
    obtain ⟨-, -, hWf, hFrames, hDead, hAlive⟩ := serve_open h hWatched hUndisturbed
    have hRest : Undisturbed fd (c.serve fd net) calls := hUndisturbed.2.2.2
    have hBytes := congrArg List.length (deframe_bytes kTcpFrameCapBytes (net.accumFor fd ++ c.bytes))
    simp only [List.length_append] at hBytes
    simp only [dispatchedBy, hFrames, encodeAll, List.flatMap_append, List.flatMap_cons, List.length_append] at hBytes ⊢
    generalize deframe kTcpFrameCapBytes (net.accumFor fd ++ c.bytes) = cut at hBytes hDead hAlive ⊢
    cases hCut : cut.dead with
    | true =>
      rw [dispatchedBy_closed (h.opened fd hWatched) calls hWf (hDead hCut) hRest]
      simp only [List.flatMap_nil, List.length_nil]
      omega
    | false =>
      obtain ⟨hOpen, hEnters, hStays⟩ := hAlive hCut
      have hLater := ih hWf hOpen hRest
      have hLeft : ((c.serve fd net).accumFor fd).length ≤ cut.rest.length := by
        by_cases hIn : (c.before net).Enters fd cut.frames
        · rw [hEnters hIn]
          exact Nat.zero_le _
        · rw [hStays hIn]
      simp only [encodeAll] at hLater
      omega

theorem dispatchedBy_iff {fd : Int} (calls : List Call) {net : NetServer} (h : Wf net) (hWatched : net.watched fd = true)
    (hUndisturbed : Undisturbed fd net calls) {frames : List Frame}
    (hFits : ∀ f ∈ frames, f.payload.length ≤ kTcpFrameCapBytes)
    (hPartial : (deframe kTcpFrameCapBytes (net.accumFor fd)).frames = [])
    (hStream : net.accumFor fd ++ calls.flatMap Call.bytes = encodeAll frames) :
    dispatchedBy fd net calls = frames ↔ NeverCutsJoin fd net calls := by
  have hCapBytes : kTcpFrameCapBytes < 2 ^ 16 := by decide
  induction calls generalizing net frames with
  | nil =>
    rw [List.flatMap_nil, List.append_nil] at hStream
    rw [hStream, deframe_encodeAll hCapBytes frames hFits] at hPartial
    simp only at hPartial
    simp [dispatchedBy, NeverCutsJoin, hPartial]
  | cons c calls ih =>
    obtain ⟨-, hKept, hWf, hFrames, -, hAlive⟩ := serve_open h hWatched hUndisturbed
    have hRest : Undisturbed fd (c.serve fd net) calls := hUndisturbed.2.2.2
    rw [List.flatMap_cons, ← List.append_assoc] at hStream
    obtain ⟨later, rfl, hLater⟩ := deframe_split hCapBytes hFits hStream
    have hNotDead := deframe_prefix_alive hCapBytes hFits hStream
    obtain ⟨hOpen, hEnters, hStays⟩ := hAlive hNotDead
    have hFits' : ∀ f ∈ later, f.payload.length ≤ kTcpFrameCapBytes := fun f hMem =>
      hFits f (List.mem_append_right _ hMem)
    have hNone := deframe_rest kTcpFrameCapBytes (net.accumFor fd ++ c.bytes)
    simp only [dispatchedBy, NeverCutsJoin, hFrames, List.append_cancel_left_eq, CutsJoin, hKept.accumFor]
    generalize deframe kTcpFrameCapBytes (net.accumFor fd ++ c.bytes) = cut at hLater hEnters hStays hNone ⊢
    by_cases hIn : (c.before net).Enters fd cut.frames
    · have hEmpty := hEnters hIn
      by_cases hLeft : cut.rest = []
      · have hNext := ih hWf hOpen hRest hFits' (by rw [hEmpty]; rfl) (by rw [hEmpty, ← hLater, hLeft])
        simp [hNext, hLeft]
      · -- The bytes left over are counted by no later call.
        have hCount := dispatchedBy_length calls hWf hOpen hRest
        have hTotal := congrArg List.length hLater
        rw [List.length_append] at hTotal
        rw [hEmpty, List.length_nil] at hCount
        have hPos := List.length_pos_iff.mpr hLeft
        refine ⟨fun hEq => ?_, fun hNever => absurd ⟨hIn, hLeft⟩ hNever.1⟩
        rw [hEq] at hCount
        omega
    · have hSame := hStays hIn
      have hNext := ih hWf hOpen hRest hFits' (by rw [hSame]; exact hNone) (by rw [hSame]; exact hLater)
      simp [hNext, hIn]

theorem accept_accumFor {net : NetServer} (h : Wf net) {fd : Int} (hAccept : net.Enabled (.accept fd)) :
    (net.step (.accept fd)).accumFor fd = [] := by
  have hNew : net.registry.findByFd fd = none := by
    by_contra hSome
    obtain ⟨e, hFind⟩ := Option.ne_none_iff_exists'.mp hSome
    obtain ⟨rfl, i, hAt⟩ := ClientRegistry.findByFd_some hAccept.1 hFind
    cases hAccept.2.symm.trans (h.watched i e hAt)
  rw [accumFor]
  simp only [step, acceptClient, hNew]
  exact h.closed fd hAccept.2

/-- A connection that has just been accepted: the frames of its stream are dispatched as they were sent exactly if the
call that lets the client in stops at the end of a frame. -/
theorem stream_dispatched_iff {net : NetServer} (h : Reachable net) {fd : Int} (hAccept : net.Enabled (.accept fd))
    (frames : List Frame) (hFits : ∀ f ∈ frames, f.payload.length ≤ kTcpFrameCapBytes) (calls : List Call)
    (hStream : calls.flatMap Call.bytes = encodeAll frames)
    (hUndisturbed : Undisturbed fd (net.step (.accept fd)) calls) :
    dispatchedBy fd (net.step (.accept fd)) calls = frames ↔ NeverCutsJoin fd (net.step (.accept fd)) calls := by
  have hWf := (h.step _ hAccept trivial).wf
  have hWatched : (net.step (.accept fd)).watched fd = true := by simp [step, acceptClient]
  have hAccum := accept_accumFor h.wf hAccept
  refine dispatchedBy_iff calls hWf hWatched hUndisturbed hFits ?_ ?_
  · rw [hAccum]
    rfl
  · rw [hAccum]
    exact hStream

/-- Two calls for a JOIN_LOBBY and a START_REQUEST, with `n` bytes of the second frame in the first. -/
def joinThenStart (n : Nat) : List Call :=
  [{ recvs := [.got (encode joinFrame ++ (encode startFrame).take n)] }, { recvs := [.got ((encode startFrame).drop n)] }]

/-- Cut between the frames, both arrive. -/
theorem stream_dispatched_apart :
    dispatchedBy 5 (({} : NetServer).step (.accept 5)) (joinThenStart 0) = [joinFrame, startFrame] :=
  (stream_dispatched_iff (.start 0 _) ⟨by decide, rfl⟩ [joinFrame, startFrame] (by decide) (joinThenStart 0) (by decide)
    ⟨trivial, rfl, by decide +kernel, trivial, rfl, by decide +kernel, trivial⟩).mpr
    ⟨fun hCuts => hCuts.2 (by decide +kernel), fun hCuts => hCuts.2 (by decide +kernel), trivial⟩

/-- Cut inside the second frame, its first byte stays in the buffer of a connection that has not joined. -/
theorem start_after_join_lost :
    (∀ f ∈ [joinFrame, startFrame], f.payload.length ≤ kTcpFrameCapBytes) ∧
    (joinThenStart 1).flatMap Call.bytes = encodeAll [joinFrame, startFrame] ∧
    Undisturbed 5 (({} : NetServer).step (.accept 5)) (joinThenStart 1) ∧
    dispatchedBy 5 (({} : NetServer).step (.accept 5)) (joinThenStart 1) = [joinFrame] :=
  ⟨by decide, by decide, ⟨trivial, rfl, by decide +kernel, trivial, rfl, by decide +kernel, trivial⟩, by decide +kernel⟩

end NetServer
end CaptureTheFlag
