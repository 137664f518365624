import CaptureTheFlag.Server.Pollers
import CaptureTheFlag.Server.Reassembly

/-! # The poll loop

One turn of `NetServer::run`: a batch of reports is handled in order, write interest follows the pending buffers, and two
sweeps drop clients that are too slow or silent.
-/
namespace CaptureTheFlag
set_option autoImplicit false
open Relation

abbrev kPollResults : Nat := 32
abbrev kSilenceCheckMs : Nat := 100

structure PollLoop where
  net : NetServer
  /-- What the poller watches. -/
  interest : Interest
  listenFd : Int
  udpFd : Int
  eventFd : Int

/-- What the handler of one report reads from the outside. -/
structure Reading where
  events : List OutboundEvent := []
  datagrams : List (U32 × SockAddr × List U8) := []
  accepted : List Int := []
  env : Env := {}
  recvs : List RecvResult := []
  answers : List SendResult := []

namespace NetServer

def Event.mayClose : Event → Int → Prop
  | .readable _ fd _ _ => fun fd' => fd' = fd
  | .writable fd _ => fun fd' => fd' = fd
  | .pendingCap => fun _ => True
  | .silence _ => fun _ => True
  | _ => fun _ => False

theorem disconnect_watched (net : NetServer) (e : ClientEntry) :
    (net.disconnect e true).watched = Function.update net.watched e.tcpFd false := by
  rw [disconnect_eq]
  rfl

theorem drop_watched (net : NetServer) {fd : Int} (hFd : 0 ≤ fd) :
    (net.drop fd).watched = Function.update net.watched fd false := by
  rw [drop]
  cases hFind : net.registry.findByFd fd with
  | none => rfl
  | some e =>
    obtain ⟨rfl, -⟩ := ClientRegistry.findByFd_some hFd hFind
    exact net.disconnect_watched e

theorem flushPending_watched (net : NetServer) {fd : Int} (hFd : 0 ≤ fd) :
    (net.flushPending fd).watched = net.watched ∨
      (net.flushPending fd).watched = Function.update net.watched fd false := by
  rw [flushPending]
  cases hFind : net.registry.findByFd fd with
  | none => exact Or.inl rfl
  | some e =>
    obtain ⟨rfl, -⟩ := ClientRegistry.findByFd_some hFd hFind
    simp only
    split
    · exact Or.inr (disconnect_watched _ _)
    · exact Or.inl rfl

theorem onUdpPacket_watched (net : NetServer) (now : U32) (src : SockAddr) (data : List U8) :
    (net.onUdpPacket now src data).watched = net.watched := by
  have hHello : ∀ msg, (net.onUdpHello now src msg).watched = net.watched := by
    intro msg
    rw [onUdpHello]
    split <;> rfl
  have hInput : ∀ msg, (net.onPlayerInput now src msg).watched = net.watched := by
    intro msg
    rw [onPlayerInput]
    split <;> rfl
  rw [onUdpPacket]
  split
  · rfl
  · simp only
    split
    · split
      · exact hHello _
      · rfl
    · split
      · exact hInput _
      · rfl
    · rfl

theorem handleWake_watched (events : List OutboundEvent) (net : NetServer) :
    (net.handleWake events).watched = net.watched := by
  refine Chain.foldl_invariant (I := fun net' : NetServer => net'.watched = net.watched) ?_ events net rfl
  intro net' ev h
  rw [onOutboundEvent]
  split
  · split
    · exact h
    · exact h
  · exact h
  · exact h

/-- A reaction closes no connection but the one it is about, sweeps apart. -/
theorem step_stays {net : NetServer} (h : Wf net) {event : Event} (hEnabled : net.Enabled event) {fd : Int}
    (hOther : ¬ event.mayClose fd) (hWatched : net.watched fd = true) : (net.step event).watched fd = true := by
  cases event with
  | accept fd' =>
    by_cases hEq : fd = fd'
    · subst hEq
      exact Function.update_self _ _ net.watched
    · exact (Function.update_of_ne hEq _ _).trans hWatched
  | readable env fd' recvs answers =>
    have hSame := frames_sameInput env fd' (dispatched { net with answers } fd' recvs) { net with answers }
    rcases handleTcpReadable_dispatched { net with answers } env fd' recvs with hDrop | ⟨rest, hKeep⟩
    · rw [step, hDrop, drop_watched _ (h.opened fd' hEnabled), hSame.watched, Function.update_of_ne hOther]
      exact hWatched
    · rw [step, hKeep]
      have hAccum : ∀ (net' : NetServer) (entry : Option ClientEntry), (net'.setAccum entry fd' rest).watched = net'.watched := by
        intro net' entry
        cases entry <;> rfl
      rw [hAccum, hSame.watched]
      exact hWatched
  | writable fd' answers =>
    rcases flushPending_watched { net with answers } (h.opened fd' hEnabled) with hSame | hClosed
    · rw [step, hSame]
      exact hWatched
    · rw [step, hClosed, Function.update_of_ne hOther]
      exact hWatched
  | datagram now src data =>
    rw [step, onUdpPacket_watched]
    exact hWatched
  | wake events =>
    rw [step, handleWake_watched]
    exact hWatched
  | pendingCap => exact absurd trivial hOther
  | silence => exact absurd trivial hOther

theorem idOf_isSome {net : NetServer} (h : Wf net) {fd : Int} (hFd : 0 ≤ fd) :
    (net.registry.idOf fd).isSome = true ↔ ∃ i e, net.registry.client i = some e ∧ e.tcpFd = fd := by
  rw [Option.isSome_iff_exists]
  constructor
  · rintro ⟨id, hId⟩
    obtain ⟨e, hAt, hEq⟩ := (ClientRegistry.idOf_eq_some h.indexed hFd).mp hId
    exact ⟨_, e, hAt, hEq⟩
  · rintro ⟨i, e, hAt, hEq⟩
    refine ⟨e.playerId, (ClientRegistry.idOf_eq_some h.indexed hFd).mpr ⟨e, ?_, hEq⟩⟩
    rw [h.indexed.id i e hAt]
    exact hAt

/-- A connection that has joined stays joined until it is closed. -/
theorem step_registered {net : NetServer} (h : Wf net) {event : Event} (hEnabled : net.Enabled event) {fd : Int}
    (hWatched : net.watched fd = true) (hId : (net.registry.idOf fd).isSome = true)
    (hOpen : (net.step event).watched fd = true) : ((net.step event).registry.idOf fd).isSome = true := by
  have hFd := h.opened fd hWatched
  by_cases hServes : event.serves fd
  · cases event with
    | accept fd' =>
      obtain rfl : fd = fd' := hServes
      rw [hEnabled.2] at hWatched
      cases hWatched
    | readable env fd' recvs answers =>
      obtain rfl : fd = fd' := hServes
      have hNext := (h.moves (step_allMoves h hEnabled)).indexed
      rcases handleTcpReadable_dispatched { net with answers } env fd recvs with hDrop | ⟨rest, hKeep⟩
      · rw [step, hDrop, drop_watched _ hFd, Function.update_self] at hOpen
        cases hOpen
      · obtain ⟨id, hSome⟩ := Option.isSome_iff_exists.mp hId
        obtain ⟨e, hFind, -⟩ := Option.map_eq_some_iff.mp hSome
        have hWf : Wf { net with answers } := h.congr (.refl _) h.indexed.size rfl rfl rfl rfl
        have hKeys := frames_registered env (dispatched { net with answers } fd recvs) hWf hWatched hFind
        have hRegistry : (net.step (.readable env fd recvs answers)).registry =
            ((dispatched { net with answers } fd recvs).foldl (onFrame env fd) { net with answers }).registry := by
          rw [step, hKeep, hFind]
          rfl
        rw [hRegistry] at hNext ⊢
        rw [hKeys.idOf h.indexed hNext hFd]
        exact hId
    | writable => exact hServes.elim
    | datagram => exact hServes.elim
    | wake => exact hServes.elim
    | pendingCap => exact hServes.elim
    | silence => exact hServes.elim
  · rcases Moves.kept h (step_allMoves h hEnabled) hFd hServes with hClosed | hKept
    · rw [hClosed] at hOpen
      cases hOpen
    · rw [hKept.idOf]
      exact hId

/-- Nobody's pending buffer has lost anything. -/
def Grown (net net' : NetServer) : Prop :=
  ∀ i e', net'.registry.client i = some e' →
    ∃ e, net.registry.client i = some e ∧ e.tcpFd = e'.tcpFd ∧ e.pendingOut <+: e'.pendingOut

theorem Grown.refl (net : NetServer) : Grown net net := fun _ e' hAt => ⟨e', hAt, rfl, List.prefix_rfl⟩

theorem Grown.trans {net net' net'' : NetServer} (h : Grown net net') (h' : Grown net' net'') : Grown net net'' := by
  intro i e'' hAt
  obtain ⟨e', hAt', hFd', hPending'⟩ := h' i e'' hAt
  obtain ⟨e, hAt, hFd, hPending⟩ := h i e' hAt'
  exact ⟨e, hAt, hFd.trans hFd', hPending.trans hPending'⟩

theorem disconnect_grown {net : NetServer} (h : Wf net) {i : Nat} {e : ClientEntry}
    (hAt : net.registry.client i = some e) : Grown net (net.disconnect e true) := by
  have hId := h.indexed.id i e hAt
  have hSlot : e.playerId.toNat < net.registry.storage.length := by
    rw [hId]
    exact ClientRegistry.client_lt hAt
  have hLeft : ((net.registry.setEntry e.playerId { e with tcpFd := kFreeFd }).remove e.playerId).client =
      Function.update net.registry.client i none := by
    rw [ClientRegistry.client_remove, ClientRegistry.client_setEntry _ hSlot, Function.update_idem, hId]
  have hIndexed := h.indexed.leave hLeft (by simpa using h.indexed.size)
  intro j e' hAt'
  rw [disconnect_eq, broadcastLobbyState, broadcastMessage, broadcastPayload,
    ClientRegistry.client_broadcastTcpEvent hIndexed] at hAt'
  obtain ⟨old, hOld, rfl⟩ := Option.map_eq_some_iff.mp hAt'
  exact ⟨old, (ClientRegistry.client_left hLeft hOld).2, rfl, List.prefix_append _ _⟩

theorem disconnectIf_grown {net : NetServer} (h : Wf net) (gone : ClientEntry → Bool) (i : Nat) :
    Grown net (net.disconnectIf gone i) := by
  rw [disconnectIf]
  split
  · exact .refl net
  · split
    · exact .refl net
    · split
      · split
        · rename_i e hFind
          rw [ClientRegistry.findById_eq] at hFind
          exact disconnect_grown h hFind
        · exact .refl net
      · exact .refl net

/-- A sweep drops clients, and what it has to tell the others is queued behind what they already wait for. -/
theorem disconnectWhere_grown {net : NetServer} (h : Wf net) (gone : ClientEntry → Bool) :
    Grown net (net.disconnectWhere gone) := by
  have hTurn : ∀ net' i, Wf net' ∧ Grown net net' → Wf (disconnectIf gone net' i) ∧ Grown net (disconnectIf gone net' i) := by
    rintro net' i ⟨hWf, hSoFar⟩
    have hMoves : Moves {} net' (net'.disconnectIf gone i) := disconnectIf_moves hWf gone i
    exact ⟨hWf.moves hMoves, hSoFar.trans (disconnectIf_grown hWf gone i)⟩
  exact (Chain.foldl_invariant hTurn (List.range net.registry.storage.length) net ⟨h, .refl net⟩).2

end NetServer

namespace PollLoop
open NetServer

/-- The descriptors of the server itself. -/
def own (loop : PollLoop) : List Int := [loop.listenFd, loop.udpFd, loop.eventFd]

/-- The state that `start` leaves. -/
def started (udpPort : U16) (udpSilenceMs now : U32) (listenFd udpFd eventFd : Int) : PollLoop :=
  { net := { udpPort, udpSilenceMs, lastSilenceCheckMs := now }
    interest := ((Interest.add (fun _ => none) listenFd false).add udpFd false).add eventFd false
    listenFd
    udpFd
    eventFd }

/-- What one report leads to; errors and hangups count as readable, and reading goes before flushing. -/
def reactions (loop : PollLoop) (r : PollResult) (reading : Reading) : List Event :=
  if r.fd = loop.eventFd then [.wake reading.events]
  else if r.fd = loop.udpFd then
    if r.readable then reading.datagrams.map fun d => .datagram d.1 d.2.1 d.2.2 else []
  else if r.fd = loop.listenFd then reading.accepted.map .accept
  else if r.readable then [.readable reading.env r.fd reading.recvs reading.answers]
  else if r.writable then [.writable r.fd reading.answers]
  else []

/-- A reaction adds to the poller what it accepts, without write interest, and removes what it closes. -/
def followed (interest : Interest) (before after : Int → Bool) : Interest := fun fd =>
  if before fd = after fd then interest fd else if after fd then some false else none

def react (loop : PollLoop) (event : Event) : PollLoop :=
  { loop with
    net := loop.net.step event
    interest := followed loop.interest loop.net.watched (loop.net.step event).watched }

def handle (loop : PollLoop) (r : PollResult × Reading) : PollLoop := (loop.reactions r.1 r.2).foldl react loop

/-- One client of the pass that sets the write interest. -/
def watchEntry (loop : PollLoop) (e : ClientEntry) : PollLoop :=
  if e.tcpFd ≥ 0 then { loop with interest := loop.interest.setWatchWrite e.tcpFd (e.pendingOut != []) } else loop

def watchPending (loop : PollLoop) : PollLoop := loop.net.registry.storage.foldl watchEntry loop

/-- `checked` is the clock as `check_silence_timeouts` reads it again. -/
def sweep (loop : PollLoop) (now checked : U32) : PollLoop :=
  let loop := loop.react .pendingCap
  if (now - loop.net.lastSilenceCheckMs).toNat ≥ kSilenceCheckMs then loop.react (.silence checked) else loop

def turn (loop : PollLoop) (batch : List (PollResult × Reading)) (now checked : U32) : PollLoop :=
  ((batch.foldl handle loop).watchPending).sweep now checked

/-- The batch is what `wait` has reported, or its beginning when the server is told to stop in the middle. -/
def Reported (loop : PollLoop) (batch : List (PollResult × Reading)) : Prop :=
  ∃ ready results, loop.interest.Reports ready kPollResults results ∧ batch.map Prod.fst <+: results

/-- An accepted connection has a descriptor that nothing else uses, and an event fits its buffer. -/
def Fresh : PollLoop → List (PollResult × Reading) → Prop
  | _, [] => True
  | loop, r :: rest =>
    (∀ ev ∈ r.2.events, ev.payload.length ≤ kPayloadDataBytes) ∧ r.2.accepted.Nodup ∧
      (∀ fd ∈ r.2.accepted, 0 ≤ fd ∧ loop.interest fd = none) ∧ Fresh (loop.handle r) rest

inductive Reach : PollLoop → Prop where
  | start (udpPort : U16) (udpSilenceMs now : U32) (listenFd udpFd eventFd : Int) (hListen : 0 ≤ listenFd)
      (hUdp : 0 ≤ udpFd) (hEvent : 0 ≤ eventFd) : Reach (started udpPort udpSilenceMs now listenFd udpFd eventFd)
  | turn {loop : PollLoop} (h : Reach loop) (batch : List (PollResult × Reading)) (now checked : U32)
      (hReported : loop.Reported batch) (hFresh : loop.Fresh batch) : Reach (loop.turn batch now checked)
  | drained {loop : PollLoop} (h : Reach loop) (cmds rest : List InboundCommand)
      (hQueue : loop.net.inbound = cmds ++ rest) : Reach { loop with net := { loop.net with inbound := rest } }

structure Tracks (loop : PollLoop) : Prop where
  wf : Wf loop.net
  opened : ∀ fd, (loop.interest fd).isSome = true ↔ loop.net.watched fd = true ∨ fd ∈ loop.own
  own : ∀ fd ∈ loop.own, 0 ≤ fd ∧ loop.net.watched fd = false
  asked : ∀ fd, loop.interest fd = some true → (loop.net.registry.idOf fd).isSome = true

/-- An enabled reaction that closes only what it may. -/
def Reacts (closed : Int → Prop) (loop loop' : PollLoop) : Prop :=
  ∃ event, loop.net.Enabled event ∧ (∀ fd, event = .accept fd → fd ∉ loop.own) ∧
    (∀ fd, event.mayClose fd → closed fd) ∧ loop' = loop.react event

variable {loop loop' : PollLoop}

theorem followed_true {interest : Interest} {before after : Int → Bool} {fd : Int}
    (h : followed interest before after fd = some true) : before fd = after fd ∧ interest fd = some true := by
  rw [followed] at h
  split at h
  · exact ⟨‹_›, h⟩
  · split at h
    · cases h
    · cases h

theorem Tracks.asked_watched (h : Tracks loop) {fd : Int} (hAsked : loop.interest fd = some true) :
    loop.net.watched fd = true := by
  have hFd : 0 ≤ fd := by
    rcases (h.opened fd).mp (by rw [hAsked]; rfl) with hWatched | hOwn
    · exact h.wf.opened fd hWatched
    · exact (h.own fd hOwn).1
  obtain ⟨i, e, hAt, rfl⟩ := (idOf_isSome h.wf hFd).mp (h.asked fd hAsked)
  exact h.wf.watched i e hAt

theorem Tracks.react (h : Tracks loop) {event : Event} (hEnabled : loop.net.Enabled event)
    (hNew : ∀ fd, event = .accept fd → fd ∉ loop.own) : Tracks (loop.react event) := by
  have hWf : Wf (loop.net.step event) := h.wf.moves (step_allMoves h.wf hEnabled)
  have hOwn : ∀ fd ∈ loop.own, 0 ≤ fd ∧ (loop.net.step event).watched fd = false := by
    intro fd hMem
    obtain ⟨hFd, hClosed⟩ := h.own fd hMem
    have hServes : ¬ event.serves fd := by
      intro hServes
      cases event with
      | accept fd' =>
        obtain rfl : fd = fd' := hServes
        exact hNew fd rfl hMem
      | readable env fd' recvs answers =>
        obtain rfl : fd = fd' := hServes
        have hOpen : loop.net.watched fd = true := hEnabled
        rw [hClosed] at hOpen
        cases hOpen
      | writable => exact hServes
      | datagram => exact hServes
      | wake => exact hServes
      | pendingCap => exact hServes
      | silence => exact hServes
    rcases Moves.kept h.wf (step_allMoves h.wf hEnabled) hFd hServes with hNow | hKept
    · exact ⟨hFd, hNow⟩
    · exact ⟨hFd, hKept.watched.trans hClosed⟩
  refine ⟨hWf, ?_, hOwn, ?_⟩
  · intro fd
    change (followed loop.interest loop.net.watched (loop.net.step event).watched fd).isSome = true ↔
      (loop.net.step event).watched fd = true ∨ fd ∈ loop.own
    rw [followed]
    by_cases hSame : loop.net.watched fd = (loop.net.step event).watched fd
    · rw [if_pos hSame, h.opened, hSame]
    · rw [if_neg hSame]
      cases hAfter : (loop.net.step event).watched fd with
      | true => simp
      | false =>
        have hNotOwn : fd ∉ loop.own := by
          intro hMem
          exact hSame ((h.own fd hMem).2.trans hAfter.symm)
        simpa using hNotOwn
  · intro fd hAsked
    obtain ⟨hSame, hBefore⟩ := followed_true hAsked
    have hWatched := h.asked_watched hBefore
    exact step_registered h.wf hEnabled hWatched (h.asked fd hBefore) (hSame.symm.trans hWatched)

theorem Tracks.reacts {closed : Int → Prop} (h : Tracks loop) (hReacts : ReflTransGen (Reacts closed) loop loop') :
    Tracks loop' := by
  refine Chain.invariant ?_ hReacts h
  rintro before after ⟨event, hEnabled, hNew, -, rfl⟩ hBefore
  exact hBefore.react hEnabled hNew

theorem reacts_reachable {closed : Int → Prop} (h : Reachable loop.net) (hReacts : ReflTransGen (Reacts closed) loop loop') :
    Reachable loop'.net := by
  refine Chain.invariant (I := fun loop : PollLoop => Reachable loop.net) ?_ hReacts h
  rintro before after ⟨event, hEnabled, -, -, rfl⟩ hBefore
  exact hBefore.step event hEnabled trivial

/-- What may not be closed stays with the poller. -/
theorem reacts_open {closed : Int → Prop} (h : Tracks loop) (hReacts : ReflTransGen (Reacts closed) loop loop') {fd : Int}
    (hStays : ¬ closed fd) (hOpen : (loop.interest fd).isSome = true) : (loop'.interest fd).isSome = true := by
  induction hReacts with
  | refl => exact hOpen
  | tail hBefore hLast ih =>
    have hTracks := h.reacts hBefore
    obtain ⟨event, hEnabled, hNew, hCloses, rfl⟩ := hLast
    rw [(hTracks.react hEnabled hNew).opened]
    rcases (hTracks.opened fd).mp ih with hWatched | hOwn
    · exact Or.inl (step_stays hTracks.wf hEnabled (fun hClose => hStays (hCloses fd hClose)) hWatched)
    · exact Or.inr hOwn

theorem reacts_accepts {closed : Int → Prop} (accepted : List Int) (h : Tracks loop) (hNodup : accepted.Nodup)
    (hFresh : ∀ fd ∈ accepted, 0 ≤ fd ∧ loop.interest fd = none) :
    ReflTransGen (Reacts closed) loop ((accepted.map Event.accept).foldl react loop) := by
  induction accepted generalizing loop with
  | nil => exact .refl
  | cons fd accepted ih =>
    obtain ⟨hHead, hTail⟩ := List.nodup_cons.mp hNodup
    obtain ⟨hFd, hNone⟩ := hFresh fd List.mem_cons_self
    have hClosed : ¬ (loop.net.watched fd = true ∨ fd ∈ loop.own) := by
      rw [← h.opened, hNone]
      exact Bool.false_ne_true
    have hEnabled : loop.net.Enabled (.accept fd) := ⟨hFd, by simpa using fun hOpen => hClosed (Or.inl hOpen)⟩
    have hNew : ∀ fd', Event.accept fd = .accept fd' → fd' ∉ loop.own := by
      rintro fd' hEq hOwn
      cases hEq
      exact hClosed (Or.inr hOwn)
    refine ReflTransGen.head ⟨.accept fd, hEnabled, hNew, fun _ hClose => hClose.elim, rfl⟩ ?_
    refine ih (h.react hEnabled hNew) hTail fun fd' hMem => ?_
    obtain ⟨hFd', hNone'⟩ := hFresh fd' (List.mem_cons_of_mem _ hMem)
    refine ⟨hFd', ?_⟩
    have hne : fd' ≠ fd := by
      rintro rfl
      exact hHead hMem
    have hSame : loop.net.watched fd' = (loop.net.step (.accept fd)).watched fd' :=
      (Function.update_of_ne hne _ _).symm
    exact (if_pos hSame).trans hNone'

theorem reacts_datagrams {closed : Int → Prop} (datagrams : List (U32 × SockAddr × List U8)) (loop : PollLoop) :
    ReflTransGen (Reacts closed) loop
      ((datagrams.map fun d => Event.datagram d.1 d.2.1 d.2.2).foldl react loop) := by
  induction datagrams generalizing loop with
  | nil => exact .refl
  | cons d datagrams ih =>
    refine ReflTransGen.head ⟨.datagram d.1 d.2.1 d.2.2, trivial, ?_, fun _ hClose => hClose.elim, rfl⟩ (ih _)
    rintro fd ⟨⟩

/-- Handling a report is a chain of enabled reactions that close nothing but the reported connection. -/
theorem handle_reacts (h : Tracks loop) {r : PollResult × Reading} (hOpen : (loop.interest r.1.fd).isSome = true)
    (hFits : ∀ ev ∈ r.2.events, ev.payload.length ≤ kPayloadDataBytes) (hNodup : r.2.accepted.Nodup)
    (hFresh : ∀ fd ∈ r.2.accepted, 0 ≤ fd ∧ loop.interest fd = none) :
    ReflTransGen (Reacts (· = r.1.fd)) loop (loop.handle r) := by
  rw [handle, reactions]
  split
  · refine .single ⟨.wake r.2.events, hFits, ?_, fun _ hClose => hClose.elim, rfl⟩
    rintro fd ⟨⟩
  · rename_i hEvent
    split
    · split
      · exact reacts_datagrams r.2.datagrams loop
      · exact .refl
    · rename_i hUdp
      split
      · exact reacts_accepts r.2.accepted h hNodup hFresh
      · rename_i hListen
        have hWatched : loop.net.watched r.1.fd = true := by
          rcases (h.opened r.1.fd).mp hOpen with hWatched | hOwn
          · exact hWatched
          · simp only [own, List.mem_cons, List.not_mem_nil, or_false] at hOwn
            rcases hOwn with hEq | hEq | hEq
            · exact absurd hEq hListen
            · exact absurd hEq hUdp
            · exact absurd hEq hEvent
        split
        · refine .single ⟨.readable r.2.env r.1.fd r.2.recvs r.2.answers, hWatched, ?_, fun _ hClose => hClose, rfl⟩
          rintro fd ⟨⟩
        · split
          · refine .single ⟨.writable r.1.fd r.2.answers, hWatched, ?_, fun _ hClose => hClose, rfl⟩
            rintro fd ⟨⟩
          · exact .refl

theorem Reacts.any {closed : Int → Prop} (h : Reacts closed loop loop') : Reacts (fun _ => True) loop loop' := by
  obtain ⟨event, hEnabled, hNew, -, hEq⟩ := h
  exact ⟨event, hEnabled, hNew, fun _ _ => trivial, hEq⟩

/-- A report is still of an open descriptor when its turn comes. -/
theorem batch_reacts (batch : List (PollResult × Reading)) (h : Tracks loop) (hDistinct : (batch.map (·.1.fd)).Nodup)
    (hOpen : ∀ r ∈ batch, (loop.interest r.1.fd).isSome = true) (hFresh : loop.Fresh batch) :
    ReflTransGen (Reacts fun _ => True) loop (batch.foldl handle loop) ∧
      ∀ before r after, batch = before ++ r :: after → ((before.foldl handle loop).interest r.1.fd).isSome = true := by
  induction batch generalizing loop with
  | nil =>
    refine ⟨.refl, fun before r after hSplit => ?_⟩
    rw [List.nil_eq_append_iff] at hSplit
    cases hSplit.2
  | cons r batch ih =>
    obtain ⟨hHead, hTail⟩ := List.nodup_cons.mp hDistinct
    obtain ⟨hFits, hNodup, hAccepted, hRest⟩ := hFresh
    have hFirst := handle_reacts h (hOpen r List.mem_cons_self) hFits hNodup hAccepted
    have hLater : ∀ r' ∈ batch, ((loop.handle r).interest r'.1.fd).isSome = true := by
      intro r' hMem
      refine reacts_open h hFirst ?_ (hOpen r' (List.mem_cons_of_mem _ hMem))
      intro hEq
      exact hHead (List.mem_map.mpr ⟨r', hMem, hEq⟩)
    obtain ⟨hReacts, hTurns⟩ := ih (h.reacts hFirst) hTail hLater hRest
    refine ⟨(hFirst.lift id fun _ _ => Reacts.any).trans hReacts, ?_⟩
    intro before r' after hSplit
    cases before with
    | nil =>
      cases hSplit
      exact hOpen r List.mem_cons_self
    | cons first before =>
      cases hSplit
      exact hTurns before r' after rfl

theorem live_fds_nodup {r : ClientRegistry} (h : r.Indexed) : (r.live.map (·.tcpFd)).Nodup := by
  have hIds := h.live_ids_nodup
  rw [List.Nodup, List.pairwise_map] at hIds ⊢
  refine hIds.imp_of_mem fun {e e'} hMem hMem' hne hFd => hne ?_
  obtain ⟨i, hAt⟩ := ClientRegistry.mem_live hMem
  obtain ⟨j, hAt'⟩ := ClientRegistry.mem_live hMem'
  obtain rfl := h.distinct i j e e' hAt hAt' hFd
  rw [hAt] at hAt'
  cases hAt'
  rfl

theorem watchEntry_net (loop : PollLoop) (e : ClientEntry) :
    (loop.watchEntry e).net = loop.net ∧ (loop.watchEntry e).own = loop.own := by
  rw [watchEntry]
  split <;> exact ⟨rfl, rfl⟩

theorem foldl_watchEntry_net (es : List ClientEntry) (loop : PollLoop) :
    (es.foldl watchEntry loop).net = loop.net ∧ (es.foldl watchEntry loop).own = loop.own := by
  refine Chain.foldl_invariant (I := fun loop' : PollLoop => loop'.net = loop.net ∧ loop'.own = loop.own) ?_ es loop
    ⟨rfl, rfl⟩
  intro loop' e hSame
  obtain ⟨hNet, hOwn⟩ := loop'.watchEntry_net e
  exact ⟨hNet.trans hSame.1, hOwn.trans hSame.2⟩

theorem watchEntry_interest (loop : PollLoop) {e : ClientEntry} (hFd : 0 ≤ e.tcpFd) (fd : Int) :
    (loop.watchEntry e).interest fd =
      if fd = e.tcpFd then (loop.interest fd).map fun _ => e.pendingOut != [] else loop.interest fd := by
  rw [watchEntry, if_pos hFd]
  simp only [Interest.setWatchWrite]
  by_cases hEq : fd = e.tcpFd
  · rw [if_pos hEq, hEq, Function.update_self]
  · rw [if_neg hEq, Function.update_of_ne hEq]

theorem foldl_watchEntry_interest (es : List ClientEntry) (hFds : ∀ e ∈ es, 0 ≤ e.tcpFd)
    (hNodup : (es.map (·.tcpFd)).Nodup) (loop : PollLoop) (fd : Int) :
    (∀ e ∈ es, e.tcpFd = fd →
      (es.foldl watchEntry loop).interest fd = (loop.interest fd).map fun _ => e.pendingOut != []) ∧
    ((∀ e ∈ es, e.tcpFd ≠ fd) → (es.foldl watchEntry loop).interest fd = loop.interest fd) := by
  induction es generalizing loop with
  | nil => exact ⟨fun e hMem => absurd hMem List.not_mem_nil, fun _ => rfl⟩
  | cons e es ih =>
    obtain ⟨hHead, hTail⟩ := List.nodup_cons.mp hNodup
    obtain ⟨hIn, hOut⟩ := ih (fun e' hMem => hFds e' (List.mem_cons_of_mem _ hMem)) hTail (loop.watchEntry e)
    have hFirst := watchEntry_interest loop (hFds e List.mem_cons_self) fd
    rw [List.foldl_cons]
    by_cases hEq : fd = e.tcpFd
    · rw [if_pos hEq] at hFirst
      have hLater : ∀ e' ∈ es, e'.tcpFd ≠ fd := by
        intro e' hMem hFd
        exact hHead (List.mem_map.mpr ⟨e', hMem, hFd.trans hEq⟩)
      refine ⟨?_, fun hNone => absurd hEq.symm (hNone e List.mem_cons_self)⟩
      intro e' hMem hFd
      rcases List.mem_cons.mp hMem with rfl | hMem
      · rw [hOut hLater, hFirst]
      · exact absurd hFd (hLater e' hMem)
    · rw [if_neg hEq] at hFirst
      constructor
      · intro e' hMem hFd
        rcases List.mem_cons.mp hMem with rfl | hMem
        · exact absurd hFd.symm hEq
        · rw [hIn e' hMem hFd, hFirst]
      · intro hNone
        rw [hOut fun e' hMem => hNone e' (List.mem_cons_of_mem _ hMem), hFirst]

/-- Free slots are passed over. -/
theorem watchPending_eq (loop : PollLoop) : loop.watchPending = loop.net.registry.live.foldl watchEntry loop := by
  rw [watchPending, ClientRegistry.live, List.foldl_filter]
  congr 1
  funext loop' e
  rw [watchEntry]
  simp only [decide_eq_true_eq]
  split
  · rfl
  · rfl

theorem watchPending_net (loop : PollLoop) : loop.watchPending.net = loop.net ∧ loop.watchPending.own = loop.own :=
  foldl_watchEntry_net _ loop

theorem live_fd {r : ClientRegistry} {e : ClientEntry} (h : e ∈ r.live) : 0 ≤ e.tcpFd := by
  simpa using (List.mem_filter.mp h).2

/-- After the pass a client's connection is watched for writing exactly if something is pending for it. -/
theorem watchPending_exact (h : Tracks loop) {e : ClientEntry} (hLive : e ∈ loop.net.registry.live) :
    loop.watchPending.interest e.tcpFd = some (e.pendingOut != []) := by
  obtain ⟨i, hAt⟩ := ClientRegistry.mem_live hLive
  obtain ⟨watchWrite, hWatched⟩ := Option.isSome_iff_exists.mp ((h.opened e.tcpFd).mpr (Or.inl (h.wf.watched i e hAt)))
  have hPass := foldl_watchEntry_interest loop.net.registry.live (fun _ hMem => live_fd hMem)
    (live_fds_nodup h.wf.indexed) loop e.tcpFd
  rw [watchPending_eq, hPass.1 e hLive rfl, hWatched]
  rfl

/-- Write interest is for clients with something to flush. -/
def Eager (loop : PollLoop) : Prop :=
  ∀ fd, loop.interest fd = some true → ∃ e ∈ loop.net.registry.live, e.tcpFd = fd ∧ e.pendingOut ≠ []

theorem watchPending_cases (h : Tracks loop) (fd : Int) :
    (∃ e ∈ loop.net.registry.live, e.tcpFd = fd ∧ loop.watchPending.interest fd = some (e.pendingOut != [])) ∨
      ((∀ e ∈ loop.net.registry.live, e.tcpFd ≠ fd) ∧ loop.watchPending.interest fd = loop.interest fd) := by
  by_cases hLive : ∃ e ∈ loop.net.registry.live, e.tcpFd = fd
  · obtain ⟨e, hMem, rfl⟩ := hLive
    exact Or.inl ⟨e, hMem, rfl, watchPending_exact h hMem⟩
  · have hNone : ∀ e ∈ loop.net.registry.live, e.tcpFd ≠ fd := fun e hMem hFd => hLive ⟨e, hMem, hFd⟩
    have hPass := foldl_watchEntry_interest loop.net.registry.live (fun _ hMem => live_fd hMem)
      (live_fds_nodup h.wf.indexed) loop fd
    refine Or.inr ⟨hNone, ?_⟩
    rw [watchPending_eq]
    exact hPass.2 hNone

theorem watchPending_tracks (h : Tracks loop) : Tracks loop.watchPending ∧ Eager loop.watchPending := by
  obtain ⟨hNet, hOwn⟩ := loop.watchPending_net
  have hOf : ∀ e ∈ loop.net.registry.live, (loop.net.registry.idOf e.tcpFd).isSome = true := by
    intro e hMem
    obtain ⟨i, hAt⟩ := ClientRegistry.mem_live hMem
    exact (idOf_isSome h.wf (live_fd hMem)).mpr ⟨i, e, hAt, rfl⟩
  refine ⟨⟨?_, ?_, ?_, ?_⟩, ?_⟩
  · rw [hNet]
    exact h.wf
  · intro fd
    rw [hNet, hOwn, ← h.opened]
    rcases watchPending_cases h fd with ⟨e, hMem, rfl, hSome⟩ | ⟨-, hSame⟩
    · obtain ⟨i, hAt⟩ := ClientRegistry.mem_live hMem
      rw [hSome, h.opened]
      exact ⟨fun _ => Or.inl (h.wf.watched i e hAt), fun _ => rfl⟩
    · rw [hSame]
  · intro fd hMem
    rw [hNet]
    exact h.own fd (hOwn ▸ hMem)
  · intro fd hAsked
    rw [hNet]
    rcases watchPending_cases h fd with ⟨e, hMem, rfl, -⟩ | ⟨-, hSame⟩
    · exact hOf e hMem
    · exact h.asked fd (hSame ▸ hAsked)
  · intro fd hAsked
    rw [hNet]
    rcases watchPending_cases h fd with ⟨e, hMem, hFd, hSome⟩ | ⟨hNone, hSame⟩
    · rw [hSome] at hAsked
      exact ⟨e, hMem, hFd, by simpa using hAsked⟩
    · rw [hSame] at hAsked
      have hWatched := h.asked_watched hAsked
      obtain ⟨i, e, hAt, hFd⟩ := (idOf_isSome h.wf (h.wf.opened fd hWatched)).mp (h.asked fd hAsked)
      exact absurd hFd (hNone e (h.wf.indexed.mem_live hAt))

theorem Eager.react (h : Tracks loop) (hEager : Eager loop) {event : Event} (hEnabled : loop.net.Enabled event)
    (hNew : ∀ fd, event = .accept fd → fd ∉ loop.own) (hGrown : Grown loop.net (loop.net.step event)) :
    Eager (loop.react event) := by
  intro fd hAsked
  have hAfter := h.react hEnabled hNew
  obtain ⟨-, hBefore⟩ := followed_true hAsked
  obtain ⟨e, hLive, hFd, hPending⟩ := hEager fd hBefore
  obtain ⟨i, hAt⟩ := ClientRegistry.mem_live hLive
  have hWatched := hAfter.asked_watched hAsked
  obtain ⟨j, e', hAt', hFd'⟩ := (idOf_isSome hAfter.wf (hAfter.wf.opened fd hWatched)).mp (hAfter.asked fd hAsked)
  obtain ⟨old, hOld, hOldFd, hPrefix⟩ := hGrown j e' hAt'
  have hSlot := h.wf.indexed.distinct i j e old hAt hOld (hFd.trans (hOldFd.trans hFd').symm)
  rw [← hSlot, hAt] at hOld
  cases hOld
  refine ⟨e', hAfter.wf.indexed.mem_live hAt', hFd', ?_⟩
  intro hNone
  rw [hNone] at hPrefix
  exact hPending (List.prefix_nil.mp hPrefix)

theorem grown_pendingCap {net : NetServer} (h : Wf net) : Grown net (net.step .pendingCap) := disconnectWhere_grown h _

theorem grown_silence {net : NetServer} (h : Wf net) (now : U32) : Grown net (net.step (.silence now)) := by
  have hWf : Wf { net with lastSilenceCheckMs := now } := h.congr (.refl _) h.indexed.size rfl rfl rfl rfl
  exact disconnectWhere_grown hWf _

theorem sweep_reacts (h : Tracks loop) (hEager : Eager loop) (now checked : U32) :
    ReflTransGen (Reacts fun _ => True) loop (loop.sweep now checked) ∧ Eager (loop.sweep now checked) := by
  have hNew : ∀ event : Event, (∀ fd, event ≠ .accept fd) → ∀ fd, event = .accept fd → fd ∉ loop.own :=
    fun event hNone fd hEq => absurd hEq (hNone fd)
  have hCapNew := hNew .pendingCap (by rintro fd ⟨⟩)
  have hCap : Reacts (fun _ => True) loop (loop.react .pendingCap) :=
    ⟨.pendingCap, trivial, hCapNew, fun _ _ => trivial, rfl⟩
  have hTracks : Tracks (loop.react .pendingCap) := h.react trivial hCapNew
  have hCapEager : Eager (loop.react .pendingCap) := Eager.react h hEager trivial hCapNew (grown_pendingCap h.wf)
  rw [sweep]
  split
  · have hSilenceNew := hNew (.silence checked) (by rintro fd ⟨⟩)
    refine ⟨(ReflTransGen.single hCap).tail ⟨.silence checked, trivial, hSilenceNew, fun _ _ => trivial, rfl⟩, ?_⟩
    exact Eager.react hTracks hCapEager trivial hSilenceNew (grown_silence hTracks.wf checked)
  · exact ⟨.single hCap, hCapEager⟩

theorem started_tracks (udpPort : U16) (udpSilenceMs now : U32) {listenFd udpFd eventFd : Int} (hListen : 0 ≤ listenFd)
    (hUdp : 0 ≤ udpFd) (hEvent : 0 ≤ eventFd) : Tracks (started udpPort udpSilenceMs now listenFd udpFd eventFd) := by
  have hNever : ∀ fd, (started udpPort udpSilenceMs now listenFd udpFd eventFd).interest fd ≠ some true := by
    intro fd
    simp only [started, Interest.add, Function.update_apply]
    split
    · simp
    · split
      · simp
      · split <;> simp
  refine ⟨(Wf.started udpPort udpSilenceMs).congr (.refl _) (Nat.zero_le _) rfl rfl rfl rfl, ?_, ?_, ?_⟩
  · intro fd
    have hClosed : (started udpPort udpSilenceMs now listenFd udpFd eventFd).net.watched fd = false := rfl
    rw [hClosed]
    simp only [started, own, Interest.add, Function.update_apply, List.mem_cons, List.not_mem_nil, or_false,
      Bool.false_eq_true, false_or]
    by_cases hE : fd = eventFd
    · simp [hE]
    · by_cases hU : fd = udpFd
      · simp [hU]
      · by_cases hL : fd = listenFd
        · simp [hL]
        · simp [hE, hU, hL]
  · intro fd hMem
    refine ⟨?_, rfl⟩
    simp only [started, own, List.mem_cons, List.not_mem_nil, or_false] at hMem
    rcases hMem with rfl | rfl | rfl
    · exact hListen
    · exact hUdp
    · exact hEvent
  · intro fd hAsked
    exact absurd hAsked (hNever fd)

theorem Reported.open {batch : List (PollResult × Reading)} (h : loop.Reported batch) :
    (batch.map (·.1.fd)).Nodup ∧ ∀ r ∈ batch, (loop.interest r.1.fd).isSome = true := by
  obtain ⟨ready, results, hReports, hPrefix⟩ := h
  constructor
  · have hSub := (hPrefix.map (·.fd)).sublist
    rw [List.map_map] at hSub
    exact hReports.distinct.sublist hSub
  · intro r hMem
    have hReport := hReports.sound r.1 (hPrefix.subset (List.mem_map_of_mem hMem))
    obtain ⟨watchWrite, hWatched, -⟩ := Option.bind_eq_some_iff.mp hReport
    rw [hWatched]
    rfl

/-- A turn keeps the table and the connections together, and handles no report of a connection closed before it. -/
theorem turn_reacts (h : Tracks loop) {batch : List (PollResult × Reading)} (hReported : loop.Reported batch)
    (hFresh : loop.Fresh batch) (now checked : U32) :
    Tracks (loop.turn batch now checked) ∧ Eager (loop.turn batch now checked) ∧
      (Reachable loop.net → Reachable (loop.turn batch now checked).net) := by
  obtain ⟨hDistinct, hOpen⟩ := hReported.open
  obtain ⟨hBatch, -⟩ := batch_reacts batch h hDistinct hOpen hFresh
  obtain ⟨hPassed, hEager⟩ := watchPending_tracks (h.reacts hBatch)
  obtain ⟨hSweep, hStill⟩ := sweep_reacts hPassed hEager now checked
  refine ⟨hPassed.reacts hSweep, hStill, fun hReach => ?_⟩
  have hHandled := reacts_reachable hReach hBatch
  rw [← (watchPending_net (batch.foldl handle loop)).1] at hHandled
  exact reacts_reachable hHandled hSweep

theorem Reach.tracks (h : Reach loop) : Tracks loop ∧ Eager loop ∧ Reachable loop.net := by
  induction h with
  | start udpPort udpSilenceMs now listenFd udpFd eventFd hListen hUdp hEvent =>
    have hTracks := started_tracks udpPort udpSilenceMs now hListen hUdp hEvent
    refine ⟨hTracks, fun fd hAsked => ?_, ?_⟩
    · have hId := hTracks.asked fd hAsked
      cases hId
    · exact (ReachableBy.start udpPort udpSilenceMs).step (.silence now) trivial trivial
  | turn h batch now checked hReported hFresh ih =>
    obtain ⟨hTracks, hEager, hReach⟩ := turn_reacts ih.1 hReported hFresh now checked
    exact ⟨hTracks, hEager, hReach ih.2.2⟩
  | drained h cmds rest hQueue ih =>
    obtain ⟨hTracks, hEager, hReach⟩ := ih
    exact ⟨⟨{ hTracks.wf with }, hTracks.opened, hTracks.own, hTracks.asked⟩, hEager, hReach.drained cmds rest hQueue⟩

/-- Whatever the poller reports and the kernel answers, the loop takes only steps of the network thread, watches exactly
the open connections, and asks for writability only where there is something to write. -/
theorem loop_reachable (h : Reach loop) :
    Reachable loop.net ∧
    (∀ fd, (loop.interest fd).isSome = true ↔ loop.net.watched fd = true ∨ fd ∈ loop.own) ∧
    ∀ fd, loop.interest fd = some true → ∃ e ∈ loop.net.registry.live, e.tcpFd = fd ∧ e.pendingOut ≠ [] :=
  ⟨h.tracks.2.2, h.tracks.1.opened, h.tracks.2.1⟩

/-- Reports of descriptors that are readable and not watched for more. -/
theorem reported_readable (loop : PollLoop) {batch : List (PollResult × Reading)}
    (hDistinct : (batch.map (·.1.fd)).Nodup) (hShort : batch.length ≤ kPollResults)
    (hReadable : ∀ r ∈ batch, r.1 = ⟨r.1.fd, true, false⟩ ∧ loop.interest r.1.fd = some false) :
    loop.Reported batch := by
  let ready : Int → PollBits := fun fd => { pollin := decide (fd ∈ batch.map (·.1.fd)) }
  have hReport : ∀ r ∈ batch, loop.interest.report ready r.1.fd = some r.1 := by
    intro r hMem
    obtain ⟨hBits, hWatched⟩ := hReadable r hMem
    have hIn : r.1.fd ∈ batch.map (·.1.fd) := List.mem_map_of_mem hMem
    rw [Interest.report, hWatched, Option.bind_some]
    simp only [ready, hIn, decide_true, Bool.false_and, Bool.or_false, if_true]
    exact congrArg some hBits.symm
  refine ⟨ready, batch.map Prod.fst, ⟨?_, ?_, ?_, ?_⟩, List.prefix_rfl⟩
  · rw [List.map_map]
    exact hDistinct
  · rw [List.length_map]
    exact hShort
  · intro result hMem
    obtain ⟨r, hIn, rfl⟩ := List.mem_map.mp hMem
    exact hReport r hIn
  · intro _ fd result hOther
    by_cases hIn : fd ∈ batch.map (·.1.fd)
    · obtain ⟨r, hMem, rfl⟩ := List.mem_map.mp hIn
      rw [hReport r hMem] at hOther
      rw [← Option.some.inj hOther]
      exact List.mem_map_of_mem hMem
    · cases hInterest : loop.interest fd with
      | none => simp [Interest.report, hInterest] at hOther
      | some bit => simp [Interest.report, hInterest, ready, hIn] at hOther

/-- Three connections are let in. -/
def letIn : PollLoop := (started 9 3000 0 3 4 5).turn [(⟨3, true, false⟩, { accepted := [7, 8, 9] })] 0 0

theorem reach_letIn : Reach letIn := by
  have hStart := Reach.start 9 3000 0 3 4 5 (by decide) (by decide) (by decide)
  refine hStart.turn _ 0 0 (reported_readable _ (by decide) (by decide) (by decide)) ⟨?_, by decide, ?_, trivial⟩
  · intro ev hMem
    cases hMem
  · decide

/-- Two of them close, a fourth is accepted on the descriptor of one of these, and the third joins. -/
def busyBatch : List (PollResult × Reading) :=
  [(⟨9, true, false⟩, { recvs := [.got []] }), (⟨8, true, false⟩, { recvs := [.got []] }),
   (⟨3, true, false⟩, { accepted := [8] }),
   (⟨7, true, false⟩, { recvs := [.got (Framing.encode joinFrame)], answers := [.sent 100] })]

theorem busyBatch_reported : letIn.Reported busyBatch :=
  reported_readable letIn (by decide) (by decide) (by decide +kernel)

theorem busyBatch_fresh : letIn.Fresh busyBatch := by
  have hNone : ∀ r ∈ busyBatch, r.2.events = [] := by decide
  simp only [busyBatch, Fresh, List.not_mem_nil, false_implies, implies_true, List.nodup_nil, true_and, and_true,
    List.forall_mem_singleton, List.nodup_singleton]
  exact ⟨by decide, by decide +kernel⟩

def busy : PollLoop := letIn.turn busyBatch 0 0

theorem loop_reachable_busy :
    (busy.interest 7 = some true ∧ ∃ e ∈ busy.net.registry.live, e.tcpFd = 7 ∧ e.pendingOut ≠ []) ∧
      busy.net.watched 8 = true ∧ (busy.interest 8).isSome = true ∧
      busy.net.watched 9 = false ∧ ¬ (busy.interest 9).isSome = true := by
  have hReach : Reach busy := reach_letIn.turn busyBatch 0 0 busyBatch_reported busyBatch_fresh
  obtain ⟨-, hOpened, hAsked⟩ := loop_reachable hReach
  have hWrites : busy.interest 7 = some true := by decide +kernel
  have hAgain : busy.net.watched 8 = true := by decide +kernel
  have hClosed : busy.net.watched 9 = false ∧ 9 ∉ busy.own := by decide +kernel
  refine ⟨⟨hWrites, hAsked 7 hWrites⟩, hAgain, (hOpened 8).mpr (Or.inl hAgain), hClosed.1, ?_⟩
  rw [hOpened 9]
  rintro (hOpen | hOwn)
  · cases hClosed.1.symm.trans hOpen
  · exact hClosed.2 hOwn

/-- Within one batch no report is stale when its turn comes, and after the batch write interest is exact. -/
theorem batch_handled (h : Reach loop) {batch : List (PollResult × Reading)} (hReported : loop.Reported batch)
    (hFresh : loop.Fresh batch) :
    (∀ before r after, batch = before ++ r :: after →
      ((before.foldl handle loop).interest r.1.fd).isSome = true) ∧
    ∀ e ∈ (batch.foldl handle loop).net.registry.live,
      (batch.foldl handle loop).watchPending.interest e.tcpFd = some (e.pendingOut != []) := by
  obtain ⟨hDistinct, hOpen⟩ := hReported.open
  obtain ⟨hBatch, hTurns⟩ := batch_reacts batch h.tracks.1 hDistinct hOpen hFresh
  exact ⟨hTurns, fun e hLive => watchPending_exact (h.tracks.1.reacts hBatch) hLive⟩

/-- The report of the listening socket comes after the reports that close two connections. -/
theorem batch_handled_busy :
    (∀ before r after, busyBatch = before ++ r :: after →
      ((before.foldl handle letIn).interest r.1.fd).isSome = true) ∧
    (∃ e ∈ (busyBatch.foldl handle letIn).net.registry.live, e.tcpFd = 7 ∧ e.pendingOut ≠ []) ∧
    ∀ e ∈ (busyBatch.foldl handle letIn).net.registry.live,
      (busyBatch.foldl handle letIn).watchPending.interest e.tcpFd = some (e.pendingOut != []) := by
  obtain ⟨hTurns, hExact⟩ := batch_handled reach_letIn busyBatch_reported busyBatch_fresh
  exact ⟨hTurns, by decide +kernel, hExact⟩

end PollLoop
end CaptureTheFlag
