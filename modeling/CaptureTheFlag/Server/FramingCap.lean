import CaptureTheFlag.Server.Reassembly

/-! # When framing costs a client its connection

Two limits stand behind it: the length a frame declares, and what has piled up in the buffer while `recv` still has
something to give. The second is checked before any complete frame is taken out, so a client that sends nothing but
small frames can run into it.
-/
namespace CaptureTheFlag
set_option autoImplicit false
open Protocol Framing

namespace NetServer

/-- What one run of the loop takes off the socket when the cap does not stop it. -/
def arrived : List RecvResult → List U8
  | .got (b :: chunk) :: more =>
    if (b :: chunk).length < kRecvChunkBytes then b :: chunk else b :: chunk ++ arrived more
  | _ => []

def overCap : List RecvResult → List U8 → Bool
  | .got (b :: chunk) :: more, accum =>
    if (accum ++ b :: chunk).length > kAccumCap then true
    else if (b :: chunk).length < kRecvChunkBytes then false
    else overCap more (accum ++ b :: chunk)
  | _, _ => false

theorem arrived_cons (b : U8) (chunk : List U8) (more : List RecvResult) :
    arrived (.got (b :: chunk) :: more) =
      if (b :: chunk).length < kRecvChunkBytes then b :: chunk else b :: chunk ++ arrived more := by
  rw [arrived]

/-- It is the sum that counts, however the bytes come in. -/
theorem overCap_iff (recvs : List RecvResult) (accum : List U8) :
    overCap recvs accum = true ↔ arrived recvs ≠ [] ∧ kAccumCap < (accum ++ arrived recvs).length := by
  induction recvs generalizing accum with
  | nil => simp [overCap, arrived]
  | cons answer more ih =>
    match answer with
    | .again => simp [overCap, arrived]
    | .failed => simp [overCap, arrived]
    | .got [] => simp [overCap, arrived]
    | .got (b :: chunk) =>
      rw [overCap, arrived_cons]
      by_cases hShort : (b :: chunk).length < kRecvChunkBytes
      · rw [if_pos hShort, if_pos hShort]
        simp
      · rw [if_neg hShort, if_neg hShort, ← List.append_assoc]
        by_cases hOver : (accum ++ b :: chunk).length > kAccumCap
        · rw [if_pos hOver]
          refine ⟨fun _ => ⟨by simp, ?_⟩, fun _ => rfl⟩
          rw [List.length_append]
          omega
        · rw [if_neg hOver, ih]
          constructor
          · rintro ⟨-, hMore⟩
            exact ⟨by simp, hMore⟩
          · rintro ⟨-, hMore⟩
            refine ⟨fun hNone => ?_, hMore⟩
            rw [hNone, List.append_nil] at hMore
            exact hOver hMore

theorem recvLoop_some {recvs : List RecvResult} {accum bytes : List U8} (h : recvLoop recvs accum = some bytes) :
    bytes = accum ++ arrived recvs ∧ received recvs = some (arrived recvs) ∧ overCap recvs accum = false := by
  induction recvs generalizing accum with
  | nil =>
    cases h
    simp [arrived, received, overCap]
  | cons answer more ih =>
    rcases answer with ((_ | ⟨b, chunk⟩) | _ | _)
    · cases h
    · simp only [recvLoop] at h
      simp only [received]
      rw [arrived_cons, overCap]
      by_cases hOver : (accum ++ b :: chunk).length > kAccumCap
      · rw [if_pos hOver] at h
        cases h
      · rw [if_neg hOver] at h ⊢
        by_cases hShort : (b :: chunk).length < kRecvChunkBytes
        · rw [if_pos hShort] at h ⊢
          cases h
          rw [if_pos hShort, if_pos hShort]
          exact ⟨rfl, rfl, rfl⟩
        · rw [if_neg hShort] at h ⊢
          rw [if_neg hShort, if_neg hShort]
          obtain ⟨hBytes, hReceived, hUnder⟩ := ih h
          rw [hReceived]
          exact ⟨by rw [hBytes, List.append_assoc], rfl, hUnder⟩
    · cases h
      simp [arrived, received, overCap]
    · cases h

theorem recvLoop_none_iff (recvs : List RecvResult) (accum : List U8) :
    recvLoop recvs accum = none ↔ overCap recvs accum = true ∨ received recvs = none := by
  constructor
  · intro h
    induction recvs generalizing accum with
    | nil => cases h
    | cons answer more ih =>
      match answer, h with
      | .failed, _ => exact Or.inr rfl
      | .got [], _ => exact Or.inr rfl
      | .got (b :: chunk), h =>
        simp only [recvLoop] at h
        simp only [received]
        rw [overCap]
        by_cases hOver : (accum ++ b :: chunk).length > kAccumCap
        · exact Or.inl (if_pos hOver)
        · rw [if_neg hOver] at h ⊢
          by_cases hShort : (b :: chunk).length < kRecvChunkBytes
          · rw [if_pos hShort] at h
            cases h
          · rw [if_neg hShort] at h ⊢
            rw [if_neg hShort, Option.map_eq_none_iff]
            exact ih _ h
  · intro h
    cases hLoop : recvLoop recvs accum with
    | none => rfl
    | some bytes =>
      obtain ⟨-, hReceived, hUnder⟩ := recvLoop_some hLoop
      rw [hReceived, hUnder] at h
      rcases h with hOver | hNone
      · cases hOver
      · cases hNone

def FramingDrop (net : NetServer) (fd : Int) (recvs : List RecvResult) : Prop :=
  overCap recvs (net.accumFor fd) = true ∨
    ∃ accum, recvLoop recvs (net.accumFor fd) = some accum ∧ (deframe kTcpFrameCapBytes accum).dead = true

/-- The call closes the connection because the peer did, or because the socket failed. -/
def HangUp (net : NetServer) (fd : Int) (recvs : List RecvResult) : Prop :=
  overCap recvs (net.accumFor fd) = false ∧ received recvs = none

/-- There is no third way for a call to close its connection. -/
theorem handleTcpReadable_closes_iff {net : NetServer} (h : Wf net) (env : Env) {fd : Int}
    (hWatched : net.watched fd = true) (recvs : List RecvResult) :
    (net.handleTcpReadable env fd recvs).watched fd = false ↔ net.FramingDrop fd recvs ∨ net.HangUp fd recvs := by
  have hFd := h.opened fd hWatched
  cases hLoop : recvLoop recvs (net.accumFor fd) with
  | none =>
    have hClosed : (net.handleTcpReadable env fd recvs).watched fd = false := by
      rw [handleTcpReadable, hLoop]
      exact drop_closed hFd
    refine ⟨fun _ => ?_, fun _ => hClosed⟩
    cases hOver : overCap recvs (net.accumFor fd) with
    | true => exact Or.inl (Or.inl hOver)
    | false =>
      rw [recvLoop_none_iff, hOver] at hLoop
      exact Or.inr ⟨hOver, hLoop.resolve_left Bool.false_ne_true⟩
  | some accum =>
    obtain ⟨-, hReceived, hUnder⟩ := recvLoop_some hLoop
    cases hDead : (deframe kTcpFrameCapBytes accum).dead with
    | true =>
      refine ⟨fun _ => Or.inl (Or.inr ⟨accum, hLoop, hDead⟩), fun _ => ?_⟩
      rw [handleTcpReadable, hLoop]
      simp only [hDead, if_true]
      exact drop_closed hFd
    | false =>
      have hOpen := (handleTcpReadable_accum h env hWatched hLoop hDead).1
      constructor
      · intro hClosed
        rw [hOpen] at hClosed
        cases hClosed
      · rintro ((hOver | ⟨bytes, hBytes, hBad⟩) | ⟨-, hNone⟩)
        · rw [hUnder] at hOver
          cases hOver
        · rw [hLoop] at hBytes
          cases hBytes
          rw [hDead] at hBad
          cases hBad
        · rw [hReceived] at hNone
          cases hNone

theorem FramingDrop.not_hangUp {net : NetServer} {fd : Int} {recvs : List RecvResult} (h : net.FramingDrop fd recvs) :
    ¬ net.HangUp fd recvs := by
  rintro ⟨hUnder, hNone⟩
  rcases h with hOver | ⟨accum, hLoop, -⟩
  · rw [hUnder] at hOver
    cases hOver
  · rw [(recvLoop_some hLoop).2.1] at hNone
    cases hNone

/-- Nothing but the calls reads the connection, and nothing opens it again. -/
def Apart (fd : Int) : NetServer → List Call → Prop
  | _, [] => True
  | net, c :: calls => OthersOnly fd net c.others ∧ Apart fd (c.serve fd net) calls

/-- A call closes the connection only after the peer, or because the socket failed. -/
def NeverDropped (fd : Int) : NetServer → List Call → Prop
  | _, [] => True
  | net, c :: calls =>
    ((c.before net).watched fd = true → (c.serve fd net).watched fd = false → (c.before net).HangUp fd c.recvs) ∧
      NeverDropped fd (c.serve fd net) calls

/-- No call finds more in its buffer and on the socket than the cap. -/
def SmallBursts (fd : Int) : NetServer → List Call → Prop
  | _, [] => True
  | net, c :: calls =>
    ((c.before net).watched fd = true → ((c.before net).accumFor fd ++ arrived c.recvs).length ≤ kAccumCap) ∧
      SmallBursts fd (c.serve fd net) calls

theorem closed_quiet {fd : Int} (hFd : 0 ≤ fd) (calls : List Call) {net : NetServer} (h : Wf net)
    (hClosed : net.watched fd = false) (hApart : Apart fd net calls) :
    NeverDropped fd net calls ∧ SmallBursts fd net calls := by
  induction calls generalizing net with
  | nil => exact ⟨trivial, trivial⟩
  | cons c calls ih =>
    obtain ⟨hOthers, hRest⟩ := hApart
    obtain ⟨hWf, hLater⟩ := hOthers.kept hFd h
    have hStill : (c.before net).watched fd = false := by
      rcases hLater with hStill | hKept
      · exact hStill
      · exact hKept.watched.trans hClosed
    have hServe := serve_of_closed hStill
    rw [hServe] at hRest
    obtain ⟨hNever, hSmall⟩ := ih hWf hStill hRest
    have hNot : ∀ P : Prop, (c.before net).watched fd = true → P := by
      intro P hOpen
      rw [hStill] at hOpen
      cases hOpen
    rw [NeverDropped, SmallBursts, hServe]
    exact ⟨⟨hNot _, hNever⟩, ⟨hNot _, hSmall⟩⟩

theorem framingDrop_iff {net : NetServer} {fd : Int} {recvs : List RecvResult} {frames : List Frame} {unread : List U8}
    (hFits : ∀ f ∈ frames, f.payload.length ≤ kTcpFrameCapBytes)
    (hStream : net.accumFor fd ++ arrived recvs ++ unread = encodeAll frames)
    (hRoom : (net.accumFor fd).length ≤ kAccumCap) :
    net.FramingDrop fd recvs ↔ kAccumCap < (net.accumFor fd ++ arrived recvs).length := by
  constructor
  · rintro (hOver | ⟨accum, hLoop, hDead⟩)
    · exact ((overCap_iff recvs _).mp hOver).2
    · rw [(recvLoop_some hLoop).1, deframe_prefix_alive (by decide) hFits hStream] at hDead
      cases hDead
  · intro hLong
    refine Or.inl ((overCap_iff recvs _).mpr ⟨?_, hLong⟩)
    intro hNone
    rw [hNone, List.append_nil] at hLong
    omega

theorem serve_closed {fd : Int} {net : NetServer} {c : Call} (h : Wf (c.before net))
    (hOpen : (c.before net).watched fd = true) (hLoop : recvLoop c.recvs ((c.before net).accumFor fd) = none) :
    (c.serve fd net).watched fd = false := by
  have hNone : recvLoop c.recvs (({ c.before net with answers := c.answers } : NetServer).accumFor fd) = none := hLoop
  rw [serve_eq hOpen, handleTcpReadable, hNone]
  exact drop_closed (h.opened fd hOpen)

theorem serve_dropped_iff {fd : Int} {net : NetServer} {c : Call} (h : Wf (c.before net))
    (hOpen : (c.before net).watched fd = true) :
    ((c.serve fd net).watched fd = false → (c.before net).HangUp fd c.recvs) ↔
      ¬ (c.before net).FramingDrop fd c.recvs := by
  have hWf : Wf { c.before net with answers := c.answers } := { h with }
  have hCloses : (c.serve fd net).watched fd = false ↔
      (c.before net).FramingDrop fd c.recvs ∨ (c.before net).HangUp fd c.recvs := by
    rw [serve_eq hOpen]
    exact handleTcpReadable_closes_iff hWf c.env hOpen c.recvs
  constructor
  · intro hOnly hFraming
    exact hFraming.not_hangUp (hOnly (hCloses.mpr (Or.inl hFraming)))
  · intro hNot hClosed
    exact (hCloses.mp hClosed).resolve_left hNot

/-- What is left of a burst goes on to the next call, except where the client comes in with a frame cut short. -/
theorem serve_rest {fd : Int} {net : NetServer} {c : Call} (h : Wf (c.before net))
    (hOpen : (c.before net).watched fd = true) {accum : List U8}
    (hLoop : recvLoop c.recvs ((c.before net).accumFor fd) = some accum)
    (hAlive : (deframe kTcpFrameCapBytes accum).dead = false) (hCut : ¬ (c.before net).CutsJoin fd c.bytes) :
    (c.serve fd net).watched fd = true ∧ (c.serve fd net).accumFor fd = (deframe kTcpFrameCapBytes accum).rest := by
  obtain ⟨rfl, hReceived, -⟩ := recvLoop_some hLoop
  have hWf : Wf { c.before net with answers := c.answers } := { h with }
  have hBytes : c.bytes = arrived c.recvs := by rw [Call.bytes, hReceived, Option.getD_some]
  obtain ⟨hStill, hEnters, hStays⟩ := handleTcpReadable_accum hWf c.env hOpen hLoop hAlive
  rw [← serve_eq hOpen] at hStill hEnters hStays
  refine ⟨hStill, ?_⟩
  by_cases hIn : (c.before net).Enters fd
      (deframe kTcpFrameCapBytes ((c.before net).accumFor fd ++ arrived c.recvs)).frames
  · rw [hEnters hIn]
    by_contra hLeft
    apply hCut
    rw [CutsJoin, hBytes]
    exact ⟨hIn, Ne.symm hLeft⟩
  · exact hStays hIn

theorem neverDropped_iff {fd : Int} (calls : List Call) {net : NetServer} (h : Wf net)
    (hWatched : net.watched fd = true) (hApart : Apart fd net calls) (hJoin : NeverCutsJoin fd net calls) {frames : List Frame}
    (hFits : ∀ f ∈ frames, f.payload.length ≤ kTcpFrameCapBytes) {unread : List U8}
    (hStream : net.accumFor fd ++ calls.flatMap (fun c => arrived c.recvs) ++ unread = encodeAll frames)
    (hRoom : (net.accumFor fd).length ≤ kAccumCap) : NeverDropped fd net calls ↔ SmallBursts fd net calls := by
  have hFd := h.opened fd hWatched
  induction calls generalizing net frames with
  | nil => exact ⟨fun _ => trivial, fun _ => trivial⟩
  | cons c calls ih =>
    obtain ⟨hOthers, hRest⟩ := hApart
    obtain ⟨hCut, hJoinRest⟩ := hJoin
    obtain ⟨hWf, hLater⟩ := hOthers.kept hFd h
    change Wf (c.before net) at hWf
    rw [NeverDropped, SmallBursts]
    by_cases hOpen : (c.before net).watched fd = true
    · have hKept : Kept fd net (c.before net) := by
        rcases hLater with hClosed | hKept
        · cases hClosed.symm.trans hOpen
        · exact hKept
      rw [List.flatMap_cons, ← List.append_assoc, List.append_assoc _ _ unread, ← hKept.accumFor] at hStream
      rw [← hKept.accumFor] at hRoom
      have hDrop := framingDrop_iff hFits hStream hRoom
      have hHead := serve_dropped_iff hWf hOpen
      by_cases hLong : kAccumCap < ((c.before net).accumFor fd ++ arrived c.recvs).length
      · constructor
        · intro hNever
          exact absurd (hDrop.mpr hLong) (hHead.mp (hNever.1 hOpen))
        · intro hSmall
          exact absurd (hSmall.1 hOpen) (by omega)
      · -- The call is not the one that tells the two apart; the rest of the calls is.
        have hTails : NeverDropped fd (c.serve fd net) calls ↔ SmallBursts fd (c.serve fd net) calls := by
          have hNext := serve_wf hWf hOpen
          cases hLoop : recvLoop c.recvs ((c.before net).accumFor fd) with
          | none =>
            obtain ⟨hNever, hSmall⟩ := closed_quiet hFd calls hNext (serve_closed hWf hOpen hLoop) hRest
            exact ⟨fun _ => hSmall, fun _ => hNever⟩
          | some accum =>
            obtain ⟨rfl, -, -⟩ := recvLoop_some hLoop
            have hAlive := deframe_prefix_alive (by decide) hFits hStream
            obtain ⟨later, rfl, hRestStream⟩ := deframe_split (by decide) hFits hStream
            have hBytes := congrArg List.length
              (deframe_bytes kTcpFrameCapBytes ((c.before net).accumFor fd ++ arrived c.recvs))
            rw [List.length_append] at hBytes
            obtain ⟨hStill, hAccum⟩ := serve_rest hWf hOpen hLoop hAlive hCut
            apply ih hNext hStill hRest hJoinRest (fun f hMem => hFits f (List.mem_append_right _ hMem))
            · rw [hAccum, List.append_assoc]
              exact hRestStream
            · rw [hAccum]
              omega
        refine and_congr ⟨fun _ _ => ?_, fun _ _ => hHead.mpr fun hFraming => hLong (hDrop.mp hFraming)⟩ hTails
        omega
    · have hClosed : (c.before net).watched fd = false := Bool.eq_false_of_not_eq_true hOpen
      rw [serve_of_closed hClosed] at hRest ⊢
      have hBoth := closed_quiet hFd calls hWf hClosed hRest
      exact ⟨fun _ => ⟨fun hIs => absurd hIs hOpen, hBoth.2⟩, fun _ => ⟨fun hIs => absurd hIs hOpen, hBoth.1⟩⟩

/-- A connection that has just been accepted and whose stream is made of fitting frames, read as far as it may be: the
framing costs it the connection exactly if a burst does not fit in the buffer. -/
theorem framing_never_drops_iff {net : NetServer} (h : Reachable net) {fd : Int} (hAccept : net.Enabled (.accept fd))
    (frames : List Frame) (hFits : ∀ f ∈ frames, f.payload.length ≤ kTcpFrameCapBytes) (calls : List Call)
    (unread : List U8) (hStream : calls.flatMap (fun c => arrived c.recvs) ++ unread = encodeAll frames)
    (hApart : Apart fd (net.step (.accept fd)) calls) (hJoin : NeverCutsJoin fd (net.step (.accept fd)) calls) :
    NeverDropped fd (net.step (.accept fd)) calls ↔ SmallBursts fd (net.step (.accept fd)) calls := by
  have hWf := (h.step _ hAccept trivial).wf
  have hWatched : (net.step (.accept fd)).watched fd = true := by simp [step, acceptClient]
  have hAccum := accept_accumFor h.wf hAccept
  apply neverDropped_iff calls hWf hWatched hApart hJoin hFits
  · rw [hAccum, List.nil_append]
    exact hStream
  · rw [hAccum]
    exact Nat.zero_le _

/-- A client that joins and asks for the start, in two bursts, keeps its connection. -/
theorem framing_never_drops_joining : NeverDropped 5 (({} : NetServer).step (.accept 5)) (joinThenStart 0) :=
  (framing_never_drops_iff (.start 0 _) ⟨by decide, rfl⟩ [joinFrame, startFrame] (by decide) (joinThenStart 0) []
    (by decide) ⟨trivial, trivial, trivial⟩
    ⟨fun hCuts => hCuts.2 (by decide +kernel), fun hCuts => hCuts.2 (by decide +kernel), trivial⟩).mpr
    ⟨fun _ => by decide +kernel, fun _ => by decide +kernel, trivial⟩

/-- One call finds all of the bytes on the socket. -/
def burst (bytes : List U8) : Call :=
  { recvs := [.got (bytes.take kRecvChunkBytes), .got ((bytes.drop kRecvChunkBytes).take kRecvChunkBytes),
      .got ((bytes.drop kRecvChunkBytes).drop kRecvChunkBytes), .again] }

theorem arrived_got {chunk : List U8} (hSome : 0 < chunk.length) (more : List RecvResult) :
    arrived (.got chunk :: more) = if chunk.length < kRecvChunkBytes then chunk else chunk ++ arrived more := by
  cases chunk with
  | nil => cases hSome
  | cons b chunk => exact arrived_cons b chunk more

theorem arrived_burst {bytes : List U8} (hLong : kAccumCap < bytes.length)
    (hShort : bytes.length < 3 * kRecvChunkBytes) : arrived (burst bytes).recvs = bytes := by
  simp only [kAccumCap, kTcpFrameCapBytes, kRecvChunkBytes] at hLong hShort
  rw [burst, arrived_got, if_neg, arrived_got, if_neg, arrived_got, if_pos, List.take_append_drop,
    List.take_append_drop]
  all_goals
    simp only [List.length_take, List.length_drop, kRecvChunkBytes]
    omega

/-- All the frames fit, and a fresh connection that sends them at once is closed on a peer that stays. -/
def BurstDropped (frames : List Frame) : Prop :=
  (∀ f ∈ frames, f.payload.length ≤ kTcpFrameCapBytes) ∧ arrived (burst (encodeAll frames)).recvs = encodeAll frames ∧
    Apart 5 (({} : NetServer).step (.accept 5)) [burst (encodeAll frames)] ∧
    ¬ NeverDropped 5 (({} : NetServer).step (.accept 5)) [burst (encodeAll frames)]

theorem burstDropped {frames : List Frame} (hFits : ∀ f ∈ frames, f.payload.length ≤ kTcpFrameCapBytes)
    (hLong : kAccumCap < (encodeAll frames).length) (hShort : (encodeAll frames).length < 3 * kRecvChunkBytes) :
    BurstDropped frames := by
  have hReach : Reachable {} := .start 0 _
  have hAccept : Enabled {} (.accept 5) := ⟨by decide, rfl⟩
  have hWf := (hReach.step _ hAccept trivial).wf
  have hAccum := accept_accumFor hReach.wf hAccept
  have hArrived := arrived_burst hLong hShort
  have hOpen : (({} : NetServer).step (.accept 5)).watched 5 = true := by decide +kernel
  refine ⟨hFits, hArrived, ⟨trivial, trivial⟩, fun hNever => ?_⟩
  generalize ({} : NetServer).step (.accept 5) = net at hWf hAccum hOpen hNever
  have hBefore : Wf ((burst (encodeAll frames)).before net) := hWf
  refine (serve_dropped_iff hBefore hOpen).mp (hNever.1 hOpen) (Or.inl ((overCap_iff _ _).mpr ?_))
  change _ ∧ kAccumCap < (net.accumFor 5 ++ _).length
  rw [hArrived, hAccum, List.nil_append]
  refine ⟨fun hNone => ?_, hLong⟩
  rw [hNone] at hLong
  cases hLong

/-- One frame as long as a frame may declare itself, and the shortest ones there are. -/
theorem fitting_bursts_dropped :
    BurstDropped [⟨MessageType.heartbeat.code, List.replicate kTcpFrameCapBytes 0⟩] ∧
      BurstDropped (List.replicate 1366 ⟨MessageType.heartbeat.code, []⟩) := by
  constructor
  · apply burstDropped
    · intro f hMem
      rw [List.mem_singleton] at hMem
      rw [hMem, List.length_replicate]
    all_goals
      simp only [encodeAll, List.flatMap_cons, List.flatMap_nil, List.append_nil, length_encode, List.length_replicate]
      decide
  · apply burstDropped
    · intro f hMem
      rw [List.eq_of_mem_replicate hMem]
      exact Nat.zero_le _
    all_goals
      simp only [encodeAll, List.length_flatMap, List.map_replicate, length_encode, List.sum_replicate_nat,
        List.length_nil]
      decide

end NetServer
end CaptureTheFlag
