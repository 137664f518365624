import CaptureTheFlag.Client.SnapshotAgreement
import CaptureTheFlag.Server.PublishCadence

/-! # Recovery within one keyframe interval

Whatever state the client is in, an unbroken window of publishes brings it back to the server's state at the
first keyframe of the window, and keeps it there.
-/
namespace CaptureTheFlag
set_option autoImplicit false
open Protocol Sim

namespace NetClient

/-- The message type that `drain_udp` reads in a datagram's header. -/
def udpType (datagram : List U8) : Option MessageType :=
  let buf := datagram.take kUdpBufferBytes
  if buf.length < kUdpHeaderBytes then none
  else match decodeUdpHeader ⟨buf, false⟩ with
    | (some hdr, ⟨_, false⟩) => MessageType.ofCode hdr.type
    | _ => none

def IsSnapshotDatagram (datagram : List U8) : Prop :=
  udpType datagram = some .worldSnapshot ∨ udpType datagram = some .deltaSnapshot

/-- The datagrams of `window` for player `i`, in order and once each, with datagrams of other types in between. -/
inductive Arrives (i : Fin kMaxPlayers) : List Publish → List (List U8) → Prop
  | nil : Arrives i [] []
  | publish {p : Publish} {d : List U8} {window : List Publish} {received : List (List U8)} :
      SentTo i p.event d → Arrives i window received → Arrives i (p :: window) (d :: received)
  | other {d : List U8} {window : List Publish} {received : List (List U8)} :
      ¬ IsSnapshotDatagram d → Arrives i window received → Arrives i window (d :: received)

/-- `snap` is the publish `p`, floored to the wire's granularity. -/
structure Mirrors (i : Fin kMaxPlayers) (snap : WorldSnapshot) (p : Publish) : Prop where
  agrees : Agrees snap p.snapshot
  seq : snap.lastInputSeq = p.event.acks i
  positions : ∀ n : Fin kMaxPlayers, n.val < snap.playerCount.toNat →
    (snap.players n).motion.position = floorVec2 (p.snapshot.players n).motion.position

def Holds (i : Fin kMaxPlayers) (c : NetClient) (p : Publish) : Prop :=
  c.haveLastSnapshot = true ∧ Mirrors i c.lastSnapshotCache p

theorem mirrors_of_agrees {i : Fin kMaxPlayers} {snap : WorldSnapshot} {p : Publish} (h : p.Sound)
    (hAgrees : Agrees snap (stamped p.snapshot (p.event.acks i))) (hSeq : snap.lastInputSeq = p.event.acks i) :
    Mirrors i snap p := by
  refine ⟨agrees_stamped hAgrees, hSeq, fun n hn => ?_⟩
  rw [hAgrees.playerCount] at hn
  rw [hAgrees.players n hn]
  exact wireVec2_eq_floor (h.positions n hn)

theorem receiveUdp_other {c : NetClient} {d : List U8} (h : ¬ IsSnapshotDatagram d) :
    (c.receiveUdp d).lastSnapshotCache = c.lastSnapshotCache ∧
      (c.receiveUdp d).haveLastSnapshot = c.haveLastSnapshot ∧
      (c.receiveUdp d).pendingSnapshots = c.pendingSnapshots := by
  have hDispatch : ∀ type tick payload, type ≠ some .worldSnapshot → type ≠ some .deltaSnapshot →
      (c.dispatchUdpPayload type tick payload).lastSnapshotCache = c.lastSnapshotCache ∧
        (c.dispatchUdpPayload type tick payload).haveLastSnapshot = c.haveLastSnapshot ∧
        (c.dispatchUdpPayload type tick payload).pendingSnapshots = c.pendingSnapshots := by
    intro type tick payload hWorld hDelta
    simp only [dispatchUdpPayload]
    split
    · exact absurd rfl hWorld
    · exact absurd rfl hDelta
    · simp only [onShotFired]
      split <;> exact ⟨rfl, rfl, rfl⟩
    · exact ⟨rfl, rfl, rfl⟩
  simp only [IsSnapshotDatagram, udpType, not_or] at h
  simp only [receiveUdp]
  split
  · exact ⟨rfl, rfl, rfl⟩
  · rename_i hLong
    rw [if_neg hLong] at h
    split
    · rename_i hHeader
      simp only [hHeader] at h
      exact hDispatch _ _ _ h.1 h.2
    · exact ⟨rfl, rfl, rfl⟩

theorem accepts_keyframe {i : Fin kMaxPlayers} {p : Publish} {d : List U8} (h : p.Sound) (hSent : SentTo i p.event d)
    (hKey : p.event.type = .udpSnapshot) (c : NetClient) :
    Holds i (c.receiveUdp d) p ∧
      (c.receiveUdp d).pendingSnapshots = c.pendingSnapshots ++ [(c.receiveUdp d).lastSnapshotCache] := by
  rcases receiveUdp_publish h hSent c with ⟨-, hStep⟩ | ⟨hDelta, -⟩
  · rw [hStep, onWorldSnapshot_run c (stamped p.snapshot (p.event.acks i)) h.count]
    exact ⟨⟨rfl, mirrors_of_agrees h (wireSnapshot_agrees _) rfl⟩, rfl⟩
  · rw [hKey] at hDelta
    cases hDelta

theorem accepts_delta {i : Fin kMaxPlayers} {p q : Publish} {d : List U8} (hp : p.Sound) (hq : q.Sound)
    (hSent : SentTo i q.event d) (hDelta : q.event.type = .udpDeltaSnapshot) (hBaseline : q.baseline = p.snapshot)
    (hOrder : p.snapshot.tick.toNat ≤ q.snapshot.tick.toNat)
    (hNear : q.snapshot.tick.toNat - p.snapshot.tick.toNat ≤ 255) {c : NetClient} (hHolds : Holds i c p) :
    Holds i (c.receiveUdp d) q ∧
      (c.receiveUdp d).pendingSnapshots = c.pendingSnapshots ++ [(c.receiveUdp d).lastSnapshotCache] := by
  obtain ⟨hHave, hMirrors⟩ := hHolds
  rcases receiveUdp_publish hq hSent c with ⟨hKey, -⟩ | ⟨-, hStep⟩
  · rw [hDelta] at hKey
    cases hKey
  · obtain ⟨out, hDecoded, hAgrees, hSeq⟩ := @decodeDeltaSnapshot_agrees _ (stamped q.snapshot (q.event.acks i)) _
      hMirrors.agrees hq.count hp.count hOrder hNear []
    rw [List.append_nil] at hDecoded
    have hRun : decodeDeltaSnapshot q.snapshot.tick c.lastSnapshotCache
        ⟨deltaSnapshotBytes (stamped q.snapshot (q.event.acks i)) p.snapshot, false⟩ = (some out, ⟨[], false⟩) := hDecoded
    have hNew : c.receiveUdp d =
        { c with
          lastSnapshotCache := out
          firstSnapshotReceived := true
          pendingSnapshots := c.pendingSnapshots ++ [out] } := by
      rw [hStep, hBaseline, onDeltaSnapshot, hRun]
      simp only [hHave, Bool.not_true, Bool.false_eq_true, if_false]
    rw [hNew]
    exact ⟨⟨hHave, mirrors_of_agrees hq hAgrees hSeq⟩, rfl⟩

theorem Arrives.split {i : Fin kMaxPlayers} {window : List Publish} {received : List (List U8)}
    (h : Arrives i window received) {before after : List Publish} {p : Publish} (hSplit : window = before ++ p :: after) :
    ∃ early d late, received = early ++ d :: late ∧ Arrives i before early ∧ SentTo i p.event d ∧ Arrives i after late := by
  induction h generalizing before with
  | nil =>
    rw [eq_comm, List.append_eq_nil_iff] at hSplit
    cases hSplit.2
  | @publish q d window received hSent hRest ih =>
    cases before with
    | nil =>
      cases hSplit
      exact ⟨[], d, received, rfl, .nil, hSent, hRest⟩
    | cons first before =>
      cases hSplit
      obtain ⟨early, d', late, rfl, hEarly, hAt, hLate⟩ := ih rfl
      exact ⟨d :: early, d', late, rfl, .publish hSent hEarly, hAt, hLate⟩
  | @other d window received hNot hRest ih =>
    obtain ⟨early, d', late, rfl, hEarly, hAt, hLate⟩ := ih hSplit
    exact ⟨d :: early, d', late, rfl, .other hNot hEarly, hAt, hLate⟩

theorem receiveAll_cons (c : NetClient) (d : List U8) (received : List (List U8)) :
    c.receiveAll (d :: received) = (c.receiveUdp d).receiveAll received := rfl

theorem receiveAll_append (c : NetClient) (early late : List (List U8)) :
    c.receiveAll (early ++ late) = (c.receiveAll early).receiveAll late := List.foldl_append

/-- From a publish that the client holds on, every later one of the window is accepted. -/
theorem follows_window {s : Sim} {pubs : List Publish} {n : Nat} (hHistory : History s pubs n) (hCadence : Cadence s pubs)
    (hStride : s.stride ≤ 255) {i : Fin kMaxPlayers} {after : List Publish} {received : List (List U8)}
    (hArrives : Arrives i after received) {earlier later : List Publish} {p : Publish} {c : NetClient}
    (hPubs : pubs = earlier ++ p :: (after ++ later)) (hHolds : Holds i c p) :
    ∃ accepted, (c.receiveAll received).pendingSnapshots = c.pendingSnapshots ++ accepted ∧
      List.Forall₂ (Mirrors i) accepted after ∧
      ∃ last, (p :: after).getLast? = some last ∧ Holds i (c.receiveAll received) last := by
  induction hArrives generalizing earlier p c with
  | nil => exact ⟨[], by simp [receiveAll], .nil, p, rfl, hHolds⟩
  | @other d window received hNot hRest ih =>
    obtain ⟨hCache, hHave, hPending⟩ := receiveUdp_other (c := c) hNot
    have hStill : Holds i (c.receiveUdp d) p := by
      rw [Holds, hHave, hCache]
      exact hHolds
    obtain ⟨accepted, hGot, hMirrors⟩ := ih hPubs hStill
    rw [hPending] at hGot
    exact ⟨accepted, hGot, hMirrors⟩
  | @publish q d window received hSent hRest ih =>
    have hp : p ∈ pubs := by rw [hPubs]; simp
    have hq : q ∈ pubs := by rw [hPubs]; simp
    have hBaseline : q.baseline = p.snapshot := by
      rw [hPubs] at hCadence
      exact hCadence.follows_split
    have hAccepts : Holds i (c.receiveUdp d) q ∧
        (c.receiveUdp d).pendingSnapshots = c.pendingSnapshots ++ [(c.receiveUdp d).lastSnapshotCache] := by
      rcases (hHistory.sound q hq).body with ⟨hKey, -⟩ | ⟨hDelta, -⟩
      · exact accepts_keyframe (hHistory.sound q hq) hSent hKey c
      · obtain ⟨b, -, hBase, hAt⟩ := hHistory.chained q hq hDelta
        rw [hBase, hBaseline] at hAt
        exact accepts_delta (hHistory.sound p hp) (hHistory.sound q hq) hSent hDelta hBaseline (by omega) (by omega) hHolds
    obtain ⟨hNow, hPushed⟩ := hAccepts
    obtain ⟨accepted, hGot, hMirrors, last, hLast, hThen⟩ := ih
      (show pubs = (earlier ++ [p]) ++ q :: (window ++ later) by rw [hPubs]; simp) hNow
    refine ⟨(c.receiveUdp d).lastSnapshotCache :: accepted, ?_, .cons hNow.2 hMirrors, last, ?_, ?_⟩
    · rw [receiveAll_cons, hGot, hPushed, List.append_assoc, List.singleton_append]
    · rw [List.getLast?_cons_cons]
      exact hLast
    · exact hThen

/-- A window of `kSnapshotKeyframeInterval` publishes has a keyframe, and from it on the client accepts every publish
of the window, whatever state it was in. -/
theorem stream_recovers (rayDir : RayDir) (snapshotHz : Int) (ticks : List (List InboundCommand)) (i : Fin kMaxPlayers)
    (c : NetClient) (earlier window later : List Publish) (received : List (List U8)) (hShort : ticks.length < 2 ^ 32)
    (hRun : (configured kTickRateHz snapshotHz true).publishes rayDir ticks = earlier ++ window ++ later)
    (hLength : window.length = kSnapshotKeyframeInterval) (hArrives : Arrives i window received) :
    (∃ before key after early late,
      window = before ++ key :: after ∧ key.event.type = .udpSnapshot ∧
      received = early ++ late ∧ Arrives i before early ∧ Arrives i (key :: after) late ∧
      ∃ accepted, (c.receiveAll received).pendingSnapshots = (c.receiveAll early).pendingSnapshots ++ accepted ∧
        List.Forall₂ (Mirrors i) accepted (key :: after)) ∧
    ∃ last, window.getLast? = some last ∧ Holds i (c.receiveAll received) last := by
  have hHistory := history rayDir kTickRateHz snapshotHz true ticks hShort
  have hCadence := cadence rayDir kTickRateHz snapshotHz ticks hShort
  have hStride : ((configured kTickRateHz snapshotHz true).run rayDir ticks).stride ≤ 255 := by
    rw [run_stride]
    exact (stride_default snapshotHz true).trans (by decide)
  rw [hRun] at hHistory hCadence
  obtain ⟨before, key, after, hWindow, hKey⟩ := hCadence.keyframe_among hLength
  obtain ⟨early, d, late, rfl, hEarly, hSent, hLate⟩ := hArrives.split hWindow
  have hMem : key ∈ earlier ++ window ++ later := by rw [hWindow]; simp
  obtain ⟨hHolds, hPushed⟩ := accepts_keyframe (hHistory.sound key hMem) hSent hKey (c.receiveAll early)
  obtain ⟨accepted, hGot, hMirrors, last, hLast, hThen⟩ := follows_window hHistory hCadence hStride hLate
    (show earlier ++ window ++ later = (earlier ++ before) ++ key :: (after ++ later) by rw [hWindow]; simp) hHolds
  rw [receiveAll_append, receiveAll_cons]
  refine ⟨⟨before, key, after, early, d :: late, hWindow, hKey, rfl, hEarly, .publish hSent hLate,
    ((c.receiveAll early).receiveUdp d).lastSnapshotCache :: accepted, ?_, .cons hHolds.2 hMirrors⟩, last, ?_, hThen⟩
  · rw [hGot, hPushed, List.append_assoc, List.singleton_append]
  · rw [hWindow, List.getLast?_append, hLast]
    rfl

def oneClient : ClientRegistry := { storage := [{ tcpFd := 5, hasUdpAddr := true }] }

def sentToZero (p : Publish) : Option (List U8) :=
  (oneClient.sendSnapshotEvent p.event).findSome? fun out => if out.1.playerId = idByte 0 then some out.2 else none

theorem arrives_sentToZero {window : List Publish} (h : window.all (fun p => (sentToZero p).isSome) = true) :
    Arrives 0 window (window.filterMap sentToZero) := by
  induction window with
  | nil => exact .nil
  | cons p window ih =>
    rw [List.all_cons, Bool.and_eq_true] at h
    obtain ⟨d, hd⟩ := Option.isSome_iff_exists.mp h.1
    rw [List.filterMap_cons_some hd]
    refine .publish ?_ (ih h.2)
    obtain ⟨⟨e, d'⟩, hMem, hSome⟩ := List.exists_of_findSome?_eq_some hd
    split at hSome
    · rename_i hId
      cases hSome
      exact ⟨oneClient, e, hId, hMem⟩
    · cases hSome

def tenPublishes : List Publish :=
  (configured kTickRateHz 30 true).publishes (fun _ => (1024, 0)) ([.playerJoined 0 .red 0] :: List.replicate 9 [])

theorem stream_recovers_tenPublishes :
    tenPublishes.length = kSnapshotKeyframeInterval ∧
      ∃ last, tenPublishes.getLast? = some last ∧ Holds 0 (receiveAll {} (tenPublishes.filterMap sentToZero)) last := by
  have hLength : tenPublishes.length = kSnapshotKeyframeInterval := by decide +kernel
  have hSent : tenPublishes.all (fun p => (sentToZero p).isSome) = true := by decide +kernel
  refine ⟨hLength, ?_⟩
  exact (stream_recovers (fun _ => (1024, 0)) 30 ([.playerJoined 0 .red 0] :: List.replicate 9 []) 0 {} [] tenPublishes []
    (tenPublishes.filterMap sentToZero) (by decide) (by rw [List.nil_append, List.append_nil, tenPublishes]) hLength
    (arrives_sentToZero hSent)).2

end NetClient
end CaptureTheFlag
