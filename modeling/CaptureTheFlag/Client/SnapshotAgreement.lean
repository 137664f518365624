import CaptureTheFlag.Client.NetClient
import CaptureTheFlag.Server.Broadcast
import CaptureTheFlag.Server.PublishHistory

/-! # Snapshots agree over a lossy network

Whatever the network does to the datagrams, the client's cache agrees with one of the publishes, and a
delta finds its own baseline there or is dropped.
-/
namespace CaptureTheFlag
set_option autoImplicit false
open Protocol BigEndian Sim

/-- `d` is what some state of the registry makes of `ev` for player `i`. -/
def SentTo (i : Fin kMaxPlayers) (ev : OutboundEvent) (d : List U8) : Prop :=
  ∃ (r : ClientRegistry) (e : ClientEntry), e.playerId = idByte i ∧ (e, d) ∈ r.sendSnapshotEvent ev

theorem ackOf_idByte (acks : Fin kMaxPlayers → U32) (i : Fin kMaxPlayers) :
    ClientRegistry.ackOf acks (idByte i) = acks i := by
  have hLt : (idByte i).toNat < kMaxPlayers := by rw [toNat_idByte]; exact i.isLt
  have hSlot : (⟨(idByte i).toNat, hLt⟩ : Fin kMaxPlayers) = i := Fin.ext (toNat_idByte i)
  rw [ClientRegistry.ackOf, dif_pos hLt, hSlot]

def stamped (snap : WorldSnapshot) (ack : U32) : WorldSnapshot := { snap with lastInputSeq := ack }

theorem patch_worldSnapshot (snap : WorldSnapshot) (ack : U32) :
    split32 ack ++ (worldSnapshotBytes snap).drop 4 = worldSnapshotBytes (stamped snap ack) := rfl

theorem patch_deltaSnapshot (current baseline : WorldSnapshot) (ack : U32) :
    split32 ack ++ (deltaSnapshotBytes current baseline).drop 4 =
      deltaSnapshotBytes (stamped current ack) baseline := rfl

theorem agrees_stamped {got snap : WorldSnapshot} {ack : U32} (h : Agrees got (stamped snap ack)) : Agrees got snap :=
  { h with }

namespace NetClient

theorem receiveUdp_publish {p : Publish} {i : Fin kMaxPlayers} {d : List U8} (h : p.Sound) (hSent : SentTo i p.event d)
    (c : NetClient) :
    (p.event.type = .udpSnapshot ∧
      c.receiveUdp d = c.onWorldSnapshot (worldSnapshotBytes (stamped p.snapshot (p.event.acks i)))) ∨
    (p.event.type = .udpDeltaSnapshot ∧
      c.receiveUdp d = c.onDeltaSnapshot p.snapshot.tick
        (deltaSnapshotBytes (stamped p.snapshot (p.event.acks i)) p.baseline)) := by
  obtain ⟨r, e, hId, hMem⟩ := hSent
  rcases ClientRegistry.mem_sendSnapshotEvent hMem with ⟨hType, hDatagram⟩ | ⟨hType, hDatagram⟩
  · have hBody : p.event.payload = worldSnapshotBytes p.snapshot := by
      rcases h.body with ⟨-, hBytes⟩ | ⟨hOther, -⟩
      · exact hBytes
      · rw [hType] at hOther
        cases hOther
    have hLen := length_worldSnapshotBytes (stamped p.snapshot (p.event.acks i))
    refine Or.inl ⟨hType, ?_⟩
    rw [hDatagram, ClientRegistry.snapshotDatagram, hId, ackOf_idByte, hBody, patch_worldSnapshot,
      receiveUdp_header _ _ _ _ (by omega)]
    rfl
  · have hBody : p.event.payload = deltaSnapshotBytes p.snapshot p.baseline := by
      rcases h.body with ⟨hOther, -⟩ | ⟨-, hBytes⟩
      · rw [hType] at hOther
        cases hOther
      · exact hBytes
    have hLen := length_deltaSnapshotBytes (stamped p.snapshot (p.event.acks i)) p.baseline
    refine Or.inr ⟨hType, ?_⟩
    rw [hDatagram, ClientRegistry.snapshotDatagram, hId, ackOf_idByte, hBody, patch_deltaSnapshot,
      receiveUdp_header _ _ _ _ (by omega), h.tick]
    rfl

/-- The cache and the queue agree with publishes. -/
structure Consistent (pubs : List Publish) (i : Fin kMaxPlayers) (c : NetClient) : Prop where
  cache : c.haveLastSnapshot = true → ∃ p ∈ pubs, Agrees c.lastSnapshotCache p.snapshot
  pending : ∀ snap ∈ c.pendingSnapshots, ∃ p ∈ pubs, Agrees snap p.snapshot ∧ snap.lastInputSeq = p.event.acks i

/-- The clamped distance names the baseline or nothing: publishes stand a stride apart. -/
theorem applied_on_baseline {s : Sim} {pubs : List Publish} {n : Nat} (hHistory : History s pubs n) {p : Publish}
    (hp : p ∈ pubs) (hDelta : p.event.type = .udpDeltaSnapshot) {cache out : WorldSnapshot} {ack : U32} {r : ByteReader}
    (hCache : ∃ q ∈ pubs, Agrees cache q.snapshot)
    (hRun : decodeDeltaSnapshot p.snapshot.tick cache
      ⟨deltaSnapshotBytes (stamped p.snapshot ack) p.baseline, false⟩ = (some out, r)) :
    Agrees cache p.baseline ∧ p.baseline.tick.toNat ≤ p.snapshot.tick.toNat ∧
      p.snapshot.tick.toNat - p.baseline.tick.toNat ≤ 255 ∧ p.baseline.playerCount.toNat ≤ kMaxPlayers := by
  obtain ⟨q, hq, hAgrees⟩ := hCache
  obtain ⟨b, hb, hBase, hAt⟩ := hHistory.chained p hp hDelta
  rw [← List.append_nil (deltaSnapshotBytes _ _)] at hRun
  obtain ⟨hLe, hTick⟩ := decodeDeltaSnapshot_tick hRun
  have hStamp : (stamped p.snapshot ack).tick = p.snapshot.tick := rfl
  rw [← hBase, hStamp] at hLe hTick
  rw [← hBase]
  have hOrder : b.snapshot.tick.toNat ≤ p.snapshot.tick.toNat := by omega
  have hNear : p.snapshot.tick.toNat - b.snapshot.tick.toNat ≤ 255 := by
    by_contra hFar
    -- The distance byte is 255, and no publish stands 255 ticks before this one.
    have hSub : (p.snapshot.tick - b.snapshot.tick).toNat = p.snapshot.tick.toNat - b.snapshot.tick.toNat :=
      BitVec.toNat_sub_of_le (by rwa [BitVec.le_def])
    have hClamp : deltaTicksAgo p.snapshot.tick b.snapshot.tick = 255 := by
      simp only [deltaTicksAgo, ge_iff_le, hOrder, if_true]
      rw [if_pos (by rw [hSub]; omega)]
    have hByte : (255 : U8).toNat = 255 ∧ ((255 : U8).setWidth 32).toNat = 255 := by decide
    rw [hClamp] at hLe hTick
    have hLe255 : 255 ≤ p.snapshot.tick.toNat := by rwa [hByte.1] at hLe
    have hCacheTick : cache.tick.toNat = p.snapshot.tick.toNat - 255 := by
      rw [hTick, BitVec.toNat_sub_of_le (by rw [BitVec.le_def, hByte.2]; exact hLe255), hByte.2]
    have hDvd := (hHistory.ticks q hq).1
    rw [← hAgrees.tick, hCacheTick] at hDvd
    have hDvd255 : s.stride ∣ 255 := by
      have := Nat.dvd_sub (hHistory.ticks p hp).1 hDvd
      rwa [Nat.sub_sub_self hLe255] at this
    have := Nat.le_of_dvd (by decide) hDvd255
    omega
  obtain ⟨-, hSub⟩ := deltaTicksAgo_sub hOrder hNear
  have hSame : q = b := hHistory.distinct q hq b hb (by rw [← hAgrees.tick, hTick]; exact hSub)
  exact ⟨hSame ▸ hAgrees, hOrder, hNear, (hHistory.sound b hb).count⟩

theorem Consistent.receiveUdp {s : Sim} {pubs : List Publish} {n : Nat} {i : Fin kMaxPlayers} {c : NetClient}
    (h : Consistent pubs i c) (hHistory : History s pubs n) {p : Publish} (hp : p ∈ pubs) {d : List U8}
    (hSent : SentTo i p.event d) : Consistent pubs i (c.receiveUdp d) := by
  have hSound := hHistory.sound p hp
  rcases receiveUdp_publish hSound hSent c with ⟨-, hStep⟩ | ⟨hDelta, hStep⟩
  · have hAgrees := agrees_stamped (wireSnapshot_agrees (stamped p.snapshot (p.event.acks i)))
    rw [hStep, onWorldSnapshot_run c (stamped p.snapshot (p.event.acks i)) hSound.count]
    refine ⟨fun _ => ⟨p, hp, hAgrees⟩, ?_⟩
    intro snap hMem
    rcases List.mem_append.mp hMem with hMem | hMem
    · exact h.pending snap hMem
    · rw [List.mem_singleton.mp hMem]
      exact ⟨p, hp, hAgrees, rfl⟩
  · rw [hStep]
    rcases onDeltaSnapshot_cases c p.snapshot.tick _ with ⟨hPending, hKept⟩ | ⟨hHave, snap, r, hRun, hNew⟩
    · refine ⟨fun hHave => ?_, ?_⟩
      · have hSame := hKept hHave
        rw [hSame] at hHave ⊢
        exact h.cache hHave
      · rw [hPending]
        exact h.pending
    · obtain ⟨hBase, hOrder, hNear, hCount⟩ := applied_on_baseline hHistory hp hDelta (h.cache hHave) hRun
      obtain ⟨out, hDecoded, hStamped, hSeq⟩ := @decodeDeltaSnapshot_agrees _ (stamped p.snapshot (p.event.acks i)) _
        hBase hSound.count hCount hOrder hNear []
      rw [List.append_nil] at hDecoded
      obtain rfl : out = snap := Option.some.inj (congrArg Prod.fst (hDecoded.symm.trans hRun))
      have hAgrees := agrees_stamped hStamped
      rw [hNew]
      refine ⟨fun _ => ⟨p, hp, hAgrees⟩, ?_⟩
      intro snap hMem
      rcases List.mem_append.mp hMem with hMem | hMem
      · exact h.pending snap hMem
      · rw [List.mem_singleton.mp hMem]
        exact ⟨p, hp, hAgrees, hSeq⟩

theorem Consistent.receiveAll {s : Sim} {pubs : List Publish} {n : Nat} {i : Fin kMaxPlayers}
    (hHistory : History s pubs n) (received : List (List U8))
    (hSent : ∀ d ∈ received, ∃ p ∈ pubs, SentTo i p.event d) :
    Consistent pubs i (NetClient.receiveAll {} received) := by
  induction received using List.reverseRecOn with
  | nil =>
    constructor
    · intro hNo
      cases hNo
    · intro snap hMem
      cases hMem
  | append_singleton received d ih =>
    obtain ⟨p, hp, hd⟩ := hSent d (by simp)
    rw [receiveAll_snoc]
    exact (ih (fun d' hMem => hSent d' (by simp [hMem]))).receiveUdp hHistory hp hd

theorem publish_of_sent {rayDir : RayDir} {tickHz snapshotHz : Int} {delta : Bool} {ticks : List (List InboundCommand)}
    {i : Fin kMaxPlayers} {d : List U8}
    (hSent : ∃ ev ∈ ((configured tickHz snapshotHz delta).run rayDir ticks).outbound, SentTo i ev d) :
    ∃ p ∈ (configured tickHz snapshotHz delta).publishes rayDir ticks, SentTo i p.event d := by
  obtain ⟨ev, hEv, hd⟩ := hSent
  have hSnapshot : ev.isSnapshot = true := by
    obtain ⟨r, e, -, hOut⟩ := hd
    rcases ClientRegistry.mem_sendSnapshotEvent hOut with ⟨hType, -⟩ | ⟨hType, -⟩ <;>
      simp [OutboundEvent.isSnapshot, hType]
  have hIn := List.mem_filter.mpr ⟨hEv, hSnapshot⟩
  rw [run_snapshots] at hIn
  obtain ⟨p, hp, rfl⟩ := List.mem_map.mp hIn
  exact ⟨p, hp, hd⟩

/-- Every snapshot handed to the game agrees with the publish of its tick, and a delta is only ever applied to its own
baseline. -/
theorem snapshots_agree (rayDir : RayDir) (tickHz snapshotHz : Int) (delta : Bool) (ticks : List (List InboundCommand))
    (i : Fin kMaxPlayers) (received : List (List U8)) (hShort : ticks.length < 2 ^ 32)
    (hSent : ∀ d ∈ received, ∃ ev ∈ ((configured tickHz snapshotHz delta).run rayDir ticks).outbound, SentTo i ev d) :
    let pubs := (configured tickHz snapshotHz delta).publishes rayDir ticks
    (∀ snap ∈ (receiveAll {} received).pendingSnapshots,
      (∃ p ∈ pubs, p.snapshot.tick = snap.tick) ∧
      ∀ p ∈ pubs, p.snapshot.tick = snap.tick →
        Agrees snap p.snapshot ∧ snap.lastInputSeq = p.event.acks i ∧
          ∀ n : Fin kMaxPlayers, n.val < snap.playerCount.toNat →
            (snap.players n).motion.position = floorVec2 (p.snapshot.players n).motion.position) ∧
    (∀ before d after, received = before ++ d :: after →
      ∀ p ∈ pubs, SentTo i p.event d → p.event.type = .udpDeltaSnapshot →
        let c := receiveAll {} before
        (c.receiveUdp d).pendingSnapshots ≠ c.pendingSnapshots →
          c.haveLastSnapshot = true ∧ Agrees c.lastSnapshotCache p.baseline) := by
  intro pubs
  have hHistory := history rayDir tickHz snapshotHz delta ticks hShort
  have hPublished : ∀ d ∈ received, ∃ p ∈ pubs, SentTo i p.event d := fun d hMem => publish_of_sent (hSent d hMem)
  constructor
  · intro snap hMem
    obtain ⟨q, hq, hAgrees, hSeq⟩ := (Consistent.receiveAll hHistory received hPublished).pending snap hMem
    refine ⟨⟨q, hq, hAgrees.tick.symm⟩, ?_⟩
    intro p hp hTick
    obtain rfl : p = q := hHistory.distinct p hp q hq (hTick.trans hAgrees.tick)
    refine ⟨hAgrees, hSeq, fun n hn => ?_⟩
    rw [hAgrees.playerCount] at hn
    rw [hAgrees.players n hn]
    exact wireVec2_eq_floor ((hHistory.sound p hp).positions n hn)
  · intro before d after hSplit p hp hd hDelta c hApplied
    have hBefore := Consistent.receiveAll hHistory before (fun d' hMem => hPublished d' (by rw [hSplit]; simp [hMem]))
    rcases receiveUdp_publish (hHistory.sound p hp) hd c with ⟨hKey, -⟩ | ⟨-, hStep⟩
    · rw [hDelta] at hKey
      cases hKey
    · rw [hStep] at hApplied
      rcases onDeltaSnapshot_cases c p.snapshot.tick _ with ⟨hPending, -⟩ | ⟨hHave, snap, r, hRun, -⟩
      · exact absurd hPending hApplied
      · exact ⟨hHave, (applied_on_baseline hHistory hp hDelta (hBefore.cache hHave) hRun).1⟩

def threeTicks : List (List InboundCommand) :=
  [[.playerJoined 0 .red 0], [.playerInput 0 1 { buttons := kInputRight }], []]

/-- The datagrams of three ticks for player 0, every one twice. -/
def twiceReceived : List (List U8) :=
  let r : ClientRegistry := { storage := [{ tcpFd := 5, hasUdpAddr := true }] }
  let sent := ((configured 30 30 true).run (fun _ => (1024, 0)) threeTicks).outbound.flatMap fun ev =>
    (r.sendSnapshotEvent ev).filterMap fun out => if out.1.playerId = idByte 0 then some out.2 else none
  sent ++ sent

theorem twiceReceived_sent : ∀ d ∈ twiceReceived,
    ∃ ev ∈ ((configured 30 30 true).run (fun _ => (1024, 0)) threeTicks).outbound, SentTo 0 ev d := by
  intro d hMem
  obtain ⟨ev, hEv, hd⟩ := List.mem_flatMap.mp ((List.mem_append.mp hMem).elim id id)
  obtain ⟨⟨e, d'⟩, hPair, hSome⟩ := List.mem_filterMap.mp hd
  split at hSome
  · rename_i hId
    cases hSome
    exact ⟨ev, hEv, _, e, hId, hPair⟩
  · cases hSome

theorem snapshots_agree_twice :
    (receiveAll {} twiceReceived).pendingSnapshots.length = 6 ∧
      ∀ snap ∈ (receiveAll {} twiceReceived).pendingSnapshots,
        ∃ p ∈ (configured 30 30 true).publishes (fun _ => (1024, 0)) threeTicks, p.snapshot.tick = snap.tick := by
  refine ⟨by decide +kernel, fun snap hMem => ?_⟩
  have hAgree := snapshots_agree (fun _ => (1024, 0)) 30 30 true threeTicks 0 twiceReceived (by decide)
    twiceReceived_sent
  exact (hAgree.1 snap hMem).1

end NetClient
end CaptureTheFlag
