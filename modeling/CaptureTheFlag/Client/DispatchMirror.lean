import CaptureTheFlag.Client.Dispatch
import CaptureTheFlag.Shared.InPlaceMirror

/-! # The client in memory and the client of values

Every datagram takes the client in memory where it takes the client whose snapshots are values.
-/
namespace CaptureTheFlag.Raw
set_option autoImplicit false
open Protocol Filling

def GameEvent.shot : GameEvent → Option MsgShotFired
  | shotFired msg => some msg
  | _ => none

namespace NetClient

/-- The memory `c` holds the state `v`. -/
structure Shows (c : NetClient) (v : CaptureTheFlag.NetClient) : Prop where
  cache : c.lastSnapshotCache = v.lastSnapshotCache.raw
  haveLast : c.haveLastSnapshot = v.haveLastSnapshot
  first : c.firstSnapshotReceived = v.firstSnapshotReceived
  snapshots : c.pendingSnapshots = v.pendingSnapshots.map WorldSnapshot.raw
  shots : c.pendingEvents.filterMap GameEvent.shot = v.pendingShots

theorem shows_init : Shows {} {} := ⟨rfl, rfl, rfl, rfl, rfl⟩

theorem onDecoded_mirrors {σ β : Type} {embed : β → σ} {decode : Filling ByteReader σ Unit} {fresh : σ}
    {e : Decoder (Option β)} (h : Mirrors embed decode fresh e) (c : NetClient) (payload : List U8)
    (use : σ → NetClient) :
    c.onDecoded decode fresh payload use = some (match e ⟨payload, false⟩ with
      | (some b, ⟨_, false⟩) => use (embed b)
      | _ => c) := by
  have hAgree := h ⟨payload, false⟩
  rw [onDecoded]
  generalize decode (fresh, ⟨payload, false⟩) = result at hAgree ⊢
  generalize e ⟨payload, false⟩ = value at hAgree ⊢
  rcases result with ⟨(_ | _) | _, s⟩ <;> rcases value with ⟨_ | b, rest, _ | _⟩
  all_goals first
    | exact hAgree.elim
    | rfl
    | (have hState : s = _ := hAgree
       rw [hState]
       rfl)

theorem onDeltaSnapshot_shows {c : NetClient} {v : CaptureTheFlag.NetClient} (h : Shows c v) (tick : U32)
    (payload : List U8) :
    ∃ next, c.onDeltaSnapshot tick payload = some next ∧ Shows next (v.onDeltaSnapshot tick payload) := by
  rw [onDeltaSnapshot, CaptureTheFlag.NetClient.onDeltaSnapshot, h.haveLast]
  cases hHave : v.haveLastSnapshot with
  | false => exact ⟨c, rfl, h⟩
  | true =>
    have hAgree := mirrors_decodeDeltaSnapshot tick v.lastSnapshotCache ⟨payload, false⟩
    have hKept : (decodeDeltaSnapshot tick (c.lastSnapshotCache, ⟨payload, false⟩)).1 ≠ .ok () →
        (decodeDeltaSnapshot tick (c.lastSnapshotCache, ⟨payload, false⟩)).2.1 = c.lastSnapshotCache :=
      onCopy_unchanged _ _
    rw [← h.cache] at hAgree
    simp only [Bool.not_true, Bool.false_eq_true, if_false]
    generalize decodeDeltaSnapshot tick (c.lastSnapshotCache, ⟨payload, false⟩) = result at hAgree hKept ⊢
    generalize Protocol.decodeDeltaSnapshot tick v.lastSnapshotCache ⟨payload, false⟩ = value at hAgree ⊢
    rcases result with ⟨(_ | _) | _, cache, r⟩ <;> rcases value with ⟨_ | snap, r'⟩
    · have hSame : cache = c.lastSnapshotCache := hKept (by rintro ⟨⟩)
      refine ⟨_, rfl, ⟨?_, rfl, h.first, h.snapshots, h.shots⟩⟩
      exact hSame.trans h.cache
    · exact hAgree.elim
    · exact hAgree.elim
    · exact hAgree.elim
    · exact hAgree.elim
    · have hCache : cache = snap.raw := congrArg Prod.fst hAgree
      refine ⟨_, rfl, ⟨hCache, rfl, rfl, ?_, h.shots⟩⟩
      rw [hCache, h.snapshots, List.map_append]
      rfl

theorem dispatchUdpPayload_shows {c : NetClient} {v : CaptureTheFlag.NetClient} (h : Shows c v) (type : U8) (tick : U32)
    (payload : List U8) :
    ∃ next, c.dispatchUdpPayload type tick payload = some next ∧
      Shows next (v.dispatchUdpPayload (MessageType.ofCode type) tick payload) := by
  unfold dispatchUdpPayload CaptureTheFlag.NetClient.dispatchUdpPayload
  generalize MessageType.ofCode type = message
  rcases message with _ | message
  · exact ⟨c, rfl, h⟩
  cases message with
  | worldSnapshot =>
    refine ⟨_, onDecoded_mirrors mirrors_decodeWorldSnapshot c payload _, ?_⟩
    unfold CaptureTheFlag.NetClient.onWorldSnapshot
    rcases Protocol.decodeWorldSnapshot ⟨payload, false⟩ with ⟨_ | snap, rest, _ | _⟩
    · exact h
    · exact h
    · refine ⟨rfl, rfl, rfl, ?_, h.shots⟩
      rw [h.snapshots, List.map_append]
      rfl
    · exact h
  | deltaSnapshot => exact onDeltaSnapshot_shows h tick payload
  | shotFired =>
    refine ⟨_, onDecoded_mirrors mirrors_decodeShotFired c payload _, ?_⟩
    unfold CaptureTheFlag.NetClient.onShotFired
    rcases Protocol.decodeShotFired ⟨payload, false⟩ with ⟨_ | msg, rest, _ | _⟩
    · exact h
    · exact h
    · refine ⟨h.cache, h.haveLast, h.first, h.snapshots, ?_⟩
      change (c.pendingEvents ++ [GameEvent.shotFired msg]).filterMap GameEvent.shot = v.pendingShots ++ [msg]
      rw [List.filterMap_append, h.shots]
      rfl
    · exact h
  | _ => exact ⟨c, rfl, h⟩

theorem deliverAll_shows (datagrams : List (U8 × U32 × List U8)) {c : NetClient} {v : CaptureTheFlag.NetClient}
    (h : Shows c v) :
    ∃ next, c.deliverAll (datagrams.map fun d => .udpPayload d.1 d.2.1 d.2.2) = some next ∧
      Shows next (datagrams.foldl (fun v d => v.dispatchUdpPayload (MessageType.ofCode d.1) d.2.1 d.2.2) v) := by
  induction datagrams generalizing c v with
  | nil => exact ⟨c, rfl, h⟩
  | cons d datagrams ih =>
    obtain ⟨next, hNext, hShows⟩ := dispatchUdpPayload_shows h d.1 d.2.1 d.2.2
    rw [List.map_cons, deliverAll, deliver, hNext, List.foldl_cons]
    exact ih hShows

end NetClient
end CaptureTheFlag.Raw
