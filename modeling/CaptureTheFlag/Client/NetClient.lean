import CaptureTheFlag.Shared.DeltaRoundtrip

/-! # The client's UDP side

The snapshot cache and the two queues that `take_snapshots` and `take_events` hand out. Of the events only
the shots arrive over UDP.
-/
namespace CaptureTheFlag
set_option autoImplicit false
open Protocol

structure NetClient where
  lastSnapshotCache : WorldSnapshot := {}
  haveLastSnapshot : Bool := false
  firstSnapshotReceived : Bool := false
  pendingSnapshots : List WorldSnapshot := []
  pendingShots : List MsgShotFired := []

namespace NetClient

abbrev kUdpBufferBytes : Nat := 2048

/-- The WORLD_SNAPSHOT case of `dispatch_udp_payload`. -/
def onWorldSnapshot (c : NetClient) (payload : List U8) : NetClient :=
  match decodeWorldSnapshot ⟨payload, false⟩ with
  | (some snap, ⟨_, false⟩) =>
    { c with
      lastSnapshotCache := snap
      haveLastSnapshot := true
      firstSnapshotReceived := true
      pendingSnapshots := c.pendingSnapshots ++ [snap] }
  | _ => c

/-- The DELTA_SNAPSHOT case of `dispatch_udp_payload`. -/
def onDeltaSnapshot (c : NetClient) (tick : U32) (payload : List U8) : NetClient :=
  if !c.haveLastSnapshot then c
  else match decodeDeltaSnapshot tick c.lastSnapshotCache ⟨payload, false⟩ with
    | (none, _) => { c with haveLastSnapshot := false }
    | (some snap, _) =>
      { c with
        lastSnapshotCache := snap
        firstSnapshotReceived := true
        pendingSnapshots := c.pendingSnapshots ++ [snap] }

def onShotFired (c : NetClient) (payload : List U8) : NetClient :=
  match decodeShotFired ⟨payload, false⟩ with
  | (some msg, ⟨_, false⟩) => { c with pendingShots := c.pendingShots ++ [msg] }
  | _ => c

def dispatchUdpPayload (c : NetClient) (type : Option MessageType) (tick : U32) (payload : List U8) : NetClient :=
  match type with
  | some .worldSnapshot => c.onWorldSnapshot payload
  | some .deltaSnapshot => c.onDeltaSnapshot tick payload
  | some .shotFired => c.onShotFired payload
  | _ => c

/-- One iteration of `drain_udp`. -/
def receiveUdp (c : NetClient) (datagram : List U8) : NetClient :=
  let buf := datagram.take kUdpBufferBytes
  if buf.length < kUdpHeaderBytes then c
  else match decodeUdpHeader ⟨buf, false⟩ with
    | (some hdr, ⟨_, false⟩) => c.dispatchUdpPayload (MessageType.ofCode hdr.type) hdr.tick (buf.drop kUdpHeaderBytes)
    | _ => c

/-- Datagrams in the order in which they arrive. -/
def receiveAll (c : NetClient) (datagrams : List (List U8)) : NetClient := datagrams.foldl receiveUdp c

theorem receiveAll_snoc (c : NetClient) (datagrams : List (List U8)) (d : List U8) :
    c.receiveAll (datagrams ++ [d]) = (c.receiveAll datagrams).receiveUdp d := by
  simp [receiveAll]

theorem receiveUdp_header (c : NetClient) (type : MessageType) (tick : U32) (body : List U8)
    (hFits : body.length ≤ 2040) :
    c.receiveUdp (udpHeaderBytes type.code tick ++ body) = c.dispatchUdpPayload (some type) tick body := by
  have hHeader : (udpHeaderBytes type.code tick).length = 8 := rfl
  have hTake : (udpHeaderBytes type.code tick ++ body).take kUdpBufferBytes = udpHeaderBytes type.code tick ++ body := by
    apply List.take_of_length_le
    rw [List.length_append, hHeader]
    simp only [kUdpBufferBytes]
    omega
  have hLong : ¬ (udpHeaderBytes type.code tick ++ body).length < kUdpHeaderBytes := by
    rw [List.length_append, hHeader]
    simp only [kUdpHeaderBytes]
    omega
  have hDrop : (udpHeaderBytes type.code tick ++ body).drop kUdpHeaderBytes = body := List.drop_left' hHeader
  simp only [receiveUdp, hTake, hLong, if_false, decodeUdpHeader_run, MessageType.ofCode_code, hDrop]

theorem onWorldSnapshot_run (c : NetClient) (snap : WorldSnapshot) (hCount : snap.playerCount.toNat ≤ kMaxPlayers) :
    c.onWorldSnapshot (worldSnapshotBytes snap) =
      { c with
        lastSnapshotCache := wireSnapshot snap
        haveLastSnapshot := true
        firstSnapshotReceived := true
        pendingSnapshots := c.pendingSnapshots ++ [wireSnapshot snap] } := by
  have hRun := decodeWorldSnapshot_run snap hCount []
  rw [List.append_nil] at hRun
  simp only [onWorldSnapshot, hRun]

theorem onDeltaSnapshot_cases (c : NetClient) (tick : U32) (payload : List U8) :
    (((c.onDeltaSnapshot tick payload).pendingSnapshots = c.pendingSnapshots) ∧
      ((c.onDeltaSnapshot tick payload).haveLastSnapshot = true → c.onDeltaSnapshot tick payload = c)) ∨
    (c.haveLastSnapshot = true ∧ ∃ snap r, decodeDeltaSnapshot tick c.lastSnapshotCache ⟨payload, false⟩ = (some snap, r) ∧
      c.onDeltaSnapshot tick payload =
        { c with
          lastSnapshotCache := snap
          firstSnapshotReceived := true
          pendingSnapshots := c.pendingSnapshots ++ [snap] }) := by
  cases hHave : c.haveLastSnapshot with
  | false =>
    left
    simp [onDeltaSnapshot, hHave]
  | true =>
    cases hRun : decodeDeltaSnapshot tick c.lastSnapshotCache ⟨payload, false⟩ with
    | mk out r =>
      cases out with
      | none =>
        left
        simp [onDeltaSnapshot, hHave, hRun]
      | some snap =>
        right
        refine ⟨rfl, snap, r, rfl, ?_⟩
        simp only [onDeltaSnapshot, hHave, hRun, Bool.not_true, Bool.false_eq_true, if_false]

end NetClient
end CaptureTheFlag
