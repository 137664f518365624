import CaptureTheFlag.Server.ClientRegistry
import CaptureTheFlag.Server.Queues

/-! # Fan-out of events and snapshots -/
namespace CaptureTheFlag
set_option autoImplicit false
open Protocol BigEndian

abbrev kDatagramBytes : Nat := 600

namespace ClientRegistry

/-- One client of `broadcast_tcp_event`. -/
def appendPending (payload : List U8) (r : ClientRegistry) (entry : ClientEntry) : ClientRegistry :=
  match r.findById entry.playerId with
  | some e => r.setEntry entry.playerId { e with pendingOut := e.pendingOut ++ payload }
  | none => r

def broadcastTcpEvent (r : ClientRegistry) (payload : List U8) : ClientRegistry :=
  r.live.foldl (appendPending payload) r

/-- Header, the recipient's ack over the first four bytes of the body, the rest of the body. -/
def snapshotDatagram (body : List U8) (ack tick : U32) (udpMsgType : U8) : List U8 :=
  udpHeaderBytes udpMsgType tick ++ (split32 ack ++ body.drop 4)

/-- `acks[player_id]`; ids of the registry are below `kMaxPlayers`. -/
def ackOf (acks : Fin kMaxPlayers → U32) (playerId : U8) : U32 :=
  if h : playerId.toNat < kMaxPlayers then acks ⟨playerId.toNat, h⟩ else 0

/-- The recipients, each with the datagram it is sent. -/
def sendUdpSnapshots (r : ClientRegistry) (body : List U8) (acks : Fin kMaxPlayers → U32) (tick : U32)
    (udpMsgType : U8) : List (ClientEntry × List U8) :=
  if body.length < 4 ∨ kUdpHeaderBytes + body.length > kDatagramBytes then []
  else r.live.filterMap fun entry =>
    if entry.hasUdpAddr then
      (r.findById entry.playerId).map fun e => (e, snapshotDatagram body (ackOf acks e.playerId) tick udpMsgType)
    else none

/-- The two snapshot cases of `handle_wake`. -/
def sendSnapshotEvent (r : ClientRegistry) (ev : OutboundEvent) : List (ClientEntry × List U8) :=
  match ev.type with
  | .udpSnapshot => r.sendUdpSnapshots ev.payload ev.acks ev.tick MessageType.worldSnapshot.code
  | .udpDeltaSnapshot => r.sendUdpSnapshots ev.payload ev.acks ev.tick MessageType.deltaSnapshot.code
  | _ => []

theorem mem_sendSnapshotEvent {r : ClientRegistry} {ev : OutboundEvent} {e : ClientEntry} {d : List U8}
    (h : (e, d) ∈ r.sendSnapshotEvent ev) :
    (ev.type = .udpSnapshot ∧ d = snapshotDatagram ev.payload (ackOf ev.acks e.playerId) ev.tick
        MessageType.worldSnapshot.code) ∨
      (ev.type = .udpDeltaSnapshot ∧ d = snapshotDatagram ev.payload (ackOf ev.acks e.playerId) ev.tick
        MessageType.deltaSnapshot.code) := by
  have hSent : ∀ type : U8, (e, d) ∈ r.sendUdpSnapshots ev.payload ev.acks ev.tick type →
      d = snapshotDatagram ev.payload (ackOf ev.acks e.playerId) ev.tick type := by
    intro type hMem
    rw [sendUdpSnapshots] at hMem
    split at hMem
    · cases hMem
    · obtain ⟨entry, -, hSome⟩ := List.mem_filterMap.mp hMem
      split at hSome
      · obtain ⟨found, -, hPair⟩ := Option.map_eq_some_iff.mp hSome
        cases hPair
        rfl
      · cases hSome
  rw [sendSnapshotEvent] at h
  split at h
  · exact Or.inl ⟨‹_›, hSent _ h⟩
  · exact Or.inr ⟨‹_›, hSent _ h⟩
  · cases h

end ClientRegistry
end CaptureTheFlag
