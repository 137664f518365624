import CaptureTheFlag.Shared.DeltaSnapshot

/-! # Commands and events between the two threads

A command carries the fields its kind uses. An event carries the bytes the network thread sends; a
snapshot event has the table of acks from which each recipient's copy is patched.
-/
namespace CaptureTheFlag
set_option autoImplicit false
open Protocol

inductive InboundCommand where
  | playerJoined (playerId : U8) (team : Team) (spawnIndex : U8)
  | playerLeft (playerId : U8)
  | playerInput (playerId : U8) (seq : U32) (input : InputCmd)
deriving DecidableEq, Repr

def InboundCommand.playerId : InboundCommand → U8
  | .playerJoined id _ _ => id
  | .playerLeft id => id
  | .playerInput id _ _ => id

def InboundCommand.IsJoin : InboundCommand → Bool
  | .playerJoined _ _ _ => true
  | _ => false

inductive OutboundEventType where
  | tcpBroadcast
  | udpSnapshot
  | udpDeltaSnapshot
  | udpEvent
deriving DecidableEq, Repr

/-- What the payload of an event is encoded from. -/
inductive EventBody where
  | flagPickedUp (msg : MsgFlagPickedUp)
  | flagDropped (msg : MsgFlagDropped)
  | flagReturned (msg : MsgFlagReturned)
  | flagCaptured (msg : MsgFlagCaptured)
  | playerKilled (msg : MsgPlayerKilled)
  | playerRespawned (msg : MsgPlayerRespawned)
  | matchEnd (msg : MsgMatchEnd)
  | shotFired (msg : MsgShotFired)
  | keyframe (snap : WorldSnapshot)
  | delta (snap prevPublished : WorldSnapshot)

/-- `write_msg` for the messages, and the two encoders that `publish` chooses between. -/
def EventBody.write (body : EventBody) (w : ByteWriter) : ByteWriter :=
  match body with
  | flagPickedUp msg => encodeFlagPickedUp w msg
  | flagDropped msg => encodeFlagDropped w msg
  | flagReturned msg => encodeFlagReturned w msg
  | flagCaptured msg => encodeFlagCaptured w msg
  | playerKilled msg => encodePlayerKilled w msg
  | playerRespawned msg => encodePlayerRespawned w msg
  | matchEnd msg => encodeMatchEnd w msg
  | shotFired msg => encodeShotFired w msg
  | keyframe snap => encodeWorldSnapshot w snap
  | delta snap prevPublished => encodeDeltaSnapshot w snap prevPublished

structure OutboundEvent where
  type : OutboundEventType
  payload : List U8
  acks : Fin kMaxPlayers → U32 := fun _ => 0
  tick : U32 := 0
  -- kept for the theorems: the source has the bytes only, and no function reads this
  body : EventBody

abbrev kEventPayloadCap : Nat := 96
abbrev kPayloadDataBytes : Nat := 512

/-- `ser_event`: the type byte, then the fields in a buffer of their own. -/
def serEvent (type : OutboundEventType) (message : MessageType) (body : EventBody) : OutboundEvent :=
  { type, payload := message.code :: (body.write { cap := kEventPayloadCap }).buf, body }

namespace OutboundEvent

def flagPickedUp (msg : MsgFlagPickedUp) : OutboundEvent := serEvent .tcpBroadcast .flagPickedUp (.flagPickedUp msg)

def flagDropped (msg : MsgFlagDropped) : OutboundEvent := serEvent .tcpBroadcast .flagDropped (.flagDropped msg)

def flagReturned (msg : MsgFlagReturned) : OutboundEvent := serEvent .tcpBroadcast .flagReturned (.flagReturned msg)

def flagCaptured (msg : MsgFlagCaptured) : OutboundEvent := serEvent .tcpBroadcast .flagCaptured (.flagCaptured msg)

def playerKilled (msg : MsgPlayerKilled) : OutboundEvent := serEvent .tcpBroadcast .playerKilled (.playerKilled msg)

def playerRespawned (msg : MsgPlayerRespawned) : OutboundEvent :=
  serEvent .tcpBroadcast .playerRespawned (.playerRespawned msg)

def matchEnd (msg : MsgMatchEnd) : OutboundEvent := serEvent .tcpBroadcast .matchEnd (.matchEnd msg)

def shotFired (msg : MsgShotFired) : OutboundEvent := serEvent .udpEvent .shotFired (.shotFired msg)

/-- Snapshots are told from game events by their type. -/
def isSnapshot (ev : OutboundEvent) : Bool := ev.type = .udpSnapshot ∨ ev.type = .udpDeltaSnapshot

def isMatchEnd (ev : OutboundEvent) : Bool :=
  ev.type = .tcpBroadcast ∧ ev.payload.head? = some MessageType.matchEnd.code

theorem isMatchEnd_of_snapshot {ev : OutboundEvent} (h : ev.isSnapshot = true) : ev.isMatchEnd = false := by
  rcases of_decide_eq_true h with hType | hType <;> simp [isMatchEnd, hType]

theorem flagTouched_payload (type : OutboundEventType) (message : MessageType) (body : EventBody) (msg : MsgFlagTouched)
    (hWrite : body.write = (encodeFlagTouched · msg)) :
    (serEvent type message body).payload = message.code :: flagTouchedBytes msg := by
  have h := (emits_encodeFlagTouched msg).fresh kEventPayloadCap (by simp [flagTouchedBytes, kEventPayloadCap])
  simp only [serEvent, hWrite, h]

theorem flagDropped_payload (msg : MsgFlagDropped) :
    (flagDropped msg).payload = MessageType.flagDropped.code :: flagDroppedBytes msg := by
  have h := (emits_encodeFlagDropped msg).fresh kEventPayloadCap (by simp [flagDroppedBytes, kEventPayloadCap])
  simp only [flagDropped, serEvent, EventBody.write, h]

end OutboundEvent
end CaptureTheFlag
