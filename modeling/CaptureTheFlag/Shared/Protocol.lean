import CaptureTheFlag.Shared.ByteBuffer

/-! # Message types, headers and the plain messages

One encode/decode pair per message. A decoder returns `none` where the source returns false; the reader
it leaves behind is kept, so that what was consumed can be told.
-/
namespace CaptureTheFlag.Protocol
set_option autoImplicit false
open BigEndian ByteWriter

def kMagic : U16 := 0x4346
def kProtocolVersion : U8 := 2

inductive MessageType where
  | joinLobby | joinAccept | joinReject | lobbyState | startRequest | gameStart | udpHello
  | playerInput | worldSnapshot | shotFired | playerKilled | playerRespawned | flagPickedUp
  | flagDropped | flagReturned | flagCaptured | matchEnd | heartbeat | deltaSnapshot
deriving DecidableEq, Repr

namespace MessageType

def all : List MessageType :=
  [joinLobby, joinAccept, joinReject, lobbyState, startRequest, gameStart, udpHello, playerInput,
   worldSnapshot, shotFired, playerKilled, playerRespawned, flagPickedUp, flagDropped, flagReturned,
   flagCaptured, matchEnd, heartbeat, deltaSnapshot]

/-- The enumerators count from 1. -/
def code (t : MessageType) : U8 := BitVec.ofNat 8 (t.ctorIdx + 1)

/-- `static_cast<MessageType>(raw)` seen through a switch: no enumerator, no case. -/
def ofCode (raw : U8) : Option MessageType := all.find? (fun t => t.code == raw)

@[simp] theorem ofCode_code (t : MessageType) : ofCode t.code = some t := by
  cases t <;> decide

end MessageType

def wireCoord (c : Int) : U16 := BitVec.ofInt 16 (c >>> kWireFixedShift)
def unwireCoord (w : U16) : Int := w.toInt <<< kWireFixedShift

def writeVec2 (w : ByteWriter) (v : Vec2Fixed) : ByteWriter := (w.i16 (wireCoord v.x)).i16 (wireCoord v.y)

def readVec2 : Decoder Vec2Fixed := do
  let wx ← ByteReader.i16
  let wy ← ByteReader.i16
  return ⟨unwireCoord wx, unwireCoord wy⟩

def vec2Bytes (v : Vec2Fixed) : List U8 := split16 (wireCoord v.x) ++ split16 (wireCoord v.y)

/-- What the other end of the wire sees of a position. -/
def wireVec2 (v : Vec2Fixed) : Vec2Fixed := ⟨unwireCoord (wireCoord v.x), unwireCoord (wireCoord v.y)⟩

/-- A position rounded down to 1/16 px. -/
def floorVec2 (v : Vec2Fixed) : Vec2Fixed := ⟨v.x / 16 * 16, v.y / 16 * 16⟩

abbrev kNameBytes : Nat := 16
abbrev Name := Fin kNameBytes → U8

def writeName (w : ByteWriter) (name : Name) : ByteWriter :=
  (List.finRange kNameBytes).foldl (fun w i => w.u8 (name i)) w

def readNameFrom : List (Fin kNameBytes) → Name → Decoder Name
  | [], name => pure name
  | i :: is, name => do
    let c ← ByteReader.u8
    readNameFrom is (Function.update name i c)

def readName : Decoder Name := readNameFrom (List.finRange kNameBytes) (fun _ => 0)

def teamByte : Team → U8
  | .red => 0
  | .blue => 1

def decodeTeam (raw : U8) : Option Team :=
  if raw = 0 then some .red else if raw = 1 then some .blue else none

def flagStateByte : FlagState → U8
  | .atBase => 0
  | .carried => 1
  | .dropped => 2

def decodeFlagState (raw : U8) : Option FlagState :=
  if raw = 0 then some .atBase else if raw = 1 then some .carried else if raw = 2 then some .dropped else none

@[simp] theorem decodeTeam_teamByte (t : Team) : decodeTeam (teamByte t) = some t := by cases t <;> rfl

@[simp] theorem decodeFlagState_flagStateByte (s : FlagState) :
    decodeFlagState (flagStateByte s) = some s := by cases s <;> rfl

theorem emits_writeVec2 (v : Vec2Fixed) : Emits (fun w => writeVec2 w v) (vec2Bytes v) :=
  (emits_i16 _).andThen (emits_i16 _)

@[simp] theorem readVec2_run (v : Vec2Fixed) (tail : List U8) :
    readVec2 ⟨vec2Bytes v ++ tail, false⟩ = (wireVec2 v, ⟨tail, false⟩) := by
  simp [readVec2, vec2Bytes, wireVec2]

@[simp] theorem length_vec2Bytes (v : Vec2Fixed) : (vec2Bytes v).length = 4 := rfl

theorem unwireCoord_wireCoord (c : Int) (hLo : -524288 ≤ c) (hHi : c < 524288) :
    unwireCoord (wireCoord c) = c / 16 * 16 := by
  have hShift : c >>> kWireFixedShift = c / 16 := Int.shiftRight_eq_div_pow c 4
  have hInt : (BitVec.ofInt 16 (c / 16)).toInt = c / 16 := by
    rw [BitVec.toInt_ofInt, Int.bmod_eq_of_le] <;> omega
  rw [unwireCoord, wireCoord, hShift, hInt, Int.shiftLeft_eq]
  rfl

/-- Inside the wire's range the codec only drops the low four bits. -/
theorem wireVec2_eq_floor {v : Vec2Fixed} (h : v.OnWire) : wireVec2 v = floorVec2 v := by
  rw [wireVec2, floorVec2, unwireCoord_wireCoord v.x h.x_ge h.x_lt, unwireCoord_wireCoord v.y h.y_ge h.y_lt]

structure UdpHeader where
  magic : U16 := kMagic
  version : U8 := kProtocolVersion
  type : U8 := 0
  tick : U32 := 0
deriving DecidableEq, Repr

def encodeUdpHeader (w : ByteWriter) (hdr : UdpHeader) : ByteWriter :=
  (((w.u16 hdr.magic).u8 hdr.version).u8 hdr.type).u32 hdr.tick

def decodeUdpHeader : Decoder (Option UdpHeader) := do
  let magic ← ByteReader.u16
  let version ← ByteReader.u8
  let type ← ByteReader.u8
  let tick ← ByteReader.u32
  if !(← ByteReader.ok) then return none
  if magic ≠ kMagic ∨ version ≠ kProtocolVersion then return none
  return some { magic, version, type, tick }

def udpHeaderBytes (type : U8) (tick : U32) : List U8 :=
  split16 kMagic ++ ([kProtocolVersion, type] ++ split32 tick)

theorem emits_encodeUdpHeader (type : U8) (tick : U32) :
    Emits (fun w => encodeUdpHeader w { type, tick }) (udpHeaderBytes type tick) :=
  (((emits_u16 _).andThen (emits_u8 _)).andThen (emits_u8 _)).andThen (emits_u32 _)

@[simp] theorem decodeUdpHeader_run (type : U8) (tick : U32) (tail : List U8) :
    decodeUdpHeader ⟨udpHeaderBytes type tick ++ tail, false⟩ = (some { type, tick }, ⟨tail, false⟩) := by
  simp [decodeUdpHeader, udpHeaderBytes]

end CaptureTheFlag.Protocol
