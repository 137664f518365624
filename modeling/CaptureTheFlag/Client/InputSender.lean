import CaptureTheFlag.Client.Prediction
import CaptureTheFlag.Server.NetServer
import CaptureTheFlag.Server.RegistryView

/-! # Sending inputs

Each client tick sends the newest inputs of the history in one datagram; the server numbers them back from the newest.
-/
namespace CaptureTheFlag
set_option autoImplicit false
open Protocol

abbrev kInputPacketBytes : Nat := kUdpHeaderBytes + 4 + 4 + 4 + 1 + kInputRedundancy * 3

/-- What JOIN_ACCEPT gave the client. -/
structure Credentials where
  playerId : U8 := 0
  sessionToken : U32 := 0

namespace NetClient

def inputMessage (me : Credentials) (baseSeq : U32) (inputs : List InputCmd) : MsgPlayerInput :=
  { playerId := me.playerId
    sessionToken := me.sessionToken
    baseSeq
    count := BitVec.ofNat 8 (min inputs.length kInputRedundancy)
    inputs := fun i => inputs.getD i.val {} }

/-- The datagram, unless it outgrows its buffer. -/
def sendInput (me : Credentials) (baseSeq : U32) (inputs : List InputCmd) : Option (List U8) :=
  let w := encodeUdpHeader { cap := kInputPacketBytes } { type := MessageType.playerInput.code, tick := baseSeq }
  let w := encodePlayerInput w (inputMessage me baseSeq inputs)
  if w.ok then some w.buf else none

end NetClient

/-- An idle packet while nothing is predicted, else the last entries of the history. -/
def sendCurrentInput (me : Credentials) (p : Prediction) : U32 × Option (List U8) :=
  let history := p.history.toList
  if history = [] then (0, NetClient.sendInput me 0 [{ buttons := 0, aimAngle := 0 }])
  else (p.seq, NetClient.sendInput me p.seq ((history.drop (history.length - kInputRedundancy)).map (·.input)))

namespace NetClient

theorem sendInput_bytes (me : Credentials) (baseSeq : U32) (inputs : List InputCmd) :
    sendInput me baseSeq inputs =
      some (udpHeaderBytes MessageType.playerInput.code baseSeq ++ playerInputBytes (inputMessage me baseSeq inputs)) := by
  have hLen := length_playerInputBytes (inputMessage me baseSeq inputs)
  have hEmits := ((emits_encodeUdpHeader MessageType.playerInput.code baseSeq).andThen
    (emits_encodePlayerInput (inputMessage me baseSeq inputs))).fresh kInputPacketBytes
    (by simp only [List.length_append, kInputPacketBytes, kUdpHeaderBytes, kInputRedundancy]
        have : (udpHeaderBytes MessageType.playerInput.code baseSeq).length = 8 := rfl
        omega)
  simp only [sendInput, hEmits, ByteWriter.ok, Bool.not_false, if_true]

end NetClient

def inputCommand (playerId : U8) (e : U32 × InputCmd) : InboundCommand := .playerInput playerId e.1 e.2

/-- `base_seq - count + 1 + i`, in the arithmetic of the server. -/
theorem seq_back {n c : Nat} (i : Nat) (hLe : c ≤ n) (hCount : c ≤ kInputRedundancy) :
    BitVec.ofNat 32 n - BitVec.ofNat 32 c + 1 + BitVec.ofNat 32 i = BitVec.ofNat 32 (n - c + i + 1) := by
  have hSmall : c < 2 ^ 32 := by
    simp only [kInputRedundancy] at hCount
    omega
  rw [BitVec.ofNat_sub_ofNat_of_le n c hSmall hLe, show n - c + i + 1 = n - c + 1 + i by omega, BitVec.ofNat_add,
    BitVec.ofNat_add]
  rfl

/-- The server gives the inputs of a packet the seqs under which the client recorded them. -/
theorem inputCommands_message (me : Credentials) (inputs : List InputCmd) (c : Nat) (hLe : c ≤ inputs.length)
    (hCount : c ≤ kInputRedundancy) :
    NetServer.inputCommands (wireInput
        (NetClient.inputMessage me (BitVec.ofNat 32 inputs.length) (inputs.drop (inputs.length - c)))) =
      ((Prediction.labelled inputs).drop (inputs.length - c)).map (inputCommand me.playerId) := by
  have hLen : (inputs.drop (inputs.length - c)).length = c := by
    rw [List.length_drop]
    omega
  have hWire : (BitVec.ofNat 8 c).toNat = c := by
    simp only [kInputRedundancy] at hCount
    rw [BitVec.toNat_ofNat]
    omega
  simp only [NetServer.inputCommands, wireInput, NetClient.inputMessage, hLen, Nat.min_eq_left hCount, hWire]
  apply List.ext_getElem
  · simp only [firstInputs, List.length_map, List.length_take, List.length_finRange, List.length_drop,
      Prediction.length_labelled]
    omega
  · intro i hLeft hRight
    have hi : i < c := by
      simp only [List.length_map, List.length_drop, Prediction.length_labelled] at hRight
      omega
    simp only [List.getElem_map, List.getElem_mem, if_true, seq_back _ hLe hCount, inputCommand]
    have hIndex : inputs.length - c + i < inputs.length := by omega
    simp [firstInputs, Prediction.labelled, hIndex]

/-- A tick's packet carries the newest inputs, three if the history has them. -/
theorem sendCurrentInput_remembers (me : Credentials) {p : Prediction} {inputs : List InputCmd} {kept : Nat}
    (h : Prediction.Remembers p inputs kept) (hKept : 0 < kept) :
    sendCurrentInput me p =
      (BitVec.ofNat 32 inputs.length, NetClient.sendInput me (BitVec.ofNat 32 inputs.length)
        (inputs.drop (inputs.length - min kept kInputRedundancy))) := by
  have hLen : p.history.toList.length = kept := by rw [RingBuffer.length_toList, h.size]
  have hNonempty : p.history.toList ≠ [] := by
    intro hNil
    rw [hNil] at hLen
    simp only [List.length_nil] at hLen
    omega
  have hInputs : p.history.toList.map (·.input) = inputs.drop (inputs.length - kept) := by
    have hSnd := congrArg (List.map Prod.snd) h.history
    rw [List.map_map, List.map_drop, Prediction.map_snd_labelled] at hSnd
    exact hSnd
  have hLe := h.kept_le
  rw [sendCurrentInput, if_neg hNonempty, h.seq, List.map_drop, hInputs, hLen, List.drop_drop]
  congr 3
  omega

namespace NetServer

def Trusts (net : NetServer) (src : SockAddr) (me : Credentials) : Prop :=
  (net.authUdpSender src me.playerId me.sessionToken).isSome = true

theorem onUdpPacket_input (net : NetServer) (now : U32) (src : SockAddr) (tick : U32) (msg : MsgPlayerInput)
    (hCount : msg.count.toNat ≤ kInputRedundancy) :
    net.onUdpPacket now src (udpHeaderBytes MessageType.playerInput.code tick ++ playerInputBytes msg) =
      net.onPlayerInput now src (wireInput msg) := by
  have hDrop : (udpHeaderBytes MessageType.playerInput.code tick ++ playerInputBytes msg).drop kUdpHeaderBytes =
      playerInputBytes msg := rfl
  have hRun := decodePlayerInput_run msg hCount []
  rw [List.append_nil] at hRun
  simp only [onUdpPacket, decodeUdpHeader_run, hDrop, MessageType.ofCode_code, hRun]

theorem onPlayerInput_trusted {net : NetServer} {src : SockAddr} {me : Credentials} (h : net.Trusts src me) (now : U32)
    {msg : MsgPlayerInput} (hId : msg.playerId = me.playerId) (hToken : msg.sessionToken = me.sessionToken) :
    (net.onPlayerInput now src msg).inbound = net.inbound ++ inputCommands msg ∧
      (net.onPlayerInput now src msg).Trusts src me := by
  obtain ⟨entry, hAuth⟩ := Option.isSome_iff_exists.mp h
  have hTaken : net.onPlayerInput now src msg =
      { net with
        registry := net.registry.setEntry me.playerId { entry with lastInputTick := now }
        inbound := net.inbound ++ inputCommands msg } := by
    simp only [onPlayerInput, hId, hToken, hAuth]
  rw [hTaken]
  refine ⟨rfl, ?_⟩
  rw [authUdpSender, Option.filter_eq_some_iff] at hAuth
  obtain ⟨hFound, hOk⟩ := hAuth
  have hLive := (ClientRegistry.client_eq_some.mp hFound).2
  have hStored : (net.registry.setEntry me.playerId { entry with lastInputTick := now }).findById me.playerId =
      some { entry with lastInputTick := now } := by
    rw [ClientRegistry.findById_eq, ClientRegistry.client_setEntry _ (ClientRegistry.client_lt hFound),
      Function.update_self, if_neg hLive]
  rw [Trusts, authUdpSender, hStored]
  simp only [Option.filter_some, hOk, if_true, Option.isSome_some]

end NetServer
end CaptureTheFlag
