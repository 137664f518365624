import CaptureTheFlag.Server.NetSteps

/-! # Who a datagram speaks for

A datagram acts for a client if it carries the client's id and token and comes from its address, once that is known.
-/
namespace CaptureTheFlag
set_option autoImplicit false
open Protocol

namespace NetServer

/-- The id and the token that a datagram presents, if it is a UDP_HELLO or a PLAYER_INPUT at all. -/
def presented (data : List U8) : Option (U8 × U32) :=
  (decodeUdpHeader ⟨data, false⟩).1.bind fun hdr =>
    match MessageType.ofCode hdr.type with
    | some .udpHello =>
      (decodeUdpHello ⟨data.drop kUdpHeaderBytes, false⟩).1.map fun msg => (msg.playerId, msg.sessionToken)
    | some .playerInput =>
      (decodePlayerInput ⟨data.drop kUdpHeaderBytes, false⟩).1.map fun msg => (msg.playerId, msg.sessionToken)
    | _ => none

/-- The datagram speaks for the client `e` with that id. -/
def SpeaksFor (net : NetServer) (src : SockAddr) (data : List U8) (id : U8) (e : ClientEntry) : Prop :=
  presented data = some (id, e.sessionToken) ∧ net.registry.client id.toNat = some e ∧
    (e.hasUdpAddr = true → e.udpAddr = src)

/-- What a datagram may do for the client `e`. -/
structure ActsFor (net net' : NetServer) (id : U8) (e : ClientEntry) : Prop where
  rest : net' = { net with registry := net'.registry, inbound := net'.inbound }
  others : ∀ i, i ≠ id.toNat → net'.registry.storage[i]? = net.registry.storage[i]?
  size : net'.registry.storage.length = net.registry.storage.length
  own : ∃ udpAddr hasUdpAddr lastInputTick,
    net'.registry.storage[id.toNat]? = some { e with udpAddr, hasUdpAddr, lastInputTick }
  inputs : ∃ cmds, net'.inbound = net.inbound ++ cmds ∧ cmds.length ≤ kInputRedundancy ∧
    ∀ cmd ∈ cmds, ∃ seq input, cmd = .playerInput id seq input

theorem authUdpSender_iff {net : NetServer} {src : SockAddr} {id : U8} {token : U32} {e : ClientEntry} :
    net.authUdpSender src id token = some e ↔
      net.registry.client id.toNat = some e ∧ e.sessionToken = token ∧ (e.hasUdpAddr = true → e.udpAddr = src) := by
  rw [authUdpSender, Option.filter_eq_some_iff, ClientRegistry.findById_eq]
  refine and_congr_right fun _ => ?_
  obtain ⟨addr, port⟩ := src
  cases hBound : e.hasUdpAddr with
  | false => simp
  | true =>
    simp only [Bool.and_eq_true, beq_iff_eq, Bool.not_true, Bool.false_or, true_implies]
    refine and_congr_right fun _ => ?_
    constructor
    · rintro ⟨hPort, hAddr⟩
      rw [← hPort, ← hAddr]
    · intro hSame
      rw [hSame]
      exact ⟨rfl, rfl⟩

theorem inputCommands_length (msg : MsgPlayerInput) : (inputCommands msg).length ≤ kInputRedundancy := by
  rw [inputCommands, List.length_map, firstInputs, List.length_take, List.length_finRange]
  exact Nat.min_le_right _ _

theorem actsFor_setEntry {net : NetServer} {id : U8} {e : ClientEntry} (hAt : net.registry.client id.toNat = some e)
    (udpAddr : SockAddr) (hasUdpAddr : Bool) (lastInputTick : U32) {cmds : List InboundCommand}
    (hCount : cmds.length ≤ kInputRedundancy) (hOwn : ∀ cmd ∈ cmds, ∃ seq input, cmd = .playerInput id seq input) :
    ActsFor net
      { net with
        registry := net.registry.setEntry id { e with udpAddr, hasUdpAddr, lastInputTick }
        inbound := net.inbound ++ cmds } id e := by
  refine ⟨rfl, fun i hi => ?_, ClientRegistry.length_setEntry _ _ _, ⟨udpAddr, hasUdpAddr, lastInputTick, ?_⟩,
    cmds, rfl, hCount, hOwn⟩
  · exact List.getElem?_set_ne (Ne.symm hi)
  · exact List.getElem?_set_self (ClientRegistry.client_lt hAt)

theorem onUdpHello_effect {net : NetServer} {now : U32} {src : SockAddr} {msg : MsgUdpHello} {e : ClientEntry}
    (hAuth : net.authUdpSender src msg.playerId msg.sessionToken = some e) :
    ActsFor net (net.onUdpHello now src msg) msg.playerId e := by
  have hNone : ([] : List InboundCommand).length ≤ kInputRedundancy := Nat.zero_le _
  have hActs := actsFor_setEntry (authUdpSender_iff.mp hAuth).1 src true now hNone (fun _ hMem => by cases hMem)
  rw [List.append_nil] at hActs
  simp only [onUdpHello, hAuth]
  exact hActs

theorem onPlayerInput_effect {net : NetServer} {now : U32} {src : SockAddr} {msg : MsgPlayerInput} {e : ClientEntry}
    (hAuth : net.authUdpSender src msg.playerId msg.sessionToken = some e) :
    ActsFor net (net.onPlayerInput now src msg) msg.playerId e := by
  simp only [onPlayerInput, hAuth]
  refine actsFor_setEntry (authUdpSender_iff.mp hAuth).1 e.udpAddr e.hasUdpAddr now (inputCommands_length msg) ?_
  intro cmd hMem
  obtain ⟨i, -, rfl⟩ := List.mem_map.mp hMem
  exact ⟨_, _, rfl⟩

/-- What a datagram that presents an id and a token does, given what its handler does for an admitted sender. -/
theorem effect_of_presented {net net' : NetServer} {src : SockAddr} {data : List U8} {id : U8} {token : U32}
    (hPresented : presented data = some (id, token))
    (hRefused : net.authUdpSender src id token = none → net' = net)
    (hActs : ∀ e, net.authUdpSender src id token = some e → ActsFor net net' id e) :
    ((∀ id e, ¬ net.SpeaksFor src data id e) → net' = net) ∧
      ∀ id e, net.SpeaksFor src data id e → ActsFor net net' id e := by
  constructor
  · intro hNone
    cases hSender : net.authUdpSender src id token with
    | none => exact hRefused hSender
    | some e =>
      obtain ⟨hAt, rfl, hAddr⟩ := authUdpSender_iff.mp hSender
      exact absurd ⟨hPresented, hAt, hAddr⟩ (hNone id e)
  · rintro id' e ⟨hSame, hAt, hAddr⟩
    cases hPresented.symm.trans hSame
    exact hActs e (authUdpSender_iff.mpr ⟨hAt, rfl, hAddr⟩)

theorem effect_of_not_presented {net net' : NetServer} {src : SockAddr} {data : List U8}
    (hNothing : presented data = none) (hSame : net' = net) :
    ((∀ id e, ¬ net.SpeaksFor src data id e) → net' = net) ∧
      ∀ id e, net.SpeaksFor src data id e → ActsFor net net' id e := by
  refine ⟨fun _ => hSame, ?_⟩
  rintro id e ⟨hSome, -⟩
  cases hNothing.symm.trans hSome

/-- A datagram does nothing unless it speaks for a client, and then acts for that client alone. -/
theorem datagram_effect (net : NetServer) (now : U32) (src : SockAddr) (data : List U8) :
    ((∀ id e, ¬ net.SpeaksFor src data id e) → net.onUdpPacket now src data = net) ∧
    (∀ id e, net.SpeaksFor src data id e → ActsFor net (net.onUdpPacket now src data) id e) := by
  cases hHeader : (decodeUdpHeader ⟨data, false⟩).1 with
  | none =>
    refine effect_of_not_presented ?_ ?_
    · simp only [presented, hHeader, Option.bind_none]
    · simp only [onUdpPacket, hHeader]
  | some hdr =>
    have hData : presented data = match MessageType.ofCode hdr.type with
        | some .udpHello =>
          (decodeUdpHello ⟨data.drop kUdpHeaderBytes, false⟩).1.map fun msg => (msg.playerId, msg.sessionToken)
        | some .playerInput =>
          (decodePlayerInput ⟨data.drop kUdpHeaderBytes, false⟩).1.map fun msg => (msg.playerId, msg.sessionToken)
        | _ => none := by
      simp only [presented, hHeader, Option.bind_some]
    simp only [onUdpPacket, hHeader]
    by_cases hHello : MessageType.ofCode hdr.type = some .udpHello
    · simp only [hHello] at hData ⊢
      cases hMsg : (decodeUdpHello ⟨data.drop kUdpHeaderBytes, false⟩).1 with
      | none => exact effect_of_not_presented (by rw [hData, hMsg, Option.map_none]) rfl
      | some msg =>
        refine effect_of_presented (by rw [hData, hMsg, Option.map_some]) ?_ fun e => onUdpHello_effect
        intro hSender
        simp only [onUdpHello, hSender]
    by_cases hInput : MessageType.ofCode hdr.type = some .playerInput
    · simp only [hInput] at hData ⊢
      cases hMsg : (decodePlayerInput ⟨data.drop kUdpHeaderBytes, false⟩).1 with
      | none => exact effect_of_not_presented (by rw [hData, hMsg, Option.map_none]) rfl
      | some msg =>
        refine effect_of_presented (by rw [hData, hMsg, Option.map_some]) ?_ fun e => onPlayerInput_effect
        intro hSender
        simp only [onPlayerInput, hSender]
    apply effect_of_not_presented
    · rw [hData]
      split
      · contradiction
      · contradiction
      · rfl
    · split
      · contradiction
      · contradiction
      · rfl

end NetServer
end CaptureTheFlag
