import CaptureTheFlag.Client.Uplink
import CaptureTheFlag.Server.MatchEnd

/-! # Redundant inputs mask loss

Packet `k` carries the inputs that the server may still lack when it arrives: as many of the last three as are not
acked. Two lost packets in a row leave a gap of two, which the third one fills.
-/
namespace CaptureTheFlag
set_option autoImplicit false
open Protocol Prediction

namespace Uplink

variable {rayDir : RayDir} {id : Fin kMaxPlayers} {token : U32} {src : SockAddr}

/-- The packet of tick `k`: its inputs reach back to the last three or to what was delivered before. -/
def Carries (me : Credentials) (inputs : List InputCmd) (delivered k : Nat) (packet : U32 × List U8) : Prop :=
  k ≤ inputs.length ∧ ∃ c, c ≤ k ∧ c ≤ kInputRedundancy ∧ k - c ≤ max delivered (k - kInputRedundancy) ∧
    packet.1 = BitVec.ofNat 32 k ∧
    some packet.2 = NetClient.sendInput me (BitVec.ofNat 32 k) ((inputs.take k).drop (k - c))

theorem Carries.grow {me : Credentials} {inputs : List InputCmd} {delivered delivered' k : Nat} {packet : U32 × List U8}
    (h : Carries me inputs delivered k packet) (hMore : delivered ≤ delivered') (more : List InputCmd) :
    Carries me (inputs ++ more) delivered' k packet := by
  obtain ⟨hLe, c, hc, hCount, hBack, hSeq, hBytes⟩ := h
  refine ⟨by rw [List.length_append]; omega, c, hc, hCount, by omega, hSeq, ?_⟩
  rw [List.take_append_of_le_length hLe]
  exact hBytes

/-- What holds of the way between the client and the server. -/
structure Masked (id : Fin kMaxPlayers) (token : U32) (src : SockAddr) (l : Uplink) (acked kept : Nat) : Prop where
  remembers : Remembers l.client l.inputs kept
  kept_ge : min kInputRedundancy (l.inputs.length - acked) ≤ kept
  acked_le : acked ≤ l.baseSeq.toNat
  lost_le : l.lost ≤ 2
  counted : l.baseSeq.toNat + l.lost + l.flying.length = l.inputs.length
  flying : ∀ j packet, l.flying[j]? = some packet →
    Carries (credentials id token) l.inputs l.baseSeq.toNat (l.baseSeq.toNat + l.lost + 1 + j) packet
  trusts : l.net.Trusts src (credentials id token)
  playing : Playing id l.sim
  observed : Session.Observed id (l.sim, l.session)
  stays : ∀ cmd ∈ l.net.inbound, cmd ≠ .playerLeft (Sim.idByte id)
  admitted : l.net.inbound.foldl (takeIn id) (watermark id (l.sim, l.session)) =
    (l.baseSeq, labelled (l.inputs.take l.baseSeq.toNat))

theorem foldl_takeIn_others {cmds : List InboundCommand} (h : ∀ cmd ∈ cmds, cmd.playerId ≠ Sim.idByte id)
    (w : U32 × List SeqInput) : cmds.foldl (takeIn id) w = w := by
  induction cmds with
  | nil => rfl
  | cons cmd cmds ih =>
    rw [List.foldl_cons, takeIn_other (h cmd List.mem_cons_self)]
    exact ih fun c hc => h c (List.mem_cons_of_mem _ hc)

theorem stays_others {cmds : List InboundCommand} (h : ∀ cmd ∈ cmds, cmd.playerId ≠ Sim.idByte id) :
    ∀ cmd ∈ cmds, cmd ≠ .playerLeft (Sim.idByte id) := by
  intro cmd hMem hLeft
  exact h cmd hMem (by rw [hLeft]; rfl)

namespace Masked

variable {l : Uplink} {acked kept : Nat}

theorem ack_le (h : Masked id token src l acked kept) {ack : U32}
    (hAck : ack = 0 ∨ ∃ e ∈ l.session.consumed, e.1 = ack) : ack.toNat ≤ l.baseSeq.toNat := by
  rcases hAck with rfl | ⟨e, hMem, rfl⟩
  · exact Nat.zero_le _
  · obtain ⟨hInv, -⟩ := h.observed h.playing.1.1
    have hAccepted := hInv.sublist.subset (List.mem_append_left _ hMem)
    have hMark := @takeIn_mono id l.net.inbound (watermark id (l.sim, l.session))
    rw [h.admitted] at hMark
    exact (hInv.bounded e hAccepted).2.trans hMark

theorem sent_packet (h : Masked id token src l acked kept) (cmd : InputCmd) :
    ∃ packet, ((sendCurrentInput (credentials id token) (l.client.onLocalTick cmd)).2.toList.map
        fun data => ((sendCurrentInput (credentials id token) (l.client.onLocalTick cmd)).1, data)) = [packet] ∧
      Carries (credentials id token) (l.inputs ++ [cmd]) l.baseSeq.toNat (l.inputs.length + 1) packet := by
  have hRemembers := h.remembers.onLocalTick cmd
  have hKeptLe := h.remembers.kept_le
  have hKept := h.kept_ge
  have hAcked := h.acked_le
  have hSend := sendCurrentInput_remembers (credentials id token) hRemembers (by simp only [kInputHistoryRingSize]; omega)
  have hLen : (l.inputs ++ [cmd]).length = l.inputs.length + 1 := by simp
  rw [hSend, hLen, NetClient.sendInput_bytes]
  refine ⟨_, rfl, by omega, min (min (kept + 1) kInputHistoryRingSize) kInputRedundancy, ?_, Nat.min_le_right _ _, ?_,
    rfl, ?_⟩
  · simp only [kInputRedundancy, kInputHistoryRingSize]
    omega
  · simp only [kInputRedundancy, kInputHistoryRingSize] at hKept ⊢
    omega
  · rw [← hLen, List.take_length, hLen, NetClient.sendInput_bytes]

theorem clientTick (h : Masked id token src l acked kept) (cmd : InputCmd) :
    Masked id token src (l.clientTick id token cmd) acked (min (kept + 1) kInputHistoryRingSize) := by
  obtain ⟨packet, hSent, hCarries⟩ := h.sent_packet cmd
  have hKept := h.kept_ge
  have hCounted := h.counted
  rw [Uplink.clientTick, hSent]
  refine ⟨h.remembers.onLocalTick cmd, ?_, h.acked_le, h.lost_le, ?_, ?_, h.trusts, h.playing, h.observed, h.stays, ?_⟩
  · simp only [List.length_append, List.length_singleton, kInputRedundancy, kInputHistoryRingSize] at hKept ⊢
    omega
  · simp only [List.length_append, List.length_singleton]
    omega
  · intro j p hPacket
    rcases Nat.lt_or_ge j l.flying.length with hj | hj
    · rw [List.getElem?_append_left hj] at hPacket
      exact (h.flying j p hPacket).grow le_rfl [cmd]
    · rw [List.getElem?_append_right hj, List.getElem?_singleton] at hPacket
      split at hPacket
      · obtain rfl : packet = p := Option.some.inj hPacket
        rw [show l.baseSeq.toNat + l.lost + 1 + j = l.inputs.length + 1 by omega]
        exact hCarries
      · cases hPacket
  · have hBase : l.baseSeq.toNat ≤ l.inputs.length := by omega
    rw [List.take_append_of_le_length hBase]
    exact h.admitted

theorem snapshot (h : Masked id token src l acked kept) (hShort : l.inputs.length < 2 ^ 32) (snap : WorldSnapshot)
    (hAck : snap.lastInputSeq = 0 ∨ ∃ e ∈ l.session.consumed, e.1 = snap.lastInputSeq) :
    ∃ acked kept, Masked id token src { l with client := l.client.onSnapshot snap (Sim.idByte id) } acked kept := by
  have hKept := h.kept_ge
  have hAckLe := h.ack_le hAck
  have hAcked := h.acked_le
  rcases onSnapshot_cases l.client snap (Sim.idByte id) with ⟨-, hSame⟩ | ⟨-, -, hSame⟩ | ⟨-, ps, -, hSame⟩
  · exact ⟨acked, kept, by rw [hSame]; exact h⟩
  · refine ⟨acked, kept, ?_⟩
    rw [hSame]
    exact { h with remembers := ⟨h.remembers.seq, h.remembers.kept_le, h.remembers.history⟩ }
  · refine ⟨max acked snap.lastInputSeq.toNat, min kept (l.inputs.length - snap.lastInputSeq.toNat), ?_⟩
    have hTrimmed : Remembers { l.client with lastAppliedTick := snap.tick } l.inputs kept :=
      ⟨h.remembers.seq, h.remembers.kept_le, h.remembers.history⟩
    rw [hSame]
    exact { h with
      remembers := hTrimmed.reconcile hShort snap.lastInputSeq ps.motion.position
      kept_ge := by simp only; omega
      acked_le := by simp only; omega }

theorem lose (h : Masked id token src l acked kept) {packet : U32 × List U8} {flying : List (U32 × List U8)}
    (hHead : l.flying = packet :: flying) (hLost : l.lost < 2) :
    Masked id token src { l with flying, lost := l.lost + 1 } acked kept := by
  have hCounted := h.counted
  rw [hHead, List.length_cons] at hCounted
  exact { h with
    lost_le := by simp only; omega
    counted := by simp only; omega
    flying := by
      intro j p hPacket
      have hLater := h.flying (j + 1) p (by rw [hHead]; exact hPacket)
      rw [show l.baseSeq.toNat + (l.lost + 1) + 1 + j = l.baseSeq.toNat + l.lost + 1 + (j + 1) by omega]
      exact hLater }

/-- The packet behind at most two lost ones reaches back to the last delivery. -/
theorem deliver (h : Masked id token src l acked kept) (hShort : l.inputs.length < 2 ^ 32) {packet : U32 × List U8}
    {flying : List (U32 × List U8)} (hHead : l.flying = packet :: flying) (now : U32) :
    Masked id token src (l.deliver src now packet flying) acked kept := by
  have hCounted := h.counted
  have hLost := h.lost_le
  have hAcked := h.acked_le
  rw [hHead, List.length_cons] at hCounted
  obtain ⟨hLe, c, hc, hCount, hBack, hSeq, hBytes⟩ := h.flying 0 packet (by rw [hHead]; rfl)
  simp only [kInputRedundancy] at hBack
  generalize hk : l.baseSeq.toNat + l.lost + 1 + 0 = k at hLe hc hBack hSeq hBytes
  have hBase : packet.1.toNat = k := by
    rw [hSeq, BitVec.toNat_ofNat]
    omega
  have hLen : (l.inputs.take k).length = k := by
    rw [List.length_take]
    omega
  rw [NetClient.sendInput_bytes, Option.some.injEq] at hBytes
  have hMessage : (NetClient.inputMessage (credentials id token) (BitVec.ofNat 32 k)
      ((l.inputs.take k).drop (k - c))).count.toNat ≤ kInputRedundancy := by
    simp only [NetClient.inputMessage, BitVec.toNat_ofNat]
    omega
  have hTaken := @NetServer.onPlayerInput_trusted l.net src (credentials id token) h.trusts now (wireInput
    (NetClient.inputMessage (credentials id token) (BitVec.ofNat 32 k) ((l.inputs.take k).drop (k - c)))) rfl rfl
  have hCommands := inputCommands_message (credentials id token) (l.inputs.take k) c (by omega) hCount
  rw [hLen] at hCommands
  rw [← NetServer.onUdpPacket_input l.net now src (BitVec.ofNat 32 k) _ hMessage, ← hBytes, hCommands] at hTaken
  obtain ⟨hInbound, hTrusts⟩ := hTaken
  rw [Uplink.deliver]
  refine ⟨h.remembers, h.kept_ge, ?_, by simp only; omega, ?_, ?_, hTrusts, h.playing, h.observed, ?_, ?_⟩
  · simp only
    omega
  · simp only
    omega
  · intro j p hPacket
    have hLater := h.flying (j + 1) p (by rw [hHead]; exact hPacket)
    simp only
    rw [hBase, show k + 0 + 1 + j = l.baseSeq.toNat + l.lost + 1 + (j + 1) by omega]
    have hGrown := hLater.grow (show _ ≤ k by omega) []
    rw [List.append_nil] at hGrown
    exact hGrown
  · intro cmd hMem
    simp only [hInbound] at hMem
    rcases List.mem_append.mp hMem with hOld | hNew
    · exact h.stays cmd hOld
    · obtain ⟨e, -, rfl⟩ := List.mem_map.mp hNew
      exact fun hLeft => by cases hLeft
  · have hFeed := @takeIn_labelled id (l.inputs.take k) (by omega) l.baseSeq.toNat (by omega) (k - c) (by omega)
    simp only [hInbound, List.foldl_append, h.admitted, hBase]
    rw [← labelled_take, List.take_take, Nat.min_eq_left (by omega), BitVec.ofNat_toNat, BitVec.setWidth_eq, hLen] at hFeed
    exact hFeed.trans (by rw [hSeq])

theorem simTick (h : Masked id token src l acked kept) {cmds rest : List InboundCommand}
    (hQueue : l.net.inbound = cmds ++ rest)
    (hOk : Playing id (l.simTick rayDir id cmds rest).sim) :
    Masked id token src (l.simTick rayDir id cmds rest) acked kept := by
  have hAdmitted := h.admitted
  have hStays := h.stays
  rw [hQueue] at hStays hAdmitted
  have hDrain := (drain_admits cmds (l.sim, l.session) h.playing
    (fun cmd hMem => hStays cmd (List.mem_append_left _ hMem))).2
  rw [List.foldl_append, ← hDrain, ← watermark_tick rayDir] at hAdmitted
  exact { h with
    trusts := h.trusts
    playing := hOk
    observed := Session.observed_tick rayDir id (l.sim, l.session) cmds h.observed
    stays := fun cmd hMem => hStays cmd (List.mem_append_right _ hMem)
    admitted := hAdmitted }

theorem others (h : Masked id token src l acked kept) {net : NetServer} {cmds : List InboundCommand}
    (hQueue : net.inbound = l.net.inbound ++ cmds) (hOthers : ∀ cmd ∈ cmds, cmd.playerId ≠ Sim.idByte id)
    (hTrusts : net.Trusts src (credentials id token)) : Masked id token src { l with net } acked kept := by
  refine { h with trusts := hTrusts, stays := ?_, admitted := ?_ }
  · intro cmd hMem
    simp only [hQueue] at hMem
    rcases List.mem_append.mp hMem with hOld | hNew
    · exact h.stays cmd hOld
    · exact stays_others hOthers cmd hNew
  · simp only [hQueue, List.foldl_append, foldl_takeIn_others hOthers]
    exact h.admitted

end Masked

theorem masked_start {o : Sim × Session} {net : NetServer} (hUnheard : Unheard id o) (hObserved : Session.Observed id o)
    (hFresh : o.2.accepted = []) (hOthers : ∀ cmd ∈ net.inbound, cmd.playerId ≠ Sim.idByte id)
    (hTrusts : net.Trusts src (credentials id token)) (hOk : Playing id o.1) :
    Masked id token src { net, sim := o.1, session := o.2 } 0 0 where
  remembers := ⟨rfl, le_rfl, rfl⟩
  kept_ge := by simp
  acked_le := Nat.zero_le _
  lost_le := Nat.zero_le _
  counted := rfl
  flying := fun j packet hPacket => by simp at hPacket
  trusts := hTrusts
  playing := hOk
  observed := hObserved
  stays := stays_others hOthers
  admitted := by
    simp only [foldl_takeIn_others hOthers, watermark, hFresh, hUnheard.2 hFresh]
    rfl

theorem masked_of_reach {l : Uplink} (h : Reach rayDir id token src (Playing id) l) (hShort : l.inputs.length < 2 ^ 32) :
    ∃ acked kept, Masked id token src l acked kept := by
  induction h with
  | start tickHz snapshotHz delta ticks net o hRun hFresh hOthers hTrusts hOk =>
    refine ⟨0, 0, masked_start ?_ ?_ hFresh hOthers hTrusts hOk⟩
    · rw [hRun]
      exact unheard_run rayDir tickHz snapshotHz delta ticks
    · rw [hRun]
      exact Session.observed_run rayDir id tickHz snapshotHz delta ticks
  | clientTick _ cmd ih =>
    simp only [Uplink.clientTick, List.length_append, List.length_singleton] at hShort
    obtain ⟨acked, kept, hMasked⟩ := ih (by omega)
    exact ⟨acked, _, hMasked.clientTick cmd⟩
  | snapshot _ snap hAck ih =>
    obtain ⟨acked, kept, hMasked⟩ := ih hShort
    exact hMasked.snapshot hShort snap hAck
  | lose _ packet flying hHead hLost ih =>
    obtain ⟨acked, kept, hMasked⟩ := ih hShort
    exact ⟨acked, kept, hMasked.lose hHead hLost⟩
  | deliver _ packet flying hHead now ih =>
    obtain ⟨acked, kept, hMasked⟩ := ih hShort
    exact ⟨acked, kept, hMasked.deliver hShort hHead now⟩
  | simTick _ cmds rest hQueue hOk ih =>
    obtain ⟨acked, kept, hMasked⟩ := ih hShort
    exact ⟨acked, kept, hMasked.simTick hQueue hOk⟩
  | others _ net cmds hQueue hOthers hTrusts ih =>
    obtain ⟨acked, kept, hMasked⟩ := ih hShort
    exact ⟨acked, kept, hMasked.others hQueue hOthers hTrusts⟩

/-- Once its queue is drained the server has accepted the inputs up to the last delivered packet, as recorded. -/
theorem redundancy_masks_loss {l : Uplink} (h : Reach rayDir id token src (Playing id) l)
    (hShort : l.inputs.length < 2 ^ 32) :
    l.baseSeq.toNat ≤ l.inputs.length ∧
      (Session.drain id (l.sim, l.session) l.net.inbound).2.accepted = labelled (l.inputs.take l.baseSeq.toNat) := by
  obtain ⟨acked, kept, hMasked⟩ := masked_of_reach h hShort
  have hCounted := hMasked.counted
  have hDrain := (drain_admits l.net.inbound (l.sim, l.session) hMasked.playing hMasked.stays).2
  rw [hMasked.admitted] at hDrain
  exact ⟨by omega, (Prod.mk.inj hDrain).2⟩
/-- A server with the client in slot 0 and nothing queued. -/
def joinedNet : NetServer := { registry := { storage := [{ tcpFd := 5, sessionToken := 7 }] } }

def firstInput : InputCmd := { buttons := kInputRight, aimAngle := 9 }
def secondInput : InputCmd := { buttons := kInputUp, aimAngle := 300 }

def joinedAt (ticks : List (List InboundCommand)) : Uplink :=
  let o := Session.observe (fun _ => (1024, 0)) 0 (Sim.configured 30 30 true, {}) ticks
  { net := joinedNet, sim := o.1, session := o.2 }

theorem reach_joinedAt {ok : Sim → Prop} {ticks : List (List InboundCommand)}
    (hFresh : (joinedAt ticks).session.accepted = []) (hOk : ok (joinedAt ticks).sim) :
    Reach (fun _ => (1024, 0)) 0 7 {} ok (joinedAt ticks) :=
  .start 30 30 true ticks joinedNet _ rfl hFresh (by decide) rfl hOk

/-- The first packet is lost and the second one carries both inputs. -/
theorem redundancy_masks_loss_of_one :
    ∃ l, Reach (fun _ => (1024, 0)) 0 7 {} (Playing 0) l ∧ l.inputs = [firstInput, secondInput] ∧
      l.baseSeq = 2 ∧ (Session.drain 0 (l.sim, l.session) l.net.inbound).2.accepted = [(1, firstInput), (2, secondInput)] := by
  have hStart : Reach (fun _ => (1024, 0)) 0 7 {} (Playing 0) (joinedAt [[.playerJoined 0 .red 0]]) :=
    reach_joinedAt (by decide +kernel) ⟨⟨by decide +kernel, by decide +kernel⟩, by decide +kernel⟩
  obtain ⟨lost, kept, hFlying, hSeq⟩ : ∃ lost kept, (((joinedAt [[.playerJoined 0 .red 0]]).clientTick 0 7
      firstInput).clientTick 0 7 secondInput).flying = [lost, kept] ∧ kept.1 = 2 := ⟨_, _, rfl, rfl⟩
  have hReach := (((hStart.clientTick firstInput).clientTick secondInput).lose lost [kept] hFlying (by decide)).deliver
    kept [] rfl 0
  have hInputs : ([firstInput, secondInput] : List InputCmd).length < 2 ^ 32 := by decide
  refine ⟨_, hReach, rfl, hSeq, (redundancy_masks_loss hReach hInputs).2.trans ?_⟩
  change labelled ([firstInput, secondInput].take kept.1.toNat) = _
  rw [hSeq]
  decide

theorem drain_over (cmds : List InboundCommand) (o : Sim × Session) (hOver : o.1.matchOver = true) :
    Session.drain id o cmds = o := by
  induction cmds with
  | nil => rfl
  | cons cmd cmds ih =>
    have hSim : o.1.applyCommand cmd = o.1 := by simp [Sim.applyCommand, hOver]
    have hSession : o.2.onCommand id o.1 cmd = o.2 := by cases cmd <;> simp [Session.onCommand, hOver]
    rw [Session.drain, List.foldl_cons, hSim, hSession]
    exact ih

theorem accepted_nil (rayDir : RayDir) (ticks : List (List InboundCommand))
    (hSilent : ∀ cmds ∈ ticks, ∀ cmd ∈ cmds, ∀ i seq input, cmd ≠ .playerInput i seq input) (o : Sim × Session)
    (h : o.2.accepted = []) : (Session.observe rayDir id o ticks).2.accepted = [] := by
  induction ticks generalizing o with
  | nil => exact h
  | cons cmds ticks ih =>
    rw [Session.observe, List.foldl_cons]
    refine ih (fun c hc => hSilent c (List.mem_cons_of_mem _ hc)) _ ?_
    have hTick := (Prod.mk.inj (@watermark_tick id rayDir o cmds)).2
    rw [hTick]
    have hCmds := hSilent cmds List.mem_cons_self
    clear hTick hSilent ih
    induction cmds generalizing o with
    | nil => exact h
    | cons cmd cmds ih =>
      refine ih (o.1.applyCommand cmd, o.2.onCommand id o.1 cmd) ?_ (fun c hc => hCmds c (List.mem_cons_of_mem _ hc))
      cases cmd with
      | playerJoined i team spawnIndex =>
        simp only [Session.onCommand]
        split
        · rfl
        · exact h
      | playerLeft i => exact h
      | playerInput i seq input => exact absurd rfl (hCmds _ List.mem_cons_self i seq input)

theorem joinedAt_accepted {ticks : List (List InboundCommand)}
    (hSilent : ∀ cmds ∈ ticks, ∀ cmd ∈ cmds, ∀ i seq input, cmd ≠ .playerInput i seq input) :
    (joinedAt ticks).session.accepted = [] := accepted_nil _ ticks hSilent _ rfl

def lateTicks : List (List InboundCommand) := List.replicate 18000 [] ++ [[.playerJoined (Sim.idByte 0) .red 0]]

theorem joinedAt_late : Alive 0 (joinedAt lateTicks).sim ∧ (joinedAt lateTicks).sim.matchOver = true ∧
    (joinedAt lateTicks).session.accepted = [] := by
  have hIdle := Sim.idle_replicate (fun _ => (1024, 0)) 18000 le_rfl
  have hHarmless : Sim.Harmless (Sim.joined {} .red 0) :=
    ⟨by decide, by decide, by decide, fun h => (by have := h.2; revert this; decide +kernel)⟩
  obtain ⟨hSlot, hOver⟩ := hIdle.joins.tick hHarmless hIdle (fun _ => (1024, 0))
  have hSim : (joinedAt lateTicks).sim = ((Sim.configured 30 30 true).run (fun _ => (1024, 0))
      (List.replicate 18000 [])).tick (fun _ => (1024, 0)) [.playerJoined (Sim.idByte 0) .red 0] := by
    rw [joinedAt, Session.observe_fst, lateTicks, Sim.run_append, Sim.run_cons]
    rfl
  refine ⟨?_, ?_, ?_⟩
  · rw [Alive, hSim, hSlot]
    decide
  · rw [hSim]
    exact hOver
  · apply joinedAt_accepted
    intro cmds hMem cmd hCmd i seq input hInput
    rw [lateTicks, List.mem_append] at hMem
    rcases hMem with hMem | hMem
    · rw [(List.mem_replicate.mp hMem).2] at hCmd
      cases hCmd
    · rw [List.mem_singleton] at hMem
      rw [hMem, List.mem_singleton] at hCmd
      rw [hCmd] at hInput
      cases hInput

theorem first_packet (id : Fin kMaxPlayers) (token : U32) (cmd : InputCmd) (l : Uplink) (hClient : l.client = {})
    (hFlying : l.flying = []) :
    ∃ packet, (l.clientTick id token cmd).flying = [packet] ∧ packet.1 = 1 := by
  have hFresh : Remembers {} [] 0 := ⟨rfl, le_rfl, rfl⟩
  have hSend := sendCurrentInput_remembers (credentials id token) (hFresh.onLocalTick cmd) (by decide)
  rw [NetClient.sendInput_bytes] at hSend
  rw [Uplink.clientTick, hClient, hFlying, hSend]
  exact ⟨_, rfl, rfl⟩

theorem ignored_when_over {ticks : List (List InboundCommand)} (hAlive : Alive 0 (joinedAt ticks).sim)
    (hOver : (joinedAt ticks).sim.matchOver = true) (hNone : (joinedAt ticks).session.accepted = []) :
    ∃ l, Reach (fun _ => (1024, 0)) 0 7 {} (Alive 0) l ∧ l.inputs = [firstInput] ∧ l.baseSeq = 1 ∧
      (Session.drain 0 (l.sim, l.session) l.net.inbound).2.accepted = [] := by
  have hStart : Reach (fun _ => (1024, 0)) 0 7 {} (Alive 0) (joinedAt ticks) := reach_joinedAt hNone hAlive
  obtain ⟨packet, hFlying, hSeq⟩ := first_packet 0 7 firstInput (joinedAt ticks) rfl rfl
  have hReach := (hStart.clientTick firstInput).deliver packet [] hFlying 0
  refine ⟨_, hReach, rfl, hSeq, ?_⟩
  have hDrain := @drain_over 0 (((joinedAt ticks).clientTick 0 7 firstInput).deliver {} 0 packet []).net.inbound
    ((joinedAt ticks).sim, (joinedAt ticks).session) hOver
  exact (congrArg (fun o => o.2.accepted) hDrain).trans hNone

/-- The player has joined in the tick that ended the match; it is alive and its inputs are ignored. -/
theorem finished_match_accepts_nothing :
    ¬ ∀ l, Reach (fun _ => (1024, 0)) 0 7 {} (Alive 0) l → l.inputs.length < 2 ^ 32 →
      (Session.drain 0 (l.sim, l.session) l.net.inbound).2.accepted = labelled (l.inputs.take l.baseSeq.toNat) := by
  intro hAll
  obtain ⟨hAlive, hOver, hNone⟩ := joinedAt_late
  obtain ⟨l, hReach, hInputs, hSeq, hAccepted⟩ := ignored_when_over hAlive hOver hNone
  have hClaim := hAll l hReach (by rw [hInputs]; decide)
  rw [hAccepted, hInputs, hSeq] at hClaim
  revert hClaim
  decide

end Uplink
end CaptureTheFlag
