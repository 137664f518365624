import CaptureTheFlag.Client.InputSender
import CaptureTheFlag.Server.InputSession

/-! # From the client's ticks to the server's watermark

A client sends one packet per tick, the network loses some, the server turns the others into commands. `inputs` keeps
what the client has recorded and `session` what the server has accepted.
-/
namespace CaptureTheFlag
set_option autoImplicit false
open Protocol Prediction

structure Uplink where
  client : Prediction := {}
  inputs : List InputCmd := []
  /-- Packets under way, oldest first, each with its `base_seq`. -/
  flying : List (U32 × List U8) := []
  /-- Packets lost since the last delivery. -/
  lost : Nat := 0
  /-- The `base_seq` of the last delivered packet. -/
  baseSeq : U32 := 0
  net : NetServer
  sim : Sim
  session : Session

namespace Uplink

variable (rayDir : RayDir) (id : Fin kMaxPlayers) (token : U32) (src : SockAddr)

def credentials : Credentials := { playerId := Sim.idByte id, sessionToken := token }

/-- One client tick: predict, then send. -/
def clientTick (l : Uplink) (cmd : InputCmd) : Uplink :=
  let client := l.client.onLocalTick cmd
  let sent := sendCurrentInput (credentials id token) client
  { l with client, inputs := l.inputs ++ [cmd], flying := l.flying ++ sent.2.toList.map fun data => (sent.1, data) }

def deliver (l : Uplink) (now : U32) (packet : U32 × List U8) (flying : List (U32 × List U8)) : Uplink :=
  { l with flying, lost := 0, baseSeq := packet.1, net := l.net.onUdpPacket now src packet.2 }

/-- One tick of the simulation, which has popped `cmds` when it finds the queue empty. -/
def simTick (l : Uplink) (cmds rest : List InboundCommand) : Uplink :=
  { l with
    net := { l.net with inbound := rest }
    sim := (Session.observeTick rayDir id (l.sim, l.session) cmds).1
    session := (Session.observeTick rayDir id (l.sim, l.session) cmds).2 }

/-- The states of all runs in which the simulation is `ok` all the time. Packets arrive in order and of three in a
row at least one does. The server's other clients do what they like with the rest of its state. -/
inductive Reach (ok : Sim → Prop) : Uplink → Prop where
  | start (tickHz snapshotHz : Int) (delta : Bool) (ticks : List (List InboundCommand)) (net : NetServer)
      (o : Sim × Session) (hRun : o = Session.observe rayDir id (Sim.configured tickHz snapshotHz delta, {}) ticks)
      (hFresh : o.2.accepted = []) (hOthers : ∀ cmd ∈ net.inbound, cmd.playerId ≠ Sim.idByte id)
      (hTrusts : net.Trusts src (credentials id token)) (hOk : ok o.1) :
      Reach ok { net, sim := o.1, session := o.2 }
  | clientTick {l : Uplink} (h : Reach ok l) (cmd : InputCmd) : Reach ok (l.clientTick id token cmd)
  | snapshot {l : Uplink} (h : Reach ok l) (snap : WorldSnapshot)
      (hAck : snap.lastInputSeq = 0 ∨ ∃ e ∈ l.session.consumed, e.1 = snap.lastInputSeq) :
      Reach ok { l with client := l.client.onSnapshot snap (Sim.idByte id) }
  | lose {l : Uplink} (h : Reach ok l) (packet : U32 × List U8) (flying : List (U32 × List U8))
      (hHead : l.flying = packet :: flying) (hLost : l.lost < 2) :
      Reach ok { l with flying, lost := l.lost + 1 }
  | deliver {l : Uplink} (h : Reach ok l) (packet : U32 × List U8) (flying : List (U32 × List U8))
      (hHead : l.flying = packet :: flying) (now : U32) :
      Reach ok (l.deliver src now packet flying)
  | simTick {l : Uplink} (h : Reach ok l) (cmds rest : List InboundCommand) (hQueue : l.net.inbound = cmds ++ rest)
      (hOk : ok (l.simTick rayDir id cmds rest).sim) : Reach ok (l.simTick rayDir id cmds rest)
  | others {l : Uplink} (h : Reach ok l) (net : NetServer) (cmds : List InboundCommand)
      (hQueue : net.inbound = l.net.inbound ++ cmds) (hOthers : ∀ cmd ∈ cmds, cmd.playerId ≠ Sim.idByte id)
      (hTrusts : net.Trusts src (credentials id token)) :
      Reach ok { l with net }

def Alive (s : Sim) : Prop := (s.players id).active = true ∧ (s.players id).alive = true

def Playing (s : Sim) : Prop := Alive id s ∧ s.matchOver = false

/-- What a command does to the newest seq of a living player and to the inputs accepted from it. -/
def takeIn (w : U32 × List SeqInput) : InboundCommand → U32 × List SeqInput
  | .playerInput i seq input =>
    if i = Sim.idByte id ∧ w.1.toNat < seq.toNat then (seq, w.2 ++ [(seq, input)]) else w
  | _ => w

def watermark (o : Sim × Session) : U32 × List SeqInput := ((o.1.players id).newestSeq, o.2.accepted)

variable {id}

theorem acceptInput_newestSeq {p : Player} {seq : U32} (input : InputCmd) (h : p.Accepts seq) :
    (p.acceptInput seq input).newestSeq = seq := by
  rw [Player.acceptInput_accepted input h]
  simp only
  split <;> rfl

theorem takeIn_other {w : U32 × List SeqInput} {cmd : InboundCommand} (h : cmd.playerId ≠ Sim.idByte id) :
    takeIn id w cmd = w := by
  cases cmd with
  | playerJoined => rfl
  | playerLeft => rfl
  | playerInput i seq input => exact if_neg fun hBoth => h hBoth.1

/-- While the match goes on a command that does not remove the player moves the watermark as `takeIn` says. -/
theorem applyCommand_admits {s : Sim} (g : Session) {cmd : InboundCommand} (hPlaying : Playing id s)
    (hStays : cmd ≠ .playerLeft (Sim.idByte id)) :
    Playing id (s.applyCommand cmd) ∧
      watermark id (s.applyCommand cmd, g.onCommand id s cmd) = takeIn id (watermark id (s, g)) cmd := by
  obtain ⟨⟨hActive, hAlive⟩, hGoing⟩ := hPlaying
  have hMatch := (Sim.applyCommand_matchOver s cmd).trans hGoing
  by_cases hOther : cmd.playerId = Sim.idByte id
  · cases cmd with
    | playerJoined i team spawnIndex =>
      obtain rfl : i = Sim.idByte id := hOther
      have hSame : s.applyCommand (.playerJoined (Sim.idByte id) team spawnIndex) = s := by
        simp [Sim.applyCommand, Sim.applyJoin_idByte, hActive]
      rw [hSame]
      exact ⟨⟨⟨hActive, hAlive⟩, hGoing⟩, by simp [watermark, takeIn, Session.onCommand, hActive]⟩
    | playerLeft i => exact absurd (congrArg _ hOther) hStays
    | playerInput i seq input =>
      obtain rfl : i = Sim.idByte id := hOther
      have hInput := Sim.applyCommand_input s id seq input hGoing hActive
      have hSlot : (s.applyCommand (.playerInput (Sim.idByte id) seq input)).players id =
          (s.players id).acceptInput seq input := by
        rw [hInput]
        exact Function.update_self ..
      obtain ⟨hA, hL, -⟩ := Session.acceptInput_active (s.players id) seq input
      refine ⟨⟨⟨?_, ?_⟩, hMatch⟩, ?_⟩
      · rw [hSlot, hA]
        exact hActive
      · rw [hSlot, hL]
        exact hAlive
      · by_cases hNew : (s.players id).newestSeq.toNat < seq.toNat
        · have hAccepts : (s.players id).Accepts seq := ⟨hAlive, hNew⟩
          simp only [watermark, hSlot, acceptInput_newestSeq input hAccepts, takeIn, Session.onCommand, hGoing, hActive,
            hAccepts, hNew, and_self, if_true]
        · have hOld : ¬ (s.players id).Accepts seq := fun hAccepts => hNew hAccepts.2
          simp only [watermark, hSlot, Player.acceptInput_rejected input hOld, takeIn, Session.onCommand, hOld, hNew,
            and_false, if_false]
  · have hSlot := Sim.applyCommand_other s hOther
    refine ⟨⟨⟨?_, ?_⟩, hMatch⟩, ?_⟩
    · rw [hSlot]
      exact hActive
    · rw [hSlot]
      exact hAlive
    · rw [watermark, hSlot, Session.onCommand_other hOther, takeIn_other hOther]
      rfl

theorem drain_admits (cmds : List InboundCommand) (o : Sim × Session) (hPlaying : Playing id o.1)
    (hStays : ∀ cmd ∈ cmds, cmd ≠ .playerLeft (Sim.idByte id)) :
    Playing id (Session.drain id o cmds).1 ∧
      watermark id (Session.drain id o cmds) = cmds.foldl (takeIn id) (watermark id o) := by
  induction cmds generalizing o with
  | nil => exact ⟨hPlaying, rfl⟩
  | cons cmd cmds ih =>
    obtain ⟨hNext, hMark⟩ := applyCommand_admits o.2 hPlaying (hStays cmd List.mem_cons_self)
    have hLater := ih (o.1.applyCommand cmd, o.2.onCommand id o.1 cmd) hNext
      (fun c hc => hStays c (List.mem_cons_of_mem _ hc))
    rw [hMark] at hLater
    exact hLater

theorem takeIn_mono (cmds : List InboundCommand) (w : U32 × List SeqInput) :
    w.1.toNat ≤ (cmds.foldl (takeIn id) w).1.toNat := by
  refine Chain.foldl_invariant (I := fun w' => w.1.toNat ≤ w'.1.toNat) ?_ cmds w le_rfl
  intro w' cmd h
  cases cmd with
  | playerJoined => exact h
  | playerLeft => exact h
  | playerInput i seq input =>
    simp only [takeIn]
    split
    · rename_i hNew
      exact h.trans (Nat.le_of_lt hNew.2)
    · exact h

theorem watermark_tick (rayDir : RayDir) (o : Sim × Session) (cmds : List InboundCommand) :
    watermark id (Session.observeTick rayDir id o cmds) = watermark id (Session.drain id o cmds) := by
  have hTick := (Session.tick_inputs rayDir o.1 cmds id).newestSeq
  have hPop : ((o.1.drainInbound cmds).popInputs.players id).newestSeq = ((o.1.drainInbound cmds).players id).newestSeq := by
    simp only [Sim.popInputs_eq, Player.popped]
    split
    · split <;> rfl
    · rfl
  have hAccepted : ∀ (s : Sim) (g : Session), (g.onPop id s).accepted = g.accepted := by
    intro s g
    simp only [Session.onPop]
    split <;> rfl
  simp only [watermark, Session.observeTick, hTick, hPop, hAccepted, Session.drain_fst]

/-- Until an input is accepted the newest seq is 0. -/
def Unheard (id : Fin kMaxPlayers) (o : Sim × Session) : Prop :=
  ((o.1.players id).active = false → (o.1.players id).newestSeq = 0) ∧
    (o.2.accepted = [] → (o.1.players id).newestSeq = 0)

theorem unheard_drain (cmds : List InboundCommand) (o : Sim × Session) (h : Unheard id o) :
    Unheard id (Session.drain id o cmds) := by
  refine Chain.foldl_invariant (I := Unheard id) ?_ cmds o h
  rintro ⟨s, g⟩ cmd ⟨hFree, hNone⟩
  rcases Session.onCommand_cases id s g cmd with ⟨hp, hg⟩ | ⟨team, spawnIndex, hInactive, hp, hg⟩ |
    ⟨seq, input, hActive, -, hp, hg⟩ | ⟨hp, hg⟩
  · simp only [Unheard, hp, hg]
    exact ⟨hFree, hNone⟩
  · simp only [Unheard, hp, hg]
    exact ⟨fun hActive => (by cases hActive), fun _ => hFree hInactive⟩
  · simp only [Unheard, hp, hg, (Session.acceptInput_active (s.players id) seq input).1, hActive]
    exact ⟨fun hInactive => (by cases hInactive), fun hNil => absurd hNil (by simp)⟩
  · rw [Unheard, hp]
    exact ⟨fun _ => rfl, fun _ => rfl⟩

theorem unheard_tick (rayDir : RayDir) (o : Sim × Session) (cmds : List InboundCommand) (h : Unheard id o) :
    Unheard id (Session.observeTick rayDir id o cmds) := by
  obtain ⟨hFree, hNone⟩ := unheard_drain cmds o h
  have hActive := Session.tick_active rayDir o.1 cmds id
  obtain ⟨hNewest, hAccepted⟩ := Prod.mk.inj (@watermark_tick id rayDir o cmds)
  refine ⟨fun hInactive => hNewest.trans (hFree ?_), fun hNil => hNewest.trans (hNone (hAccepted ▸ hNil))⟩
  rw [Session.drain_fst, ← hActive]
  exact hInactive

theorem unheard_run (rayDir : RayDir) (tickHz snapshotHz : Int) (delta : Bool) (ticks : List (List InboundCommand)) :
    Unheard id (Session.observe rayDir id (Sim.configured tickHz snapshotHz delta, {}) ticks) := by
  have hStart : Unheard id (Sim.configured tickHz snapshotHz delta, {}) := ⟨fun _ => rfl, fun _ => rfl⟩
  refine Chain.foldl_invariant (I := Unheard id) ?_ ticks _ hStart
  intro o cmds h
  exact unheard_tick rayDir o cmds h

theorem labelled_take (inputs : List InputCmd) (n : Nat) : labelled (inputs.take n) = (labelled inputs).take n := by
  apply List.ext_getElem
  · simp
  · intro i hLeft hRight
    simp [labelled]

/-- Inputs up to the watermark are skipped, those behind it are taken one by one. -/
theorem takeIn_labelled (inputs : List InputCmd) (hShort : inputs.length < 2 ^ 32) (m : Nat) (hLe : m ≤ inputs.length)
    (first : Nat) (hFrom : first ≤ m) :
    (((labelled inputs).drop first).map (inputCommand (Sim.idByte id))).foldl (takeIn id)
        (BitVec.ofNat 32 m, (labelled inputs).take m) = (BitVec.ofNat 32 inputs.length, labelled inputs) := by
  induction hRest : inputs.length - first generalizing first m with
  | zero =>
    obtain rfl : m = inputs.length := by omega
    rw [List.drop_eq_nil_of_le (by rw [length_labelled]; omega), List.take_of_length_le (by rw [length_labelled])]
    rfl
  | succ k ih =>
    have hLt : first < (labelled inputs).length := by
      rw [length_labelled]
      omega
    rw [List.drop_eq_getElem_cons hLt, List.map_cons, List.foldl_cons]
    have hSeq : (labelled inputs)[first].1.toNat = first + 1 := by
      rw [getElem_labelled inputs first hLt, BitVec.toNat_ofNat]
      omega
    have hMark : (BitVec.ofNat 32 m).toNat = m := by
      rw [BitVec.toNat_ofNat]
      omega
    by_cases hOld : first < m
    · have hSkip : takeIn id (BitVec.ofNat 32 m, (labelled inputs).take m)
          (inputCommand (Sim.idByte id) (labelled inputs)[first]) = (BitVec.ofNat 32 m, (labelled inputs).take m) := by
        simp only [takeIn, inputCommand, hSeq, hMark]
        exact if_neg (by omega)
      rw [hSkip]
      exact ih m hLe (first + 1) (by omega) (by omega)
    · obtain rfl : first = m := by omega
      have hTake : takeIn id (BitVec.ofNat 32 first, (labelled inputs).take first)
          (inputCommand (Sim.idByte id) (labelled inputs)[first]) =
            (BitVec.ofNat 32 (first + 1), (labelled inputs).take (first + 1)) := by
        simp only [takeIn, inputCommand, hSeq, hMark]
        rw [if_pos ⟨trivial, by omega⟩, List.take_succ_eq_append_getElem hLt, getElem_labelled inputs first hLt]
        rw [← getElem_labelled inputs first hLt]
      rw [hTake]
      exact ih (first + 1) (by omega) (first + 1) le_rfl (by omega)

end Uplink
end CaptureTheFlag
