import CaptureTheFlag.Shared.Movement
import CaptureTheFlag.Shared.RingBuffer
import CaptureTheFlag.Shared.Snapshot

/-! # Prediction and reconciliation of the local player -/
namespace CaptureTheFlag
set_option autoImplicit false

structure InputHistoryEntry where
  seq : U32 := 0
  input : InputCmd := {}
  stateAfter : PlayerMotion := {}

structure Prediction where
  seq : U32 := 0
  lastAppliedTick : U32 := 0
  localState : PlayerMotion := {}
  history : RingBuffer InputHistoryEntry kInputHistoryRingSize := RingBuffer.empty {}
  mispredictions : U32 := 0

namespace Prediction

def onLocalTick (p : Prediction) (cmd : InputCmd) : Prediction :=
  let seq := p.seq + 1
  let localState := movementStep p.localState cmd Map.arena
  { p with seq, localState, history := p.history.pushBack { seq, input := cmd, stateAfter := localState } }

/-- One iteration of the replay loop. -/
def replayEntry (localState : PlayerMotion) (e : InputHistoryEntry) : PlayerMotion × InputHistoryEntry :=
  let localState := movementStep localState e.input Map.arena
  (localState, { e with stateAfter := localState })

/-- The history holds another position for the acked input than the server. -/
def mispredicted (p : Prediction) (ack : U32) (position : Vec2Fixed) : Bool :=
  match p.history.toList.find? (fun e => e.seq == ack) with
  | some e => e.stateAfter.position != position
  | none => false

/-- `on_snapshot` once the player's record is found: count, trim, snap, replay. -/
def reconcile (p : Prediction) (ack : U32) (position : Vec2Fixed) : Prediction :=
  let mispredictions := if p.mispredicted ack position then p.mispredictions + 1 else p.mispredictions
  let history := p.history.removeIf (fun e => e.seq.toNat ≤ ack.toNat)
  let (localState, history) := history.visit replayEntry { position, velocity := {} }
  { p with mispredictions, localState, history }

/-- The first record of `id` in the part of the array that is in use. -/
def findSelf (snap : WorldSnapshot) (id : U8) : Option PlayerState :=
  ((Protocol.firstSlots snap.playerCount.toNat).map snap.players).find? (fun ps => ps.id == id)

def onSnapshot (p : Prediction) (snap : WorldSnapshot) (myPlayerId : U8) : Prediction :=
  if snap.tick.toNat ≤ p.lastAppliedTick.toNat then p
  else
    let p := { p with lastAppliedTick := snap.tick }
    match findSelf snap myPlayerId with
    | none => p
    | some ps => p.reconcile snap.lastInputSeq ps.motion.position

theorem onSnapshot_cases (p : Prediction) (snap : WorldSnapshot) (id : U8) :
    (snap.tick.toNat ≤ p.lastAppliedTick.toNat ∧ p.onSnapshot snap id = p) ∨
    (p.lastAppliedTick.toNat < snap.tick.toNat ∧ findSelf snap id = none ∧
      p.onSnapshot snap id = { p with lastAppliedTick := snap.tick }) ∨
    (p.lastAppliedTick.toNat < snap.tick.toNat ∧ ∃ ps, findSelf snap id = some ps ∧
      p.onSnapshot snap id =
        { p with lastAppliedTick := snap.tick }.reconcile snap.lastInputSeq ps.motion.position) := by
  by_cases hStale : snap.tick.toNat ≤ p.lastAppliedTick.toNat
  · exact Or.inl ⟨hStale, if_pos hStale⟩
  · right
    have hFresh : p.lastAppliedTick.toNat < snap.tick.toNat := by omega
    simp only [onSnapshot, hStale, if_false]
    cases hSelf : findSelf snap id with
    | none => exact Or.inl ⟨hFresh, rfl, rfl⟩
    | some ps => exact Or.inr ⟨hFresh, ps, rfl, rfl⟩

theorem findSelf_some {snap : WorldSnapshot} {id : U8} {ps : PlayerState} (h : findSelf snap id = some ps) :
    ∃ i : Fin kMaxPlayers, i.val < snap.playerCount.toNat ∧ (snap.players i).id = id ∧ ps = snap.players i := by
  obtain ⟨i, hi, rfl⟩ := List.mem_map.mp (List.mem_of_find?_eq_some h)
  exact ⟨i, (Protocol.mem_firstSlots _ i).mp hi, by simpa using List.find?_some h, rfl⟩

def key (e : InputHistoryEntry) : U32 × InputCmd := (e.seq, e.input)

/-- The inputs with the seqs that `on_local_tick` gives them. -/
def labelled (inputs : List InputCmd) : List (U32 × InputCmd) :=
  inputs.mapIdx fun j cmd => (BitVec.ofNat 32 (j + 1), cmd)

@[simp] theorem length_labelled (inputs : List InputCmd) : (labelled inputs).length = inputs.length := by
  simp [labelled]

theorem labelled_snoc (inputs : List InputCmd) (cmd : InputCmd) :
    labelled (inputs ++ [cmd]) = labelled inputs ++ [(BitVec.ofNat 32 (inputs.length + 1), cmd)] := by
  simp [labelled]

theorem map_snd_labelled (inputs : List InputCmd) : (labelled inputs).map Prod.snd = inputs := by
  induction inputs using List.reverseRecOn with
  | nil => rfl
  | append_singleton inputs cmd ih => rw [labelled_snoc, List.map_append, ih]; rfl

/-- The history is the last `kept` of the inputs. -/
structure Remembers (p : Prediction) (inputs : List InputCmd) (kept : Nat) : Prop where
  seq : p.seq = BitVec.ofNat 32 inputs.length
  kept_le : kept ≤ inputs.length
  history : p.history.toList.map key = (labelled inputs).drop (inputs.length - kept)

theorem Remembers.size {p : Prediction} {inputs : List InputCmd} {kept : Nat} (h : Remembers p inputs kept) :
    p.history.size = kept := by
  have hLen := congrArg List.length h.history
  have := h.kept_le
  simp only [List.length_map, RingBuffer.length_toList, List.length_drop, length_labelled] at hLen
  omega

theorem Remembers.onLocalTick {p : Prediction} {inputs : List InputCmd} {kept : Nat} (h : Remembers p inputs kept)
    (cmd : InputCmd) : Remembers (p.onLocalTick cmd) (inputs ++ [cmd]) (min (kept + 1) kInputHistoryRingSize) := by
  have hKept := h.kept_le
  have hSeq : p.seq + 1 = BitVec.ofNat 32 (inputs.length + 1) := by rw [h.seq, BitVec.ofNat_add]; rfl
  refine ⟨?_, ?_, ?_⟩
  · rw [List.length_append]
    exact hSeq
  · rw [List.length_append, List.length_singleton]
    omega
  · have hFits : inputs.length - kept ≤ (labelled inputs).length := by rw [length_labelled]; omega
    simp only [Prediction.onLocalTick, RingBuffer.toList_pushBack, List.map_drop, List.map_append, h.history,
      List.map_cons, List.map_nil, key, hSeq, h.size]
    rw [labelled_snoc, ← List.drop_append_of_le_length hFits, List.drop_drop, List.length_append,
      List.length_singleton]
    congr 1
    simp only [kInputHistoryRingSize]
    omega

theorem scanItems_keys (localState : PlayerMotion) (es : List InputHistoryEntry) :
    (RingBuffer.scanItems replayEntry localState es).2.map key = es.map key := by
  induction es generalizing localState with
  | nil => rfl
  | cons e es ih => simp only [RingBuffer.scanItems, replayEntry, List.map_cons, ih]; rfl

theorem getElem_labelled (inputs : List InputCmd) (j : Nat) (hj : j < (labelled inputs).length) :
    (labelled inputs)[j].1 = BitVec.ofNat 32 (j + 1) := by
  simp [labelled]

/-- Seqs ascend, so what is newer than the ack is an end of the history. -/
theorem filter_labelled (inputs : List InputCmd) (hShort : inputs.length < 2 ^ 32) (skip ack : Nat) :
    ((labelled inputs).drop skip).filter (fun k => !decide (k.1.toNat ≤ ack)) =
      (labelled inputs).drop (max skip ack) := by
  have hSeq : ∀ j (hj : j < (labelled inputs).length), (labelled inputs)[j].1.toNat = j + 1 := by
    intro j hj
    rw [getElem_labelled inputs j hj, BitVec.toNat_ofNat]
    rw [length_labelled] at hj
    omega
  have hOld : (((labelled inputs).drop skip).take (ack - skip)).filter
      (fun k => !decide (k.1.toNat ≤ ack)) = [] := by
    apply List.filter_eq_nil_iff.mpr
    intro k hk
    obtain ⟨j, hj, rfl⟩ := List.mem_iff_getElem.mp hk
    rw [List.getElem_take, List.getElem_drop, hSeq]
    rw [List.length_take] at hj
    simp only [Bool.not_eq_true', Bool.not_eq_false, decide_eq_true_eq]
    omega
  have hNew : ((labelled inputs).drop (skip + (ack - skip))).filter
      (fun k => !decide (k.1.toNat ≤ ack)) = (labelled inputs).drop (skip + (ack - skip)) := by
    apply List.filter_eq_self.mpr
    intro k hk
    obtain ⟨j, hj, rfl⟩ := List.mem_iff_getElem.mp hk
    rw [List.getElem_drop, hSeq]
    simp only [Bool.not_eq_true', decide_eq_false_iff_not]
    omega
  conv_lhs => rw [← List.take_append_drop (ack - skip) ((labelled inputs).drop skip), List.filter_append, hOld,
    List.nil_append, List.drop_drop, hNew]
  congr 1
  omega

theorem Remembers.reconcile {p : Prediction} {inputs : List InputCmd} {kept : Nat} (h : Remembers p inputs kept)
    (hShort : inputs.length < 2 ^ 32) (ack : U32) (position : Vec2Fixed) :
    Remembers (p.reconcile ack position) inputs (min kept (inputs.length - ack.toNat)) := by
  refine ⟨h.seq, (Nat.min_le_left _ _).trans h.kept_le, ?_⟩
  have hVisit := RingBuffer.toList_visit (p.history.removeIf (fun e => e.seq.toNat ≤ ack.toNat)) replayEntry
    { position, velocity := {} }
  have hKeys := scanItems_keys { position, velocity := {} }
    (p.history.removeIf (fun e => e.seq.toNat ≤ ack.toNat)).toList
  rw [← hVisit] at hKeys
  refine hKeys.trans ?_
  have hFilter : (p.history.toList.filter (fun e => !decide (e.seq.toNat ≤ ack.toNat))).map key =
      (p.history.toList.map key).filter (fun k => !decide (k.1.toNat ≤ ack.toNat)) := by
    rw [List.filter_map]
    rfl
  rw [RingBuffer.toList_removeIf, hFilter, h.history, filter_labelled inputs hShort]
  have hKept := h.kept_le
  by_cases hAck : ack.toNat ≤ inputs.length
  · congr 1
    omega
  · rw [List.drop_eq_nil_of_le (by rw [length_labelled]; omega), List.drop_eq_nil_of_le (by rw [length_labelled]; omega)]

end Prediction
end CaptureTheFlag
