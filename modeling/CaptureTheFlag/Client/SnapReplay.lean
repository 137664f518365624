import CaptureTheFlag.Client.Reconciliation

/-! # Reconciliation is snap and replay

Any interleaving of `on_local_tick` and `on_snapshot` calls. The history is what the snapshots applied so far have left
of the newest inputs, and its positions are a run of `movement_step` that ends at the local state.
-/
namespace CaptureTheFlag
set_option autoImplicit false

inductive Call where
  | localTick (cmd : InputCmd)
  | snapshot (snap : WorldSnapshot) (myPlayerId : U8)

/-- The prediction after a run of calls, with the inputs issued and the acks applied on the way. -/
structure Played where
  prediction : Prediction := {}
  issued : List InputCmd := []
  acks : List Nat := []

namespace Played
open Prediction

def Applies (o : Played) (snap : WorldSnapshot) (myPlayerId : U8) : Prop :=
  o.prediction.lastAppliedTick.toNat < snap.tick.toNat ∧ (findSelf snap myPlayerId).isSome = true

instance (o : Played) (snap : WorldSnapshot) (myPlayerId : U8) : Decidable (o.Applies snap myPlayerId) :=
  inferInstanceAs (Decidable (_ ∧ _))

/-- An ack counts for the seqs issued by then. -/
def call (o : Played) : Call → Played
  | .localTick cmd => { o with prediction := o.prediction.onLocalTick cmd, issued := o.issued ++ [cmd] }
  | .snapshot snap myPlayerId =>
    { o with
      prediction := o.prediction.onSnapshot snap myPlayerId
      acks := if o.Applies snap myPlayerId then o.acks ++ [min snap.lastInputSeq.toNat o.issued.length] else o.acks }

def run (calls : List Call) : Played := calls.foldl call {}

/-- Those of the newest inputs that are above the ack and above every ack applied before, with their seqs. -/
def unacked (o : Played) (ack : U32) : List (U32 × InputCmd) :=
  ((labelled o.issued).drop (o.issued.length - kInputHistoryRingSize)).filter fun k =>
    decide (ack.toNat < k.1.toNat) && o.acks.all fun a => decide (a < k.1.toNat)

/-- The entries are a run of `movement_step` from one state to the other. -/
def Runs : PlayerMotion → List InputHistoryEntry → PlayerMotion → Prop
  | start, [], last => start = last
  | start, e :: es, last => e.stateAfter = movementStep start e.input Map.arena ∧ Runs e.stateAfter es last

theorem Runs.snoc {start last : PlayerMotion} {es : List InputHistoryEntry} (h : Runs start es last)
    {e : InputHistoryEntry} (he : e.stateAfter = movementStep last e.input Map.arena) :
    Runs start (es ++ [e]) e.stateAfter := by
  induction es generalizing start with
  | nil =>
    obtain rfl : start = last := h
    exact ⟨he, rfl⟩
  | cons first es ih => exact ⟨h.1, ih h.2⟩

theorem Runs.drop {start last : PlayerMotion} {es : List InputHistoryEntry} (h : Runs start es last) (n : Nat) :
    ∃ start', Runs start' (es.drop n) last := by
  induction es generalizing start n with
  | nil => exact ⟨start, by rw [List.drop_nil]; exact h⟩
  | cons e es ih =>
    cases n with
    | zero => exact ⟨start, h⟩
    | succ n => exact ih h.2 n

theorem Runs.behind {start last : PlayerMotion} {es : List InputHistoryEntry} (h : Runs start es last) {i : Nat}
    (hi : i < es.length) : Runs es[i].stateAfter (es.drop (i + 1)) last := by
  induction es generalizing start i with
  | nil => cases hi
  | cons e es ih =>
    cases i with
    | zero => exact h.2
    | succ i => exact ih h.2 (Nat.lt_of_succ_lt_succ hi)

theorem Runs.position {start last : PlayerMotion} {es : List InputHistoryEntry} (h : Runs start es last) :
    last.position = trace start.position (es.map (·.input)) := by
  induction es generalizing start with
  | nil =>
    obtain rfl : start = last := h
    rfl
  | cons e es ih =>
    have hStep := movementStep_congr (a := start) (b := { position := start.position }) rfl e.input Map.arena
    rw [ih h.2, h.1, hStep, List.map_cons, trace_cons]

theorem runs_scanItems (start : PlayerMotion) (es : List InputHistoryEntry) :
    Runs start (RingBuffer.scanItems replayEntry start es).2 (RingBuffer.scanItems replayEntry start es).1 := by
  induction es generalizing start with
  | nil => rfl
  | cons e es ih => exact ⟨rfl, ih (movementStep start e.input Map.arena)⟩

/-- The history's positions lead to the local state. -/
def Chained (p : Prediction) : Prop := ∃ start, Runs start p.history.toList p.localState

theorem chained_onLocalTick {p : Prediction} (h : Chained p) (cmd : InputCmd) : Chained (p.onLocalTick cmd) := by
  obtain ⟨start, hRuns⟩ := h
  let entry : InputHistoryEntry :=
    { seq := p.seq + 1, input := cmd, stateAfter := movementStep p.localState cmd Map.arena }
  have hNext : Runs start (p.history.toList ++ [entry]) entry.stateAfter := hRuns.snoc rfl
  obtain ⟨start', hRuns'⟩ := hNext.drop (p.history.size + 1 - kInputHistoryRingSize)
  refine ⟨start', ?_⟩
  simp only [onLocalTick, RingBuffer.toList_pushBack]
  exact hRuns'

theorem chained_reconcile (p : Prediction) (ack : U32) (position : Vec2Fixed) : Chained (p.reconcile ack position) := by
  refine ⟨{ position, velocity := {} }, ?_⟩
  have hVisit := RingBuffer.toList_visit (p.history.removeIf (fun e => e.seq.toNat ≤ ack.toNat)) replayEntry
    { position, velocity := {} }
  have hRuns := runs_scanItems { position, velocity := {} }
    (p.history.removeIf (fun e => e.seq.toNat ≤ ack.toNat)).toList
  rw [← hVisit] at hRuns
  exact hRuns

/-- The newest seq that an applied snapshot has acknowledged. -/
def acked (o : Played) : Nat := o.acks.foldr max 0

def kept (o : Played) : Nat := min kInputHistoryRingSize (o.issued.length - o.acked)

structure Tracked (o : Played) : Prop where
  remembers : Remembers o.prediction o.issued o.kept
  acked_le : o.acked ≤ o.issued.length
  chained : Chained o.prediction

theorem tracked_start : Tracked {} := by
  refine ⟨⟨rfl, le_rfl, rfl⟩, le_rfl, {}, rfl⟩

theorem foldr_max_snoc (acks : List Nat) (a : Nat) : (acks ++ [a]).foldr max 0 = max (acks.foldr max 0) a := by
  induction acks with
  | nil => simp
  | cons b acks ih =>
    rw [List.cons_append, List.foldr_cons, ih, List.foldr_cons]
    omega

theorem Tracked.localTick {o : Played} (h : Tracked o) (cmd : InputCmd) : Tracked (o.call (.localTick cmd)) := by
  have hAcked := h.acked_le
  have hIssued : (o.issued ++ [cmd]).length = o.issued.length + 1 := by simp
  constructor
  · have hNext := h.remembers.onLocalTick cmd
    have hKept : (o.call (.localTick cmd)).kept = min (o.kept + 1) kInputHistoryRingSize := by
      simp only [kept, call, acked, hIssued]
      simp only [acked] at hAcked
      omega
    rw [hKept]
    exact hNext
  · simp only [call, acked, hIssued]
    exact Nat.le_succ_of_le hAcked
  · exact chained_onLocalTick h.chained cmd

theorem Tracked.snapshot {o : Played} (h : Tracked o) (hShort : o.issued.length < 2 ^ 32) (snap : WorldSnapshot)
    (id : U8) : Tracked (o.call (.snapshot snap id)) := by
  have hAcked := h.acked_le
  rcases onSnapshot_cases o.prediction snap id with ⟨hStale, hSame⟩ | ⟨hFresh, hNone, hSame⟩ | ⟨hFresh, ps, hSelf, hSame⟩
  · have hSkip : ¬ o.Applies snap id := fun hApplies => by
      have := hApplies.1
      omega
    simp only [call, hSame, if_neg hSkip]
    exact h
  · have hSkip : ¬ o.Applies snap id := fun hApplies => by
      rw [Applies, hNone] at hApplies
      cases hApplies.2
    simp only [call, hSame, if_neg hSkip]
    exact ⟨⟨h.remembers.seq, h.remembers.kept_le, h.remembers.history⟩, h.acked_le, h.chained⟩
  · have hApplies : o.Applies snap id := ⟨hFresh, by rw [hSelf]; rfl⟩
    have hRemembers : Remembers { o.prediction with lastAppliedTick := snap.tick } o.issued o.kept :=
      ⟨h.remembers.seq, h.remembers.kept_le, h.remembers.history⟩
    have hNext := hRemembers.reconcile hShort snap.lastInputSeq ps.motion.position
    simp only [call, hSame, if_pos hApplies]
    refine ⟨?_, ?_, chained_reconcile _ _ _⟩
    · have hKept : kept { o with acks := o.acks ++ [min snap.lastInputSeq.toNat o.issued.length] } =
          min o.kept (o.issued.length - snap.lastInputSeq.toNat) := by
        simp only [kept, acked, foldr_max_snoc]
        omega
      simp only [kept, acked] at hKept hNext ⊢
      rw [hKept]
      exact hNext
    · simp only [acked, foldr_max_snoc] at hAcked ⊢
      omega

theorem tracked_call {o : Played} (h : Tracked o) (hShort : o.issued.length < 2 ^ 32) (c : Call) : Tracked (o.call c) := by
  cases c with
  | localTick cmd => exact h.localTick cmd
  | snapshot snap id => exact h.snapshot hShort snap id

theorem issued_call (o : Played) (c : Call) : o.issued.length ≤ (o.call c).issued.length := by
  cases c with
  | localTick cmd => simp [call]
  | snapshot snap id => exact le_rfl

theorem tracked_run (calls : List Call) (hShort : (run calls).issued.length < 2 ^ 32) : Tracked (run calls) := by
  induction calls using List.reverseRecOn with
  | nil => exact tracked_start
  | append_singleton calls c ih =>
    have hRun : run (calls ++ [c]) = (run calls).call c := by simp [run]
    rw [hRun] at hShort ⊢
    have hBefore := (issued_call (run calls) c).trans_lt hShort
    exact tracked_call (ih hBefore) hBefore c

theorem above_acks (acks : List Nat) (ack n : Nat) :
    (decide (ack < n) && acks.all fun a => decide (a < n)) = !decide (n ≤ max ack (acks.foldr max 0)) := by
  induction acks with
  | nil =>
    rw [List.all_nil, Bool.and_true, List.foldr_nil, Nat.max_zero, ← decide_not, decide_eq_decide]
    omega
  | cons a acks ih =>
    rw [List.all_cons, Bool.and_left_comm, ih, ← decide_not, ← decide_not, ← Bool.decide_and, List.foldr_cons,
      decide_eq_decide]
    omega

theorem unacked_inputs (o : Played) (hShort : o.issued.length < 2 ^ 32) (ack : U32) :
    (o.unacked ack).map Prod.snd =
      o.issued.drop (max (o.issued.length - kInputHistoryRingSize) (max ack.toNat o.acked)) := by
  simp only [unacked, above_acks, filter_labelled o.issued hShort, List.map_drop, map_snd_labelled]
  rfl

theorem Tracked.applied {o : Played} (h : Tracked o) (hShort : o.issued.length < 2 ^ 32) {snap : WorldSnapshot}
    {id : U8} {ps : PlayerState} (hFresh : o.prediction.lastAppliedTick.toNat < snap.tick.toNat)
    (hSelf : findSelf snap id = some ps) :
    (o.prediction.onSnapshot snap id).localState.position =
      trace ps.motion.position ((o.unacked snap.lastInputSeq).map Prod.snd) := by
  have hApplied : o.prediction.onSnapshot snap id =
      { o.prediction with lastAppliedTick := snap.tick }.reconcile snap.lastInputSeq ps.motion.position := by
    rw [onSnapshot, if_neg (by omega), hSelf]
  have hRemembers : Remembers { o.prediction with lastAppliedTick := snap.tick } o.issued o.kept :=
    ⟨h.remembers.seq, h.remembers.kept_le, h.remembers.history⟩
  rw [hApplied, Link.reconcile_position hRemembers hShort, unacked_inputs o hShort]
  congr 1
  have hAcked := h.acked_le
  by_cases hAll : o.issued.length ≤ snap.lastInputSeq.toNat
  · rw [List.drop_eq_nil_of_le (by simp only [kept]; omega), List.drop_eq_nil_of_le (by omega)]
  · congr 1
    simp only [kept]
    omega

theorem Tracked.seq_at {o : Played} (h : Tracked o) (hShort : o.issued.length < 2 ^ 32) {i : Nat}
    (hi : i < o.prediction.history.toList.length) :
    (o.prediction.history.toList[i]).seq.toNat = o.issued.length - o.kept + i + 1 := by
  have hKey := congrArg (·[i]?) h.remembers.history
  have hKept := h.remembers.kept_le
  have hSize := h.remembers.size
  rw [RingBuffer.length_toList] at hi
  have hBound : o.issued.length - o.kept + i < (labelled o.issued).length := by
    rw [length_labelled]
    omega
  simp only [List.getElem?_map, List.getElem?_drop, List.getElem?_eq_getElem hBound] at hKey
  rw [List.getElem?_eq_getElem (by rw [RingBuffer.length_toList]; exact hi)] at hKey
  have hSeq := congrArg Prod.fst (Option.some.inj hKey)
  rw [getElem_labelled] at hSeq
  rw [show (o.prediction.history.toList[i]).seq = _ from hSeq, BitVec.toNat_ofNat]
  omega

/-- Authority that agrees with the history's entry for the acked seq moves nobody. -/
theorem Tracked.agreeing {o : Played} (h : Tracked o) (hShort : o.issued.length < 2 ^ 32) {snap : WorldSnapshot}
    {id : U8} {ps : PlayerState} (hFresh : o.prediction.lastAppliedTick.toNat < snap.tick.toNat)
    (hSelf : findSelf snap id = some ps) {e : InputHistoryEntry} (hMem : e ∈ o.prediction.history.toList)
    (hSeq : e.seq = snap.lastInputSeq) (hPosition : e.stateAfter.position = ps.motion.position) :
    (o.prediction.onSnapshot snap id).localState.position = o.prediction.localState.position := by
  obtain ⟨i, hi, rfl⟩ := List.mem_iff_getElem.mp hMem
  obtain ⟨start, hRuns⟩ := h.chained
  have hAt := h.seq_at hShort hi
  have hKept := h.remembers.kept_le
  have hAcked := h.acked_le
  -- Behind the acked entry the history holds exactly the inputs above the ack.
  have hInputs : (o.prediction.history.toList.drop (i + 1)).map (·.input) =
      o.issued.drop (max (o.issued.length - kInputHistoryRingSize) (max snap.lastInputSeq.toNat o.acked)) := by
    have hKeys := congrArg (fun ks => (List.map Prod.snd ks).drop (i + 1)) h.remembers.history
    simp only [List.map_map, List.map_drop, map_snd_labelled, List.drop_drop] at hKeys
    rw [List.map_drop]
    refine Eq.trans (b := (o.prediction.history.toList.map (Prod.snd ∘ key)).drop (i + 1)) rfl ?_
    rw [hKeys, ← hSeq, hAt]
    congr 1
    simp only [kept] at hKept ⊢
    omega
  rw [h.applied hShort hFresh hSelf, unacked_inputs o hShort, ← hPosition, ← hInputs]
  exact (hRuns.behind hi).position.symm

/-- Right after a snapshot that is applied the local position is where the unacked ones of the newest inputs lead from
the snapshot's position; the history is a run of seqs up to the current one; and authority that agrees with the history
moves nobody. -/
theorem snap_and_replay (calls : List Call) (hShort : (run calls).issued.length < 2 ^ 32) :
    (∀ snap id ps, (run calls).prediction.lastAppliedTick.toNat < snap.tick.toNat → findSelf snap id = some ps →
      ((run calls).prediction.onSnapshot snap id).localState.position =
        trace ps.motion.position (((run calls).unacked snap.lastInputSeq).map Prod.snd)) ∧
    (∀ i (hi : i < (run calls).prediction.history.toList.length),
      ((run calls).prediction.history.toList[i]).seq.toNat + ((run calls).prediction.history.toList.length - 1 - i) =
        (run calls).prediction.seq.toNat) ∧
    (∀ snap id ps, (run calls).prediction.lastAppliedTick.toNat < snap.tick.toNat → findSelf snap id = some ps →
      ∀ e ∈ (run calls).prediction.history.toList, e.seq = snap.lastInputSeq →
        e.stateAfter.position = ps.motion.position →
        ((run calls).prediction.onSnapshot snap id).localState.position =
          (run calls).prediction.localState.position) := by
  have hTracked := tracked_run calls hShort
  refine ⟨?_, ?_, ?_⟩
  · intro snap id ps hFresh hSelf
    exact hTracked.applied hShort hFresh hSelf
  · intro i hi
    have hKept := hTracked.remembers.kept_le
    have hSize := hTracked.remembers.size
    have hCurrent : (run calls).prediction.seq.toNat = (run calls).issued.length := by
      rw [hTracked.remembers.seq, BitVec.toNat_ofNat]
      omega
    rw [hTracked.seq_at hShort hi, hCurrent]
    rw [RingBuffer.length_toList] at hi ⊢
    omega
  · intro snap id ps hFresh hSelf e hMem hSeq hPosition
    exact hTracked.agreeing hShort hFresh hSelf hMem hSeq hPosition

/-- The acks of the snapshots applied in a run, whatever was issued by then. -/
def appliedAcks (o : Played) : List Call → List Nat
  | [] => []
  | .localTick cmd :: calls => appliedAcks (o.call (.localTick cmd)) calls
  | .snapshot snap id :: calls =>
    (if o.Applies snap id then [snap.lastInputSeq.toNat] else []) ++ appliedAcks (o.call (.snapshot snap id)) calls

/-- Seq 5 is acknowledged before the first input. -/
def acknowledgedEarly : List Call := [.snapshot (Link.soloSnapshot 1 5 Link.spawn) 0, .localTick Link.stepRight]

/-- An input issued after a snapshot that acknowledged its seq is replayed all the same. -/
theorem acknowledged_early_replayed :
    ¬ ∀ calls : List Call, (run calls).issued.length < 2 ^ 32 →
      ∀ snap id ps, (run calls).prediction.lastAppliedTick.toNat < snap.tick.toNat → findSelf snap id = some ps →
        ((run calls).prediction.onSnapshot snap id).localState.position =
          trace ps.motion.position
            ((((labelled (run calls).issued).drop ((run calls).issued.length - kInputHistoryRingSize)).filter fun k =>
              decide (snap.lastInputSeq.toNat < k.1.toNat) &&
                (appliedAcks {} calls).all fun a => decide (a < k.1.toNat)).map Prod.snd) := by
  intro hAll
  have hHere := hAll acknowledgedEarly (by decide +kernel) (Link.soloSnapshot 2 0 Link.spawn) 0
    { motion := { position := Link.spawn } } (by decide +kernel) rfl
  revert hHere
  decide +kernel

theorem snap_and_replay_early :
    (run acknowledgedEarly).issued.length < 2 ^ 32 ∧
    ((run acknowledgedEarly).prediction.onSnapshot (Link.soloSnapshot 2 0 Link.spawn) 0).localState.position =
      trace Link.spawn [Link.stepRight] := by
  have hShort : (run acknowledgedEarly).issued.length < 2 ^ 32 := by decide +kernel
  refine ⟨hShort, ?_⟩
  exact (snap_and_replay acknowledgedEarly hShort).1 (Link.soloSnapshot 2 0 Link.spawn) 0
    { motion := { position := Link.spawn } } (by decide +kernel) rfl

end Played
end CaptureTheFlag
