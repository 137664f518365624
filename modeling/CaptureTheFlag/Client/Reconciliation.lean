import CaptureTheFlag.Client.Prediction
import CaptureTheFlag.Server.Queues

/-! # Prediction against authority

A client and the server's player run the same inputs, the server some inputs behind. Snapshots travel through the
codec and arrive in any order, any number of times or never.
-/
namespace CaptureTheFlag
set_option autoImplicit false
open Protocol

def trace (start : Vec2Fixed) (inputs : List InputCmd) : Vec2Fixed :=
  inputs.foldl (fun position cmd => (movementStep { position } cmd Map.arena).position) start

theorem trace_cons (start : Vec2Fixed) (cmd : InputCmd) (inputs : List InputCmd) :
    trace start (cmd :: inputs) = trace (movementStep { position := start } cmd Map.arena).position inputs := rfl

theorem trace_append (start : Vec2Fixed) (first second : List InputCmd) :
    trace start (first ++ second) = trace (trace start first) second := List.foldl_append

theorem trace_snoc (start : Vec2Fixed) (inputs : List InputCmd) (cmd : InputCmd) :
    trace start (inputs ++ [cmd]) = (movementStep { position := trace start inputs } cmd Map.arena).position := by
  simp [trace]

structure Link where
  client : Prediction
  inputs : List InputCmd := []
  consumed : Nat := 0
  tick : Nat
  position : Vec2Fixed
  published : List WorldSnapshot := []

namespace Link

/-- The server consumes the next input, if it has one, or none. -/
inductive ServerMoves (l : Link) : Link → Prop where
  | idle : ServerMoves l l
  | consume (cmd : InputCmd) (hNext : l.inputs[l.consumed]? = some cmd) :
      ServerMoves l
        { l with
          consumed := l.consumed + 1
          position := (movementStep { position := l.position } cmd Map.arena).position }

/-- A snapshot of the server's player as it stands; the rest of the snapshot is arbitrary. -/
structure Reports (id : U8) (l : Link) (snap : WorldSnapshot) : Prop where
  tick : snap.tick = BitVec.ofNat 32 l.tick
  ack : snap.lastInputSeq = BitVec.ofNat 32 l.consumed
  count : snap.playerCount.toNat ≤ kMaxPlayers
  self : ∀ i : Fin kMaxPlayers, i.val < snap.playerCount.toNat → (snap.players i).id = id →
    (snap.players i).motion.position = l.position

/-- What a snapshot is after its way over the wire. -/
def Carried (snap got : WorldSnapshot) : Prop :=
  (decodeWorldSnapshot ⟨(encodeWorldSnapshot { cap := kPayloadDataBytes } snap).buf, false⟩).1 = some got

/-- The states of all runs in which each delivered snapshot is `ok` when it arrives. -/
inductive Reach (id : U8) (start : Vec2Fixed) (ok : Link → WorldSnapshot → Prop) : Link → Prop where
  | start (tick : Nat) : Reach id start ok { client := { localState := { position := start } }, tick, position := start }
  | localTick {l : Link} (h : Reach id start ok l) (cmd : InputCmd) :
      Reach id start ok { l with client := l.client.onLocalTick cmd, inputs := l.inputs ++ [cmd] }
  | serverTick {l l' : Link} (h : Reach id start ok l) (hMoves : ServerMoves l l') (snap : WorldSnapshot)
      (hReports : Reports id l' snap) :
      Reach id start ok { l' with tick := l'.tick + 1, published := l'.published ++ [snap] }
  | deliver {l : Link} (h : Reach id start ok l) (snap got : WorldSnapshot) (hSent : snap ∈ l.published)
      (hCarried : Carried snap got) (hOk : ok l snap) :
      Reach id start ok { l with client := l.client.onSnapshot got id }

/-- At most a history's worth of inputs is unacknowledged, and the player's position survives the wire. -/
def WireExact (id : U8) (l : Link) (snap : WorldSnapshot) : Prop :=
  l.inputs.length ≤ snap.lastInputSeq.toNat + kInputHistoryRingSize ∧
    ∀ i : Fin kMaxPlayers, i.val < snap.playerCount.toNat → (snap.players i).id = id →
      wireVec2 (snap.players i).motion.position = (snap.players i).motion.position

theorem carried_eq {snap got : WorldSnapshot} (hCount : snap.playerCount.toNat ≤ kMaxPlayers) :
    Carried snap got ↔ got = wireSnapshot snap := by
  have hFits := length_worldSnapshotBytes snap
  have hBytes := (emits_encodeWorldSnapshot snap).fresh kPayloadDataBytes (by simp only [kPayloadDataBytes]; omega)
  have hRun := decodeWorldSnapshot_run snap hCount []
  rw [List.append_nil] at hRun
  simp only [Carried, hBytes, hRun, Option.some.injEq, eq_comm]

theorem scanItems_position (localState : PlayerMotion) (es : List InputHistoryEntry) :
    (RingBuffer.scanItems Prediction.replayEntry localState es).1.position =
      trace localState.position (es.map (·.input)) := by
  induction es generalizing localState with
  | nil => rfl
  | cons e es ih =>
    simp only [RingBuffer.scanItems, Prediction.replayEntry, ih, List.map_cons]
    exact congrArg (fun m : PlayerMotion => trace m.position (es.map (·.input))) (movementStep_congr rfl _ _)

/-- The player ends where the inputs that are kept and not acked lead from the snapshot's position. -/
theorem reconcile_position {p : Prediction} {inputs : List InputCmd} {kept : Nat}
    (h : Prediction.Remembers p inputs kept) (hShort : inputs.length < 2 ^ 32) (ack : U32) (position : Vec2Fixed) :
    (p.reconcile ack position).localState.position =
      trace position (inputs.drop (inputs.length - min kept (inputs.length - ack.toNat))) := by
  have hAll := (h.reconcile hShort ack position).history
  have hVisit := RingBuffer.toList_visit (p.history.removeIf (fun e => e.seq.toNat ≤ ack.toNat)) Prediction.replayEntry
    { position, velocity := {} }
  have hKeys := Prediction.scanItems_keys { position, velocity := {} }
    (p.history.removeIf (fun e => e.seq.toNat ≤ ack.toNat)).toList
  have hEnd := scanItems_position { position, velocity := {} }
    (p.history.removeIf (fun e => e.seq.toNat ≤ ack.toNat)).toList
  rw [← hVisit] at hKeys hEnd
  have hInputs : (p.history.removeIf (fun e => e.seq.toNat ≤ ack.toNat)).toList.map (·.input) =
      inputs.drop (inputs.length - min kept (inputs.length - ack.toNat)) := by
    have hSnd := congrArg (List.map Prod.snd) (hKeys.symm.trans hAll)
    rw [List.map_map, List.map_drop, Prediction.map_snd_labelled] at hSnd
    exact hSnd
  rw [← hInputs]
  exact hEnd

/-- Replaying what the history holds after seq `k`, from where the first `k` inputs led, refreshes its positions. -/
theorem scanItems_after (start : Vec2Fixed) (inputs : List InputCmd) (hShort : inputs.length < 2 ^ 32)
    (es : List InputHistoryEntry) (k : Nat) (localState : PlayerMotion)
    (hKeys : es.map Prediction.key = (Prediction.labelled inputs).drop k)
    (hFrom : localState.position = trace start (inputs.take k)) :
    ∀ e ∈ (RingBuffer.scanItems Prediction.replayEntry localState es).2,
      e.stateAfter.position = trace start (inputs.take e.seq.toNat) := by
  induction es generalizing k localState with
  | nil =>
    intro e hMem
    cases hMem
  | cons e es ih =>
    have hBound : k < (Prediction.labelled inputs).length := by
      have hLen := congrArg List.length hKeys
      simp only [List.length_map, List.length_cons, List.length_drop] at hLen
      omega
    have hLt : k < inputs.length := by rwa [Prediction.length_labelled] at hBound
    rw [List.drop_eq_getElem_cons hBound, List.map_cons, List.cons.injEq] at hKeys
    obtain ⟨hKey, hRest⟩ := hKeys
    have hEntry : e.seq = BitVec.ofNat 32 (k + 1) ∧ e.input = inputs[k] := by
      have hPair : (Prediction.labelled inputs)[k] = (BitVec.ofNat 32 (k + 1), inputs[k]) := by
        simp [Prediction.labelled]
      rw [hPair] at hKey
      exact ⟨congrArg Prod.fst hKey, congrArg Prod.snd hKey⟩
    have hTake : inputs.take (k + 1) = inputs.take k ++ [inputs[k]] := List.take_succ_eq_append_getElem hLt
    have hNext : (movementStep localState e.input Map.arena).position = trace start (inputs.take (k + 1)) := by
      rw [hTake, trace_snoc, ← hFrom, hEntry.2]
      exact congrArg PlayerMotion.position (movementStep_congr rfl _ _)
    intro e' hMem
    rcases List.mem_cons.mp hMem with rfl | hMem
    · have hSeq : e.seq.toNat = k + 1 := by
        rw [hEntry.1, BitVec.toNat_ofNat]
        omega
      simp only [hSeq]
      exact hNext
    · exact ih (k + 1) (movementStep localState e.input Map.arena) hRest hNext e' hMem

structure Synced (id : U8) (start : Vec2Fixed) (l : Link) (acked kept : Nat) : Prop where
  remembers : Prediction.Remembers l.client l.inputs kept
  kept_ge : min (l.inputs.length - acked) kInputHistoryRingSize ≤ kept
  after : ∀ e ∈ l.client.history.toList, e.stateAfter.position = trace start (l.inputs.take e.seq.toNat)
  localState : l.client.localState.position = trace start l.inputs
  clean : l.client.mispredictions = 0
  consumed_le : l.consumed ≤ l.inputs.length
  position : l.position = trace start (l.inputs.take l.consumed)
  count : ∀ snap ∈ l.published, snap.playerCount.toNat ≤ kMaxPlayers
  past : ∀ snap ∈ l.published, snap.tick.toNat < l.tick ∧ snap.lastInputSeq.toNat ≤ l.consumed
  self : ∀ snap ∈ l.published, ∀ i : Fin kMaxPlayers, i.val < snap.playerCount.toNat → (snap.players i).id = id →
    (snap.players i).motion.position = trace start (l.inputs.take snap.lastInputSeq.toNat)
  ordered : ∀ a ∈ l.published, ∀ b ∈ l.published, a.tick.toNat ≤ b.tick.toNat →
    a.lastInputSeq.toNat ≤ b.lastInputSeq.toNat
  fresh : ∀ snap ∈ l.published, l.client.lastAppliedTick.toNat < snap.tick.toNat → acked ≤ snap.lastInputSeq.toNat
  acked_le : acked ≤ l.consumed

variable {id : U8} {start : Vec2Fixed} {l : Link} {acked kept : Nat}

theorem synced_start (id : U8) (start : Vec2Fixed) (tick : Nat) :
    Synced id start { client := { localState := { position := start } }, tick, position := start } 0 0 where
  remembers := ⟨rfl, le_rfl, rfl⟩
  kept_ge := Nat.min_le_left _ _
  after e hMem := by cases hMem
  localState := rfl
  clean := rfl
  consumed_le := le_rfl
  position := rfl
  count snap hMem := by cases hMem
  past snap hMem := by cases hMem
  self snap hMem := by cases hMem
  ordered a hMem := by cases hMem
  fresh snap hMem := by cases hMem
  acked_le := le_rfl

theorem seq_le (h : Prediction.Remembers l.client l.inputs kept) (hShort : l.inputs.length < 2 ^ 32)
    {e : InputHistoryEntry} (hMem : e ∈ l.client.history.toList) : e.seq.toNat ≤ l.inputs.length := by
  have hKey : Prediction.key e ∈ (Prediction.labelled l.inputs).drop (l.inputs.length - kept) := by
    rw [← h.history]
    exact List.mem_map_of_mem hMem
  obtain ⟨j, hj, hEq⟩ := List.mem_iff_getElem.mp (List.mem_of_mem_drop hKey)
  have hSeq : e.seq = BitVec.ofNat 32 (j + 1) := by
    rw [← Prediction.getElem_labelled l.inputs j hj, hEq]
    rfl
  rw [Prediction.length_labelled] at hj
  rw [hSeq, BitVec.toNat_ofNat]
  omega

theorem Synced.localTick (h : Synced id start l acked kept) (cmd : InputCmd) (hShort : l.inputs.length + 1 < 2 ^ 32) :
    Synced id start { l with client := l.client.onLocalTick cmd, inputs := l.inputs ++ [cmd] } acked
      (min (kept + 1) kInputHistoryRingSize) := by
  have hTake : ∀ k, k ≤ l.inputs.length → (l.inputs ++ [cmd]).take k = l.inputs.take k :=
    fun k hk => List.take_append_of_le_length hk
  have hNext : (movementStep l.client.localState cmd Map.arena).position = trace start (l.inputs ++ [cmd]) := by
    rw [trace_snoc, ← h.localState]
    exact congrArg PlayerMotion.position (movementStep_congr rfl _ _)
  have hLen : (l.inputs ++ [cmd]).length = l.inputs.length + 1 := by simp
  have hAcked := h.acked_le
  have hConsumed := h.consumed_le
  have hKept := h.kept_ge
  exact
    { remembers := h.remembers.onLocalTick cmd
      kept_ge := by
        simp only [hLen, kInputHistoryRingSize] at hKept ⊢
        omega
      after := by
        intro e hMem
        simp only [Prediction.onLocalTick, RingBuffer.toList_pushBack] at hMem
        rcases List.mem_append.mp (List.mem_of_mem_drop hMem) with hOld | hNew
        · have hSeq := seq_le h.remembers (by omega) hOld
          simp only [hTake _ hSeq]
          exact h.after e hOld
        · rw [List.mem_singleton.mp hNew]
          have hSeq : (l.client.seq + 1).toNat = l.inputs.length + 1 := by
            have hOne : (1 : U32).toNat = 1 := rfl
            rw [h.remembers.seq, BitVec.toNat_add, BitVec.toNat_ofNat, hOne]
            omega
          simp only [hSeq]
          rw [List.take_of_length_le (by simp)]
          exact hNext
      localState := hNext
      clean := h.clean
      consumed_le := by simp only [hLen]; omega
      position := by
        simp only [hTake _ hConsumed]
        exact h.position
      count := h.count
      past := h.past
      self := by
        intro snap hMem i hi hId
        have hLe := (h.past snap hMem).2
        simp only [hTake _ (hLe.trans hConsumed)]
        exact h.self snap hMem i hi hId
      ordered := h.ordered
      fresh := h.fresh
      acked_le := hAcked }

theorem Synced.moves {l' : Link} (h : Synced id start l acked kept) (hMoves : ServerMoves l l') :
    Synced id start l' acked kept := by
  cases hMoves with
  | idle => exact h
  | consume cmd hNext =>
    obtain ⟨hLt, hCmd⟩ := List.getElem?_eq_some_iff.mp hNext
    have hTake : l.inputs.take (l.consumed + 1) = l.inputs.take l.consumed ++ [cmd] := by
      rw [List.take_succ_eq_append_getElem hLt, hCmd]
    have hAcked := h.acked_le
    exact
      { h with
        consumed_le := hLt
        position := by simp only [hTake, trace_snoc, h.position]
        past := fun snap hMem => ⟨(h.past snap hMem).1, (h.past snap hMem).2.trans (Nat.le_succ _)⟩
        acked_le := hAcked.trans (Nat.le_succ _) }

theorem Synced.publish (h : Synced id start l acked kept) (hShort : l.inputs.length < 2 ^ 32)
    (hTick : l.tick < 2 ^ 32) (snap : WorldSnapshot) (hReports : Reports id l snap) :
    Synced id start { l with tick := l.tick + 1, published := l.published ++ [snap] } acked kept := by
  have hConsumed := h.consumed_le
  have hNow : snap.tick.toNat = l.tick := by
    rw [hReports.tick, BitVec.toNat_ofNat]
    exact Nat.mod_eq_of_lt hTick
  have hAck : snap.lastInputSeq.toNat = l.consumed := by
    rw [hReports.ack, BitVec.toNat_ofNat]
    omega
  have hCases : ∀ {s : WorldSnapshot}, s ∈ l.published ++ [snap] → s ∈ l.published ∨ s = snap := by
    intro s hMem
    simpa using hMem
  exact
    { h with
      count := by
        intro s hMem
        rcases hCases hMem with hOld | rfl
        · exact h.count s hOld
        · exact hReports.count
      past := by
        intro s hMem
        rcases hCases hMem with hOld | rfl
        · exact ⟨Nat.lt_succ_of_lt (h.past s hOld).1, (h.past s hOld).2⟩
        · exact ⟨by simp only [hNow]; omega, by simp only [hAck]; omega⟩
      self := by
        intro s hMem i hi hId
        rcases hCases hMem with hOld | rfl
        · exact h.self s hOld i hi hId
        · rw [hReports.self i hi hId, hAck]
          exact h.position
      ordered := by
        intro a ha b hb hLe
        rcases hCases ha with hOld | hNew
        · rcases hCases hb with hOld' | hNew'
          · exact h.ordered a hOld b hOld' hLe
          · rw [hNew', hAck]
            exact (h.past a hOld).2
        · rcases hCases hb with hOld' | hNew'
          · have hBefore := (h.past b hOld').1
            rw [hNew] at hLe
            omega
          · rw [hNew, hNew']
      fresh := by
        intro s hMem hFresh
        rcases hCases hMem with hOld | rfl
        · exact h.fresh s hOld hFresh
        · rw [hAck]
          exact h.acked_le }

/-- A snapshot that survives the wire is a no-op. -/
theorem Synced.reconcile (h : Synced id start l acked kept) (hShort : l.inputs.length < 2 ^ 32) {snap : WorldSnapshot}
    (hMem : snap ∈ l.published) (hAcked : acked ≤ snap.lastInputSeq.toNat)
    (hRecent : l.inputs.length ≤ snap.lastInputSeq.toNat + kInputHistoryRingSize) :
    let auth := trace start (l.inputs.take snap.lastInputSeq.toNat)
    let client := l.client.reconcile snap.lastInputSeq auth
    Prediction.Remembers client l.inputs (l.inputs.length - snap.lastInputSeq.toNat) ∧
      (∀ e ∈ client.history.toList, e.stateAfter.position = trace start (l.inputs.take e.seq.toNat)) ∧
      client.localState.position = trace start l.inputs ∧ client.mispredictions = 0 := by
  intro auth client
  have hConsumed := h.consumed_le
  have hPast := (h.past snap hMem).2
  have hKeptGe := h.kept_ge
  have hKeptLe := h.remembers.kept_le
  have hRemembers := h.remembers.reconcile hShort snap.lastInputSeq auth
  have hKept : min kept (l.inputs.length - snap.lastInputSeq.toNat) = l.inputs.length - snap.lastInputSeq.toNat := by
    simp only [kInputHistoryRingSize] at hKeptGe hRecent
    omega
  have hEnd := reconcile_position h.remembers hShort snap.lastInputSeq auth
  have hSkip : l.inputs.length - (l.inputs.length - snap.lastInputSeq.toNat) = snap.lastInputSeq.toNat := by omega
  rw [hKept] at hRemembers hEnd
  rw [hSkip, ← trace_append, List.take_append_drop] at hEnd
  have hVisit := RingBuffer.toList_visit
    (l.client.history.removeIf (fun e => e.seq.toNat ≤ snap.lastInputSeq.toNat)) Prediction.replayEntry
    { position := auth, velocity := {} }
  have hKeys : (l.client.history.removeIf (fun e => e.seq.toNat ≤ snap.lastInputSeq.toNat)).toList.map Prediction.key =
      (Prediction.labelled l.inputs).drop snap.lastInputSeq.toNat := by
    have hAll := hRemembers.history
    rw [hSkip] at hAll
    rw [← hAll, ← Prediction.scanItems_keys { position := auth, velocity := {} }, ← hVisit]
    rfl
  have hAfter := scanItems_after start l.inputs hShort _ snap.lastInputSeq.toNat
    { position := auth, velocity := {} } hKeys rfl
  rw [← hVisit] at hAfter
  have hRight : l.client.mispredicted snap.lastInputSeq auth = false := by
    simp only [Prediction.mispredicted]
    split
    · rename_i e hFound
      have hSeq : e.seq = snap.lastInputSeq := by simpa using List.find?_some hFound
      have hPosition := h.after e (List.mem_of_find?_eq_some hFound)
      rw [hSeq] at hPosition
      rw [hPosition]
      exact bne_self_eq_false auth
    · rfl
  refine ⟨hRemembers, hAfter, hEnd, ?_⟩
  simp only [client, Prediction.reconcile, hRight, Bool.false_eq_true, if_false]
  exact h.clean

theorem Synced.deliver (h : Synced id start l acked kept) (hShort : l.inputs.length < 2 ^ 32) {snap got : WorldSnapshot}
    (hMem : snap ∈ l.published) (hCarried : Carried snap got) (hOk : WireExact id l snap) :
    ∃ acked' kept', Synced id start { l with client := l.client.onSnapshot got id } acked' kept' := by
  obtain rfl := (carried_eq (h.count snap hMem)).mp hCarried
  have hTick : (wireSnapshot snap).tick = snap.tick := rfl
  have hAck : (wireSnapshot snap).lastInputSeq = snap.lastInputSeq := rfl
  rcases Prediction.onSnapshot_cases l.client (wireSnapshot snap) id with
    ⟨-, hSame⟩ | ⟨hFresh, -, hSame⟩ | ⟨hFresh, ps, hSelf, hSame⟩
  · exact ⟨acked, kept, by rw [hSame]; exact h⟩
  · rw [hSame]
    refine ⟨acked, kept, { h with remembers := ⟨h.remembers.seq, h.remembers.kept_le, h.remembers.history⟩, fresh := ?_ }⟩
    intro s hs hLater
    rw [hTick] at hFresh
    exact h.fresh s hs (hFresh.trans hLater)
  · obtain ⟨i, hi, hId, rfl⟩ := Prediction.findSelf_some hSelf
    have hRecord : (wireSnapshot snap).players i = wirePlayer (snap.players i) :=
      if_pos ((mem_firstSlots _ i).mpr hi)
    have hIdOf : (snap.players i).id = id := by
      rw [hRecord] at hId
      exact hId
    have hPosition : ((wireSnapshot snap).players i).motion.position =
        trace start (l.inputs.take snap.lastInputSeq.toNat) := by
      rw [hRecord, ← h.self snap hMem i hi hIdOf]
      exact hOk.2 i hi hIdOf
    rw [hTick] at hFresh
    have hAcked := h.fresh snap hMem hFresh
    have hStamped : Synced id start { l with client := { l.client with lastAppliedTick := snap.tick } } acked kept :=
      { h with
        remembers := ⟨h.remembers.seq, h.remembers.kept_le, h.remembers.history⟩
        fresh := fun s hs hLater => h.fresh s hs (hFresh.trans hLater) }
    obtain ⟨hRemembers, hAfter, hLocal, hClean⟩ := hStamped.reconcile hShort hMem hAcked hOk.1
    rw [hSame, hPosition, hTick, hAck]
    exact ⟨snap.lastInputSeq.toNat, l.inputs.length - snap.lastInputSeq.toNat,
      { h with
        remembers := hRemembers
        kept_ge := Nat.min_le_left _ _
        after := hAfter
        localState := hLocal
        clean := hClean
        fresh := fun s hs hLater => h.ordered snap hMem s hs (Nat.le_of_lt hLater)
        acked_le := (h.past snap hMem).2 }⟩

theorem Reach.synced (hReach : Reach id start (WireExact id) l) (hInputs : l.inputs.length < 2 ^ 32)
    (hTick : l.tick ≤ 2 ^ 32) : ∃ acked kept, Synced id start l acked kept := by
  induction hReach with
  | start tick => exact ⟨0, 0, synced_start id start tick⟩
  | localTick hReach cmd ih =>
    rw [List.length_append, List.length_singleton] at hInputs
    obtain ⟨acked, kept, h⟩ := ih (by omega) hTick
    exact ⟨acked, _, h.localTick cmd hInputs⟩
  | @serverTick l l' hReach hMoves snap hReports ih =>
    have hSame : l'.inputs = l.inputs ∧ l'.tick = l.tick := by
      cases hMoves <;> exact ⟨rfl, rfl⟩
    simp only [hSame.1, hSame.2] at hInputs hTick
    obtain ⟨acked, kept, h⟩ := ih hInputs (by omega)
    exact ⟨acked, kept, (h.moves hMoves).publish (by rw [hSame.1]; exact hInputs) (by rw [hSame.2]; omega) snap hReports⟩
  | deliver hReach snap got hSent hCarried hOk ih =>
    obtain ⟨acked, kept, h⟩ := ih hInputs hTick
    exact h.deliver hInputs hSent hCarried hOk

theorem reconciliation_noop (id : U8) (start : Vec2Fixed) (l : Link) (hReach : Reach id start (WireExact id) l)
    (hInputs : l.inputs.length < 2 ^ 32) (hTick : l.tick ≤ 2 ^ 32) :
    l.client.mispredictions = 0 ∧
      ∀ snap ∈ l.published, ∀ got, Carried snap got → WireExact id l snap →
        (l.client.onSnapshot got id).localState.position = l.client.localState.position := by
  obtain ⟨acked, kept, h⟩ := hReach.synced hInputs hTick
  refine ⟨h.clean, fun snap hMem got hCarried hOk => ?_⟩
  obtain ⟨acked', kept', h'⟩ := h.deliver hInputs hMem hCarried hOk
  exact h'.localState.trans h.localState.symm

def spawn : Vec2Fixed := ⟨24576, 81920⟩

def stepRight : InputCmd := { buttons := kInputRight }

def soloSnapshot (tick ack : Nat) (position : Vec2Fixed) : WorldSnapshot :=
  { tick := BitVec.ofNat 32 tick, lastInputSeq := BitVec.ofNat 32 ack, playerCount := 1,
    players := fun _ => { motion := { position } } }

theorem soloSnapshot_count (tick ack : Nat) (position : Vec2Fixed) :
    (soloSnapshot tick ack position).playerCount.toNat ≤ kMaxPlayers :=
  show (1 : U8).toNat ≤ 10 by decide

theorem soloSnapshot_reports (l : Link) : Reports 0 l (soloSnapshot l.tick l.consumed l.position) :=
  ⟨rfl, rfl, soloSnapshot_count _ _ _, fun _ _ _ => rfl⟩

def begun : Link := { client := { localState := { position := spawn } }, tick := 1, position := spawn }

/-- What stands after `inputs` have been predicted and the first `consumed` of them have reached the server, one a tick. -/
def walked (inputs : List InputCmd) (consumed : Nat) : Link :=
  { client := inputs.foldl Prediction.onLocalTick begun.client
    inputs
    consumed
    tick := consumed + 1
    position := trace spawn (inputs.take consumed)
    published := (List.range consumed).map fun j => soloSnapshot (j + 1) (j + 1) (trace spawn (inputs.take (j + 1))) }

theorem walked_zero (inputs : List InputCmd) :
    walked inputs 0 = { begun with client := inputs.foldl Prediction.onLocalTick begun.client, inputs } := rfl

theorem walked_reach (ok : Link → WorldSnapshot → Prop) (inputs : List InputCmd) (consumed : Nat)
    (h : consumed ≤ inputs.length) : Reach 0 spawn ok (walked inputs consumed) := by
  induction consumed with
  | zero =>
    induction inputs using List.reverseRecOn with
    | nil => exact Reach.start 1
    | append_singleton inputs cmd ih =>
      have hPredicted := (ih (Nat.zero_le _)).localTick cmd
      simp only [walked, List.foldl_append, List.foldl_cons, List.foldl_nil, List.take_zero] at hPredicted ⊢
      exact hPredicted
  | succ consumed ih =>
    have hNext : (walked inputs consumed).inputs[(walked inputs consumed).consumed]? = some inputs[consumed] :=
      List.getElem?_eq_getElem h
    have hMoved : trace spawn (inputs.take (consumed + 1)) =
        (movementStep { position := trace spawn (inputs.take consumed) } inputs[consumed] Map.arena).position := by
      rw [List.take_succ_eq_append_getElem h, trace_snoc]
    have hTick := (ih (Nat.le_of_succ_le h)).serverTick (.consume inputs[consumed] hNext) _ (soloSnapshot_reports _)
    simp only [walked, ← hMoved] at hTick
    rw [walked, List.range_succ, List.map_append]
    exact hTick

theorem lastAppliedTick_foldl (inputs : List InputCmd) (client : Prediction) :
    (inputs.foldl Prediction.onLocalTick client).lastAppliedTick = client.lastAppliedTick := by
  induction inputs generalizing client with
  | nil => rfl
  | cons cmd inputs ih => exact ih (client.onLocalTick cmd)

/-- Sixteen of eighteen steps to the right have been consumed: sixteen steps are 21840/256 px, a multiple of 1/16 px. -/
def midway : Link := walked (List.replicate 18 stepRight) 16

theorem midway_position : midway.position = ⟨46416, 81920⟩ := by decide +kernel

/-- The snapshot of the sixteenth step has arrived. -/
def caughtUp : Link :=
  { midway with client := midway.client.onSnapshot (wireSnapshot (soloSnapshot 16 16 midway.position)) 0 }

theorem midway_published : soloSnapshot 16 16 midway.position ∈ midway.published :=
  List.mem_map.mpr ⟨15, List.mem_range.mpr (by decide), rfl⟩

theorem midway_exact : WireExact 0 midway (soloSnapshot 16 16 midway.position) := by
  refine ⟨by decide, fun _ _ _ => ?_⟩
  have hWire : wireVec2 midway.position = midway.position := by
    rw [midway_position]
    decide
  exact hWire

theorem caughtUp_reach : Reach 0 spawn (WireExact 0) caughtUp :=
  (walked_reach (WireExact 0) (List.replicate 18 stepRight) 16 (by decide)).deliver _ _ midway_published
    ((carried_eq (soloSnapshot_count _ _ _)).mpr rfl) midway_exact

/-- The client is two steps ahead of the snapshot and replays both. -/
theorem reconciliation_noop_on_the_way :
    caughtUp.client.lastAppliedTick = 16 ∧ caughtUp.client.history.size = 2 ∧ caughtUp.client.mispredictions = 0 ∧
      midway.client.localState.position = ⟨49146, 81920⟩ ∧
      caughtUp.client.localState.position = midway.client.localState.position := by
  have hMidway : Reach 0 spawn (WireExact 0) midway := walked_reach _ (List.replicate 18 stepRight) 16 (by decide)
  have hCaughtUp := reconciliation_noop 0 spawn caughtUp caughtUp_reach (by decide) (by decide)
  have hArrives := (reconciliation_noop 0 spawn midway hMidway (by decide) (by decide)).2 _ midway_published _
    ((carried_eq (soloSnapshot_count _ _ _)).mpr rfl) midway_exact
  exact ⟨by decide +kernel, by decide +kernel, hCaughtUp.1, by decide +kernel, hArrives⟩

theorem trace_still (position : Vec2Fixed) (n : Nat) : trace position (List.replicate n {}) = position := by
  induction n with
  | zero => rfl
  | succ n ih =>
    rw [List.replicate_succ', trace_snoc, ih]
    exact movementStep_still { position } ({} : InputCmd) _ rfl

/-- With an old ack the replay misses the first of 65 inputs. -/
theorem replay_misses_first {client : Prediction} {cmd : InputCmd} (hTick : client.lastAppliedTick = 0)
    (h : Reach 0 spawn (WireExact 0) { begun with client, inputs := cmd :: List.replicate 64 {} }) :
    (client.onSnapshot (wireSnapshot (soloSnapshot 1 0 spawn)) 0).localState.position = spawn ∧
      client.localState.position = (movementStep { position := spawn } cmd Map.arena).position := by
  have hLen : (cmd :: List.replicate 64 ({} : InputCmd)).length = 65 := by simp
  obtain ⟨acked, kept, hSynced⟩ := h.synced (by simp only [hLen]; decide) (show 1 ≤ 2 ^ 32 by decide)
  have hKept : kept = 64 := by
    have hGe := hSynced.kept_ge
    have hAcked : acked ≤ 0 := hSynced.acked_le
    have hSize := hSynced.remembers.size ▸ client.history.size_le
    simp only [hLen, kInputHistoryRingSize] at hGe hSize
    omega
  have hFound : Prediction.findSelf (wireSnapshot (soloSnapshot 1 0 spawn)) 0 =
      some (wirePlayer { motion := { position := spawn } }) := rfl
  have hSnap : client.onSnapshot (wireSnapshot (soloSnapshot 1 0 spawn)) 0 =
      { client with lastAppliedTick := 1 }.reconcile 0 spawn := by
    rw [Prediction.onSnapshot, if_neg (by rw [hTick]; decide), hFound]
    rfl
  have hRemembers : Prediction.Remembers { client with lastAppliedTick := 1 } (cmd :: List.replicate 64 {}) kept :=
    ⟨hSynced.remembers.seq, hSynced.remembers.kept_le, hSynced.remembers.history⟩
  refine ⟨?_, ?_⟩
  · have hDrop : (65 : Nat) - min 64 (65 - (0 : U32).toNat) = 1 := rfl
    rw [hSnap, reconcile_position hRemembers (by rw [hLen]; decide), hLen, hKept, hDrop, List.drop_one, List.tail_cons]
    exact trace_still spawn 64
  · rw [hSynced.localState, trace_cons]
    exact trace_still _ 64

/-- Without the two conditions: a step of 1365/256 px does not survive the wire, and 65 inputs do not fit the history. -/
theorem reconciliation_moves_player :
    (¬ ∀ l, Reach 0 spawn (fun _ _ => True) l → l.client.mispredictions = 0) ∧
    (¬ ∀ l, Reach 0 spawn (WireExact 0) l → ∀ snap ∈ l.published, ∀ got, Carried snap got →
      (l.client.onSnapshot got 0).localState.position = l.client.localState.position) := by
  constructor
  · intro h
    have hStart : Reach 0 spawn (fun _ _ => True) begun := Reach.start 1
    have hTick := (hStart.localTick stepRight).serverTick (.consume stepRight rfl) _ (soloSnapshot_reports _)
    have hDelivered := hTick.deliver _ _ (List.mem_singleton.mpr rfl)
      ((carried_eq (soloSnapshot_count _ _ _)).mpr rfl) trivial
    have hClean := h _ hDelivered
    revert hClean
    decide +kernel
  · intro h
    have hAhead := walked_reach (WireExact 0) (stepRight :: List.replicate 64 {}) 0 (Nat.zero_le _)
    rw [walked_zero] at hAhead
    have hFresh := lastAppliedTick_foldl (stepRight :: List.replicate 64 {}) begun.client
    generalize (stepRight :: List.replicate 64 {}).foldl Prediction.onLocalTick begun.client = client at hAhead hFresh
    obtain ⟨hSnapped, hPredicted⟩ := replay_misses_first hFresh hAhead
    have hTick := hAhead.serverTick .idle _ (soloSnapshot_reports _)
    have hSame := h _ hTick _ (List.mem_singleton.mpr rfl) _ ((carried_eq (soloSnapshot_count _ _ _)).mpr rfl)
    have hStep : (movementStep { position := spawn } stepRight Map.arena).position ≠ spawn := by decide +kernel
    exact hStep (hPredicted.symm.trans (hSame.symm.trans hSnapped))

end Link
end CaptureTheFlag
