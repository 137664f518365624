import CaptureTheFlag.Server.Arena
import CaptureTheFlag.Shared.DeltaRoundtrip

/-! # The publishes of a run

Publishes stand at the multiples of a fixed stride, and a delta is computed from the publish one stride
before it.
-/
namespace CaptureTheFlag
set_option autoImplicit false
open Protocol BigEndian

namespace Sim

/-- What one publish sends, of which snapshot, and against which baseline. -/
structure Publish where
  event : OutboundEvent
  snapshot : WorldSnapshot
  baseline : WorldSnapshot

/-- The acks that `publish` collects. -/
def acked (s : Sim) : Sim :=
  { s with
    playerAcks := fun id => if (s.players id).active then (s.players id).lastInputSeq else s.playerAcks id
    snapshot := s.worldSnapshot }

@[simp] theorem acked_outbound (s : Sim) : s.acked.outbound = s.outbound := rfl

def toPublish (s : Sim) : Publish :=
  { event := s.acked.snapshotEvent s.worldSnapshot
    snapshot := s.worldSnapshot
    baseline := s.prevPublished }

theorem toPublish_tick (s : Sim) : s.toPublish.snapshot.tick = s.currentTick := rfl

theorem toPublish_baseline (s : Sim) : s.toPublish.baseline = s.prevPublished := rfl

theorem toPublish_snapshot (s : Sim) : s.toPublish.snapshot = s.worldSnapshot := rfl

/-- The publish of one tick, if it is due. -/
def tickPublishes (rayDir : RayDir) (s : Sim) (cmds : List InboundCommand) : List Publish :=
  if (s.published rayDir cmds).publishDue then [(s.published rayDir cmds).toPublish] else []

def publishes (rayDir : RayDir) (s : Sim) : List (List InboundCommand) → List Publish
  | [] => []
  | cmds :: ticks => s.tickPublishes rayDir cmds ++ (s.tick rayDir cmds).publishes rayDir ticks

theorem publishes_snoc (rayDir : RayDir) (s : Sim) (ticks : List (List InboundCommand)) (cmds : List InboundCommand) :
    s.publishes rayDir (ticks ++ [cmds]) = s.publishes rayDir ticks ++ (s.run rayDir ticks).tickPublishes rayDir cmds := by
  induction ticks generalizing s with
  | nil => simp [publishes, run]
  | cons first ticks ih => rw [List.cons_append, publishes, publishes, ih, List.append_assoc, run_cons]

theorem publish_due (s : Sim) (h : s.publishDue = true) :
    s.publish =
      { s.acked.push s.toPublish.event with
        prevPublished := s.worldSnapshot
        havePublished := true
        snapshotsPublished := s.snapshotsPublished + 1 } := by
  have hDue : s.acked.publishDue = true := h
  simp only [publish]
  exact if_pos hDue

theorem publish_not_due (s : Sim) (h : s.publishDue = false) : s.publish = s.acked := by
  have hDue : ¬ s.acked.publishDue = true := by
    rw [show s.acked.publishDue = s.publishDue from rfl, h]
    decide
  simp only [publish]
  exact if_neg hDue

theorem toPublish_isSnapshot (s : Sim) : s.toPublish.event.isSnapshot = true := by
  simp only [toPublish, snapshotEvent, OutboundEvent.isSnapshot]
  split <;> rfl

theorem filter_game {events : List OutboundEvent} (h : ∀ ev ∈ events, ev.isSnapshot = false) :
    events.filter (·.isSnapshot) = [] :=
  List.filter_eq_nil_iff.mpr (fun ev hMem => by rw [h ev hMem]; decide)

theorem tick_snapshots (rayDir : RayDir) (s : Sim) (cmds : List InboundCommand) :
    (s.tick rayDir cmds).outbound.filter (·.isSnapshot) =
      s.outbound.filter (·.isSnapshot) ++ (s.tickPublishes rayDir cmds).map (·.event) := by
  obtain ⟨game, hGame, hNone⟩ := (published_publisher rayDir s cmds).outbound
  have hOutbound : (s.tick rayDir cmds).outbound = (s.published rayDir cmds).publish.outbound := by
    rw [tick_eq_publish]
  rw [hOutbound, tickPublishes]
  cases hDue : (s.published rayDir cmds).publishDue with
  | true =>
    rw [publish_due _ hDue]
    have hPushed : ((s.published rayDir cmds).acked.push (s.published rayDir cmds).toPublish.event).outbound =
        s.outbound ++ game ++ [(s.published rayDir cmds).toPublish.event] := by
      rw [← hGame, Sim.push, acked_outbound]
    simp only [hPushed, List.filter_append, filter_game hNone, List.append_nil, if_true, List.map_cons, List.map_nil]
    rw [List.filter_cons_of_pos (toPublish_isSnapshot _), List.filter_nil]
  | false =>
    rw [publish_not_due _ hDue]
    simp only [acked_outbound, hGame, List.filter_append, filter_game hNone, List.append_nil, Bool.false_eq_true,
      if_false, List.map_nil]

theorem run_snapshots (rayDir : RayDir) (s : Sim) (ticks : List (List InboundCommand)) :
    (s.run rayDir ticks).outbound.filter (·.isSnapshot) =
      s.outbound.filter (·.isSnapshot) ++ (s.publishes rayDir ticks).map (·.event) := by
  induction ticks generalizing s with
  | nil => simp [publishes, run]
  | cons cmds ticks ih =>
    rw [run_cons, ih, tick_snapshots, publishes, List.map_append, List.append_assoc]

structure Publish.Sound (p : Publish) : Prop where
  count : p.snapshot.playerCount.toNat ≤ kMaxPlayers
  positions : ∀ n : Fin kMaxPlayers, n.val < p.snapshot.playerCount.toNat →
    (p.snapshot.players n).motion.position.OnWire
  seq : p.snapshot.lastInputSeq = 0
  tick : p.event.tick = p.snapshot.tick
  body : (p.event.type = .udpSnapshot ∧ p.event.payload = worldSnapshotBytes p.snapshot) ∨
    (p.event.type = .udpDeltaSnapshot ∧ p.event.payload = deltaSnapshotBytes p.snapshot p.baseline)

theorem length_activeIds (s : Sim) : s.activeIds.length ≤ 10 := by
  refine (List.length_filter_le _ _).trans ?_
  rw [List.length_finRange]

theorem toNat_playerCount (s : Sim) : s.worldSnapshot.playerCount.toNat = s.activeIds.length := by
  have hLe := length_activeIds s
  simp only [worldSnapshot, BitVec.toNat_ofNat]
  omega

theorem toPublish_sound (s : Sim) (h : s.InArena) : s.toPublish.Sound := by
  have hCount := toNat_playerCount s
  have hLe := length_activeIds s
  refine ⟨by rw [toPublish, hCount]; exact hLe, ?_, rfl, rfl, ?_⟩
  · intro n hn
    have hIn : n.val < s.activeIds.length := by rw [← hCount]; exact hn
    have hSlot : s.worldSnapshot.players n = playerState s.activeIds[n.val] (s.players s.activeIds[n.val]) := by
      simp only [worldSnapshot, List.getElem?_eq_getElem hIn]
    have hActive : (s.players s.activeIds[n.val]).active = true :=
      (List.mem_filter.mp (List.getElem_mem hIn)).2
    simp only [toPublish, hSlot, playerState]
    exact Map.onWire_of_not_collides _ _ (h _ hActive)
  · simp only [toPublish, snapshotEvent]
    cases s.acked.keyframeDue with
    | true =>
      refine Or.inl ⟨rfl, ?_⟩
      have hFits := length_worldSnapshotBytes s.worldSnapshot
      have hBytes := (emits_encodeWorldSnapshot s.worldSnapshot).fresh kPayloadDataBytes
        (by simp only [kPayloadDataBytes]; omega)
      simp only [if_true, hBytes]
    | false =>
      refine Or.inr ⟨rfl, ?_⟩
      have hFits := length_deltaSnapshotBytes s.worldSnapshot s.prevPublished
      have hBytes := (emits_encodeDeltaSnapshot s.worldSnapshot s.prevPublished).fresh kPayloadDataBytes
        (by simp only [kPayloadDataBytes]; omega)
      simp only [Bool.false_eq_true, if_false, acked, hBytes]

/-- Ticks from one publish to the next. -/
def stride (s : Sim) : Nat := if s.snapshotDiv ≤ 1 then 1 else s.snapshotDiv.toNat

theorem stride_pos (s : Sim) : 0 < s.stride := by
  rw [stride]
  split <;> omega

theorem publishDue_iff (s : Sim) : s.publishDue = true ↔ s.stride ∣ s.currentTick.toNat := by
  simp only [publishDue, stride, decide_eq_true_eq, Nat.dvd_iff_mod_eq_zero]
  by_cases hDiv : s.snapshotDiv ≤ 1
  · simp [hDiv, Nat.mod_one]
  · simp only [hDiv, false_or, if_false]

theorem stride_congr {s s' : Sim} (hTick : s'.tickHz = s.tickHz) (hSnapshot : s'.snapshotHz = s.snapshotHz) :
    s'.stride = s.stride := by
  rw [stride, stride, snapshotDiv, snapshotDiv, hTick, hSnapshot]

/-- The publishes `pubs` of the first `n` ticks, seen from the state after them. -/
structure History (s : Sim) (pubs : List Publish) (n : Nat) : Prop where
  clock : s.currentTick.toNat = n
  started : s.havePublished = true ↔ 0 < n
  last : 0 < n → ∃ q ∈ pubs, q.snapshot = s.prevPublished ∧ q.snapshot.tick.toNat = (n - 1) / s.stride * s.stride
  sound : ∀ p ∈ pubs, p.Sound
  ticks : ∀ p ∈ pubs, s.stride ∣ p.snapshot.tick.toNat ∧ p.snapshot.tick.toNat < n
  chained : ∀ p ∈ pubs, p.event.type = .udpDeltaSnapshot →
    ∃ q ∈ pubs, q.snapshot = p.baseline ∧ q.snapshot.tick.toNat + s.stride = p.snapshot.tick.toNat
  distinct : ∀ p ∈ pubs, ∀ q ∈ pubs, p.snapshot.tick = q.snapshot.tick → p = q

theorem toPublish_delta {s : Sim} (h : s.toPublish.event.type = .udpDeltaSnapshot) : s.havePublished = true := by
  by_contra hNot
  have hNone : s.acked.havePublished = false := by simpa [acked] using hNot
  have hKey : s.acked.keyframeDue = true := by simp [keyframeDue, hNone]
  simp only [toPublish, snapshotEvent, hKey, if_true] at h
  cases h

theorem published_inArena (rayDir : RayDir) (s : Sim) (cmds : List InboundCommand) (h : s.InArena) :
    (s.published rayDir cmds).InArena := by
  refine (inArena_preserved.tick rayDir s cmds h).congr ?_
  simp only [tick_eq_publish, publish_players]

theorem tick_publisher (rayDir : RayDir) (s : Sim) (cmds : List InboundCommand) :
    (s.tick rayDir cmds).stride = s.stride ∧ (s.tick rayDir cmds).currentTick = s.currentTick + 1 ∧
      ((s.published rayDir cmds).publishDue = true →
        (s.tick rayDir cmds).havePublished = true ∧
          (s.tick rayDir cmds).prevPublished = (s.published rayDir cmds).worldSnapshot) ∧
      ((s.published rayDir cmds).publishDue = false →
        (s.tick rayDir cmds).havePublished = s.havePublished ∧
          (s.tick rayDir cmds).prevPublished = s.prevPublished) := by
  have hSame := published_publisher rayDir s cmds
  rw [tick_eq_publish]
  generalize s.published rayDir cmds = m at hSame ⊢
  have hRates : m.publish.tickHz = m.tickHz ∧ m.publish.snapshotHz = m.snapshotHz := by
    simp only [publish]
    split <;> exact ⟨rfl, rfl⟩
  refine ⟨stride_congr (hRates.1.trans hSame.tickHz) (hRates.2.trans hSame.snapshotHz), ?_, ?_, ?_⟩
  · simp only [publish_currentTick, hSame.currentTick]
  · intro hDue
    rw [publish_due m hDue]
    exact ⟨rfl, rfl⟩
  · intro hDue
    rw [publish_not_due m hDue]
    exact ⟨hSame.havePublished, hSame.prevPublished⟩

/-- A tick that publishes nothing keeps the history. -/
theorem History.idle {s t : Sim} {pubs : List Publish} {n : Nat} (h : History s pubs n)
    (hStride : t.stride = s.stride) (hTick : t.currentTick.toNat = n + 1)
    (hHave : t.havePublished = s.havePublished) (hPrev : t.prevPublished = s.prevPublished)
    (hNot : ¬ s.stride ∣ n) : History t pubs (n + 1) := by
  have hPos : 0 < n := Nat.pos_of_ne_zero (fun hZero => hNot (hZero ▸ dvd_zero _))
  have hDiv : n / s.stride = (n - 1) / s.stride := by
    have hSucc := @Nat.succ_div (n - 1) s.stride
    rw [show n - 1 + 1 = n by omega, if_neg hNot] at hSucc
    exact hSucc
  refine ⟨hTick, ?_, ?_, h.sound, ?_, ?_, h.distinct⟩
  · rw [hHave, h.started]
    omega
  · intro _
    obtain ⟨q, hMem, hLast, hAt⟩ := h.last hPos
    refine ⟨q, hMem, hLast.trans hPrev.symm, ?_⟩
    rw [hStride, Nat.add_sub_cancel, hDiv]
    exact hAt
  · intro p hMem
    rw [hStride]
    exact ⟨(h.ticks p hMem).1, Nat.lt_succ_of_lt (h.ticks p hMem).2⟩
  · rw [hStride]
    exact h.chained

/-- The publish one stride before tick `n` is the one that `prevPublished` holds. -/
theorem History.previous {s : Sim} {pubs : List Publish} {n : Nat} (h : History s pubs n)
    (hStarted : s.havePublished = true) (hDvd : s.stride ∣ n) :
    ∃ q ∈ pubs, q.snapshot = s.prevPublished ∧ q.snapshot.tick.toNat + s.stride = n := by
  have hPos := h.started.mp hStarted
  obtain ⟨q, hMem, hLast, hAt⟩ := h.last hPos
  refine ⟨q, hMem, hLast, ?_⟩
  have hSucc := @Nat.succ_div (n - 1) s.stride
  rw [show n - 1 + 1 = n by omega, if_pos hDvd] at hSucc
  rw [hAt, ← Nat.add_one_mul, ← hSucc, Nat.div_mul_cancel hDvd]

theorem History.ne_now {s : Sim} {pubs : List Publish} {n : Nat} (h : History s pubs n) {p now : Publish}
    (hMem : p ∈ pubs) (hNow : now.snapshot.tick.toNat = n) : p.snapshot.tick ≠ now.snapshot.tick := by
  intro hEq
  have hBefore := (h.ticks p hMem).2
  rw [hEq, hNow] at hBefore
  exact absurd hBefore (Nat.lt_irrefl n)

/-- A publish at a multiple of the stride extends the history. -/
theorem History.snoc {s t : Sim} {pubs : List Publish} {n : Nat} {now : Publish} (h : History s pubs n)
    (hStride : t.stride = s.stride) (hTick : t.currentTick.toNat = n + 1) (hHave : t.havePublished = true)
    (hPrev : t.prevPublished = now.snapshot) (hDvd : s.stride ∣ n) (hSound : now.Sound)
    (hNow : now.snapshot.tick.toNat = n) (hBaseline : now.baseline = s.prevPublished)
    (hDelta : now.event.type = .udpDeltaSnapshot → s.havePublished = true) :
    History t (pubs ++ [now]) (n + 1) := by
  constructor
  · exact hTick
  · rw [hHave]
    exact ⟨fun _ => Nat.succ_pos n, fun _ => rfl⟩
  · intro _
    refine ⟨now, by simp, hPrev.symm, ?_⟩
    rw [hStride, Nat.add_sub_cancel, Nat.div_mul_cancel hDvd, hNow]
  · intro p hMem
    rcases List.mem_append.mp hMem with hMem | hMem
    · exact h.sound p hMem
    · rw [List.mem_singleton.mp hMem]
      exact hSound
  · intro p hMem
    rw [hStride]
    rcases List.mem_append.mp hMem with hMem | hMem
    · exact ⟨(h.ticks p hMem).1, Nat.lt_succ_of_lt (h.ticks p hMem).2⟩
    · rw [List.mem_singleton.mp hMem, hNow]
      exact ⟨hDvd, Nat.lt_succ_self n⟩
  · intro p hMem hType
    rw [hStride]
    rcases List.mem_append.mp hMem with hMem | hMem
    · obtain ⟨q, hq, hBase, hAt⟩ := h.chained p hMem hType
      exact ⟨q, List.mem_append_left _ hq, hBase, hAt⟩
    · rw [List.mem_singleton.mp hMem] at hType ⊢
      obtain ⟨q, hq, hLast, hAt⟩ := h.previous (hDelta hType) hDvd
      refine ⟨q, List.mem_append_left _ hq, hLast.trans hBaseline.symm, ?_⟩
      rw [hAt, hNow]
  · intro p hp q hq hSameTick
    rcases List.mem_append.mp hp with hp | hp <;> rcases List.mem_append.mp hq with hq | hq
    · exact h.distinct p hp q hq hSameTick
    · rw [List.mem_singleton.mp hq] at hSameTick
      exact absurd hSameTick (h.ne_now hp hNow)
    · rw [List.mem_singleton.mp hp] at hSameTick
      exact absurd hSameTick.symm (h.ne_now hq hNow)
    · rw [List.mem_singleton.mp hp, List.mem_singleton.mp hq]

theorem History.tick {rayDir : RayDir} {s : Sim} {pubs : List Publish} {n : Nat} (h : History s pubs n)
    (hArena : s.InArena) (cmds : List InboundCommand) (hn : n + 1 < 2 ^ 32) :
    History (s.tick rayDir cmds) (pubs ++ s.tickPublishes rayDir cmds) (n + 1) := by
  obtain ⟨hStride, hClock, hDue, hIdle⟩ := tick_publisher rayDir s cmds
  have hSame := published_publisher rayDir s cmds
  have hTick : (s.tick rayDir cmds).currentTick.toNat = n + 1 := by
    rw [hClock, BitVec.toNat_add, h.clock]
    exact Nat.mod_eq_of_lt hn
  have hPublishDue := publishDue_iff (s.published rayDir cmds)
  rw [stride_congr hSame.tickHz hSame.snapshotHz, hSame.currentTick, h.clock] at hPublishDue
  rw [tickPublishes]
  cases hCase : (s.published rayDir cmds).publishDue with
  | false =>
    have hNot : ¬ s.stride ∣ n := by
      rw [← hPublishDue, hCase]
      decide
    obtain ⟨hHave, hPrev⟩ := hIdle hCase
    simp only [Bool.false_eq_true, if_false, List.append_nil]
    exact h.idle hStride hTick hHave hPrev hNot
  | true =>
    obtain ⟨hHave, hPrev⟩ := hDue hCase
    simp only [if_true]
    refine h.snoc hStride hTick hHave hPrev (hPublishDue.mp hCase) ?_ ?_ ?_ ?_
    · exact toPublish_sound _ (published_inArena rayDir s cmds hArena)
    · rw [toPublish_tick, hSame.currentTick, h.clock]
    · exact (toPublish_baseline _).trans hSame.prevPublished
    · intro hType
      rw [← hSame.havePublished]
      exact toPublish_delta hType

theorem configured_inArena (tickHz snapshotHz : Int) (delta : Bool) : (configured tickHz snapshotHz delta).InArena := by
  intro id hActive
  cases hActive

theorem publishes_sound (rayDir : RayDir) {s : Sim} (h : s.InArena) (ticks : List (List InboundCommand)) :
    ∀ p ∈ s.publishes rayDir ticks, p.Sound := by
  induction ticks generalizing s with
  | nil => exact fun p hMem => nomatch hMem
  | cons cmds ticks ih =>
    intro p hMem
    rw [publishes, List.mem_append, tickPublishes] at hMem
    rcases hMem with hNow | hLater
    · split at hNow
      · rw [List.mem_singleton.mp hNow]
        exact toPublish_sound _ (published_inArena rayDir s cmds h)
      · cases hNow
    · exact ih (inArena_preserved.tick rayDir s cmds h) p hLater

theorem history (rayDir : RayDir) (tickHz snapshotHz : Int) (delta : Bool) (ticks : List (List InboundCommand))
    (hShort : ticks.length < 2 ^ 32) :
    History ((configured tickHz snapshotHz delta).run rayDir ticks)
      ((configured tickHz snapshotHz delta).publishes rayDir ticks) ticks.length := by
  induction ticks using List.reverseRecOn with
  | nil =>
    have hEmpty : ∀ p : Publish, p ∉ (configured tickHz snapshotHz delta).publishes rayDir [] := fun p hMem => nomatch hMem
    have hFresh : ((configured tickHz snapshotHz delta).run rayDir []).havePublished = false := rfl
    refine ⟨rfl, by simp [hFresh], fun hNo => absurd hNo (Nat.lt_irrefl 0), ?_, ?_, ?_, ?_⟩
    all_goals exact fun p hMem => absurd hMem (hEmpty p)
  | append_singleton ticks cmds ih =>
    rw [List.length_append, List.length_singleton] at hShort ⊢
    rw [run_snoc, publishes_snoc]
    exact (ih (by omega)).tick (inArena_preserved.run rayDir _ ticks (configured_inArena _ _ _)) cmds hShort

end Sim
end CaptureTheFlag
