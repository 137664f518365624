import CaptureTheFlag.Server.PublishHistory

/-! # The keyframe cadence

In delta mode every `kSnapshotKeyframeInterval`-th publish of a run is a full snapshot, and every publish is
computed against the one before it.
-/
namespace CaptureTheFlag
set_option autoImplicit false
open Protocol

namespace Sim

theorem toPublish_keyframe (s : Sim) : s.toPublish.event.type = .udpSnapshot ↔ s.keyframeDue = true := by
  have hAcked : s.acked.keyframeDue = s.keyframeDue := rfl
  simp only [toPublish, snapshotEvent, hAcked]
  cases s.keyframeDue <;> simp

/-- The publishes `pubs` of a run in delta mode, by their numbers. -/
structure Cadence (s : Sim) (pubs : List Publish) : Prop where
  mode : s.deltaSnapshots = true
  count : s.snapshotsPublished.toNat = pubs.length
  started : s.havePublished = true ↔ 0 < pubs.length
  last : ∀ p, pubs.getLast? = some p → p.snapshot = s.prevPublished
  keys : ∀ k p, pubs[k]? = some p → (p.event.type = .udpSnapshot ↔ k % kSnapshotKeyframeInterval = 0)
  follows : ∀ k p q, pubs[k]? = some p → pubs[k + 1]? = some q → q.baseline = p.snapshot

theorem tick_counters (rayDir : RayDir) (s : Sim) (cmds : List InboundCommand) :
    (s.tick rayDir cmds).deltaSnapshots = s.deltaSnapshots ∧
      ((s.published rayDir cmds).publishDue = true →
        (s.tick rayDir cmds).snapshotsPublished = s.snapshotsPublished + 1) ∧
      ((s.published rayDir cmds).publishDue = false →
        (s.tick rayDir cmds).snapshotsPublished = s.snapshotsPublished) := by
  have hSame := published_publisher rayDir s cmds
  rw [tick_eq_publish]
  generalize s.published rayDir cmds = m at hSame ⊢
  have hMode : m.publish.deltaSnapshots = m.deltaSnapshots := by
    simp only [publish]
    split <;> rfl
  refine ⟨hMode.trans hSame.deltaSnapshots, ?_, ?_⟩
  · intro hDue
    rw [publish_due m hDue, ← hSame.snapshotsPublished]
  · intro hDue
    rw [publish_not_due m hDue, ← hSame.snapshotsPublished]
    rfl

theorem keyframeDue_of_cadence {s m : Sim} {pubs : List Publish} (h : Cadence s pubs) (hSame : SamePublisher s m) :
    m.keyframeDue = true ↔ pubs.length % kSnapshotKeyframeInterval = 0 := by
  rw [keyframeDue, hSame.deltaSnapshots, hSame.havePublished, hSame.snapshotsPublished, h.mode, h.count]
  have hStarted := h.started
  by_cases hNone : pubs.length = 0
  · simp [hNone]
  · simp [hStarted.mpr (Nat.pos_of_ne_zero hNone)]

theorem Cadence.tick {rayDir : RayDir} {s : Sim} {pubs : List Publish} (h : Cadence s pubs) (cmds : List InboundCommand)
    (hShort : pubs.length + 1 < 2 ^ 32) : Cadence (s.tick rayDir cmds) (pubs ++ s.tickPublishes rayDir cmds) := by
  obtain ⟨hMode, hCounted, hUncounted⟩ := tick_counters rayDir s cmds
  obtain ⟨-, -, hDue, hIdle⟩ := tick_publisher rayDir s cmds
  have hSame := published_publisher rayDir s cmds
  have hKey := (toPublish_keyframe (s.published rayDir cmds)).trans (keyframeDue_of_cadence h hSame)
  have hBaseline := (toPublish_baseline (s.published rayDir cmds)).trans hSame.prevPublished
  have hSnapshot := toPublish_snapshot (s.published rayDir cmds)
  rw [tickPublishes]
  generalize s.published rayDir cmds = m at *
  cases hCase : m.publishDue with
  | false =>
    obtain ⟨hHave, hPrev⟩ := hIdle hCase
    simp only [Bool.false_eq_true, if_false, List.append_nil]
    exact ⟨hMode.trans h.mode, by rw [hUncounted hCase, h.count], by rw [hHave, h.started],
      fun p hLast => (h.last p hLast).trans hPrev.symm, h.keys, h.follows⟩
  | true =>
    obtain ⟨hHave, hPrev⟩ := hDue hCase
    simp only [if_true]
    have hAt : ∀ k p, (pubs ++ [m.toPublish])[k]? = some p →
        pubs[k]? = some p ∨ k = pubs.length ∧ p = m.toPublish := by
      intro k p hk
      rcases Nat.lt_or_ge k pubs.length with hOld | hNew
      · rw [List.getElem?_append_left hOld] at hk
        exact Or.inl hk
      · rw [List.getElem?_append_right hNew, List.getElem?_singleton] at hk
        split at hk
        · cases hk
          exact Or.inr ⟨by omega, rfl⟩
        · cases hk
    constructor
    · exact hMode.trans h.mode
    · rw [hCounted hCase, BitVec.toNat_add, h.count, List.length_append, List.length_singleton]
      exact Nat.mod_eq_of_lt hShort
    · simp [hHave]
    · intro p hLast
      rw [List.getLast?_concat] at hLast
      cases hLast
      exact hSnapshot.trans hPrev.symm
    · intro k p hk
      rcases hAt k p hk with hOld | ⟨rfl, rfl⟩
      · exact h.keys k p hOld
      · exact hKey
    · intro k p q hk hNext
      rcases hAt (k + 1) q hNext with hOld | ⟨hLength, rfl⟩
      · have hLt : k < pubs.length := by
          have := (List.getElem?_eq_some_iff.mp hOld).1
          omega
        rw [List.getElem?_append_left hLt] at hk
        exact h.follows k p q hk hOld
      · have hLt : k < pubs.length := by omega
        rw [List.getElem?_append_left hLt] at hk
        have hLast : pubs.getLast? = some p := by
          rw [List.getLast?_eq_getElem?, ← hLength, Nat.add_sub_cancel]
          exact hk
        rw [hBaseline, h.last p hLast]

theorem length_publishes (rayDir : RayDir) (s : Sim) (ticks : List (List InboundCommand)) :
    (s.publishes rayDir ticks).length ≤ ticks.length := by
  induction ticks generalizing s with
  | nil => exact Nat.le_refl 0
  | cons cmds ticks ih =>
    have hOne : (s.tickPublishes rayDir cmds).length ≤ 1 := by
      rw [tickPublishes]
      split <;> simp
    have hRest := ih (s.tick rayDir cmds)
    rw [publishes, List.length_append, List.length_cons]
    omega

theorem cadence (rayDir : RayDir) (tickHz snapshotHz : Int) (ticks : List (List InboundCommand))
    (hShort : ticks.length < 2 ^ 32) :
    Cadence ((configured tickHz snapshotHz true).run rayDir ticks)
      ((configured tickHz snapshotHz true).publishes rayDir ticks) := by
  induction ticks using List.reverseRecOn with
  | nil =>
    have hFresh : ((configured tickHz snapshotHz true).run rayDir []).havePublished = false := rfl
    have hEmpty : (configured tickHz snapshotHz true).publishes rayDir [] = [] := rfl
    rw [hEmpty]
    refine ⟨rfl, rfl, by simp [hFresh], ?_, ?_, ?_⟩
    · intro p hLast
      cases hLast
    · intro k p hk
      cases hk
    · intro k p q hk
      cases hk
  | append_singleton ticks cmds ih =>
    rw [List.length_append, List.length_singleton] at hShort
    have hLength := length_publishes rayDir (configured tickHz snapshotHz true) ticks
    rw [run_snoc, publishes_snoc]
    exact (ih (by omega)).tick cmds (by omega)

theorem Cadence.keyframe_among {s : Sim} {earlier window later : List Publish}
    (h : Cadence s (earlier ++ window ++ later)) (hLength : window.length = kSnapshotKeyframeInterval) :
    ∃ before key after, window = before ++ key :: after ∧ key.event.type = .udpSnapshot := by
  -- The next multiple of the interval lies in the window.
  have hMod := Nat.mod_lt earlier.length (show 0 < kSnapshotKeyframeInterval by decide)
  let j := (kSnapshotKeyframeInterval - earlier.length % kSnapshotKeyframeInterval) % kSnapshotKeyframeInterval
  have hj : j < window.length := by
    rw [hLength]
    exact Nat.mod_lt _ (by decide)
  refine ⟨window.take j, window[j], window.drop (j + 1), ?_, ?_⟩
  · rw [← List.drop_eq_getElem_cons hj, List.take_append_drop]
  · refine (h.keys (earlier.length + j) window[j] ?_).mpr ?_
    · rw [List.append_assoc, List.getElem?_append_right (by omega), Nat.add_sub_cancel_left,
        List.getElem?_append_left hj, List.getElem?_eq_getElem hj]
    · simp only [j, kSnapshotKeyframeInterval] at hMod ⊢
      omega

theorem Cadence.follows_split {s : Sim} {earlier later : List Publish} {p q : Publish}
    (h : Cadence s (earlier ++ p :: q :: later)) : q.baseline = p.snapshot := by
  refine h.follows earlier.length p q ?_ ?_
  · rw [List.getElem?_append_right (Nat.le_refl _), Nat.sub_self]
    rfl
  · rw [List.getElem?_append_right (Nat.le_add_right _ 1), Nat.add_sub_cancel_left]
    rfl

theorem run_stride (rayDir : RayDir) (s : Sim) (ticks : List (List InboundCommand)) :
    (s.run rayDir ticks).stride = s.stride := by
  induction ticks generalizing s with
  | nil => rfl
  | cons cmds ticks ih => rw [run_cons, ih, (tick_publisher rayDir s cmds).1]

/-- At the default tick rate no snapshot rate spaces the publishes more than a second apart. -/
theorem stride_default (snapshotHz : Int) (delta : Bool) : (configured kTickRateHz snapshotHz delta).stride ≤ 30 := by
  have hTick : (configured kTickRateHz snapshotHz delta).tickHz = 30 := rfl
  have hRate : 0 < (configured kTickRateHz snapshotHz delta).snapshotHz := by
    simp only [configured, setDeltaSnapshots, setSnapshotRate]
    split
    · assumption
    · decide
  have hLe : (30 : Int).tdiv (configured kTickRateHz snapshotHz delta).snapshotHz ≤ 30 := by
    rw [Int.tdiv_eq_ediv_of_nonneg (by decide)]
    exact Int.ediv_le_self _ (by decide)
  rw [stride, snapshotDiv, hTick]
  split <;> omega

end Sim
end CaptureTheFlag
