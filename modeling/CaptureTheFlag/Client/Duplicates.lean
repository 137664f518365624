import CaptureTheFlag.Client.SnapshotAgreement
import CaptureTheFlag.Shared.DeltaBlind

/-! # Datagrams that arrive twice

The client takes every delta whose baseline it does not hold for the sign of a loss, a copy of one it has
applied among them. Two runs, one with extra copies, are compared by the ticks the game sees.
-/
namespace CaptureTheFlag
set_option autoImplicit false
open Protocol Sim

namespace NetClient

def basis (c : NetClient) : Option U32 := if c.haveLastSnapshot then some c.lastSnapshotCache.tick else none

/-- The ticks of the snapshots accepted so far, in order. -/
def acceptedTicks (c : NetClient) : List U32 := c.pendingSnapshots.map (·.tick)

/-- Both clients accept the same ticks of a datagram, and hold the same tick afterwards. -/
def Twins (a b a' b' : NetClient) : Prop :=
  a'.basis = b'.basis ∧ ∃ ticks, a'.acceptedTicks = a.acceptedTicks ++ ticks ∧
    b'.acceptedTicks = b.acceptedTicks ++ ticks ∧ ∀ t, b'.basis = some t → b.basis = some t ∨ t ∈ ticks

theorem twins_same {a b : NetClient} (h : a.basis = b.basis) : Twins a b a b :=
  ⟨h, [], (List.append_nil _).symm, (List.append_nil _).symm, fun _ hHeld => Or.inl hHeld⟩

theorem basis_valid {c : NetClient} (h : c.haveLastSnapshot = true) : c.basis = some c.lastSnapshotCache.tick := by
  rw [basis, if_pos h]

theorem basis_invalid {c : NetClient} (h : c.haveLastSnapshot = false) : c.basis = none := by
  rw [basis, h]
  rfl

theorem onWorldSnapshot_twins {a b : NetClient} (h : a.basis = b.basis) (payload : List U8) :
    Twins a b (a.onWorldSnapshot payload) (b.onWorldSnapshot payload) := by
  simp only [onWorldSnapshot]
  split
  · rename_i snap _ _
    refine ⟨rfl, [snap.tick], by simp [acceptedTicks], by simp [acceptedTicks], fun t hHeld => ?_⟩
    cases hHeld
    exact Or.inr List.mem_cons_self
  · exact twins_same h

theorem onDeltaSnapshot_twins {a b : NetClient} (h : a.basis = b.basis) (tick : U32) (payload : List U8) :
    Twins a b (a.onDeltaSnapshot tick payload) (b.onDeltaSnapshot tick payload) := by
  cases ha : a.haveLastSnapshot with
  | false =>
    cases hb : b.haveLastSnapshot with
    | false =>
      simp only [onDeltaSnapshot, ha, hb, Bool.not_false, if_true]
      exact twins_same h
    | true =>
      rw [basis_invalid ha, basis_valid hb] at h
      cases h
  | true =>
    cases hb : b.haveLastSnapshot with
    | false =>
      rw [basis_valid ha, basis_invalid hb] at h
      cases h
    | true =>
      rw [basis_valid ha, basis_valid hb] at h
      have hBoth := (decodeDeltaSnapshot_blind tick (Option.some.inj h) ⟨payload, false⟩).2
      simp only [onDeltaSnapshot, ha, hb, Bool.not_true, Bool.false_eq_true, if_false]
      generalize decodeDeltaSnapshot tick a.lastSnapshotCache ⟨payload, false⟩ = x at hBoth ⊢
      generalize decodeDeltaSnapshot tick b.lastSnapshotCache ⟨payload, false⟩ = y at hBoth ⊢
      obtain ⟨out, r⟩ := x
      obtain ⟨out', r'⟩ := y
      cases hBoth with
      | none =>
        refine ⟨rfl, [], by simp [acceptedTicks], by simp [acceptedTicks], fun t hHeld => ?_⟩
        cases hHeld
      | some hTicks =>
        refine ⟨?_, [tick], ?_, ?_, fun t hHeld => ?_⟩
        · simp only [basis, hTicks.1, hTicks.2]
        · simp [acceptedTicks, hTicks.1]
        · simp [acceptedTicks, hTicks.2]
        · simp only [basis, hTicks.2, if_true, Option.some.injEq] at hHeld
          rw [← hHeld]
          exact Or.inr List.mem_cons_self

theorem receiveUdp_twins {a b : NetClient} (h : a.basis = b.basis) (d : List U8) :
    Twins a b (a.receiveUdp d) (b.receiveUdp d) := by
  simp only [receiveUdp]
  split
  · exact twins_same h
  · split
    · simp only [dispatchUdpPayload]
      split
      · exact onWorldSnapshot_twins h _
      · exact onDeltaSnapshot_twins h _ _
      · simp only [onShotFired]
        split
        · exact twins_same h
        · exact twins_same h
      · exact twins_same h
    · exact twins_same h

/-- The ticks that are newer than every one before them, `seen` included. -/
def newerThan (seen : List U32) : List U32 → List U32
  | [] => []
  | t :: ticks =>
    if seen.all (·.toNat < t.toNat) then t :: newerThan (seen ++ [t]) ticks else newerThan (seen ++ [t]) ticks

/-- The accepted ticks that Prediction and Interpolation do not discard as stale. -/
def newTicks (c : NetClient) : List U32 := newerThan [] c.acceptedTicks

theorem newerThan_append (seen ticks later : List U32) :
    newerThan seen (ticks ++ later) = newerThan seen ticks ++ newerThan (seen ++ ticks) later := by
  induction ticks generalizing seen with
  | nil => simp [newerThan]
  | cons t ticks ih =>
    rw [List.cons_append, newerThan, newerThan, ih, List.append_assoc, List.singleton_append]
    split <;> rfl

theorem newerThan_congr {seen seen' : List U32} (h : ∀ n, (∀ u ∈ seen, u.toNat < n) ↔ ∀ u ∈ seen', u.toNat < n)
    (ticks : List U32) : newerThan seen ticks = newerThan seen' ticks := by
  induction ticks generalizing seen seen' with
  | nil => rfl
  | cons t ticks ih =>
    have hNext : newerThan (seen ++ [t]) ticks = newerThan (seen' ++ [t]) ticks := by
      refine ih fun n => ?_
      simp only [List.mem_append, or_imp, forall_and, h n]
    have hNow : seen.all (·.toNat < t.toNat) = seen'.all (·.toNat < t.toNat) := by
      rw [Bool.eq_iff_iff]
      simp only [List.all_eq_true, decide_eq_true_eq]
      exact h t.toNat
    simp only [newerThan, hNow, hNext]

/-- `ds'` is `ds` with extra copies of datagrams already delivered, each of which meets `P` in the place where it
arrives. -/
inductive WithCopies (P : List (List U8) → List U8 → Prop) : List (List U8) → List (List U8) → Prop
  | nil : WithCopies P [] []
  | deliver {ds ds' : List (List U8)} (d : List U8) : WithCopies P ds ds' → WithCopies P (ds ++ [d]) (ds' ++ [d])
  | copy {ds ds' : List (List U8)} (d : List U8) : d ∈ ds → P ds' d → WithCopies P ds ds' → WithCopies P ds (ds' ++ [d])

/-- A copy of the publish `p` finds nothing to spoil: a delta comes while nothing is cached, a keyframe while the
cache holds its tick. -/
def Harmless (c : NetClient) (p : Publish) : Prop :=
  (p.event.type = .udpDeltaSnapshot → c.haveLastSnapshot = false) ∧
    (p.event.type = .udpSnapshot → c.haveLastSnapshot = true ∧ c.lastSnapshotCache.tick = p.snapshot.tick)

theorem harmless_copy {p : Publish} {i : Fin kMaxPlayers} {d : List U8} (hSound : p.Sound) (hSent : SentTo i p.event d)
    {c : NetClient} (h : Harmless c p) :
    (c.receiveUdp d).basis = c.basis ∧
      ∃ ticks, (c.receiveUdp d).acceptedTicks = c.acceptedTicks ++ ticks ∧ ∀ t ∈ ticks, c.basis = some t := by
  rcases receiveUdp_publish hSound hSent c with ⟨hKey, hStep⟩ | ⟨hDelta, hStep⟩
  · obtain ⟨hHave, hTick⟩ := h.2 hKey
    rw [hStep, onWorldSnapshot_run c (stamped p.snapshot (p.event.acks i)) hSound.count, basis_valid hHave, hTick]
    refine ⟨rfl, [p.snapshot.tick], ?_, fun t hMem => ?_⟩
    · simp only [acceptedTicks, List.map_append, List.map_cons, List.map_nil]
      rfl
    · rw [List.mem_singleton.mp hMem]
  · have hSame : c.receiveUdp d = c := by
      rw [hStep, onDeltaSnapshot, h.1 hDelta]
      rfl
    rw [hSame]
    exact ⟨rfl, [], (List.append_nil _).symm, fun t hMem => absurd hMem List.not_mem_nil⟩

theorem deltaTicksAgo_pos {current baseline : U32} (h : baseline.toNat < current.toNat) :
    0 < (deltaTicksAgo current baseline).toNat := by
  have hSub : (current - baseline).toNat = current.toNat - baseline.toNat :=
    BitVec.toNat_sub_of_le (by rw [BitVec.le_def]; omega)
  simp only [deltaTicksAgo, ge_iff_le, Nat.le_of_lt h, if_true]
  split
  · decide
  · rename_i hNear
    rw [BitVec.toNat_setWidth, hSub]
    rw [hSub] at hNear
    omega

theorem harmless_iff {s : Sim} {pubs : List Publish} {n : Nat} (hHistory : History s pubs n) {p : Publish} (hp : p ∈ pubs)
    {i : Fin kMaxPlayers} {d : List U8} (hSent : SentTo i p.event d) (c : NetClient) :
    (c.receiveUdp d).basis = c.basis ↔ Harmless c p := by
  have hSound := hHistory.sound p hp
  refine ⟨fun hSame => ?_, fun h => (harmless_copy hSound hSent h).1⟩
  rcases receiveUdp_publish hSound hSent c with ⟨hKey, hStep⟩ | ⟨hDelta, hStep⟩
  · refine ⟨fun hDelta => ?_, fun _ => ?_⟩
    · rw [hKey] at hDelta
      cases hDelta
    · rw [hStep, onWorldSnapshot_run c (stamped p.snapshot (p.event.acks i)) hSound.count] at hSame
      cases hHave : c.haveLastSnapshot with
      | false =>
        rw [basis_invalid hHave] at hSame
        cases hSame
      | true =>
        rw [basis_valid hHave] at hSame
        exact ⟨rfl, (Option.some.inj hSame).symm⟩
  · refine ⟨fun _ => ?_, fun hKey => ?_⟩
    · by_contra hValid
      have hHave : c.haveLastSnapshot = true := by simpa using hValid
      rw [basis_valid hHave, hStep] at hSame
      obtain ⟨b, -, hBase, hAt⟩ := hHistory.chained p hp hDelta
      have hAgo := @deltaTicksAgo_pos p.snapshot.tick p.baseline.tick (by rw [← hBase]; have := s.stride_pos; omega)
      simp only [onDeltaSnapshot, hHave, Bool.not_true, Bool.false_eq_true, if_false] at hSame
      cases hRun : decodeDeltaSnapshot p.snapshot.tick c.lastSnapshotCache
          ⟨deltaSnapshotBytes (stamped p.snapshot (p.event.acks i)) p.baseline, false⟩ with
      | mk out r =>
        rw [hRun] at hSame
        cases out with
        | none => cases hSame
        | some snap =>
          -- An applied delta moves the cache on, by at least one tick.
          have hStamp := (decodeDeltaSnapshot_blind p.snapshot.tick (Eq.refl c.lastSnapshotCache.tick)
            ⟨deltaSnapshotBytes (stamped p.snapshot (p.event.acks i)) p.baseline, false⟩).2
          rw [hRun] at hStamp
          obtain ⟨hTick, -⟩ | _ := hStamp
          rw [← List.append_nil (deltaSnapshotBytes _ _)] at hRun
          obtain ⟨hLe, hCache⟩ := decodeDeltaSnapshot_tick hRun
          have hMoved : snap.tick = c.lastSnapshotCache.tick := Option.some.inj hSame
          have hStampTick : (stamped p.snapshot (p.event.acks i)).tick = p.snapshot.tick := rfl
          rw [hTick, hCache, hStampTick] at hMoved
          rw [hStampTick] at hLe
          have hWide : ((deltaTicksAgo p.snapshot.tick p.baseline.tick).setWidth 32).toNat =
              (deltaTicksAgo p.snapshot.tick p.baseline.tick).toNat := by
            rw [BitVec.toNat_setWidth]
            omega
          have hNat := congrArg BitVec.toNat hMoved
          rw [BitVec.toNat_sub_of_le (by rw [BitVec.le_def, hWide]; exact hLe), hWide] at hNat
          omega
    · rw [hDelta] at hKey
      cases hKey

/-- The run `b` with copies looks like the run `a` without them. -/
structure Alike (a b : NetClient) : Prop where
  basis : a.basis = b.basis
  newTicks : a.newTicks = b.newTicks
  newest : ∀ n, (∀ u ∈ a.acceptedTicks, u.toNat < n) ↔ ∀ u ∈ b.acceptedTicks, u.toNat < n
  held : ∀ t, b.basis = some t → t ∈ b.acceptedTicks

theorem Alike.deliver {a b : NetClient} (h : Alike a b) (d : List U8) : Alike (a.receiveUdp d) (b.receiveUdp d) := by
  obtain ⟨hBasis, ticks, ha, hb, hHeld⟩ := receiveUdp_twins h.basis d
  refine ⟨hBasis, ?_, fun n => ?_, fun t hNow => ?_⟩
  · have hNew := h.newTicks
    rw [NetClient.newTicks, NetClient.newTicks] at hNew
    rw [NetClient.newTicks, NetClient.newTicks, ha, hb, newerThan_append, newerThan_append, hNew]
    rw [List.nil_append, List.nil_append, newerThan_congr h.newest]
  · rw [ha, hb]
    simp only [List.mem_append, or_imp, forall_and, h.newest n]
  · rw [hb, List.mem_append]
    exact (hHeld t hNow).imp_left (h.held t)

theorem Alike.copy {a b b' : NetClient} (h : Alike a b) (hBasis : b'.basis = b.basis) {ticks : List U32}
    (hTicks : b'.acceptedTicks = b.acceptedTicks ++ ticks) (hOld : ∀ t ∈ ticks, b.basis = some t) : Alike a b' := by
  have hSeen : ∀ t ∈ ticks, t ∈ b.acceptedTicks := fun t hMem => h.held t (hOld t hMem)
  have hNothing : ∀ seen : List U32, (∀ t ∈ ticks, t ∈ seen) → newerThan seen ticks = [] := by
    clear hTicks hOld hSeen
    induction ticks with
    | nil => exact fun _ _ => rfl
    | cons t ticks ih =>
      intro seen hMem
      have hStale : ¬ seen.all (·.toNat < t.toNat) = true := by
        intro hAll
        have hLess := List.all_eq_true.mp hAll t (hMem t List.mem_cons_self)
        exact Nat.lt_irrefl _ (of_decide_eq_true hLess)
      rw [newerThan, if_neg hStale]
      exact ih (seen ++ [t]) fun u hu => List.mem_append_left _ (hMem u (List.mem_cons_of_mem _ hu))
  refine ⟨h.basis.trans hBasis.symm, ?_, fun n => ?_, fun t hHeld => ?_⟩
  · rw [h.newTicks, NetClient.newTicks, NetClient.newTicks, hTicks, newerThan_append, List.nil_append, hNothing _ hSeen,
      List.append_nil]
  · rw [h.newest n, hTicks]
    simp only [List.mem_append, or_imp, forall_and]
    exact ⟨fun hAll => ⟨hAll, fun u hu => hAll u (hSeen u hu)⟩, fun hAll => hAll.1⟩
  · rw [hBasis] at hHeld
    rw [hTicks]
    exact List.mem_append_left _ (h.held t hHeld)

/-- The condition under which a copy may arrive: the client is in a state in which it is harmless. -/
def HarmlessIn (pubs : List Publish) (i : Fin kMaxPlayers) (before : List (List U8)) (d : List U8) : Prop :=
  ∀ p ∈ pubs, SentTo i p.event d → Harmless (receiveAll {} before) p

theorem alike_withCopies {pubs : List Publish} (hSound : ∀ p ∈ pubs, p.Sound) {i : Fin kMaxPlayers}
    {ds ds' : List (List U8)} (hSent : ∀ d ∈ ds, ∃ p ∈ pubs, SentTo i p.event d)
    (h : WithCopies (HarmlessIn pubs i) ds ds') : Alike (receiveAll {} ds) (receiveAll {} ds') := by
  induction h with
  | nil =>
    refine ⟨rfl, rfl, fun _ => Iff.rfl, ?_⟩
    intro t hHeld
    cases hHeld
  | @deliver ds ds' d _ ih =>
    rw [receiveAll_snoc, receiveAll_snoc]
    exact (ih fun d' hMem => hSent d' (List.mem_append_left _ hMem)).deliver d
  | @copy ds ds' d hMem hHarmless _ ih =>
    obtain ⟨p, hp, hd⟩ := hSent d hMem
    obtain ⟨hBasis, ticks, hTicks, hOld⟩ := harmless_copy (hSound p hp) hd (hHarmless p hp hd)
    rw [receiveAll_snoc]
    exact (ih hSent).copy hBasis hTicks hOld

/-- Copies that arrive when they are harmless change no new tick. -/
theorem harmless_copies (rayDir : RayDir) (tickHz snapshotHz : Int) (delta : Bool) (ticks : List (List InboundCommand))
    (i : Fin kMaxPlayers) (ds ds' : List (List U8))
    (hSent : ∀ d ∈ ds, ∃ ev ∈ ((configured tickHz snapshotHz delta).run rayDir ticks).outbound, SentTo i ev d)
    (hCopies : WithCopies (HarmlessIn ((configured tickHz snapshotHz delta).publishes rayDir ticks) i) ds ds') :
    (receiveAll {} ds').newTicks = (receiveAll {} ds).newTicks := by
  have hSound := publishes_sound rayDir (configured_inArena tickHz snapshotHz delta) ticks
  exact (alike_withCopies hSound (fun d hMem => publish_of_sent (hSent d hMem)) hCopies).newTicks.symm

theorem withCopies_first {P : List (List U8) → List U8 → Prop} (d₀ d₁ : List U8) (h : P [d₀] d₀) :
    WithCopies P [d₀, d₁] [d₀, d₀, d₁] :=
  @WithCopies.deliver P [d₀] [d₀, d₀] d₁ (@WithCopies.copy P [d₀] [d₀] d₀ List.mem_cons_self h
    (@WithCopies.deliver P [] [] d₀ .nil))

theorem withCopies_second {P : List (List U8) → List U8 → Prop} (d₀ d₁ d₂ : List U8) (h : P [d₀, d₁] d₁) :
    WithCopies P [d₀, d₁, d₂] [d₀, d₁, d₁, d₂] :=
  @WithCopies.deliver P [d₀, d₁] [d₀, d₁, d₁] d₂ (@WithCopies.copy P [d₀, d₁] [d₀, d₁] d₁
    (List.mem_cons_of_mem _ List.mem_cons_self) h
    (@WithCopies.deliver P [d₀] [d₀] d₁ (@WithCopies.deliver P [] [] d₀ .nil)))

def sentAt (k : Nat) : List U8 := twiceReceived.getD k []

theorem sentAt_sent (k : Nat) (hk : k < 6) :
    ∃ ev ∈ ((configured 30 30 true).run (fun _ => (1024, 0)) threeTicks).outbound, SentTo 0 ev (sentAt k) := by
  have hLength : twiceReceived.length = 6 := by decide +kernel
  refine twiceReceived_sent _ ?_
  rw [sentAt, List.getD_eq_getElem?_getD, List.getElem?_eq_getElem (by omega)]
  exact List.getElem_mem _

theorem harmless_copies_keyframe :
    WithCopies (HarmlessIn ((configured 30 30 true).publishes (fun _ => (1024, 0)) threeTicks) 0)
        [sentAt 0, sentAt 1] [sentAt 0, sentAt 0, sentAt 1] ∧
      (receiveAll {} [sentAt 0, sentAt 0, sentAt 1]).newTicks = (receiveAll {} [sentAt 0, sentAt 1]).newTicks := by
  have hHarmless : HarmlessIn ((configured 30 30 true).publishes (fun _ => (1024, 0)) threeTicks) 0 [sentAt 0]
      (sentAt 0) := by
    intro p hp hd
    have hHave : (receiveAll {} [sentAt 0]).haveLastSnapshot = true := by decide +kernel
    have hOne : receiveAll {} [sentAt 0] = receiveUdp {} (sentAt 0) := by rw [receiveAll, List.foldl_cons, List.foldl_nil]
    have hSound := publishes_sound _ (configured_inArena 30 30 true) threeTicks p hp
    rcases receiveUdp_publish hSound hd {} with ⟨hKey, hStep⟩ | ⟨hDelta, hStep⟩
    · refine ⟨fun hDelta => ?_, fun _ => ⟨hHave, ?_⟩⟩
      · rw [hKey] at hDelta
        cases hDelta
      · rw [hOne, hStep, onWorldSnapshot_run {} (stamped p.snapshot (p.event.acks 0)) hSound.count]
        rfl
    · -- A delta would not have made the cache valid.
      rw [hOne, hStep] at hHave
      cases hHave
  have hCopies : WithCopies (HarmlessIn ((configured 30 30 true).publishes (fun _ => (1024, 0)) threeTicks) 0)
      [sentAt 0, sentAt 1] [sentAt 0, sentAt 0, sentAt 1] := withCopies_first _ _ hHarmless
  refine ⟨hCopies, harmless_copies (fun _ => (1024, 0)) 30 30 true threeTicks 0 _ _ ?_ hCopies⟩
  exact List.forall_mem_cons.mpr ⟨sentAt_sent 0 (by decide), List.forall_mem_singleton.mpr (sentAt_sent 1 (by decide))⟩

/-- A copy of the delta of tick 1, right after it, makes the client reject the delta of tick 2. -/
theorem copied_delta_stalls :
    ¬ ∀ (rayDir : RayDir) (tickHz snapshotHz : Int) (delta : Bool) (ticks : List (List InboundCommand))
      (i : Fin kMaxPlayers) (ds ds' : List (List U8)),
      (∀ d ∈ ds, ∃ ev ∈ ((configured tickHz snapshotHz delta).run rayDir ticks).outbound, SentTo i ev d) →
      WithCopies (fun _ _ => True) ds ds' →
      (receiveAll {} ds').newTicks = (receiveAll {} ds).newTicks := by
  intro hClaim
  have hCopies : WithCopies (fun _ _ => True) [sentAt 0, sentAt 1, sentAt 2] [sentAt 0, sentAt 1, sentAt 1, sentAt 2] :=
    withCopies_second _ _ _ trivial
  have hSent : ∀ d ∈ [sentAt 0, sentAt 1, sentAt 2],
      ∃ ev ∈ ((configured 30 30 true).run (fun _ => (1024, 0)) threeTicks).outbound, SentTo 0 ev d := by
    refine List.forall_mem_cons.mpr ⟨sentAt_sent 0 (by decide), ?_⟩
    exact List.forall_mem_cons.mpr ⟨sentAt_sent 1 (by decide), List.forall_mem_singleton.mpr (sentAt_sent 2 (by decide))⟩
  have hSame := hClaim (fun _ => (1024, 0)) 30 30 true threeTicks 0 _ _ hSent hCopies
  have hWithout : (receiveAll {} [sentAt 0, sentAt 1, sentAt 2]).newTicks = [0, 1, 2] := by decide +kernel
  have hWith : (receiveAll {} [sentAt 0, sentAt 1, sentAt 1, sentAt 2]).newTicks = [0, 1] := by decide +kernel
  rw [hWithout, hWith] at hSame
  cases hSame

end NetClient
end CaptureTheFlag
