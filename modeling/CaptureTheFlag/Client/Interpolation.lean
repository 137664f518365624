import Mathlib.Algebra.Order.Ring.Rat
import CaptureTheFlag.Library.Records
import CaptureTheFlag.Shared.RingBuffer
import CaptureTheFlag.Shared.Snapshot

/-! # Interpolation of the other players

A ring of snapshots and a fractional render tick that trails the newest of them. Ticks convert to `double` exactly;
what the remaining arithmetic on doubles rounds to is a parameter.
-/
namespace CaptureTheFlag
set_option autoImplicit false
open Records

/-- The values of a `double`. -/
inductive Double where
  | finite (value : ℚ)
  | infinite (negative : Bool)
  | nan

namespace Double

/-- Comparisons with NaN fail. -/
def le : Double → Double → Bool
  | nan, _ => false
  | _, nan => false
  | finite a, finite b => a ≤ b
  | infinite true, _ => true
  | _, infinite false => true
  | _, _ => false

def lt : Double → Double → Bool
  | finite a, finite b => a < b
  | infinite true, finite _ => true
  | infinite true, infinite false => true
  | finite _, infinite false => true
  | _, _ => false

def ofInt (value : Int) : Double := finite value

def ofTick (tick : U32) : Double := ofInt tick.toNat

theorem le_of_tick_le {tick tick' : U32} {renderTick : Double} (hTicks : tick.toNat ≤ tick'.toNat)
    (h : (ofTick tick').le renderTick = true) : (ofTick tick).le renderTick = true := by
  cases renderTick with
  | finite value =>
    simp only [ofTick, ofInt, le, decide_eq_true_eq] at h ⊢
    refine le_trans ?_ h
    exact_mod_cast hTicks
  | infinite negative =>
    cases negative with
    | true => cases h
    | false => rfl
  | nan => cases h

end Double

/-- The rounding operations on doubles that the client uses. -/
structure DoubleArithmetic where
  add : Double → Double → Double
  sub : Double → Double → Double
  mul : Double → Double → Double
  div : Double → Double → Double
  fmod : Double → Double → Double
  literal : ℚ → Double
  lround : Double → Int
  toU16 : Double → U16

structure Interpolation where
  ring : RingBuffer WorldSnapshot kSnapshotRingSize := RingBuffer.empty {}
  renderTick : Double := .ofInt 0
  bootstrapped : Bool := false

namespace Interpolation

variable (arith : DoubleArithmetic)

/-- The render tick of the first snapshot. -/
def bootstrap (ip : Interpolation) (snap : WorldSnapshot) : Interpolation :=
  if ip.bootstrapped then ip
  else
    let target := arith.sub (.ofTick snap.tick) (.ofInt kInterpolationDelayTicks)
    { ip with renderTick := if (Double.ofInt 0).lt target then target else .ofInt 0, bootstrapped := true }

def pushSnapshot (ip : Interpolation) (snap : WorldSnapshot) : Interpolation :=
  if ip.ring.size ≠ 0 ∧ snap.tick.toNat ≤ ip.ring.back.tick.toNat then ip
  else
    let ip := ip.bootstrap arith snap
    { ip with ring := ip.ring.pushBack snap }

def advance (ip : Interpolation) (dtSeconds : Double) : Interpolation :=
  if ip.ring.size = 0 then ip
  else
    let newestTick := Double.ofTick ip.ring.back.tick
    let depth := arith.sub newestTick ip.renderTick
    let rate :=
      if (Double.ofInt kInterpolationDelayTicks).lt depth then arith.literal (102 / 100)
      else if depth.lt (.ofInt kInterpolationDelayTicks) then arith.literal (98 / 100)
      else .ofInt 1
    let renderTick := arith.add ip.renderTick (arith.mul (arith.mul rate (.ofInt kTickRateHz)) dtSeconds)
    let renderTick := if newestTick.lt renderTick then newestTick else renderTick
    let oldestTick := Double.ofTick ip.ring.front.tick
    { ip with renderTick := if renderTick.lt oldestTick then oldestTick else renderTick }

def findPlayer (snap : WorldSnapshot) (playerId : U8) : Option PlayerState :=
  ((Protocol.firstSlots snap.playerCount.toNat).map snap.players).find? (fun ps => ps.id == playerId)

/-- What `lerp_angle` converts to `uint16_t`: along the shorter arc, wrapped and shifted by a half. -/
def lerpAngleValue (a b : U16) (t : Double) : Double :=
  let delta := (b - a).toInt
  let result := arith.add (.ofInt a.toNat) (arith.mul (.ofInt delta) t)
  let result := arith.fmod result (.ofInt 65536)
  let result := if result.lt (.ofInt 0) then arith.add result (.ofInt 65536) else result
  arith.add result (arith.literal (1 / 2))

def lerpAngle (a b : U16) (t : Double) : U16 := arith.toU16 (lerpAngleValue arith a b t)

def lerpI32 (a b : Int) (t : Double) : Int :=
  arith.lround (arith.add (.ofInt a) (arith.mul (arith.sub (.ofInt b) (.ofInt a)) t))

def clamp (t lo hi : Double) : Double := if t.lt lo then lo else if hi.lt t then hi else t

/-- The loop of `sample`: it stops at the first snapshot beyond the render tick. -/
def scan (renderTick : Double) : List WorldSnapshot → Nat → Nat → Nat
  | [], _, aIdx => aIdx
  | snap :: snaps, i, aIdx =>
    if (Double.ofTick snap.tick).le renderTick then scan renderTick snaps (i + 1) i else aIdx

/-- The two snapshots that `sample` interpolates between. -/
def brackets (ip : Interpolation) : Option (WorldSnapshot × WorldSnapshot) :=
  if ip.ring.size = 0 then none
  else
    let aIdx := scan ip.renderTick ip.ring.toList 0 0
    let bIdx := if aIdx + 1 < ip.ring.size then aIdx + 1 else aIdx
    some (ip.ring.get aIdx, ip.ring.get bIdx)

def sample (ip : Interpolation) (playerId : U8) : PlayerState :=
  match ip.brackets with
  | none => {}
  | some (a, b) =>
    match findPlayer a playerId, findPlayer b playerId with
    | none, none => {}
    | none, some pb => pb
    | some pa, none => pa
    | some pa, some pb =>
      let t :=
        if b.tick ≠ a.tick then
          clamp (arith.div (arith.sub ip.renderTick (.ofTick a.tick)) (.ofTick (b.tick - a.tick))) (.ofInt 0) (.ofInt 1)
        else .ofInt 0
      -- health, team and the like come from the nearer bracket
      let out := if t.lt (arith.literal (1 / 2)) then pa else pb
      { out with
        motion :=
          { position :=
              { x := lerpI32 arith pa.motion.position.x pb.motion.position.x t
                y := lerpI32 arith pa.motion.position.y pb.motion.position.y t }
            velocity := {} }
        aimAngle := lerpAngle arith pa.aimAngle pb.aimAngle t }

inductive Step where
  | pushSnapshot (snap : WorldSnapshot)
  | advance (dtSeconds : Double)

def step (ip : Interpolation) : Step → Interpolation
  | .pushSnapshot snap => ip.pushSnapshot arith snap
  | .advance dtSeconds => ip.advance arith dtSeconds

def run (steps : List Step) : Interpolation := steps.foldl (step arith) {}

def pushed : List Step → List WorldSnapshot :=
  List.filterMap fun
    | .pushSnapshot snap => some snap
    | .advance _ => none

def tickOf (snap : WorldSnapshot) : Nat := snap.tick.toNat

/-- What the ring holds once `snaps` have been pushed. -/
def Holds (ip : Interpolation) (snaps : List WorldSnapshot) : Prop :=
  ip.ring.toList = (records tickOf snaps).rtake kSnapshotRingSize

theorem bootstrap_ring (ip : Interpolation) (snap : WorldSnapshot) : (ip.bootstrap arith snap).ring = ip.ring := by
  simp only [bootstrap]
  split <;> rfl

theorem advance_ring (ip : Interpolation) (dtSeconds : Double) : (ip.advance arith dtSeconds).ring = ip.ring := by
  simp only [advance]
  split <;> rfl

theorem getLast?_rtake (snaps : List WorldSnapshot) : (snaps.rtake kSnapshotRingSize).getLast? = snaps.getLast? := by
  rw [List.rtake, List.getLast?_drop]
  split
  · have hNil : snaps = [] := by
      apply List.eq_nil_of_length_eq_zero
      simp only [kSnapshotRingSize] at *
      omega
    rw [hNil, List.getLast?_nil]
  · rfl

/-- The newest entry alone decides whether a snapshot is stale. -/
theorem stale_iff {ip : Interpolation} {snaps : List WorldSnapshot} (h : ip.Holds snaps) (snap : WorldSnapshot) :
    (ip.ring.size ≠ 0 ∧ snap.tick.toNat ≤ ip.ring.back.tick.toNat) ↔ ¬ ∀ e ∈ snaps, tickOf e < tickOf snap := by
  have hSize : ip.ring.size = ((records tickOf snaps).rtake kSnapshotRingSize).length := by
    rw [← h, RingBuffer.length_toList]
  rcases @newest_record _ _ _ tickOf snaps with ⟨rfl, hNone⟩ | ⟨record, hNewest, -⟩
  · rw [hNone, List.rtake_nil, List.length_nil] at hSize
    rw [hSize]
    exact ⟨fun hHeld => absurd rfl hHeld.1, fun hBroken => absurd (fun e he => nomatch he) hBroken⟩
  · have hLast : ip.ring.toList.getLast? = some record := by
      rw [h, getLast?_rtake, hNewest]
    have hPos : 0 < ip.ring.size := by
      rw [← RingBuffer.length_toList, List.length_pos_iff]
      rintro hNil
      rw [hNil] at hLast
      cases hLast
    have hBack : ip.ring.back = record := by
      rw [RingBuffer.getLast?_toList _ hPos] at hLast
      exact Option.some.inj hLast
    rw [exceeds_iff hNewest, hBack, not_lt]
    exact ⟨fun hHeld => hHeld.2, fun hLe => ⟨Nat.ne_of_gt hPos, hLe⟩⟩

theorem Holds.pushSnapshot {ip : Interpolation} {snaps : List WorldSnapshot} (h : ip.Holds snaps)
    (snap : WorldSnapshot) : (ip.pushSnapshot arith snap).Holds (snaps ++ [snap]) := by
  rw [Holds, records_snoc]
  simp only [Interpolation.pushSnapshot]
  by_cases hRecord : ∀ e ∈ snaps, tickOf e < tickOf snap
  · rw [if_neg (fun hStale => (stale_iff h snap).mp hStale hRecord), if_pos hRecord]
    simp only [bootstrap_ring]
    have hSize : ip.ring.size = ((records tickOf snaps).rtake kSnapshotRingSize).length := by
      rw [← h, RingBuffer.length_toList]
    rw [RingBuffer.toList_pushBack, h, hSize, drop_rtake_snoc]
  · rw [if_pos ((stale_iff h snap).mpr hRecord), if_neg hRecord]
    exact h

theorem run_holds (steps : List Step) : (run arith steps).Holds (pushed steps) := by
  induction steps using List.reverseRecOn with
  | nil => rfl
  | append_singleton steps last ih =>
    have hRun : run arith (steps ++ [last]) = (run arith steps).step arith last := List.foldl_append
    have hPushed : pushed (steps ++ [last]) = pushed steps ++ pushed [last] := List.filterMap_append
    rw [hRun, hPushed]
    cases last with
    | pushSnapshot snap => exact ih.pushSnapshot arith snap
    | advance dtSeconds =>
      rw [step, Holds, advance_ring, show pushed [.advance dtSeconds] = [] from rfl, List.append_nil]
      exact ih

def Reached (renderTick : Double) (snap : WorldSnapshot) : Prop := (Double.ofTick snap.tick).le renderTick = true

/-- The snapshot at `i` is the last one that the render tick has reached. -/
def LastReached (renderTick : Double) (snaps : List WorldSnapshot) (i : Nat) : Prop :=
  (∃ snap, snaps[i]? = some snap ∧ Reached renderTick snap) ∧
    ∀ j snap, i < j → snaps[j]? = some snap → ¬ Reached renderTick snap

theorem scan_spec (renderTick : Double) {snaps : List WorldSnapshot}
    (hAscending : snaps.Pairwise fun a b => tickOf a < tickOf b) (i aIdx : Nat) :
    (scan renderTick snaps i aIdx = aIdx ∧ ∀ snap ∈ snaps, ¬ Reached renderTick snap) ∨
      ∃ k, scan renderTick snaps i aIdx = i + k ∧ LastReached renderTick snaps k := by
  induction snaps generalizing i aIdx with
  | nil => exact Or.inl ⟨rfl, fun _ hMem => nomatch hMem⟩
  | cons first snaps ih =>
    obtain ⟨hFirst, hRest⟩ := List.pairwise_cons.mp hAscending
    by_cases hReached : (Double.ofTick first.tick).le renderTick = true
    · right
      rw [scan, if_pos hReached]
      rcases ih hRest (i + 1) i with ⟨hScan, hNone⟩ | ⟨k, hScan, ⟨last, hLast, hLastReached⟩, hBeyond⟩
      · refine ⟨0, hScan, ⟨first, rfl, hReached⟩, ?_⟩
        intro j snap hj hSnap
        obtain ⟨j, rfl⟩ := Nat.exists_eq_add_of_lt hj
        rw [Nat.zero_add, List.getElem?_cons_succ] at hSnap
        exact hNone snap (List.mem_of_getElem? hSnap)
      · refine ⟨k + 1, by omega, ⟨last, hLast, hLastReached⟩, ?_⟩
        intro j snap hj hSnap
        obtain ⟨j, rfl⟩ : ∃ j', j = j' + 1 := ⟨j - 1, by omega⟩
        rw [List.getElem?_cons_succ] at hSnap
        exact hBeyond j snap (by omega) hSnap
    · left
      rw [scan, if_neg hReached]
      refine ⟨rfl, ?_⟩
      intro snap hMem hSnap
      rcases List.mem_cons.mp hMem with rfl | hLater
      · exact hReached hSnap
      · exact hReached (Double.le_of_tick_le (Nat.le_of_lt (hFirst snap hLater)) hSnap)

theorem brackets_spec {ip : Interpolation} (hAscending : ip.ring.toList.Pairwise fun a b => tickOf a < tickOf b) :
    (ip.ring.toList = [] ∧ ip.brackets = none) ∨
      ∃ i a, ip.ring.toList[i]? = some a ∧ ip.brackets = some (a, (ip.ring.toList[i + 1]?).getD a) ∧
        (LastReached ip.renderTick ip.ring.toList i ∨ i = 0 ∧ ∀ snap ∈ ip.ring.toList, ¬ Reached ip.renderTick snap) := by
  have hLength := RingBuffer.length_toList ip.ring
  by_cases hEmpty : ip.ring.size = 0
  · left
    exact ⟨List.eq_nil_of_length_eq_zero (hLength.trans hEmpty), if_pos hEmpty⟩
  · right
    have hSpec : ∃ i, scan ip.renderTick ip.ring.toList 0 0 = i ∧ i < ip.ring.size ∧
        (LastReached ip.renderTick ip.ring.toList i ∨
          i = 0 ∧ ∀ snap ∈ ip.ring.toList, ¬ Reached ip.renderTick snap) := by
      rcases scan_spec ip.renderTick hAscending 0 0 with ⟨hScan, hNone⟩ | ⟨k, hScan, hLast⟩
      · exact ⟨0, hScan, Nat.pos_of_ne_zero hEmpty, Or.inr ⟨rfl, hNone⟩⟩
      · rw [Nat.zero_add] at hScan
        obtain ⟨snap, hSnap, -⟩ := hLast.1
        have hLt := (List.getElem?_eq_some_iff.mp hSnap).1
        rw [hLength] at hLt
        exact ⟨k, hScan, hLt, Or.inl hLast⟩
    obtain ⟨i, hScan, hLt, hLast⟩ := hSpec
    refine ⟨i, ip.ring.get i, RingBuffer.getElem?_toList _ hLt, ?_, hLast⟩
    simp only [brackets, if_neg hEmpty, hScan]
    by_cases hNext : i + 1 < ip.ring.size
    · rw [if_pos hNext, RingBuffer.getElem?_toList _ hNext, Option.getD_some]
    · rw [if_neg hNext, List.getElem?_eq_none (by rw [hLength]; omega), Option.getD_none]

/-- Whatever was pushed in whatever order, the ring holds the newest records, and `sample` brackets the render tick
with two neighbours among them. -/
theorem ring_newest_records (steps : List Step) :
    let ip := run arith steps
    let content := ip.ring.toList
    content = (records tickOf (pushed steps)).rtake (min (pushed steps).length kSnapshotRingSize) ∧
    content.Pairwise (fun a b => tickOf a < tickOf b) ∧
    ((content = [] ∧ ip.brackets = none) ∨
      ∃ i a, content[i]? = some a ∧ ip.brackets = some (a, (content[i + 1]?).getD a) ∧
        (LastReached ip.renderTick content i ∨ i = 0 ∧ ∀ snap ∈ content, ¬ Reached ip.renderTick snap)) := by
  intro ip content
  have hHolds : content = (records tickOf (pushed steps)).rtake kSnapshotRingSize := run_holds arith steps
  have hAscending : content.Pairwise fun a b => tickOf a < tickOf b := by
    rw [hHolds]
    exact (records_ascending (pushed steps)).sublist (List.drop_sublist _ _)
  refine ⟨?_, hAscending, brackets_spec hAscending⟩
  have hLength := @length_records_le _ _ _ tickOf (pushed steps)
  rw [hHolds, List.rtake, List.rtake]
  congr 1
  omega

end Interpolation
end CaptureTheFlag
