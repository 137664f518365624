import CaptureTheFlag.Client.Prediction
import CaptureTheFlag.Shared.Mirror

/-! # Positions from the wire are legal

The wire rounds a position down to a multiple of 16. Tiles begin at multiples of 16, so the box moves up and to the
left within the tiles it lies on, and a replay that starts from there never enters a wall.
-/
namespace CaptureTheFlag
set_option autoImplicit false
open Protocol

namespace Map

theorem meets_floor {a t : Int} (h : 0 ≤ a) (hMeets : Meets (a / 16 * 16) t) : Meets a t := by
  simp only [Meets] at hMeets ⊢
  rw [tdiv_tile, tdiv_tile] at hMeets ⊢
  omega

variable {p : Vec2Fixed}

theorem covers_floor (hInside : p.BoxInside) {tx ty : Int} (h : Covers (floorVec2 p) tx ty) : Covers p tx ty :=
  ⟨meets_floor hInside.1 h.1, meets_floor hInside.2.2.1 h.2⟩

theorem floor_free {map : Map} (hInside : p.BoxInside) (h : map.aabbCollides p = false) :
    map.aabbCollides (floorVec2 p) = false := by
  rw [free_iff] at h ⊢
  intro tx ty hCovers
  exact h tx ty (covers_floor hInside hCovers)

end Map

theorem readVec2_written {p : Vec2Fixed} (h : p.OnWire) :
    readVec2 ⟨(writeVec2 { cap := 4 } p).buf, false⟩ = (floorVec2 p, ⟨[], false⟩) := by
  have hWritten : writeVec2 { cap := 4 } p = { cap := 4, buf := vec2Bytes p } :=
    (emits_writeVec2 p).fresh 4 (length_vec2Bytes p).le
  have hRead := readVec2_run p []
  rw [List.append_nil, wireVec2_eq_floor h] at hRead
  rw [hWritten]
  exact hRead

namespace Prediction

/-- Each replayed step starts where the step before ended, and movement never enters a wall. -/
theorem scanItems_free (es : List InputHistoryEntry) {localState : PlayerMotion}
    (h : Map.arena.aabbCollides localState.position = false) :
    Map.arena.aabbCollides (RingBuffer.scanItems replayEntry localState es).1.position = false ∧
      ∀ e ∈ (RingBuffer.scanItems replayEntry localState es).2, Map.arena.aabbCollides e.stateAfter.position = false := by
  induction es generalizing localState with
  | nil => exact ⟨h, fun e hMem => nomatch hMem⟩
  | cons e es ih =>
    have hStep := movementStep_free localState e.input Map.arena h
    obtain ⟨hEnd, hRest⟩ := ih hStep
    simp only [RingBuffer.scanItems, replayEntry]
    refine ⟨hEnd, ?_⟩
    intro e' hMem
    rcases List.mem_cons.mp hMem with rfl | hLater
    · exact hStep
    · exact hRest e' hLater

theorem reconcile_free (pred : Prediction) (ack : U32) {position : Vec2Fixed}
    (h : Map.arena.aabbCollides position = false) :
    Map.arena.aabbCollides (pred.reconcile ack position).localState.position = false ∧
      ∀ e ∈ (pred.reconcile ack position).history.toList, Map.arena.aabbCollides e.stateAfter.position = false := by
  have hVisit := RingBuffer.toList_visit (pred.history.removeIf (fun e => e.seq.toNat ≤ ack.toNat)) replayEntry
    { position, velocity := {} }
  have hFree := @scanItems_free (pred.history.removeIf (fun e => e.seq.toNat ≤ ack.toNat)).toList
    { position, velocity := {} } h
  rw [← hVisit] at hFree
  exact hFree

end Prediction

/-- On every grid the position that comes back from the wire is free and lies on no new tile, and in the arena a replay
from it passes through free positions only. -/
theorem wire_position_free {p : Vec2Fixed} (hInside : p.BoxInside) :
    (∀ map : Map, map.aabbCollides p = false →
      readVec2 ⟨(writeVec2 { cap := 4 } p).buf, false⟩ = (floorVec2 p, ⟨[], false⟩) ∧
        map.aabbCollides (floorVec2 p) = false ∧ ∀ tx ty, Map.Covers (floorVec2 p) tx ty → Map.Covers p tx ty) ∧
    (Map.arena.aabbCollides p = false → ∀ (pred : Prediction) (snap : WorldSnapshot) (id : U8) (ps : PlayerState),
      Prediction.findSelf snap id = some ps →
        ps.motion.position = (readVec2 ⟨(writeVec2 { cap := 4 } p).buf, false⟩).1 →
        pred.lastAppliedTick.toNat < snap.tick.toNat →
        Map.arena.aabbCollides (pred.onSnapshot snap id).localState.position = false ∧
          ∀ e ∈ (pred.onSnapshot snap id).history.toList, Map.arena.aabbCollides e.stateAfter.position = false) := by
  constructor
  · intro map h
    exact ⟨readVec2_written (map.onWire_of_not_collides p h), Map.floor_free hInside h,
      fun tx ty hCovers => Map.covers_floor hInside hCovers⟩
  · intro h pred snap id ps hSelf hPosition hFresh
    have hFree : Map.arena.aabbCollides ps.motion.position = false := by
      rw [hPosition, readVec2_written (Map.arena.onWire_of_not_collides p h)]
      exact Map.floor_free hInside h
    rcases pred.onSnapshot_cases snap id with ⟨hStale, -⟩ | ⟨-, hNone, -⟩ | ⟨-, ps', hSelf', hEq⟩
    · omega
    · cases hSelf.symm.trans hNone
    · obtain rfl : ps = ps' := Option.some.inj (hSelf.symm.trans hSelf')
      rw [hEq]
      exact Prediction.reconcile_free _ _ hFree

theorem wire_position_free_offTile :
    Map.arena.aabbCollides ⟨18439, 98313⟩ = false ∧ floorVec2 ⟨18439, 98313⟩ = ⟨18432, 98304⟩ ∧
      Map.arena.aabbCollides ⟨18432, 98304⟩ = false := by
  have hFree : Map.arena.aabbCollides ⟨18439, 98313⟩ = false := by decide +kernel
  exact ⟨hFree, rfl, ((wire_position_free (p := ⟨18439, 98313⟩) (by decide)).1 Map.arena hFree).2.1⟩

end CaptureTheFlag
