import CaptureTheFlag.Bot.FlowField
import CaptureTheFlag.Library.BreadthFirst
import CaptureTheFlag.Shared.Sweep
import Mathlib.Data.Finset.Prod
import Mathlib.Data.List.GetD

/-! # The field holds shortest distances

`build` follows the breadth-first search of the library turn by turn, with its distances in a table of 16-bit
numbers. A distance stays below the number of turns, so neither the counting nor the mark for unreachable tiles can
go wrong.
-/
namespace CaptureTheFlag
set_option autoImplicit false
open BreadthFirst

namespace FlowField

structure Shaped (field : FlowField) : Prop where
  rows : field.dist.length = 25
  cells : ∀ row ∈ field.dist, row.length = 40

theorem outside_eq_false {t : Tile} : outside t = false ↔ 0 ≤ t.x ∧ t.x < 40 ∧ 0 ≤ t.y ∧ t.y < 25 := by
  simp only [outside, kMapWidthTiles, kMapHeightTiles, Bool.or_eq_false_iff, decide_eq_false_iff_not]
  omega

theorem shaped_unreachable : unreachable.Shaped := by
  constructor
  · decide
  · intro row hRow
    rw [List.eq_of_mem_replicate hRow]
    decide

theorem Shaped.setDist {field : FlowField} (h : field.Shaped) {t : Tile} (hIn : outside t = false) (d : U16) :
    (field.setDist t d).Shaped := by
  rw [outside_eq_false] at hIn
  constructor
  · rw [FlowField.setDist, List.length_set]
    exact h.rows
  · intro row hRow
    have hLt : t.y.toNat < field.dist.length := by
      rw [h.rows]
      omega
    rcases List.mem_or_eq_of_mem_set hRow with hOld | rfl
    · exact h.cells row hOld
    · rw [List.length_set, List.getD_eq_getElem _ _ hLt]
      exact h.cells _ (List.getElem_mem hLt)

theorem Shaped.distAt_setDist {field : FlowField} (h : field.Shaped) {t : Tile} (hIn : outside t = false) (d : U16)
    (u : Tile) : (field.setDist t d).distAt u = if u = t then d else field.distAt u := by
  by_cases hOut : outside u = true
  · have hne : u ≠ t := by
      rintro rfl
      rw [hIn] at hOut
      cases hOut
    rw [distAt, distAt, if_pos hOut, if_neg hne]
    simp only [hOut, if_true]
  have hU : outside u = false := by simpa using hOut
  simp only [distAt, hU, Bool.false_eq_true, if_false, FlowField.setDist]
  rw [outside_eq_false] at hIn hU
  have hRow : t.y.toNat < field.dist.length := by
    rw [h.rows]
    omega
  have hCell : t.x.toNat < (field.dist.getD t.y.toNat []).length := by
    rw [List.getD_eq_getElem _ _ hRow, h.cells _ (List.getElem_mem hRow)]
    omega
  by_cases hy : u.y.toNat = t.y.toNat
  · have hSame : (field.dist.set t.y.toNat ((field.dist.getD t.y.toNat []).set t.x.toNat d)).getD u.y.toNat [] =
        (field.dist.getD t.y.toNat []).set t.x.toNat d := by
      rw [hy, List.getD_eq_getElem?_getD, List.getElem?_set_self hRow]
      rfl
    rw [hSame]
    by_cases hx : u.x.toNat = t.x.toNat
    · have hEq : u = t := by
        cases u
        cases t
        simp only [Tile.mk.injEq] at *
        omega
      rw [if_pos hEq, hx, List.getD_eq_getElem?_getD, List.getElem?_set_self hCell]
      rfl
    · have hne : u ≠ t := fun hEq => hx (by rw [hEq])
      rw [if_neg hne, List.getD_eq_getElem?_getD, List.getElem?_set_ne (Ne.symm hx), hy,
        ← List.getD_eq_getElem?_getD]
  · have hne : u ≠ t := fun hEq => hy (by rw [hEq])
    have hOther : (field.dist.set t.y.toNat ((field.dist.getD t.y.toNat []).set t.x.toNat d)).getD u.y.toNat [] =
        field.dist.getD u.y.toNat [] := by
      rw [List.getD_eq_getElem?_getD, List.getElem?_set_ne (Ne.symm hy), List.getD_eq_getElem?_getD]
    rw [hOther, if_neg hne]

theorem distAt_unreachable (t : Tile) : unreachable.distAt t = kUnreachable := by
  by_cases hOut : outside t = true
  · rw [distAt, if_pos hOut]
  · rw [distAt, if_neg hOut]
    have hIn := outside_eq_false.mp (by simpa using hOut)
    have hRow : unreachable.dist.getD t.y.toNat [] = List.replicate 40 kUnreachable := by
      have hRows : t.y.toNat < unreachable.dist.length := by
        rw [shaped_unreachable.rows]
        omega
      rw [List.getD_eq_getElem _ _ hRows]
      exact List.getElem_replicate ..
    rw [hRow, List.getD_eq_getElem _ _ (by rw [List.length_replicate]; omega)]
    exact List.getElem_replicate ..

def openNeighbors (passable : Tile → Bool) (t : Tile) : List Tile :=
  (neighbors t).filter fun n => !outside n && passable n

def encode : Option Nat → U16
  | none => kUnreachable
  | some k => BitVec.ofNat 16 k

theorem encode_eq_unreachable {d : Option Nat} (h : ∀ k, d = some k → k < 65535) :
    encode d = kUnreachable ↔ d = none := by
  cases d with
  | none => exact ⟨fun _ => rfl, fun _ => rfl⟩
  | some k =>
    have hk := h k rfl
    constructor
    · intro hEq
      have hNat := congrArg BitVec.toNat hEq
      simp only [encode, BitVec.toNat_ofNat] at hNat
      have hMark : (kUnreachable : U16).toNat = 65535 := by decide
      omega
    · exact nofun

/-- The table and the queue of the source hold what the search of the library holds, with distances up to `m`. -/
structure Follows (m : Nat) (s : Search) (a : State Tile) : Prop where
  shaped : s.field.Shaped
  queue : s.queue = a.queue
  dist : ∀ t, outside t = false → s.field.distAt t = encode (a.dist t)
  known : ∀ t k, a.dist t = some k → outside t = false ∧ k ≤ m

theorem Follows.mono {m n : Nat} {s : Search} {a : State Tile} (h : Follows m s a) (hLe : m ≤ n) : Follows n s a :=
  ⟨h.shaped, h.queue, h.dist, fun t k hk => ⟨(h.known t k hk).1, (h.known t k hk).2.trans hLe⟩⟩

theorem Follows.visit {m k : Nat} {passable : Tile → Bool} {s : Search} {a : State Tile} (h : Follows m s a)
    (hm : m < 65535) (hk : k ≤ m) (n : Tile) :
    Follows m (FlowField.visit passable (BitVec.ofNat 16 k) s n)
      (if !outside n && passable n then BreadthFirst.visit k a n else a) := by
  by_cases hOut : outside n = true
  · simp only [FlowField.visit, hOut, if_true, Bool.not_true, Bool.false_and, Bool.false_eq_true, if_false]
    exact h
  have hIn : outside n = false := by simpa using hOut
  have hMark : encode (a.dist n) = kUnreachable ↔ a.dist n = none :=
    encode_eq_unreachable (fun j hj => Nat.lt_of_le_of_lt (h.known n j hj).2 hm)
  by_cases hPass : passable n = true
  · simp only [FlowField.visit, BreadthFirst.visit, hIn, hPass, h.dist n hIn, ne_eq, hMark, Bool.not_false, Bool.not_true,
      Bool.and_self, Bool.false_eq_true, if_true, if_false, ite_not]
    by_cases hNew : a.dist n = none
    · rw [if_pos hNew, if_pos hNew]
      refine ⟨h.shaped.setDist hIn _, by rw [h.queue], ?_, ?_⟩
      · intro t ht
        rw [h.shaped.distAt_setDist hIn]
        by_cases hEq : t = n
        · subst hEq
          simp only [if_true, Function.update_self]
          rfl
        · simp only [if_neg hEq, Function.update_of_ne hEq]
          exact h.dist t ht
      · intro t j hj
        by_cases hEq : t = n
        · subst hEq
          simp only [Function.update_self] at hj
          exact ⟨hIn, (Option.some.inj hj) ▸ hk⟩
        · simp only [Function.update_of_ne hEq] at hj
          exact h.known t j hj
    · rw [if_neg hNew, if_neg hNew]
      exact h
  · simp only [FlowField.visit, hIn, hPass, Bool.not_false, Bool.and_false, Bool.false_eq_true, if_true, if_false,
      ite_self]
    exact h

theorem Follows.visits {m k : Nat} {passable : Tile → Bool} (ns : List Tile) {s : Search} {a : State Tile}
    (h : Follows m s a) (hm : m < 65535) (hk : k ≤ m) :
    Follows m (ns.foldl (FlowField.visit passable (BitVec.ofNat 16 k)) s)
      ((ns.filter fun n => !outside n && passable n).foldl (BreadthFirst.visit k) a) := by
  induction ns generalizing s a with
  | nil => exact h
  | cons n ns ih =>
    have hStep := @Follows.visit _ _ passable _ _ h hm hk n
    rw [List.foldl_cons, List.filter_cons]
    split
    · rename_i hOpen
      rw [if_pos hOpen] at hStep
      rw [List.foldl_cons]
      exact ih hStep
    · rename_i hShut
      rw [if_neg hShut] at hStep
      exact ih hStep

theorem Follows.search {passable : Tile → Bool} {source : Tile} (turns : Nat) {m : Nat} {s : Search} {a : State Tile}
    (h : Follows m s a) (hInv : Inv (openNeighbors passable) source a) (hm : m + turns < 65535) :
    Follows (m + turns) (FlowField.search passable turns s) ((turn (openNeighbors passable))^[turns] a) := by
  induction turns generalizing m s a with
  | zero => exact h
  | succ turns ih =>
    rw [Function.iterate_succ_apply]
    cases hQueue : a.queue with
    | nil =>
      have hDone : FlowField.search passable (turns + 1) s = s := by
        unfold FlowField.search
        rw [h.queue, hQueue]
      have hFixed := turn_nil (openNeighbors passable) hQueue
      rw [hDone, hFixed, Function.iterate_fixed hFixed]
      exact h.mono (by omega)
    | cons cur queue =>
      obtain ⟨k, hk⟩ := Option.ne_none_iff_exists'.mp (hInv.queued cur (by rw [hQueue]; exact List.mem_cons_self))
      obtain ⟨hIn, hLe⟩ := h.known cur k hk
      have hNext : s.field.distAt cur + 1 = BitVec.ofNat 16 (k + 1) := by
        rw [h.dist cur hIn, hk, encode, BitVec.ofNat_add]
        rfl
      have hTurn : turn (openNeighbors passable) a =
          (openNeighbors passable cur).foldl (BreadthFirst.visit (k + 1)) { a with queue } := by
        unfold turn
        rw [hQueue]
        simp only [hk, Option.getD_some]
      have hSearch : FlowField.search passable (turns + 1) s = FlowField.search passable turns
          ((neighbors cur).foldl (FlowField.visit passable (BitVec.ofNat 16 (k + 1))) { s with queue }) := by
        rw [FlowField.search.eq_def]
        simp only [h.queue, hQueue, hNext]
      have hPopped : Follows (m + 1) { s with queue } { a with queue } :=
        ⟨h.shaped, rfl, h.dist, fun t j hj => ⟨(h.known t j hj).1, (h.known t j hj).2.trans (Nat.le_succ m)⟩⟩
      have hVisits := @Follows.visits _ _ passable (neighbors cur) _ _ hPopped (by omega) (Nat.succ_le_succ hLe)
      rw [hSearch, hTurn, Nat.add_comm turns 1, ← Nat.add_assoc]
      refine ih hVisits ?_ (by omega)
      have hNext := hInv.turn
      rw [hTurn] at hNext
      exact hNext

def known (field : FlowField) (t : Tile) : Option Nat :=
  if field.distAt t = kUnreachable then none else some (field.distAt t).toNat

def tiles : Finset Tile := (Finset.range 40 ×ˢ Finset.range 25).image fun p => ⟨p.1, p.2⟩

theorem mem_tiles {t : Tile} : t ∈ tiles ↔ outside t = false := by
  rw [outside_eq_false, tiles, Finset.mem_image]
  constructor
  · rintro ⟨⟨x, y⟩, hMem, rfl⟩
    rw [Finset.mem_product, Finset.mem_range, Finset.mem_range] at hMem
    simp only
    omega
  · intro hIn
    refine ⟨(t.x.toNat, t.y.toNat), ?_, ?_⟩
    · rw [Finset.mem_product, Finset.mem_range, Finset.mem_range]
      omega
    · cases t
      simp only [Tile.mk.injEq] at hIn ⊢
      omega

theorem card_tiles : tiles.card ≤ kTiles := by
  refine Finset.card_image_le.trans ?_
  rw [Finset.card_product, Finset.card_range, Finset.card_range]
  decide

theorem tilePassable_inside {map : Map} {t : Tile} (h : tilePassable map t = true) : outside t = false := by
  by_contra hOut
  rw [tilePassable, if_pos (by simpa using hOut)] at h
  cases h

/-- A box in the middle of a tile lies on no other, so a tile may be entered when it is no wall. -/
theorem tilePassable_eq (map : Map) (t : Tile) : tilePassable map t = !map.isWall t.x t.y := by
  by_cases hOut : outside t = true
  · have hOutside : t.x < 0 ∨ t.x ≥ 40 ∨ t.y < 0 ∨ t.y ≥ 25 := by
      simp only [outside, kMapWidthTiles, kMapHeightTiles, Bool.or_eq_true, decide_eq_true_eq] at hOut
      omega
    rw [tilePassable, if_pos hOut, Map.isWall_of_outside map t.x t.y hOutside]
    rfl
  · have hIn := outside_eq_false.mp (by simpa using hOut)
    rw [tilePassable, if_neg hOut]
    cases hWall : map.isWall t.x t.y with
    | true => rfl
    | false =>
      have hFree : map.aabbCollides ⟨t.x * kTileFp + kCenterMarginFp, t.y * kTileFp + kCenterMarginFp⟩ = false := by
        rw [Map.free_iff]
        rintro tx ty ⟨hTx, hTy⟩
        have hMargin : kCenterMarginFp = 1024 := by decide
        simp only [Map.Meets, hMargin, kTileFp, kTileSizePx, kFixedScale] at hTx hTy
        rw [Map.tdiv_tile, Map.tdiv_tile] at hTx hTy
        obtain rfl : tx = t.x := by omega
        obtain rfl : ty = t.y := by omega
        exact hWall
      rw [hFree]
      rfl

theorem mem_openNeighbors {map : Map} {a b : Tile} :
    a ∈ openNeighbors (tilePassable map) b ↔ a ∈ neighbors b ∧ map.isWall a.x a.y = false := by
  rw [openNeighbors, List.mem_filter, Bool.and_eq_true, Bool.not_eq_true', tilePassable_eq, Bool.not_eq_true']
  constructor
  · rintro ⟨hNear, -, hOpen⟩
    exact ⟨hNear, hOpen⟩
  · rintro ⟨hNear, hOpen⟩
    refine ⟨hNear, ?_, hOpen⟩
    apply @tilePassable_inside map
    rw [tilePassable_eq, hOpen]
    rfl

theorem follows_start {source : Tile} (hIn : outside source = false) :
    Follows 0 { field := unreachable.setDist source 0, queue := [source] } (start source) := by
  refine ⟨shaped_unreachable.setDist hIn 0, rfl, ?_, ?_⟩
  · intro t _
    rw [shaped_unreachable.distAt_setDist hIn, distAt_unreachable]
    by_cases hEq : t = source
    · subst hEq
      simp only [start, Function.update_self, if_true]
      rfl
    · simp only [start, Function.update_of_ne hEq, if_neg hEq]
      rfl
  · intro t k hk
    by_cases hEq : t = source
    · subst hEq
      simp only [start, Function.update_self, Option.some.injEq] at hk
      exact ⟨hIn, hk.ge⟩
    · simp only [start, Function.update_of_ne hEq] at hk
      cases hk

/-- The queue is empty at the end, and the table holds what the search of the library finds. -/
theorem follows_build {map : Map} {source : Vec2Fixed} (hOpen : tilePassable map (tileOf source) = true) :
    ∃ a : State Tile, Follows kTiles { field := build map source, queue := [] } a ∧
      IsField (openNeighbors (tilePassable map)) (tileOf source) a.dist := by
  have hIn := tilePassable_inside hOpen
  have hAdj : ∀ a, ∀ b ∈ openNeighbors (tilePassable map) a, b ∈ tiles := by
    intro a b hb
    have hOpen := (List.mem_filter.mp hb).2
    rw [mem_tiles]
    exact tilePassable_inside (Bool.and_eq_true _ _ ▸ hOpen).2
  obtain ⟨hEmpty, hField⟩ := isField_search hAdj (mem_tiles.mpr hIn) card_tiles
  have hFollows := (follows_start hIn).search kTiles (inv_start (openNeighbors (tilePassable map)) _) (by decide)
  rw [Nat.zero_add] at hFollows
  refine ⟨_, ?_, hField⟩
  have hQueue := hFollows.queue.trans hEmpty
  have hBuild : build map source = (FlowField.search (tilePassable map) kTiles
      { field := unreachable.setDist (tileOf source) 0, queue := [tileOf source] }).field := by
    rw [build]
    simp only [hOpen, Bool.not_true, Bool.false_eq_true, if_false]
  rw [hBuild]
  generalize FlowField.search (tilePassable map) kTiles _ = found at hFollows hQueue
  rw [← hQueue]
  exact hFollows

theorem Follows.known_eq {m : Nat} {s : Search} {a : State Tile} (h : Follows m s a) (hm : m < 65535) :
    s.field.known = a.dist := by
  funext t
  have hSmall : ∀ k, a.dist t = some k → k < 65535 := fun k hk => Nat.lt_of_le_of_lt (h.known t k hk).2 hm
  rw [FlowField.known]
  by_cases hOut : outside t = true
  · rw [distAt, if_pos hOut, if_pos rfl]
    cases hDist : a.dist t with
    | none => rfl
    | some k => exact nomatch (h.known t k hDist).1.symm.trans hOut
  · rw [h.dist t (by simpa using hOut)]
    simp only [encode_eq_unreachable hSmall]
    cases hDist : a.dist t with
    | none => rfl
    | some k =>
      have hk := hSmall k hDist
      simp only [reduceCtorEq, if_false, encode, BitVec.toNat_ofNat, Option.some.injEq]
      omega

theorem isField_build {map : Map} {source : Vec2Fixed} (hOpen : tilePassable map (tileOf source) = true) :
    IsField (openNeighbors (tilePassable map)) (tileOf source) (build map source).known := by
  obtain ⟨a, hFollows, hField⟩ := follows_build hOpen
  have hKnown := hFollows.known_eq (by decide)
  simp only at hKnown
  rw [hKnown]
  exact hField

theorem distAt_build_le {map : Map} {source : Vec2Fixed} (hOpen : tilePassable map (tileOf source) = true) {t : Tile}
    {k : Nat} (hk : (build map source).known t = some k) : k ≤ kTiles := by
  obtain ⟨a, hFollows, -⟩ := follows_build hOpen
  have hKnown := hFollows.known_eq (by decide)
  simp only at hKnown
  rw [hKnown] at hk
  exact (hFollows.known t k hk).2

end FlowField
end CaptureTheFlag
