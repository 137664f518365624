import Mathlib.Order.Interval.Set.UnorderedInterval
import CaptureTheFlag.Shared.Movement

/-! # Moves through free space

`aabbCollides` looks at the end of a move only. A step is shorter than what the box leaves of a tile, so the two ends
of a move together cover every tile the box meets on its way.
-/
namespace CaptureTheFlag
set_option autoImplicit false

namespace Map

/-- The tiles one coordinate of the box lies on. -/
def Meets (a t : Int) : Prop := a.tdiv 8192 ≤ t ∧ t ≤ (a + 6143).tdiv 8192

/-- The tile is one that the box at `p` lies on. -/
def Covers (p : Vec2Fixed) (tx ty : Int) : Prop := Meets p.x tx ∧ Meets p.y ty

theorem free_iff (map : Map) (p : Vec2Fixed) :
    map.aabbCollides p = false ↔ ∀ tx ty, Covers p tx ty → map.isWall tx ty = false := by
  rw [aabbCollides_eq_false]
  constructor
  · rintro h tx ty ⟨hx, hy⟩
    exact h ty hy.1 hy.2 tx hx.1 hx.2
  · intro h ty hLo hHi tx hLo' hHi'
    exact h tx ty ⟨⟨hLo', hHi'⟩, hLo, hHi⟩

/-- Box and step together are shorter than a tile. -/
theorem meets_between {a b c t : Int} (hBetween : c ∈ Set.uIcc a b) (hStep : -1365 ≤ b - a ∧ b - a ≤ 1365)
    (h : Meets c t) : Meets a t ∨ Meets b t := by
  obtain ⟨hLo, hHi⟩ := h
  rw [Set.mem_uIcc] at hBetween
  simp only [Meets]
  rw [tdiv_tile] at hLo hHi ⊢
  rw [tdiv_tile, tdiv_tile, tdiv_tile]
  rcases hBetween with hUp | hDown
  · omega
  · omega

theorem side_kept {a b t : Int} (hStep : -1365 ≤ b - a ∧ b - a ≤ 1365) (hFrom : ¬ Meets a t) (hTo : ¬ Meets b t) :
    (a + 6143).tdiv 8192 < t ↔ (b + 6143).tdiv 8192 < t := by
  simp only [Meets] at hFrom hTo
  rw [tdiv_tile, tdiv_tile] at hFrom hTo
  rw [tdiv_tile, tdiv_tile]
  omega

end Map

theorem velocityOf_bounded (cmd : InputCmd) :
    (-1365 ≤ (velocityOf cmd).x ∧ (velocityOf cmd).x ≤ 1365) ∧
      -1365 ≤ (velocityOf cmd).y ∧ (velocityOf cmd).y ≤ 1365 := by
  have hBits : ∀ b : U8, (-1365 ≤ (velocityOf { buttons := b }).x ∧ (velocityOf { buttons := b }).x ≤ 1365) ∧
      -1365 ≤ (velocityOf { buttons := b }).y ∧ (velocityOf { buttons := b }).y ≤ 1365 := by
    decide
  exact hBits cmd.buttons

theorem movementStep_x (motion : PlayerMotion) (cmd : InputCmd) (map : Map)
    (h : map.aabbCollides motion.position = false) :
    map.aabbCollides ⟨(movementStep motion cmd map).position.x, motion.position.y⟩ = false ∧
      -1365 ≤ (movementStep motion cmd map).position.x - motion.position.x ∧
      (movementStep motion cmd map).position.x - motion.position.x ≤ 1365 := by
  obtain ⟨hSpeed, -⟩ := velocityOf_bounded cmd
  simp only [movementStep]
  split
  · exact ⟨h, by omega, by omega⟩
  · rename_i hMoves
    exact ⟨Bool.not_eq_true _ ▸ hMoves, by omega, by omega⟩

theorem movementStep_y (motion : PlayerMotion) (cmd : InputCmd) (map : Map) :
    -1365 ≤ (movementStep motion cmd map).position.y - motion.position.y ∧
      (movementStep motion cmd map).position.y - motion.position.y ≤ 1365 := by
  obtain ⟨-, hSpeed⟩ := velocityOf_bounded cmd
  simp only [movementStep]
  split <;> omega

section Step

variable {map : Map} {motion : PlayerMotion} (cmd : InputCmd) (h : map.aabbCollides motion.position = false)
include h

theorem free_along_x {x : Int} (hBetween : x ∈ Set.uIcc motion.position.x (movementStep motion cmd map).position.x) :
    map.aabbCollides ⟨x, motion.position.y⟩ = false := by
  obtain ⟨hX, hStep⟩ := movementStep_x motion cmd map h
  rw [Map.free_iff] at h hX ⊢
  rintro tx ty ⟨hTx, hTy⟩
  rcases Map.meets_between hBetween hStep hTx with hFrom | hTo
  · exact h tx ty ⟨hFrom, hTy⟩
  · exact hX tx ty ⟨hTo, hTy⟩

theorem free_along_y {y : Int} (hBetween : y ∈ Set.uIcc motion.position.y (movementStep motion cmd map).position.y) :
    map.aabbCollides ⟨(movementStep motion cmd map).position.x, y⟩ = false := by
  obtain ⟨hX, -⟩ := movementStep_x motion cmd map h
  have hEnd := movementStep_free motion cmd map h
  rw [Map.free_iff] at hX hEnd ⊢
  rintro tx ty ⟨hTx, hTy⟩
  rcases Map.meets_between hBetween (movementStep_y motion cmd map) hTy with hFrom | hTo
  · exact hX tx ty ⟨hTx, hFrom⟩
  · exact hEnd tx ty ⟨hTx, hTo⟩

theorem side_kept_x {tx ty : Int} (hWall : map.isWall tx ty = true) (hTy : Map.Meets motion.position.y ty) :
    (motion.position.x + 6143).tdiv 8192 < tx ↔ ((movementStep motion cmd map).position.x + 6143).tdiv 8192 < tx := by
  obtain ⟨hX, hStep⟩ := movementStep_x motion cmd map h
  rw [Map.free_iff] at h hX
  apply Map.side_kept hStep
  · intro hTx
    cases hWall.symm.trans (h tx ty ⟨hTx, hTy⟩)
  · intro hTx
    cases hWall.symm.trans (hX tx ty ⟨hTx, hTy⟩)

theorem side_kept_y {tx ty : Int} (hWall : map.isWall tx ty = true)
    (hTx : Map.Meets (movementStep motion cmd map).position.x tx) :
    (motion.position.y + 6143).tdiv 8192 < ty ↔ ((movementStep motion cmd map).position.y + 6143).tdiv 8192 < ty := by
  obtain ⟨hX, -⟩ := movementStep_x motion cmd map h
  have hEnd := movementStep_free motion cmd map h
  rw [Map.free_iff] at hX hEnd
  apply Map.side_kept (movementStep_y motion cmd map)
  · intro hTy
    cases hWall.symm.trans (hX tx ty ⟨hTx, hTy⟩)
  · intro hTy
    cases hWall.symm.trans (hEnd tx ty ⟨hTx, hTy⟩)

end Step

def walk (map : Map) (motion : PlayerMotion) (cmds : List InputCmd) : PlayerMotion :=
  cmds.foldl (fun motion cmd => movementStep motion cmd map) motion

/-- A wall across the whole map, one tile thick, keeps the player on one side for good. -/
theorem walk_beside (map : Map) (cmds : List InputCmd) (motion : PlayerMotion)
    (h : map.aabbCollides motion.position = false) :
    (∀ tx, (∀ ty, map.isWall tx ty = true) →
      ((motion.position.x + 6143).tdiv 8192 < tx ↔ ((walk map motion cmds).position.x + 6143).tdiv 8192 < tx)) ∧
    (∀ ty, (∀ tx, map.isWall tx ty = true) →
      ((motion.position.y + 6143).tdiv 8192 < ty ↔ ((walk map motion cmds).position.y + 6143).tdiv 8192 < ty)) := by
  induction cmds generalizing motion with
  | nil => exact ⟨fun _ _ => Iff.rfl, fun _ _ => Iff.rfl⟩
  | cons cmd cmds ih =>
    obtain ⟨hColumns, hRows⟩ := ih (movementStep motion cmd map) (movementStep_free motion cmd map h)
    constructor
    · intro tx hWall
      exact (side_kept_x cmd h (hWall _) ⟨le_rfl, Map.tdiv_tile_le _⟩).trans (hColumns tx hWall)
    · intro ty hWall
      exact (side_kept_y cmd h (hWall _) ⟨le_rfl, Map.tdiv_tile_le _⟩).trans (hRows ty hWall)

/-- Every position on the way of the X move, and then of the Y move, is clear of the walls, and so is the end: a move
stays on its side of every wall tile in its way, and a run of moves on its side of a wall across the map. -/
theorem movementStep_sweep (map : Map) (motion : PlayerMotion) (cmd : InputCmd)
    (h : map.aabbCollides motion.position = false) :
    (∀ x ∈ Set.uIcc motion.position.x (movementStep motion cmd map).position.x,
      map.aabbCollides ⟨x, motion.position.y⟩ = false) ∧
    (∀ y ∈ Set.uIcc motion.position.y (movementStep motion cmd map).position.y,
      map.aabbCollides ⟨(movementStep motion cmd map).position.x, y⟩ = false) ∧
    map.aabbCollides (movementStep motion cmd map).position = false ∧
    (∀ tx ty, map.isWall tx ty = true → Map.Meets motion.position.y ty →
      ((motion.position.x + 6143).tdiv 8192 < tx ↔
        ((movementStep motion cmd map).position.x + 6143).tdiv 8192 < tx)) ∧
    (∀ tx ty, map.isWall tx ty = true → Map.Meets (movementStep motion cmd map).position.x tx →
      ((motion.position.y + 6143).tdiv 8192 < ty ↔
        ((movementStep motion cmd map).position.y + 6143).tdiv 8192 < ty)) ∧
    (∀ cmds tx, (∀ ty, map.isWall tx ty = true) →
      ((motion.position.x + 6143).tdiv 8192 < tx ↔ ((walk map motion cmds).position.x + 6143).tdiv 8192 < tx)) ∧
    (∀ cmds ty, (∀ tx, map.isWall tx ty = true) →
      ((motion.position.y + 6143).tdiv 8192 < ty ↔ ((walk map motion cmds).position.y + 6143).tdiv 8192 < ty)) := by
  refine ⟨fun x hx => free_along_x cmd h hx, fun y hy => free_along_y cmd h hy, movementStep_free motion cmd map h,
    fun tx ty hWall hTy => side_kept_x cmd h hWall hTy, fun tx ty hWall hTx => side_kept_y cmd h hWall hTx, ?_, ?_⟩
  · intro cmds
    exact (walk_beside map cmds motion h).1
  · intro cmds
    exact (walk_beside map cmds motion h).2

/-- A player above a wall block walks down. -/
theorem movementStep_sweep_at_wall :
    Map.arena.aabbCollides (tileToFp 4 2) = false ∧
    Map.arena.aabbCollides (movementStep { position := tileToFp 4 2 } { buttons := kInputDown } Map.arena).position =
      false := by
  have hFree : Map.arena.aabbCollides (tileToFp 4 2) = false := by decide +kernel
  exact ⟨hFree, (movementStep_sweep Map.arena { position := tileToFp 4 2 } { buttons := kInputDown } hFree).2.2.1⟩

end CaptureTheFlag
