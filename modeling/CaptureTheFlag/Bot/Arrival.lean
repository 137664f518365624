import Mathlib.Data.Prod.Lex
import CaptureTheFlag.Bot.Steering
import CaptureTheFlag.Library.Ranking
import CaptureTheFlag.Shared.Mirror

/-! # The bot arrives

A step of the bot either leaves the tile for one nearer to the source, or brings the box nearer to the edges of its
tile that it has to cross.
-/
namespace CaptureTheFlag
set_option autoImplicit false

namespace FlowField

/-- One tick of a bot that follows the field. -/
def walkStep (field : FlowField) (map : Map) (motion : PlayerMotion) : PlayerMotion :=
  movementStep motion { buttons := field.steer map motion.position } map

instance (t : Tile) : Decidable (IsOpen t) := inferInstanceAs (Decidable (_ = _))

instance (field : FlowField) (t : Tile) (dx dy : Int) : Decidable (field.Descends t dx dy) :=
  inferInstanceAs (Decidable (_ ∧ _))

/-- What is left to the edge of the tile that the box heads for, from `o` in the tile. -/
def axisLeft (ahead : Prop) [Decidable ahead] (o : Int) : Nat := (if ahead then 8192 - o else o).toNat

def Along (d v : Int) : Prop := (d = 0 ∧ v = 0) ∨ (d = 1 ∧ 0 < v ∧ v ≤ 1365) ∨ (d = -1 ∧ -1365 ≤ v ∧ v < 0)

/-- A move that keeps to its heading stays in the tile and comes nearer to the edge, or leaves for a nearer tile. -/
theorem Leads.step {ahead behind : Prop} [Decidable ahead] {a b d : Int} (hLeads : Leads ahead behind (a % 8192) d)
    (hMove : Along d (b - a)) :
    ∃ e, b / 8192 = a / 8192 + e ∧
      ((e = 0 ∧ axisLeft ahead (b % 8192) ≤ axisLeft ahead (a % 8192) ∧
        (d ≠ 0 → axisLeft ahead (b % 8192) < axisLeft ahead (a % 8192))) ∨ (e = 1 ∧ ahead) ∨ (e = -1 ∧ behind)) := by
  simp only [axisLeft]
  rcases hLeads with rfl | ⟨rfl, hAhead⟩ | ⟨rfl, hNot, hBack⟩
  · obtain rfl : b = a := by
      simp only [Along] at hMove
      omega
    exact ⟨0, by omega, Or.inl ⟨rfl, le_rfl, fun hZero => absurd rfl hZero⟩⟩
  · have hV : 0 < b - a ∧ b - a ≤ 1365 := by
      simp only [Along] at hMove
      omega
    rw [if_pos hAhead, if_pos hAhead]
    by_cases hSame : b / 8192 = a / 8192
    · exact ⟨0, by omega, Or.inl ⟨rfl, by omega, fun _ => by omega⟩⟩
    · exact ⟨1, by omega, Or.inr (Or.inl ⟨rfl, hAhead⟩)⟩
  · have hV : -1365 ≤ b - a ∧ b - a < 0 := by
      simp only [Along] at hMove
      omega
    rw [if_neg hNot, if_neg hNot]
    by_cases hSame : b / 8192 = a / 8192
    · exact ⟨0, by omega, Or.inl ⟨rfl, by omega, fun _ => by omega⟩⟩
    · exact ⟨-1, by omega, Or.inr (Or.inr ⟨rfl, hBack.resolve_right (by omega)⟩)⟩

theorem Leads.sign {ahead behind : Prop} {o d : Int} (h : Leads ahead behind o d) : d = 0 ∨ d = 1 ∨ d = -1 := by
  rcases h with rfl | ⟨rfl, -⟩ | ⟨rfl, -⟩
  · exact Or.inl rfl
  · exact Or.inr (Or.inl rfl)
  · exact Or.inr (Or.inr rfl)

theorem velocityOf_heading {dx dy : Int} (hx : dx = 0 ∨ dx = 1 ∨ dx = -1) (hy : dy = 0 ∨ dy = 1 ∨ dy = -1) :
    Along dx (velocityOf { buttons := sideButton dx ||| levelButton dy }).x ∧
      Along dy (velocityOf { buttons := sideButton dx ||| levelButton dy }).y := by
  simp only [Along]
  rcases hx with rfl | rfl | rfl <;> rcases hy with rfl | rfl | rfl <;> decide

section Move

variable {field : FlowField} {p : Vec2Fixed} (h : Free p)
include h

theorem Free.short_x {d v : Int} (hMove : Along d v) (hEnd : Free ⟨p.x + d * 1365, p.y⟩) : Free ⟨p.x + v, p.y⟩ := by
  rw [free_iff_open] at h hEnd ⊢
  rintro tx ty ⟨hTx, hTy⟩
  simp only [Along] at hMove
  have hBetween : p.x + v ∈ Set.uIcc p.x (p.x + d * 1365) := by
    rw [Set.mem_uIcc]
    omega
  rcases Map.meets_between hBetween (by omega) hTx with hFrom | hTo
  · exact h tx ty ⟨hFrom, hTy⟩
  · exact hEnd tx ty ⟨hTo, hTy⟩

theorem Free.short_y {d v : Int} (hMove : Along d v) (hEnd : Free ⟨p.x, p.y + d * 1365⟩) : Free ⟨p.x, p.y + v⟩ := by
  rw [free_iff_open] at h hEnd ⊢
  rintro tx ty ⟨hTx, hTy⟩
  simp only [Along] at hMove
  have hBetween : p.y + v ∈ Set.uIcc p.y (p.y + d * 1365) := by
    rw [Set.mem_uIcc]
    omega
  rcases Map.meets_between hBetween (by omega) hTy with hFrom | hTo
  · exact h tx ty ⟨hTx, hFrom⟩
  · exact hEnd tx ty ⟨hTx, hTo⟩

end Move

section Walk

variable {field : FlowField} {source : Tile} (hGuides : field.Guides source)
include hGuides

/-- The box always moves. What is blocked is the vertical part of a diagonal move at most. -/
theorem Guides.walkStep_moves {motion : PlayerMotion} (h : Free motion.position)
    (hAway : field.distAt (tileOf motion.position) ≠ 0) :
    ∃ dx dy, (dx ≠ 0 ∨ dy ≠ 0) ∧
      Leads (field.Descends (tileOf motion.position) 1 0) (field.Descends (tileOf motion.position) (-1) 0)
        (motion.position.x % 8192) dx ∧
      Leads (field.Descends (tileOf motion.position) 0 1) (field.Descends (tileOf motion.position) 0 (-1))
        (motion.position.y % 8192) dy ∧
      Along dx ((field.walkStep Map.arena motion).position.x - motion.position.x) ∧
      Along dy ((field.walkStep Map.arena motion).position.y - motion.position.y) := by
  obtain ⟨dx, dy, hSteer, hMoves, ⟨hLeadsX, hFreeX⟩, hLeadsY, hFreeY⟩ := h.steer_heads hGuides hAway
  obtain ⟨hAlongX, hAlongY⟩ := velocityOf_heading hLeadsX.sign hLeadsY.sign
  rw [walkStep, movementStep_position, hSteer]
  generalize velocityOf { buttons := sideButton dx ||| levelButton dy } = v at hAlongX hAlongY
  generalize motion.position = p at *
  have hSlide : slide Map.arena p v.x = p.x + v.x := by
    rw [slide, h.short_x hAlongX hFreeX]
    rfl
  have hX : p.x + v.x - p.x = v.x := by omega
  have hY : p.y + v.y - p.y = v.y := by omega
  simp only [climb, hSlide, hX]
  cases hBlocked : Map.arena.aabbCollides ⟨p.x + v.x, p.y + v.y⟩ with
  | false =>
    rw [if_neg Bool.false_ne_true, hY]
    exact ⟨dx, dy, hMoves, hLeadsX, hLeadsY, hAlongX, hAlongY⟩
  | true =>
    rw [if_pos rfl, Int.sub_self]
    refine ⟨dx, 0, Or.inl ?_, hLeadsX, Or.inl rfl, hAlongX, Or.inl ⟨rfl, rfl⟩⟩
    rintro rfl
    have hStill : v.x = 0 := by
      simp only [Along] at hAlongX
      omega
    have hClear : Map.arena.aabbCollides ⟨p.x, p.y + v.y⟩ = false := h.short_y hAlongY hFreeY
    rw [hStill, Int.add_zero, hClear] at hBlocked
    cases hBlocked

/-- A tile that is entered across one nearer edge, or across the corner between two, is nearer. -/
theorem Guides.nearer {t : Tile} (hHere : IsOpen t) {ex ey : Int} (hMoves : ex ≠ 0 ∨ ey ≠ 0)
    (hX : ex = 0 ∨ ((ex = 1 ∨ ex = -1) ∧ field.Descends t ex 0))
    (hY : ey = 0 ∨ ((ey = 1 ∨ ey = -1) ∧ field.Descends t 0 ey)) (hOpen : IsOpen ⟨t.x + ex, t.y + ey⟩) :
    (field.distAt ⟨t.x + ex, t.y + ey⟩).toNat < (field.distAt t).toNat := by
  rcases hX with rfl | ⟨hSignX, hSide⟩
  · rcases hY with rfl | ⟨-, hLevel⟩
    · exact absurd rfl (hMoves.resolve_left (fun hNe => hNe rfl))
    · exact hLevel.2
  · rcases hY with rfl | ⟨hSignY, hLevel⟩
    · exact hSide.2
    · exact hGuides.corner t hHere ex ey hSignX hSignY hSide hLevel hOpen

end Walk

/-- First the distance of the tile, then the way to the edges of the tile. -/
def rank (field : FlowField) (motion : PlayerMotion) : ℕ ×ₗ ℕ :=
  let t := tileOf motion.position
  toLex ((field.distAt t).toNat, axisLeft (field.Descends t 1 0) (motion.position.x % 8192) +
    axisLeft (field.Descends t 0 1) (motion.position.y % 8192))

theorem Guides.walkStep_rank {field : FlowField} {source : Tile} (hGuides : field.Guides source)
    {motion : PlayerMotion} (h : Free motion.position) (hAway : field.distAt (tileOf motion.position) ≠ 0) :
    field.rank (field.walkStep Map.arena motion) < field.rank motion := by
  obtain ⟨dx, dy, hMoves, hLeadsX, hLeadsY, hAlongX, hAlongY⟩ := hGuides.walkStep_moves h hAway
  have hNext : Free (field.walkStep Map.arena motion).position := movementStep_free motion _ _ h
  obtain ⟨hTile, hHere, -, -⟩ := h.corner
  obtain ⟨hTile', hHere', -, -⟩ := hNext.corner
  obtain ⟨ex, hEx, hX⟩ := hLeadsX.step hAlongX
  obtain ⟨ey, hEy, hY⟩ := hLeadsY.step hAlongY
  rw [hEx, hEy] at hTile' hHere'
  rw [← hTile] at hHere
  have hShift : tileOf (field.walkStep Map.arena motion).position =
      ⟨(tileOf motion.position).x + ex, (tileOf motion.position).y + ey⟩ := by rw [hTile', hTile]
  rw [rank, rank, Prod.Lex.toLex_lt_toLex]
  simp only
  by_cases hStay : ex = 0 ∧ ey = 0
  · obtain ⟨rfl, rfl⟩ := hStay
    simp only [Int.add_zero] at hShift
    rw [hShift]
    apply Or.inr
    refine ⟨rfl, ?_⟩
    obtain ⟨-, hLeX, hLtX⟩ := hX.resolve_right (by omega)
    obtain ⟨-, hLeY, hLtY⟩ := hY.resolve_right (by omega)
    rcases hMoves with hDx | hDy
    · exact Nat.add_lt_add_of_lt_of_le (hLtX hDx) hLeY
    · exact Nat.add_lt_add_of_le_of_lt hLeX (hLtY hDy)
  · apply Or.inl
    have hOpen : IsOpen ⟨(tileOf motion.position).x + ex, (tileOf motion.position).y + ey⟩ := by
      rw [hTile]
      exact hHere'
    rw [hShift]
    apply hGuides.nearer hHere (by omega) _ _ hOpen
    · rcases hX with ⟨hZero, -⟩ | ⟨rfl, hRight⟩ | ⟨rfl, hLeft⟩
      · exact Or.inl hZero
      · exact Or.inr ⟨Or.inl rfl, hRight⟩
      · exact Or.inr ⟨Or.inr rfl, hLeft⟩
    · rcases hY with ⟨hZero, -⟩ | ⟨rfl, hDown⟩ | ⟨rfl, hUp⟩
      · exact Or.inl hZero
      · exact Or.inr ⟨Or.inl rfl, hDown⟩
      · exact Or.inr ⟨Or.inr rfl, hUp⟩

theorem Guides.lowers {field : FlowField} {source : Tile} (hGuides : field.Guides source) :
    Ranking.Lowers (field.walkStep Map.arena) (fun motion => tileOf motion.position = source)
      (fun motion => Free motion.position) field.rank := by
  intro motion h hOff
  refine ⟨movementStep_free motion _ _ h, hGuides.walkStep_rank h ?_⟩
  intro hSource
  obtain ⟨hTile, hHere, -, -⟩ := h.corner
  rw [← hTile] at hHere
  exact hOff (hGuides.arrives _ hHere hSource)

/-- From every free position, whatever its place within the tile, a bot that follows the field of a base comes to the
tile of the base, and on the way it is never twice in one place. -/
theorem walk_arrives (team : Team) (motion : PlayerMotion) (h : Map.arena.aabbCollides motion.position = false) :
    ∃ n, tileOf (((build Map.arena (baseOf team)).walkStep Map.arena)^[n] motion).position = tileOf (baseOf team) ∧
      ∀ i j, i < j → j ≤ n →
        (((build Map.arena (baseOf team)).walkStep Map.arena)^[i] motion).position ≠
          (((build Map.arena (baseOf team)).walkStep Map.arena)^[j] motion).position := by
  obtain ⟨n, hGoal, -, hLess⟩ := (guides_build team).lowers.reaches h
  refine ⟨n, hGoal, ?_⟩
  intro i j hij hj hSame
  have hLower := hLess i j hij hj
  rw [rank, rank, hSame] at hLower
  exact lt_irrefl _ hLower

theorem walk_arrives_from_corner :
    Map.arena.aabbCollides ⟨10192, 188801⟩ = false ∧
      ∃ n, tileOf (((build Map.arena (baseOf .blue)).walkStep Map.arena)^[n] { position := ⟨10192, 188801⟩ }).position =
          tileOf (baseOf .blue) ∧
        ∀ i j, i < j → j ≤ n →
          (((build Map.arena (baseOf .blue)).walkStep Map.arena)^[i] { position := ⟨10192, 188801⟩ }).position ≠
            (((build Map.arena (baseOf .blue)).walkStep Map.arena)^[j] { position := ⟨10192, 188801⟩ }).position := by
  have hFree : Map.arena.aabbCollides ⟨10192, 188801⟩ = false := by decide +kernel
  exact ⟨hFree, walk_arrives .blue { position := ⟨10192, 188801⟩ } hFree⟩

end FlowField
end CaptureTheFlag
