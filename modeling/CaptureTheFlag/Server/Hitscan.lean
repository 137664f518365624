import Mathlib.Data.Nat.Find
import Mathlib.Logic.Function.Iterate
import CaptureTheFlag.Server.SimCombat
import CaptureTheFlag.Shared.Sweep
import CaptureTheFlag.Shared.WallTable

/-! # Where a ray ends

The remainders make the march exact: after `k` steps the ray is where a line of `k * 8` units in its direction ends,
rounded down on each axis. Steps are far shorter than a tile and the border of the arena is solid, so a ray that starts
inside stops before it could leave, and long before the budget of steps is used up.
-/
namespace CaptureTheFlag
set_option autoImplicit false

namespace Sim

def Ray.point (r : Ray) : Vec2Fixed := ⟨r.px, r.py⟩

def Ray.along (dir : Int × Int) (r : Ray) : Ray := r.advance (dir.1 * kRayStepFp) (dir.2 * kRayStepFp)

/-- The ray after `k` iterations of the loop. -/
def marched (origin : Vec2Fixed) (dir : Int × Int) (k : Nat) : Ray :=
  (Ray.along dir)^[k] { px := origin.x, py := origin.y }

def rayPoint (origin : Vec2Fixed) (dir : Int × Int) (k : Nat) : Vec2Fixed :=
  ⟨origin.x + k * 8 * dir.1 / 1024, origin.y + k * 8 * dir.2 / 1024⟩

/-- One axis of `advance`: position and remainder together hold the exact sum. -/
theorem shift_remainder (a d : Int) : a / 1024 + (a % 1024 + d) >>> kRayShift = (a + d) / 1024 ∧
    (a % 1024 + d) % kRayScale = (a + d) % 1024 := by
  have hShift : (a % 1024 + d) >>> kRayShift = (a % 1024 + d) / 1024 := Int.shiftRight_eq_div_pow _ 10
  simp only [hShift, kRayScale]
  omega

theorem steps_succ (k : Nat) (c : Int) : ((k + 1 : Nat) : Int) * 8 * c = k * 8 * c + c * kRayStepFp := by
  rw [Int.natCast_add, Int.add_mul, Int.add_mul, Int.mul_comm c]
  rfl

theorem marched_eq (origin : Vec2Fixed) (dir : Int × Int) (k : Nat) :
    marched origin dir k =
      { px := origin.x + k * 8 * dir.1 / 1024, py := origin.y + k * 8 * dir.2 / 1024,
        remX := k * 8 * dir.1 % 1024, remY := k * 8 * dir.2 % 1024 } := by
  induction k with
  | zero => simp [marched]
  | succ k ih =>
    have hNext : marched origin dir (k + 1) = (marched origin dir k).along dir := by
      rw [marched, Function.iterate_succ_apply']
      rfl
    obtain ⟨hX, hRemX⟩ := shift_remainder (k * 8 * dir.1) (dir.1 * kRayStepFp)
    obtain ⟨hY, hRemY⟩ := shift_remainder (k * 8 * dir.2) (dir.2 * kRayStepFp)
    rw [hNext, ih, Ray.along, Ray.advance]
    simp only [steps_succ, ← hX, ← hY, hRemX, hRemY, Int.add_assoc]

theorem point_marched (origin : Vec2Fixed) (dir : Int × Int) (k : Nat) :
    (marched origin dir k).point = rayPoint origin dir k := by
  rw [marched_eq, rayPoint]
  rfl

/-- What rounding gives for the cosine and the sine: neither exceeds the scale, and not both are small. -/
structure Rounded (dir : Int × Int) : Prop where
  x : -1024 ≤ dir.1 ∧ dir.1 ≤ 1024
  y : -1024 ≤ dir.2 ∧ dir.2 ≤ 1024
  long : 724 ≤ dir.1 ∨ dir.1 ≤ -724 ∨ 724 ≤ dir.2 ∨ dir.2 ≤ -724

def Near (p q : Vec2Fixed) : Prop := (-8 ≤ q.x - p.x ∧ q.x - p.x ≤ 8) ∧ -8 ≤ q.y - p.y ∧ q.y - p.y ≤ 8

theorem rayPoint_step {dir : Int × Int} (h : Rounded dir) (origin : Vec2Fixed) (k : Nat) :
    Near (rayPoint origin dir k) (rayPoint origin dir (k + 1)) := by
  obtain ⟨hX, hY, -⟩ := h
  simp only [Near, rayPoint, steps_succ, kRayStepFp]
  omega

def wallAt (p : Vec2Fixed) : Bool := Map.arena.isWall (p.x.tdiv 8192) (p.y.tdiv 8192)

/-- The point lies in the box of player `id`, a living enemy. -/
def Hits (players : Fin kMaxPlayers → Player) (shooterTeam : Team) (p : Vec2Fixed) (id : Fin kMaxPlayers) : Prop :=
  (players id).active = true ∧ (players id).alive = true ∧ (players id).team ≠ shooterTeam ∧
    ((players id).position.x ≤ p.x ∧ p.x < (players id).position.x + 6144) ∧
    (players id).position.y ≤ p.y ∧ p.y < (players id).position.y + 6144

def Stops (players : Fin kMaxPlayers → Player) (shooterTeam : Team) (p : Vec2Fixed) : Prop :=
  wallAt p = true ∨ ∃ id, Hits players shooterTeam p id

section March

variable {players : Fin kMaxPlayers → Player} {team : Team}

theorem hits_iff {r : Ray} {i : Fin kMaxPlayers} :
    decide ((players i).active ∧ (players i).alive ∧ (players i).team ≠ team ∧ r.inBox (players i).position) = true ↔
      Hits players team r.point i := by
  simp only [Ray.inBox, Hits, Ray.point, decide_eq_true_eq, kPlayerSizePx, kFixedScale, ge_iff_le, and_assoc]
  rfl

theorem enemyAt_eq_some {r : Ray} {id : Fin kMaxPlayers} :
    enemyAt players team r = some id ↔ Hits players team r.point id ∧ ∀ i < id, ¬ Hits players team r.point i := by
  rw [enemyAt, List.find?_eq_some_iff_getElem]
  simp only [hits_iff, List.getElem_finRange, Bool.not_eq_true', ← Bool.not_eq_true]
  constructor
  · rintro ⟨hHit, i, hi, rfl, hBefore⟩
    refine ⟨hHit, ?_⟩
    intro j hj
    exact hBefore j.val hj
  · rintro ⟨hHit, hBefore⟩
    refine ⟨hHit, id.val, ?_, rfl, ?_⟩
    · rw [List.length_finRange]
      exact id.isLt
    · intro j hj
      exact hBefore ⟨j, _⟩ hj

theorem enemyAt_eq_none {r : Ray} : enemyAt players team r = none ↔ ∀ id, ¬ Hits players team r.point id := by
  rw [enemyAt, List.find?_eq_none]
  simp only [hits_iff]
  constructor
  · intro h id
    exact h id (List.mem_finRange id)
  · intro h id _
    exact h id

theorem march_stop {dir : Int × Int} {r : Ray} (steps : Nat) (hStop : Stops players team (r.along dir).point) :
    march players team (dir.1 * kRayStepFp) (dir.2 * kRayStepFp) (steps + 1) r =
      ((r.along dir).point, if wallAt (r.along dir).point then none else enemyAt players team (r.along dir)) := by
  rw [march]
  by_cases hWall : wallAt (r.along dir).point = true
  · rw [if_pos hWall]
    exact if_pos hWall
  · rw [if_neg hWall]
    refine (if_neg hWall).trans ?_
    obtain ⟨id, hEnemy⟩ : ∃ id, enemyAt players team (r.along dir) = some id := by
      rw [← Option.ne_none_iff_exists']
      intro hNone
      obtain ⟨id, hHit⟩ := hStop.resolve_left hWall
      exact enemyAt_eq_none.mp hNone id hHit
    simp only [Ray.along] at hEnemy ⊢
    simp only [hEnemy]
    rfl

theorem march_go {dir : Int × Int} {r : Ray} (steps : Nat) (hGo : ¬ Stops players team (r.along dir).point) :
    march players team (dir.1 * kRayStepFp) (dir.2 * kRayStepFp) (steps + 1) r =
      march players team (dir.1 * kRayStepFp) (dir.2 * kRayStepFp) steps (r.along dir) := by
  rw [Stops, not_or, not_exists] at hGo
  have hNone := enemyAt_eq_none.mpr hGo.2
  rw [march]
  refine (if_neg hGo.1).trans ?_
  simp only [Ray.along] at hNone ⊢
  simp only [hNone]

theorem march_eq {dir : Int × Int} {k steps : Nat} {r : Ray} (hSteps : k < steps)
    (hBefore : ∀ j < k, ¬ Stops players team ((Ray.along dir)^[j + 1] r).point)
    (hStop : Stops players team ((Ray.along dir)^[k + 1] r).point) :
    march players team (dir.1 * kRayStepFp) (dir.2 * kRayStepFp) steps r =
      (((Ray.along dir)^[k + 1] r).point, if wallAt ((Ray.along dir)^[k + 1] r).point then none
        else enemyAt players team ((Ray.along dir)^[k + 1] r)) := by
  obtain ⟨steps, rfl⟩ : ∃ m, steps = m + 1 := ⟨steps - 1, by omega⟩
  induction k generalizing steps r with
  | zero => exact march_stop steps hStop
  | succ k ih =>
    obtain ⟨steps, rfl⟩ : ∃ m, steps = m + 1 := ⟨steps - 1, by omega⟩
    rw [march_go (steps + 1) (hBefore 0 (Nat.succ_pos k))]
    exact ih (fun j hj => hBefore (j + 1) (by omega)) hStop steps (by omega)

end March

def OnMap (p : Vec2Fixed) : Prop :=
  (0 ≤ p.x ∧ p.x < kMapWidthPx * kFixedScale) ∧ 0 ≤ p.y ∧ p.y < kMapHeightPx * kFixedScale

/-- A point that is not in a wall is at least a tile away from the edge of the map. -/
theorem inner_of_open {p : Vec2Fixed} (h : wallAt p = false) :
    (8192 ≤ p.x ∧ p.x < 39 * 8192) ∧ 8192 ≤ p.y ∧ p.y < 24 * 8192 := by
  have hInner : 0 < p.x.tdiv 8192 ∧ p.x.tdiv 8192 < 39 ∧ 0 < p.y.tdiv 8192 ∧ p.y.tdiv 8192 < 24 := by
    by_contra hBorder
    cases h.symm.trans (Map.isWall_border (p.x.tdiv 8192) (p.y.tdiv 8192) (by omega))
  rw [Map.tdiv_tile, Map.tdiv_tile] at hInner
  omega

theorem center_open {position : Vec2Fixed} (h : Map.arena.aabbCollides position = false) :
    wallAt (centerOf position) = false := by
  have hHalf : (kPlayerSizePx * kFixedScale).tdiv 2 = 3072 := by decide
  apply (Map.free_iff _ _).mp h
  simp only [Map.Covers, Map.Meets, centerOf, hHalf]
  rw [Map.tdiv_tile, Map.tdiv_tile, Map.tdiv_tile, Map.tdiv_tile, Map.tdiv_tile, Map.tdiv_tile]
  omega

theorem rayPoint_zero (origin : Vec2Fixed) (dir : Int × Int) : rayPoint origin dir 0 = origin := by
  simp [rayPoint]

section Way

variable {dir : Int × Int} (h : Rounded dir) {origin : Vec2Fixed} (hOrigin : wallAt origin = false)
include h hOrigin

theorem wallAt_far : wallAt (rayPoint origin dir 60000) = true := by
  obtain ⟨hX, hY⟩ := inner_of_open hOrigin
  cases hOpen : wallAt (rayPoint origin dir 60000) with
  | true => rfl
  | false =>
    have hInner := inner_of_open hOpen
    have hLong := h.long
    simp only [rayPoint] at hInner
    omega

theorem onMap_of_open {k : Nat} (hBefore : ∀ j, 0 < j → j < k → wallAt (rayPoint origin dir j) = false) (hk : 0 < k) :
    OnMap (rayPoint origin dir k) := by
  obtain ⟨k, rfl⟩ : ∃ m, k = m + 1 := ⟨k - 1, by omega⟩
  have hLast : wallAt (rayPoint origin dir k) = false := by
    rcases Nat.eq_zero_or_pos k with rfl | hPos
    · rw [rayPoint_zero]
      exact hOrigin
    · exact hBefore k hPos (Nat.lt_succ_self k)
  have hInner := inner_of_open hLast
  have hStep := rayPoint_step h origin k
  simp only [Near] at hStep
  simp only [OnMap, kMapWidthPx, kMapHeightPx, kFixedScale]
  omega

end Way

/-- The ray ends at point `k`, the first in a wall or in the box of a living enemy. -/
structure Ends (players : Fin kMaxPlayers → Player) (team : Team) (origin : Vec2Fixed) (dir : Int × Int) (k : Nat)
    (result : Vec2Fixed × Option (Fin kMaxPlayers)) : Prop where
  before : ∀ j, 0 < j → j < k → ¬ Stops players team (rayPoint origin dir j)
  stops : Stops players team (rayPoint origin dir k)
  onMap : ∀ j, 0 < j → j ≤ k → OnMap (rayPoint origin dir j)
  point : result.1 = rayPoint origin dir k
  hit : result.2.isSome = true ↔ wallAt (rayPoint origin dir k) = false
  named : ∀ id, result.2 = some id → Hits players team (rayPoint origin dir k) id ∧
    ∀ i < id, ¬ Hits players team (rayPoint origin dir k) i

theorem ends_march {players : Fin kMaxPlayers → Player} {team : Team} {dir : Int × Int} (h : Rounded dir)
    {origin : Vec2Fixed} (hOrigin : wallAt origin = false) {k steps : Nat} (hSteps : k < steps)
    (hBefore : ∀ j < k, ¬ Stops players team (rayPoint origin dir (j + 1)))
    (hStop : Stops players team (rayPoint origin dir (k + 1))) :
    Ends players team origin dir (k + 1)
      (march players team (dir.1 * kRayStepFp) (dir.2 * kRayStepFp) steps { px := origin.x, py := origin.y }) := by
  have hEarlier : ∀ j, 0 < j → j < k + 1 → ¬ Stops players team (rayPoint origin dir j) := by
    intro j hPos hj
    obtain ⟨i, rfl⟩ : ∃ i, j = i + 1 := ⟨j - 1, by omega⟩
    exact hBefore i (by omega)
  have hMarch : march players team (dir.1 * kRayStepFp) (dir.2 * kRayStepFp) steps { px := origin.x, py := origin.y } =
      ((marched origin dir (k + 1)).point, if wallAt (marched origin dir (k + 1)).point then none
        else enemyAt players team (marched origin dir (k + 1))) := by
    simp only [← point_marched] at hBefore hStop
    exact march_eq hSteps hBefore hStop
  rw [point_marched] at hMarch
  rw [hMarch]
  refine ⟨hEarlier, hStop, ?_, rfl, ?_, ?_⟩
  · intro j hPos hj
    apply onMap_of_open h hOrigin _ hPos
    intro i hi hij
    cases hWall : wallAt (rayPoint origin dir i) with
    | false => rfl
    | true => exact absurd (Or.inl hWall) (hEarlier i hi (by omega))
  · cases hWall : wallAt (rayPoint origin dir (k + 1)) with
    | true => simp
    | false =>
      simp only [Bool.false_eq_true, if_false, iff_true]
      rw [Option.isSome_iff_ne_none]
      intro hNone
      obtain ⟨id, hHit⟩ := hStop.resolve_left (by rw [hWall]; exact Bool.false_ne_true)
      have hMiss := enemyAt_eq_none.mp hNone id
      rw [point_marched] at hMiss
      exact hMiss hHit
  · intro id hSome
    cases hWall : wallAt (rayPoint origin dir (k + 1)) with
    | true =>
      rw [hWall] at hSome
      cases hSome
    | false =>
      rw [hWall] at hSome
      have hNamed := enemyAt_eq_some.mp hSome
      rw [point_marched] at hNamed
      exact hNamed

/-- A shot from the centre of a free box: the march is exact, and it ends within the budget of steps at the first point
in a wall or in the box of a living enemy, without leaving the map. -/
theorem castRay_exact (rayDir : RayDir) (players : Fin kMaxPlayers → Player) (position : Vec2Fixed) (aim : U16)
    (team : Team) (hFree : Map.arena.aabbCollides position = false) (h : Rounded (rayDir aim)) :
    (∀ k, (marched (centerOf position) (rayDir aim) k).point = rayPoint (centerOf position) (rayDir aim) k ∧
      Near (rayPoint (centerOf position) (rayDir aim) k) (rayPoint (centerOf position) (rayDir aim) (k + 1))) ∧
    ∃ k, 0 < k ∧ k < kMaxRaySteps ∧ Ends players team (centerOf position) (rayDir aim) k
      (castRay rayDir players (centerOf position) aim team) := by
  classical
  have hOrigin := center_open hFree
  generalize centerOf position = origin at hOrigin
  constructor
  · intro k
    exact ⟨point_marched origin (rayDir aim) k, rayPoint_step h origin k⟩
  · have hFar : Stops players team (rayPoint origin (rayDir aim) (59999 + 1)) := Or.inl (wallAt_far h hOrigin)
    have hSome : ∃ k, Stops players team (rayPoint origin (rayDir aim) (k + 1)) := ⟨59999, hFar⟩
    have hSteps : Nat.find hSome + 1 < kMaxRaySteps :=
      Nat.lt_of_le_of_lt (Nat.succ_le_succ (Nat.find_min' hSome hFar)) (by decide)
    exact ⟨Nat.find hSome + 1, Nat.succ_pos _, hSteps, ends_march h hOrigin (Nat.lt_of_succ_lt hSteps)
      (fun j hj => Nat.find_min hSome hj) (Nat.find_spec hSome)⟩

/-- The box of a blue player begins an eighth of a pixel to the right of the point from which the shot is fired. -/
def oneEnemy : Fin kMaxPlayers → Player := fun i =>
  if i = 4 then { active := true, team := .blue, position := ⟨kRedBasePosition.x + 3104, kRedBasePosition.y⟩ } else {}

theorem castRay_exact_oneEnemy :
    Map.arena.aabbCollides kRedBasePosition = false ∧ Rounded (1024, 0) ∧
      (castRay (fun _ => (1024, 0)) oneEnemy (centerOf kRedBasePosition) 0 .red).2 = some 4 ∧
      ∃ k, 0 < k ∧ k < kMaxRaySteps ∧ Ends oneEnemy .red (centerOf kRedBasePosition) (1024, 0) k
        (castRay (fun _ => (1024, 0)) oneEnemy (centerOf kRedBasePosition) 0 .red) := by
  have hFree : Map.arena.aabbCollides kRedBasePosition = false := by decide +kernel
  have hDir : Rounded (1024, 0) := ⟨by decide, by decide, by decide⟩
  have hHit : (castRay (fun _ => (1024, 0)) oneEnemy (centerOf kRedBasePosition) 0 .red).2 = some 4 := by decide +kernel
  exact ⟨hFree, hDir, hHit, (castRay_exact (fun _ => (1024, 0)) oneEnemy kRedBasePosition 0 .red hFree hDir).2⟩

end Sim
end CaptureTheFlag
