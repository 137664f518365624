import CaptureTheFlag.Library.Checked
import CaptureTheFlag.Shared.Sweep

/-! # The physics step in machine arithmetic

The same functions with every operation checked against the width of its type.
-/
namespace CaptureTheFlag
set_option autoImplicit false
open Checked

/-- The product is formed in 64 bits. -/
def fpMulChecked (a b : Int) : Option Int := do
  let product ← mul 64 a b
  fit 32 (product >>> kFixedShift)

def velocityOfChecked (cmd : InputCmd) : Option Vec2Fixed := do
  let speed := kMoveSpeedFpPerTick
  let vx ← if cmd.pressed kInputLeft then sub 32 0 speed else pure 0
  let vx ← if cmd.pressed kInputRight then add 32 vx speed else pure vx
  let vy ← if cmd.pressed kInputUp then sub 32 0 speed else pure 0
  let vy ← if cmd.pressed kInputDown then add 32 vy speed else pure vy
  if vx ≠ 0 ∧ vy ≠ 0 then
    let vx ← fpMulChecked vx kDiagonalFactorNum
    let vy ← fpMulChecked vy kDiagonalFactorNum
    pure ⟨vx, vy⟩
  else pure ⟨vx, vy⟩

theorem velocityOfChecked_eq (cmd : InputCmd) : velocityOfChecked cmd = some (velocityOf cmd) := by
  have hButtons : ∀ b : U8, velocityOfChecked { buttons := b } = some (velocityOf { buttons := b }) := by decide
  exact hButtons cmd.buttons

namespace Map

/-- The bounds of the loop over the tiles that a box covers along one axis, and the counter one past the end. -/
def tileRangeChecked (a : Int) : Option (Int × Int) := do
  let sizeFp ← mul 32 kPlayerSizePx kFixedScale
  let tileFp ← mul 32 kTileSizePx kFixedScale
  let lo ← div 32 a tileFp
  let right ← add 32 a sizeFp
  let last ← sub 32 right 1
  let hi ← div 32 last tileFp
  let _ ← add 32 hi 1
  pure (lo, hi)

def aabbCollidesChecked (map : Map) (position : Vec2Fixed) : Option Bool := do
  let (minTx, maxTx) ← tileRangeChecked position.x
  let (minTy, maxTy) ← tileRangeChecked position.y
  pure ((span minTy maxTy).any fun ty => (span minTx maxTx).any fun tx => map.isWall tx ty)

theorem fits_tdiv_tile {a : Int} (h : Fits 32 a) : Fits 32 (a.tdiv 8192) ∧ Fits 32 (a.tdiv 8192 + 1) := by
  rw [fits_32] at h
  rw [fits_32, fits_32, tdiv_tile]
  split <;> omega

theorem tileRangeChecked_eq {a : Int} (h : Fits 32 a) (hRight : Fits 32 (a + 6144)) :
    tileRangeChecked a = some (a.tdiv 8192, (a + 6144 - 1).tdiv 8192) := by
  have hLast : Fits 32 (a + 6144 - 1) := by
    rw [fits_32] at h hRight ⊢
    omega
  have hSize : mul 32 kPlayerSizePx kFixedScale = some 6144 := rfl
  have hTile : mul 32 kTileSizePx kFixedScale = some 8192 := rfl
  have hLo := div_eq (show (8192 : Int) ≠ 0 by decide) (fits_tdiv_tile h).1
  have hHi := div_eq (show (8192 : Int) ≠ 0 by decide) (fits_tdiv_tile hLast).1
  simp only [tileRangeChecked, hSize, hTile, Option.bind_eq_bind, Option.bind_some, hLo, add_eq hRight, sub_eq hLast, hHi,
    add_eq (fits_tdiv_tile hLast).2]
  rfl

theorem aabbCollidesChecked_eq (map : Map) {position : Vec2Fixed} (hX : Fits 32 position.x)
    (hX' : Fits 32 (position.x + 6144)) (hY : Fits 32 position.y) (hY' : Fits 32 (position.y + 6144)) :
    map.aabbCollidesChecked position = some (map.aabbCollides position) := by
  simp only [aabbCollidesChecked, tileRangeChecked_eq hX hX', tileRangeChecked_eq hY hY', Option.bind_eq_bind,
    Option.bind_some]
  rfl

end Map

def movementStepChecked (motion : PlayerMotion) (cmd : InputCmd) (map : Map) : Option PlayerMotion := do
  let v ← velocityOfChecked cmd
  let pos := motion.position
  let nx ← add 32 pos.x v.x
  let hitX ← map.aabbCollidesChecked ⟨nx, pos.y⟩
  let x := if hitX then pos.x else nx
  let ny ← add 32 pos.y v.y
  let hitY ← map.aabbCollidesChecked ⟨x, ny⟩
  let y := if hitY then pos.y else ny
  pure { position := ⟨x, y⟩, velocity := v }

theorem movementStepChecked_eq {motion : PlayerMotion} (h : motion.position.OnWire) (cmd : InputCmd) (map : Map) :
    movementStepChecked motion cmd map = some (movementStep motion cmd map) := by
  obtain ⟨hLeft, hRight, hTop, hBottom⟩ := h
  obtain ⟨hVx, hVy⟩ := velocityOf_bounded cmd
  have hFits : ∀ a : Int, -600000 ≤ a → a ≤ 600000 → Fits 32 a := by
    intro a hLo hHi
    rw [fits_32]
    omega
  have hX : add 32 motion.position.x (velocityOf cmd).x = some (motion.position.x + (velocityOf cmd).x) :=
    add_eq (hFits _ (by omega) (by omega))
  have hY : add 32 motion.position.y (velocityOf cmd).y = some (motion.position.y + (velocityOf cmd).y) :=
    add_eq (hFits _ (by omega) (by omega))
  have hBox : ∀ x y : Int, -530000 ≤ x → x ≤ 530000 → -530000 ≤ y → y ≤ 530000 →
      map.aabbCollidesChecked ⟨x, y⟩ = some (map.aabbCollides ⟨x, y⟩) := by
    intro x y hx hx' hy hy'
    exact map.aabbCollidesChecked_eq (hFits _ (by simp only; omega) (by simp only; omega))
      (hFits _ (by simp only; omega) (by simp only; omega)) (hFits _ (by simp only; omega) (by simp only; omega))
      (hFits _ (by simp only; omega) (by simp only; omega))
  have hAcross := hBox (motion.position.x + (velocityOf cmd).x) motion.position.y (by omega) (by omega) (by omega) (by omega)
  simp only [movementStepChecked, velocityOfChecked_eq, Option.bind_eq_bind, Option.bind_some, hX, hAcross, hY]
  rw [hBox _ _ ?_ ?_ (by omega) (by omega)]
  · rfl
  · split <;> omega
  · split <;> omega

end CaptureTheFlag
