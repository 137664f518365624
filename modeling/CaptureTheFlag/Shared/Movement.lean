import CaptureTheFlag.Shared.Map

/-! # The physics step

Input maps directly to velocity; collision resolves X fully, then Y from the post-X position. Client
and server both run this one function.
-/
namespace CaptureTheFlag
set_option autoImplicit false

def fpMul (a b : Int) : Int := (a * b) >>> kFixedShift

/-- First half of `movement_step`: buttons to velocity, with the diagonal normalisation. -/
def velocityOf (cmd : InputCmd) : Vec2Fixed :=
  let speed := kMoveSpeedFpPerTick
  let vx : Int := (if cmd.pressed kInputLeft then -speed else 0) + (if cmd.pressed kInputRight then speed else 0)
  let vy : Int := (if cmd.pressed kInputUp then -speed else 0) + (if cmd.pressed kInputDown then speed else 0)
  if vx ≠ 0 ∧ vy ≠ 0 then ⟨fpMul vx kDiagonalFactorNum, fpMul vy kDiagonalFactorNum⟩ else ⟨vx, vy⟩

def movementStep (motion : PlayerMotion) (cmd : InputCmd) (map : Map) : PlayerMotion :=
  let v := velocityOf cmd
  let pos := motion.position
  let nx := pos.x + v.x
  let x := if map.aabbCollides ⟨nx, pos.y⟩ then pos.x else nx
  let ny := pos.y + v.y
  let y := if map.aabbCollides ⟨x, ny⟩ then pos.y else ny
  { position := ⟨x, y⟩, velocity := v }

/-- Movement reads the position alone, never the velocity left by the step before. -/
theorem movementStep_congr {a b : PlayerMotion} (h : a.position = b.position) (cmd : InputCmd) (map : Map) :
    movementStep a cmd map = movementStep b cmd map := by
  simp only [movementStep, h]

def InputCmd.Still (cmd : InputCmd) : Prop := cmd.buttons &&& 15 = 0

instance (cmd : InputCmd) : Decidable cmd.Still := inferInstanceAs (Decidable (_ = _))

theorem velocityOf_still (cmd : InputCmd) (h : cmd.Still) : velocityOf cmd = ⟨0, 0⟩ := by
  have hBits : ∀ b : U8, b &&& 15 = 0 →
      velocityOf { buttons := b } = ⟨0, 0⟩ := by
    decide
  exact hBits cmd.buttons h

theorem movementStep_still (motion : PlayerMotion) (cmd : InputCmd) (map : Map) (h : cmd.Still) :
    (movementStep motion cmd map).position = motion.position := by
  simp [movementStep, velocityOf_still cmd h]

/-- A collision-free box stays collision-free, since each axis moves only into free space. -/
theorem movementStep_free (motion : PlayerMotion) (cmd : InputCmd) (map : Map)
    (h : map.aabbCollides motion.position = false) :
    map.aabbCollides (movementStep motion cmd map).position = false := by
  have hX : map.aabbCollides ⟨(movementStep motion cmd map).position.x, motion.position.y⟩ = false := by
    simp only [movementStep]
    split
    · exact h
    · rename_i hFree
      exact Bool.not_eq_true _ ▸ hFree
  -- The Y move starts from the post-X position, so only `hX` is left to consult.
  generalize hx : (movementStep motion cmd map).position.x = x at hX
  have hEq : (movementStep motion cmd map).position = ⟨x, if map.aabbCollides ⟨x, motion.position.y + (velocityOf cmd).y⟩
      then motion.position.y else motion.position.y + (velocityOf cmd).y⟩ := by
    subst hx
    rfl
  rw [hEq]
  split
  · exact hX
  · rename_i hFree
    exact Bool.not_eq_true _ ▸ hFree

end CaptureTheFlag
