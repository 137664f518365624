import CaptureTheFlag.Shared.Sweep
import CaptureTheFlag.Shared.WallTable

/-! # The arena seen in a mirror

The grid is mirrored left-right, and so are the collision queries. Velocities are not: `fpMul` shifts, so it rounds
the product of a leftward speed away from zero and that of a rightward one towards it.
-/
namespace CaptureTheFlag
set_option autoImplicit false

def Vec2Fixed.mirror (p : Vec2Fixed) : Vec2Fixed :=
  ⟨kMapWidthPx * kFixedScale - kPlayerSizePx * kFixedScale - p.x, p.y⟩

def InputCmd.mirror (cmd : InputCmd) : InputCmd :=
  { cmd with
    buttons := (cmd.buttons &&& 0xF3) ||| ((cmd.buttons &&& kInputLeft) <<< 1) ||| ((cmd.buttons &&& kInputRight) >>> 1) }

def Vec2Fixed.BoxInside (p : Vec2Fixed) : Prop :=
  0 ≤ p.x ∧ p.x + kPlayerSizePx * kFixedScale ≤ kMapWidthPx * kFixedScale ∧
    0 ≤ p.y ∧ p.y + kPlayerSizePx * kFixedScale ≤ kMapHeightPx * kFixedScale

instance (p : Vec2Fixed) : Decidable p.BoxInside := inferInstanceAs (Decidable (_ ∧ _))

namespace Map

theorem wallBit_mirror : ∀ tx < 40, ∀ ty < 25, wallBit (39 - tx) ty = wallBit tx ty := by
  decide +kernel

theorem isWall_mirror (tx ty : Int) : arena.isWall (39 - tx) ty = arena.isWall tx ty := by
  by_cases hInside : 0 ≤ tx ∧ tx < 40 ∧ 0 ≤ ty ∧ ty < 25
  · have hFlip : (39 - tx).toNat = 39 - tx.toNat := by omega
    rw [isWall_eq_wallBit (by omega) (by omega), isWall_eq_wallBit (by omega) (by omega), hFlip]
    exact wallBit_mirror _ (by omega) _ (by omega)
  · rw [isWall_of_outside _ tx ty (by omega), isWall_of_outside _ (39 - tx) ty (by omega)]

theorem collides_of_covers {map : Map} {p : Vec2Fixed} {tx ty : Int} (hCovers : Covers p tx ty)
    (hWall : map.isWall tx ty = true) : map.aabbCollides p = true := by
  by_contra hFree
  rw [Bool.not_eq_true, free_iff] at hFree
  cases hWall.symm.trans (hFree tx ty hCovers)

/-- Box edges are half-open, so the tiles of the mirrored box are the mirrored tiles. -/
theorem covers_mirror {p : Vec2Fixed} (hLo : 0 ≤ p.x) (hHi : p.x ≤ 321536) (tx ty : Int) :
    Covers p.mirror tx ty ↔ Covers p (39 - tx) ty := by
  simp only [Covers, Meets, Vec2Fixed.mirror, kMapWidthPx, kFixedScale, kPlayerSizePx]
  simp only [tdiv_tile (_ - p.x), tdiv_tile (_ - p.x + 6143), tdiv_tile p.x, tdiv_tile (p.x + 6143)]
  constructor
  · rintro ⟨hx, hy⟩
    exact ⟨by omega, hy⟩
  · rintro ⟨hx, hy⟩
    exact ⟨by omega, hy⟩

theorem meets_right {x : Int} (hPast : 321536 < x) (hNear : x < 321536 + 8192) : Meets x 40 := by
  rw [Meets, tdiv_tile, tdiv_tile]
  omega

theorem meets_left {x : Int} (hNear : -8192 < x) (hPast : x < 0) : Meets x 0 := by
  rw [Meets, tdiv_tile, tdiv_tile]
  omega

theorem aabbCollides_mirror {p : Vec2Fixed} (hLo : -8192 < p.x) (hHi : p.x < 321536 + 8192) :
    arena.aabbCollides p.mirror = arena.aabbCollides p := by
  have hRow : Meets p.y (p.y.tdiv 8192) := ⟨le_rfl, tdiv_tile_le _⟩
  have hFlip : p.mirror.x = 321536 - p.x := by
    simp only [Vec2Fixed.mirror, kMapWidthPx, kFixedScale, kPlayerSizePx]
    omega
  by_cases hInside : 0 ≤ p.x ∧ p.x ≤ 321536
  · rw [Bool.eq_iff_iff, ← not_iff_not, Bool.not_eq_true, Bool.not_eq_true, free_iff, free_iff]
    constructor
    · intro h tx ty hCovers
      rw [← isWall_mirror]
      apply h
      rw [covers_mirror hInside.1 hInside.2, Int.sub_sub_self]
      exact hCovers
    · intro h tx ty hCovers
      rw [← isWall_mirror]
      exact h _ _ ((covers_mirror hInside.1 hInside.2 tx ty).mp hCovers)
  -- One box reaches past the right edge, the other lies on the border column.
  · have hRight : ∀ x, 321536 < x → x < 321536 + 8192 → arena.aabbCollides ⟨x, p.y⟩ = true := by
      intro x hPast hNear
      exact collides_of_covers ⟨meets_right hPast hNear, hRow⟩ (isWall_of_outside _ _ _ (by omega))
    have hLeft : ∀ x, -8192 < x → x < 0 → arena.aabbCollides ⟨x, p.y⟩ = true := by
      intro x hNear hPast
      exact collides_of_covers ⟨meets_left hNear hPast, hRow⟩ (isWall_border _ _ (Or.inl le_rfl))
    have hMirror : p.mirror = ⟨321536 - p.x, p.y⟩ := by
      rw [← hFlip]
      rfl
    rw [hMirror]
    rcases Int.lt_or_le p.x 0 with hNegative | hPositive
    · exact (hRight _ (by omega) (by omega)).trans (hLeft p.x hLo hNegative).symm
    · exact (hLeft _ (by omega) (by omega)).trans (hRight p.x (by omega) hHi).symm

end Map

/-- The X move: `d` to the side, or not at all. -/
def slide (map : Map) (p : Vec2Fixed) (d : Int) : Int := if map.aabbCollides ⟨p.x + d, p.y⟩ then p.x else p.x + d

/-- The Y move from the post-X position. -/
def climb (map : Map) (p : Vec2Fixed) (d : Int) : Vec2Fixed :=
  ⟨p.x, if map.aabbCollides ⟨p.x, p.y + d⟩ then p.y else p.y + d⟩

theorem movementStep_position (motion : PlayerMotion) (cmd : InputCmd) (map : Map) :
    (movementStep motion cmd map).position =
      climb map ⟨slide map motion.position (velocityOf cmd).x, motion.position.y⟩ (velocityOf cmd).y := rfl

theorem slide_near (map : Map) (p : Vec2Fixed) {d : Int} (h : -1365 ≤ d ∧ d ≤ 1365) :
    p.x - 1365 ≤ slide map p d ∧ slide map p d ≤ p.x + 1365 := by
  rw [slide]
  split <;> omega

theorem mirror_mk (x y : Int) : (⟨x, y⟩ : Vec2Fixed).mirror = ⟨321536 - x, y⟩ := by
  simp [Vec2Fixed.mirror, kMapWidthPx, kFixedScale, kPlayerSizePx]

theorem slide_mirror {p : Vec2Fixed} (hLo : 0 ≤ p.x) (hHi : p.x ≤ 321536) {d : Int} (h : -1365 ≤ d ∧ d ≤ 1365) :
    slide Map.arena p.mirror d = 321536 - slide Map.arena p (-d) := by
  have hSame := @Map.aabbCollides_mirror ⟨p.x + -d, p.y⟩ (by dsimp only; omega) (by dsimp only; omega)
  rw [mirror_mk, show 321536 - (p.x + -d) = 321536 - p.x + d by omega] at hSame
  obtain ⟨x, y⟩ := p
  rw [mirror_mk, slide, slide]
  dsimp only at hSame ⊢
  rw [hSame]
  split <;> omega

theorem climb_mirror {p : Vec2Fixed} (hLo : -8192 < p.x) (hHi : p.x < 321536 + 8192) (d : Int) :
    climb Map.arena p.mirror d = (climb Map.arena p d).mirror := by
  have hSame := @Map.aabbCollides_mirror ⟨p.x, p.y + d⟩ hLo hHi
  obtain ⟨x, y⟩ := p
  rw [mirror_mk, climb, climb, mirror_mk]
  rw [mirror_mk] at hSame
  rw [hSame]

/-- The step of the mirrored player, seen in the mirror, differs from the player's own in its X move alone. -/
theorem movementStep_mirror {motion : PlayerMotion} (cmd : InputCmd) (hInside : motion.position.BoxInside)
    (hY : (velocityOf cmd.mirror).y = (velocityOf cmd).y) :
    (movementStep { motion with position := motion.position.mirror } cmd.mirror Map.arena).position =
        (movementStep motion cmd Map.arena).position.mirror ↔
      slide Map.arena motion.position (-(velocityOf cmd.mirror).x) =
        slide Map.arena motion.position (velocityOf cmd).x := by
  obtain ⟨hLo, hHi, -⟩ := hInside
  obtain ⟨hSpeed, -⟩ := velocityOf_bounded cmd
  obtain ⟨hSpeed', -⟩ := velocityOf_bounded cmd.mirror
  simp only [kMapWidthPx, kFixedScale, kPlayerSizePx] at hLo hHi
  have hNear := slide_near Map.arena motion.position hSpeed
  have hNear' := @slide_near Map.arena motion.position (-(velocityOf cmd.mirror).x) (by omega)
  rw [movementStep_position, movementStep_position, hY]
  dsimp only
  rw [slide_mirror hLo (by omega) hSpeed', ← climb_mirror (by dsimp only; omega) (by dsimp only; omega), mirror_mk,
    mirror_mk]
  constructor
  · intro hEnd
    have hX := congrArg Vec2Fixed.x hEnd
    simp only [climb] at hX
    omega
  · intro hX
    rw [hX]

/-- No diagonal: the buttons of one axis are up or cancel. -/
def InputCmd.Straight (cmd : InputCmd) : Prop :=
  cmd.pressed kInputLeft = cmd.pressed kInputRight ∨ cmd.pressed kInputUp = cmd.pressed kInputDown

instance (cmd : InputCmd) : Decidable cmd.Straight := inferInstanceAs (Decidable (_ ∨ _))

/-- The side a diagonal input leads to. -/
def InputCmd.side (cmd : InputCmd) : Int := if cmd.pressed kInputRight then 1 else -1

theorem velocityOf_mirror (cmd : InputCmd) :
    (velocityOf cmd.mirror).y = (velocityOf cmd).y ∧
      (cmd.Straight → -(velocityOf cmd.mirror).x = (velocityOf cmd).x) ∧
      (¬ cmd.Straight → cmd.side = 1 ∧ -(velocityOf cmd.mirror).x = 966 ∧ (velocityOf cmd).x = 965 ∨
        cmd.side = -1 ∧ -(velocityOf cmd.mirror).x = -965 ∧ (velocityOf cmd).x = -966) := by
  have hBits : ∀ b : U8, (velocityOf (InputCmd.mirror { buttons := b })).y = (velocityOf { buttons := b }).y ∧
      (InputCmd.Straight { buttons := b } →
        -(velocityOf (InputCmd.mirror { buttons := b })).x = (velocityOf { buttons := b }).x) ∧
      (¬ InputCmd.Straight { buttons := b } →
        InputCmd.side { buttons := b } = 1 ∧ -(velocityOf (InputCmd.mirror { buttons := b })).x = 966 ∧
          (velocityOf { buttons := b }).x = 965 ∨
        InputCmd.side { buttons := b } = -1 ∧ -(velocityOf (InputCmd.mirror { buttons := b })).x = -965 ∧
          (velocityOf { buttons := b }).x = -966) := by
    decide +kernel
  exact hBits cmd.buttons

theorem slide_eq_slide_iff {map : Map} {p : Vec2Fixed} {d e : Int} (hd : d ≠ 0) (he : e ≠ 0) (hNe : d ≠ e) :
    slide map p d = slide map p e ↔
      map.aabbCollides ⟨p.x + d, p.y⟩ = true ∧ map.aabbCollides ⟨p.x + e, p.y⟩ = true := by
  rw [slide, slide]
  cases map.aabbCollides ⟨p.x + d, p.y⟩ <;> cases map.aabbCollides ⟨p.x + e, p.y⟩ <;> simp <;> omega

/-- The mirrored player's step is the mirror image of the player's own exactly if the input is no diagonal, or walls
block the side it leads to at both roundings of the diagonal speed. -/
theorem movementStep_mirror_iff (motion : PlayerMotion) (cmd : InputCmd) (hInside : motion.position.BoxInside) :
    (movementStep { motion with position := motion.position.mirror } cmd.mirror Map.arena).position =
        (movementStep motion cmd Map.arena).position.mirror ↔
      cmd.Straight ∨
        Map.arena.aabbCollides ⟨motion.position.x + 965 * cmd.side, motion.position.y⟩ = true ∧
        Map.arena.aabbCollides ⟨motion.position.x + 966 * cmd.side, motion.position.y⟩ = true := by
  obtain ⟨hY, hStraight, hDiagonal⟩ := velocityOf_mirror cmd
  rw [movementStep_mirror cmd hInside hY]
  by_cases h : cmd.Straight
  · simp only [hStraight h, h, true_or]
  · simp only [h, false_or]
    rcases hDiagonal h with ⟨hSide, hMirrored, hOwn⟩ | ⟨hSide, hMirrored, hOwn⟩
    · rw [hSide, hMirrored, hOwn, slide_eq_slide_iff (by decide) (by decide) (by decide), and_comm]
      rfl
    · rw [hSide, hMirrored, hOwn, slide_eq_slide_iff (by decide) (by decide) (by decide)]
      rfl

/-- In the open a diagonal step to the right is one unit shorter than its mirror image. -/
theorem movementStep_mirror_fails :
    ¬ ∀ (motion : PlayerMotion) (cmd : InputCmd), motion.position.BoxInside →
      (movementStep { motion with position := motion.position.mirror } cmd.mirror Map.arena).position =
        (movementStep motion cmd Map.arena).position.mirror := by
  intro hAll
  have hOpen := hAll { position := tileToFp 2 12 } { buttons := kInputRight ||| kInputDown } (by decide)
  revert hOpen
  decide +kernel

theorem movementStep_mirror_iff_straight :
    (tileToFp 2 12).BoxInside ∧
    (movementStep { position := (tileToFp 2 12).mirror } (InputCmd.mirror { buttons := kInputRight }) Map.arena).position =
        (movementStep { position := tileToFp 2 12 } { buttons := kInputRight } Map.arena).position.mirror := by
  have hInside : (tileToFp 2 12).BoxInside := by decide
  exact ⟨hInside, (movementStep_mirror_iff { position := tileToFp 2 12 } { buttons := kInputRight } hInside).mpr
    (Or.inl (by decide))⟩

end CaptureTheFlag
