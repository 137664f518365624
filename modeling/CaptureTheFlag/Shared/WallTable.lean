import CaptureTheFlag.Shared.Movement

/-! # The walls of the arena as bit rows

Bit `tx` of row `ty` says whether the tile is a wall. Facts about the whole arena are computed on these numbers, not
on the text of `kMapRows`.
-/
namespace CaptureTheFlag
set_option autoImplicit false

def wallRows : List Nat :=
  [0xffffffffff, 0x8000000001, 0x8000000001, 0x8f001800f1, 0x8f001800f1, 0x8f001800f1, 0x8f001800f1, 0x8000000001,
   0xffe1ff87ff, 0x8000000001, 0x8000000001, 0x80f0000f01, 0x80f0000f01, 0x80f0000f01, 0x8000000001, 0x8000000001,
   0xffe1ff87ff, 0x8000000001, 0x8f001800f1, 0x8f001800f1, 0x8f001800f1, 0x8f001800f1, 0x8000000001, 0x8000000001,
   0xffffffffff]

theorem kMapRows_eq_wallRows : kMapRows.map (fun row => row.toList.map (· == '#')) =
    wallRows.map fun row => (List.range 40).map row.testBit := by
  decide +kernel

/-- The arena's wall at a tile inside the map. -/
def wallBit (tx ty : Nat) : Bool := (wallRows.getD ty 0).testBit tx

namespace Map

theorem isWall_arena {tx ty : Nat} (hx : tx < 40) (hy : ty < 25) : arena.isWall tx ty = wallBit tx ty := by
  have hRow := congrArg (·[ty]?) kMapRows_eq_wallRows
  have hRows : ty < kMapRows.length := hy
  have hBits : ty < wallRows.length := hy
  simp only [List.getElem?_map, List.getElem?_eq_getElem hRows, List.getElem?_eq_getElem hBits, Option.map_some,
    Option.some.injEq] at hRow
  have hTile := congrArg (·[tx]?) hRow
  simp only [List.getElem?_map, List.getElem?_range hx, Option.map_some] at hTile
  obtain ⟨c, hc, hIs⟩ := Option.map_eq_some_iff.mp hTile
  have hInside : ¬ ((tx : Int) < 0 ∨ (tx : Int) ≥ kMapWidthTiles ∨ (ty : Int) < 0 ∨ (ty : Int) ≥ kMapHeightTiles) := by
    simp only [kMapWidthTiles, kMapHeightTiles]
    omega
  simp only [isWall, tileAt, if_neg hInside, arena, Int.toNat_natCast, List.getD_eq_getElem?_getD,
    List.getElem?_eq_getElem hRows, Option.getD_some, hc, wallBit, List.getElem?_eq_getElem hBits, ← hIs]
  by_cases hWall : c = '#'
  · rw [if_pos hWall, hWall]
    rfl
  · rw [if_neg hWall]
    simp [hWall]

theorem isWall_eq_wallBit {tx ty : Int} (hx : 0 ≤ tx ∧ tx < 40) (hy : 0 ≤ ty ∧ ty < 25) :
    arena.isWall tx ty = wallBit tx.toNat ty.toNat := by
  have hCell := @isWall_arena tx.toNat ty.toNat (by omega) (by omega)
  rwa [Int.toNat_of_nonneg hx.1, Int.toNat_of_nonneg hy.1] at hCell

theorem isWall_border (tx ty : Int) (h : tx ≤ 0 ∨ 39 ≤ tx ∨ ty ≤ 0 ∨ 24 ≤ ty) : arena.isWall tx ty = true := by
  have hRing : ∀ tx < 40, ∀ ty < 25, tx = 0 ∨ tx = 39 ∨ ty = 0 ∨ ty = 24 → wallBit tx ty = true := by
    decide +kernel
  by_cases hOutside : tx < 0 ∨ tx ≥ 40 ∨ ty < 0 ∨ ty ≥ 25
  · exact isWall_of_outside arena tx ty hOutside
  · rw [isWall_eq_wallBit (by omega) (by omega)]
    exact hRing _ (by omega) _ (by omega) (by omega)

end Map
end CaptureTheFlag
