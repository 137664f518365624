import CaptureTheFlag.Bot.FieldSearch
import CaptureTheFlag.Server.SimState
import CaptureTheFlag.Shared.WallTable

/-! # The two fields of the arena

The distances to the red base as bytes, one number a row; those to the blue base are their mirror image. A table
that satisfies the local conditions of a distance field is the field, so the search need not be run.
-/
namespace CaptureTheFlag
set_option autoImplicit false
open BreadthFirst

namespace FlowField

/-- Byte `tx` of row `ty` is the distance of the tile to the red base, 255 for a wall. -/
def fieldRows : List Nat :=
  [0xffffffffffffffffffffffffffffffffffffffffffffffffffffffffffffffffffffffffffffffff,
   0xff2f2e2d2c2b2a292827262524232221201f1e1d1c1b1a19181716151415161718191a1b1c1d1eff,
   0xff2e2d2c2b2a292827262524232221201f1e1d1c1b1a191817161514131415161718191a1b1c1dff,
   0xff2d2c2bffffffff262524232221201f1e1d1cffff1918171615141312131415ffffffff1a1b1cff,
   0xff2c2b2affffffff2524232221201f1e1d1c1bffff1817161514131211121314ffffffff191a1bff,
   0xff2b2a29ffffffff24232221201f1e1d1c1b1affff1716151413121110111213ffffffff18191aff,
   0xff2a2928ffffffff232221201f1e1d1c1b1a19ffff161514131211100f101112ffffffff171819ff,
   0xff292827262524232221201f1e1d1c1b1a191817161514131211100f0e0f101112131415161718ff,
   0xffffffffffffffffffffff1e1d1c1bffffffffffffffffffff100f0e0dffffffffffffffffffffff,
   0xff27262524232221201f1e1d1c1b1a191817161514131211100f0e0d0c0b0a0908070605040304ff,
   0xff262524232221201f1e1d1c1b1a191817161514131211100f0e0d0c0b0a090807060504030203ff,
   0xff27262524232221ffffffff1c1b1a191817161514131211100f0e0dffffffff06050403020102ff,
   0xff28272625242322ffffffff1d1c1b1a191817161514131211100f0effffffff05040302010001ff,
   0xff27262524232221ffffffff1c1b1a191817161514131211100f0e0dffffffff06050403020102ff,
   0xff262524232221201f1e1d1c1b1a191817161514131211100f0e0d0c0b0a090807060504030203ff,
   0xff27262524232221201f1e1d1c1b1a191817161514131211100f0e0d0c0b0a0908070605040304ff,
   0xffffffffffffffffffffff1e1d1c1bffffffffffffffffffff100f0e0dffffffffffffffffffffff,
   0xff292827262524232221201f1e1d1c1b1a191817161514131211100f0e0f101112131415161718ff,
   0xff2a2928ffffffff232221201f1e1d1c1b1a19ffff161514131211100f101112ffffffff171819ff,
   0xff2b2a29ffffffff24232221201f1e1d1c1b1affff1716151413121110111213ffffffff18191aff,
   0xff2c2b2affffffff2524232221201f1e1d1c1bffff1817161514131211121314ffffffff191a1bff,
   0xff2d2c2bffffffff262524232221201f1e1d1cffff1918171615141312131415ffffffff1a1b1cff,
   0xff2e2d2c2b2a292827262524232221201f1e1d1c1b1a191817161514131415161718191a1b1c1dff,
   0xff2f2e2d2c2b2a292827262524232221201f1e1d1c1b1a19181716151415161718191a1b1c1d1eff,
   0xffffffffffffffffffffffffffffffffffffffffffffffffffffffffffffffffffffffffffffffff]

def fieldBytes : Nat := fieldRows.foldr (fun row bytes => row + bytes <<< 320) 0

def tableDist : Team → Nat → Nat → Nat
  | .red, tx, ty => (fieldBytes >>> (8 * (40 * ty + tx))) % 256
  | .blue, tx, ty => (fieldBytes >>> (8 * (40 * ty + (39 - tx)))) % 256

/-- Checks are made at the tiles `(a + 1, b + 1)`, those inside the border. -/
def around (a b : Nat) : List (Nat × Nat) := [(a + 2, b + 1), (a, b + 1), (a + 1, b + 2), (a + 1, b)]

/-- No open neighbour is more than one further away. -/
def stepCheck (dist : Nat → Nat → Nat) (a b : Nat) : Bool :=
  (around a b).all fun n => dist n.1 n.2 == 255 || (dist n.1 n.2).ble (dist (a + 1) (b + 1) + 1)

/-- Some neighbour is one nearer. -/
def backCheck (dist : Nat → Nat → Nat) (a b : Nat) : Bool :=
  dist (a + 1) (b + 1) == 0 || (around a b).any fun n => dist n.1 n.2 + 1 == dist (a + 1) (b + 1)

/-- Not both the tile on the right and the one on the left are nearer. -/
def sideCheck (dist : Nat → Nat → Nat) (a b : Nat) : Bool :=
  (dist (a + 1) (b + 1)).ble (dist (a + 2) (b + 1)) || (dist (a + 1) (b + 1)).ble (dist a (b + 1))

/-- Where both the tile below and the one above are nearer, the one below is as good, and the way down is not
narrower on the right than the row. -/
def downCheck (dist : Nat → Nat → Nat) (a b : Nat) : Bool :=
  (dist (a + 1) (b + 1)).ble (dist (a + 1) (b + 2)) || (dist (a + 1) (b + 1)).ble (dist (a + 1) b) ||
    ((dist (a + 1) (b + 2)).ble (dist (a + 1) b) && (dist (a + 2) (b + 2) != 255 || dist (a + 2) (b + 1) == 255))

/-- Between two nearer tiles an open corner is nearer. -/
def cornerCheck (dist : Nat → Nat → Nat) (a b : Nat) : Bool :=
  [a + 2, a].all fun x => [b + 2, b].all fun y =>
    (dist (a + 1) (b + 1)).ble (dist x (b + 1)) || (dist (a + 1) (b + 1)).ble (dist (a + 1) y) || dist x y == 255 ||
      (dist x y).blt (dist (a + 1) (b + 1))

def tableCheck (dist : Nat → Nat → Nat) (a b : Nat) : Bool :=
  dist (a + 1) (b + 1) == 255 || (stepCheck dist a b && backCheck dist a b && sideCheck dist a b && downCheck dist a b &&
    cornerCheck dist a b)

theorem tableCheck_all (team : Team) : ∀ a < 38, ∀ b < 23, tableCheck (tableDist team) a b = true := by
  cases team <;> decide +kernel

theorem table_walls (team : Team) : ∀ tx < 40, ∀ ty < 25, (tableDist team tx ty == 255) = wallBit tx ty := by
  cases team <;> decide +kernel

theorem table_source (team : Team) : ∀ tx < 40, ∀ ty < 25, tableDist team tx ty = 0 →
    (tx : Int) = (tileOf (baseOf team)).x ∧ (ty : Int) = (tileOf (baseOf team)).y := by
  cases team <;> decide +kernel

/-- What the checks say of the tile `(a + 1, b + 1)`. -/
structure Slopes (dist : Nat → Nat → Nat) (a b : Nat) : Prop where
  step : ∀ n ∈ around a b, dist n.1 n.2 = 255 ∨ dist n.1 n.2 ≤ dist (a + 1) (b + 1) + 1
  back : dist (a + 1) (b + 1) = 0 ∨ ∃ n ∈ around a b, dist n.1 n.2 + 1 = dist (a + 1) (b + 1)
  side : dist (a + 1) (b + 1) ≤ dist (a + 2) (b + 1) ∨ dist (a + 1) (b + 1) ≤ dist a (b + 1)
  down : dist (a + 1) (b + 1) ≤ dist (a + 1) (b + 2) ∨ dist (a + 1) (b + 1) ≤ dist (a + 1) b ∨
    (dist (a + 1) (b + 2) ≤ dist (a + 1) b ∧ (dist (a + 2) (b + 2) = 255 → dist (a + 2) (b + 1) = 255))
  corner : ∀ x ∈ [a + 2, a], ∀ y ∈ [b + 2, b], dist (a + 1) (b + 1) ≤ dist x (b + 1) ∨
    dist (a + 1) (b + 1) ≤ dist (a + 1) y ∨ dist x y = 255 ∨ dist x y < dist (a + 1) (b + 1)

theorem slopes_of_check {dist : Nat → Nat → Nat} {a b : Nat} (h : tableCheck dist a b = true)
    (hOpen : dist (a + 1) (b + 1) ≠ 255) : Slopes dist a b := by
  simp only [tableCheck, Bool.or_eq_true, Bool.and_eq_true, beq_iff_eq, hOpen, false_or] at h
  obtain ⟨⟨⟨⟨hStep, hBack⟩, hSide⟩, hDown⟩, hCorner⟩ := h
  refine ⟨?_, ?_, ?_, ?_, ?_⟩
  · simpa only [stepCheck, List.all_eq_true, Bool.or_eq_true, beq_iff_eq, Nat.ble_eq] using hStep
  · simpa only [backCheck, List.any_eq_true, Bool.or_eq_true, beq_iff_eq] using hBack
  · simpa only [sideCheck, Bool.or_eq_true, Nat.ble_eq] using hSide
  · simp only [downCheck, Bool.or_eq_true, Bool.and_eq_true, Nat.ble_eq, bne_iff_ne, beq_iff_eq, or_assoc] at hDown
    exact hDown.imp_right (Or.imp_right (And.imp_right (fun hOr hWall => hOr.resolve_left (fun hne => hne hWall))))
  · simpa only [cornerCheck, List.all_eq_true, Bool.or_eq_true, beq_iff_eq, Nat.ble_eq, Nat.blt_eq, or_assoc]
      using hCorner

def IsOpen (t : Tile) : Prop := Map.arena.isWall t.x t.y = false

theorem IsOpen.inner {t : Tile} (h : IsOpen t) : (1 ≤ t.x ∧ t.x ≤ 38) ∧ 1 ≤ t.y ∧ t.y ≤ 23 := by
  by_contra hBorder
  cases h.symm.trans (Map.isWall_border t.x t.y (by omega))

def distance (team : Team) (t : Tile) : Nat := tableDist team t.x.toNat t.y.toNat

theorem distance_eq_wall {team : Team} {t : Tile} (hx : 0 ≤ t.x ∧ t.x < 40) (hy : 0 ≤ t.y ∧ t.y < 25) :
    distance team t = 255 ↔ ¬ IsOpen t := by
  have hTable := table_walls team t.x.toNat (by omega) t.y.toNat (by omega)
  rw [IsOpen, Map.isWall_eq_wallBit hx hy, ← hTable, distance, beq_eq_false_iff_ne, not_ne_iff]

theorem IsOpen.slopes {t : Tile} (h : IsOpen t) (team : Team) :
    Slopes (tableDist team) (t.x - 1).toNat (t.y - 1).toNat := by
  obtain ⟨hx, hy⟩ := h.inner
  apply slopes_of_check
  · exact tableCheck_all team _ (by omega) _ (by omega)
  · have hNot := (@distance_eq_wall team t (by omega) (by omega)).not
    rw [not_not, distance] at hNot
    have hX : (t.x - 1).toNat + 1 = t.x.toNat := by omega
    have hY : (t.y - 1).toNat + 1 = t.y.toNat := by omega
    rw [hX, hY]
    exact hNot.mpr h

theorem IsOpen.distance_near {t : Tile} (h : IsOpen t) (team : Team) (i j : Nat) :
    distance team ⟨t.x - 1 + i, t.y - 1 + j⟩ = tableDist team ((t.x - 1).toNat + i) ((t.y - 1).toNat + j) := by
  obtain ⟨hx, hy⟩ := h.inner
  have hX : (t.x - 1 + i).toNat = (t.x - 1).toNat + i := by omega
  have hY : (t.y - 1 + j).toNat = (t.y - 1).toNat + j := by omega
  rw [distance, hX, hY]

theorem IsOpen.distance_here {t : Tile} (h : IsOpen t) (team : Team) :
    distance team t = tableDist team ((t.x - 1).toNat + 1) ((t.y - 1).toNat + 1) := by
  rw [← h.distance_near team 1 1]
  congr 1
  cases t
  simp only [Tile.mk.injEq]
  omega

theorem IsOpen.around {t : Tile} (h : IsOpen t) (n : Tile) :
    n ∈ neighbors t ↔ ∃ c ∈ FlowField.around (t.x - 1).toNat (t.y - 1).toNat, n = ⟨c.1, c.2⟩ := by
  obtain ⟨hx, hy⟩ := h.inner
  have hX : ((t.x - 1).toNat : Int) = t.x - 1 := by omega
  have hY : ((t.y - 1).toNat : Int) = t.y - 1 := by omega
  simp only [neighbors, FlowField.around, List.mem_cons, List.not_mem_nil, or_false, exists_eq_or_imp, exists_eq_left]
  have hCells : ((⟨((t.x - 1).toNat + 2 : Nat), ((t.y - 1).toNat + 1 : Nat)⟩ : Tile) = ⟨t.x + 1, t.y⟩) ∧
      ((⟨((t.x - 1).toNat : Nat), ((t.y - 1).toNat + 1 : Nat)⟩ : Tile) = ⟨t.x - 1, t.y⟩) ∧
      ((⟨((t.x - 1).toNat + 1 : Nat), ((t.y - 1).toNat + 2 : Nat)⟩ : Tile) = ⟨t.x, t.y + 1⟩) ∧
      ((⟨((t.x - 1).toNat + 1 : Nat), ((t.y - 1).toNat : Nat)⟩ : Tile) = ⟨t.x, t.y - 1⟩) := by
    simp only [Tile.mk.injEq]
    omega
  rw [hCells.1, hCells.2.1, hCells.2.2.1, hCells.2.2.2]

def tableField (team : Team) (t : Tile) : Option Nat :=
  if Map.arena.isWall t.x t.y then none else some (distance team t)

theorem tableField_eq_some {team : Team} {t : Tile} {k : Nat} :
    tableField team t = some k ↔ IsOpen t ∧ distance team t = k := by
  rw [tableField, IsOpen]
  cases Map.arena.isWall t.x t.y <;> simp

theorem IsOpen.of_distance (team : Team) {t : Tile} (hx : 0 ≤ t.x ∧ t.x < 40) (hy : 0 ≤ t.y ∧ t.y < 25)
    (h : distance team t ≠ 255) : IsOpen t := by
  by_contra hShut
  exact h ((distance_eq_wall hx hy).mpr hShut)

theorem IsOpen.distance_lt {t : Tile} (h : IsOpen t) (team : Team) : distance team t < 255 := by
  obtain ⟨hx, hy⟩ := h.inner
  have hNot : distance team t ≠ 255 := fun hWall => (distance_eq_wall (by omega) (by omega)).mp hWall h
  have hByte : distance team t < 256 := by
    rw [distance]
    cases team <;> exact Nat.mod_lt _ (by decide)
  omega

theorem base_open (team : Team) : IsOpen (tileOf (baseOf team)) ∧ distance team (tileOf (baseOf team)) = 0 := by
  have hTile : (tileOf (baseOf team)).y = 12 ∧ ((tileOf (baseOf team)).x = 2 ∨ (tileOf (baseOf team)).x = 37) ∧
      distance team (tileOf (baseOf team)) = 0 := by
    cases team <;> decide +kernel
  refine ⟨IsOpen.of_distance team (by omega) (by omega) ?_, hTile.2.2⟩
  rw [hTile.2.2]
  decide

theorem IsOpen.eq_base {t : Tile} (h : IsOpen t) {team : Team} (hk : distance team t = 0) :
    t = tileOf (baseOf team) := by
  obtain ⟨hx, hy⟩ := h.inner
  have hSource := table_source team t.x.toNat (by omega) t.y.toNat (by omega) hk
  rw [Int.toNat_of_nonneg (by omega), Int.toNat_of_nonneg (by omega)] at hSource
  cases hBase : tileOf (baseOf team)
  cases t
  rw [hBase] at hSource
  simp only at hSource
  rw [hSource.1, hSource.2]

theorem walk_distance (team : Team) (k : Nat) {t : Tile} (h : IsOpen t) (hk : distance team t = k) :
    Walk (openNeighbors (tilePassable Map.arena)) (tileOf (baseOf team)) k t := by
  induction k generalizing t with
  | zero =>
    rw [h.eq_base hk]
    exact .nil
  | succ k ih =>
    have hHere := h.distance_here team
    obtain ⟨c, hc, hBack⟩ := (h.slopes team).back.resolve_left (by rw [← hHere, hk]; exact Nat.succ_ne_zero k)
    rw [← hHere, hk] at hBack
    have hNear : (⟨c.1, c.2⟩ : Tile) ∈ neighbors t := (h.around _).mpr ⟨c, hc, rfl⟩
    have hDist : distance team ⟨c.1, c.2⟩ = k := Nat.succ.inj hBack
    obtain ⟨hx, hy⟩ := h.inner
    simp only [neighbors, List.mem_cons, Tile.mk.injEq, List.not_mem_nil, or_false] at hNear
    have hOpen : IsOpen ⟨c.1, c.2⟩ := by
      have hSmall := h.distance_lt team
      refine IsOpen.of_distance team ?_ ?_ ?_
      · simp only
        omega
      · simp only
        omega
      · omega
    refine .snoc (ih hOpen hDist) (mem_openNeighbors.mpr ⟨?_, h⟩)
    cases t
    simp only [neighbors, List.mem_cons, Tile.mk.injEq, List.not_mem_nil, or_false] at hNear ⊢
    omega

theorem isField_table (team : Team) :
    IsField (openNeighbors (tilePassable Map.arena)) (tileOf (baseOf team)) (tableField team) := by
  refine ⟨tableField_eq_some.mpr (base_open team), ?_, ?_⟩
  · intro t k hk
    obtain ⟨hOpen, hDist⟩ := tableField_eq_some.mp hk
    exact walk_distance team k hOpen hDist
  · intro t k hk n hn
    obtain ⟨hOpen, hDist⟩ := tableField_eq_some.mp hk
    obtain ⟨hNear, hNext⟩ := mem_openNeighbors.mp hn
    obtain ⟨c, hc, rfl⟩ := (hOpen.around n).mp hNear
    refine ⟨distance team ⟨c.1, c.2⟩, ?_, tableField_eq_some.mpr ⟨hNext, rfl⟩⟩
    have hSmall := IsOpen.distance_lt hNext team
    have hStep := (hOpen.slopes team).step c hc
    rw [← hOpen.distance_here team, hDist] at hStep
    exact hStep.resolve_left hSmall.ne

theorem distAt_build (team : Team) {t : Tile} (h : IsOpen t) :
    (build Map.arena (baseOf team)).distAt t ≠ kUnreachable ∧
      ((build Map.arena (baseOf team)).distAt t).toNat = distance team t := by
  have hOpen : tilePassable Map.arena (tileOf (baseOf team)) = true := by
    rw [tilePassable_eq, (base_open team).1]
    rfl
  have hKnown := congrFun ((isField_build hOpen).unique (isField_table team)) t
  rw [tableField_eq_some.mpr ⟨h, rfl⟩, known] at hKnown
  by_cases hMark : (build Map.arena (baseOf team)).distAt t = kUnreachable
  · rw [if_pos hMark] at hKnown
    cases hKnown
  · rw [if_neg hMark] at hKnown
    exact ⟨hMark, Option.some.inj hKnown⟩

def Descends (field : FlowField) (t : Tile) (dx dy : Int) : Prop :=
  IsOpen ⟨t.x + dx, t.y + dy⟩ ∧ (field.distAt ⟨t.x + dx, t.y + dy⟩).toNat < (field.distAt t).toNat

structure Guides (field : FlowField) (source : Tile) : Prop where
  reachable : ∀ t, IsOpen t → field.distAt t ≠ kUnreachable
  arrives : ∀ t, IsOpen t → field.distAt t = 0 → t = source
  descends : ∀ t, IsOpen t → field.distAt t ≠ 0 →
    field.Descends t 1 0 ∨ field.Descends t (-1) 0 ∨ field.Descends t 0 1 ∨ field.Descends t 0 (-1)
  oneSide : ∀ t, IsOpen t → field.Descends t 1 0 → ¬ field.Descends t (-1) 0
  downFirst : ∀ t, IsOpen t → field.Descends t 0 1 → field.Descends t 0 (-1) →
    (field.distAt ⟨t.x, t.y + 1⟩).toNat ≤ (field.distAt ⟨t.x, t.y - 1⟩).toNat ∧
      (IsOpen ⟨t.x + 1, t.y⟩ → IsOpen ⟨t.x + 1, t.y + 1⟩)
  corner : ∀ t, IsOpen t → ∀ dx dy, (dx = 1 ∨ dx = -1) → (dy = 1 ∨ dy = -1) → field.Descends t dx 0 →
    field.Descends t 0 dy → IsOpen ⟨t.x + dx, t.y + dy⟩ →
    (field.distAt ⟨t.x + dx, t.y + dy⟩).toNat < (field.distAt t).toNat

theorem IsOpen.distance_shift {t : Tile} (h : IsOpen t) (team : Team) {dx dy : Int} {i j : Nat} (hi : dx + 1 = i)
    (hj : dy + 1 = j) :
    distance team ⟨t.x + dx, t.y + dy⟩ = tableDist team ((t.x - 1).toNat + i) ((t.y - 1).toNat + j) := by
  rw [← h.distance_near team i j]
  congr 2
  · omega
  · omega

theorem descends_build {team : Team} {t : Tile} (h : IsOpen t) {dx dy : Int}
    (hd : (-1 ≤ dx ∧ dx ≤ 1) ∧ -1 ≤ dy ∧ dy ≤ 1) :
    (build Map.arena (baseOf team)).Descends t dx dy ↔
      distance team ⟨t.x + dx, t.y + dy⟩ < distance team t := by
  obtain ⟨hx, hy⟩ := h.inner
  constructor
  · rintro ⟨hOpen, hLess⟩
    rw [(distAt_build team hOpen).2, (distAt_build team h).2] at hLess
    exact hLess
  · intro hLess
    have hSmall := h.distance_lt team
    have hOpen : IsOpen ⟨t.x + dx, t.y + dy⟩ := by
      refine IsOpen.of_distance team ?_ ?_ (by omega)
      · simp only
        omega
      · simp only
        omega
    refine ⟨hOpen, ?_⟩
    rw [(distAt_build team hOpen).2, (distAt_build team h).2]
    exact hLess

theorem distAt_build_eq_zero (team : Team) {t : Tile} (h : IsOpen t) :
    (build Map.arena (baseOf team)).distAt t = 0 ↔ distance team t = 0 := by
  rw [← (distAt_build team h).2, ← BitVec.toNat_inj]
  rfl

/-- Away from the base one of the four neighbours is nearer. -/
theorem exists_descends_build (team : Team) {t : Tile} (h : IsOpen t) (hAway : distance team t ≠ 0) :
    (build Map.arena (baseOf team)).Descends t 1 0 ∨ (build Map.arena (baseOf team)).Descends t (-1) 0 ∨
      (build Map.arena (baseOf team)).Descends t 0 1 ∨ (build Map.arena (baseOf team)).Descends t 0 (-1) := by
  rw [descends_build h (by omega), descends_build h (by omega), descends_build h (by omega),
    descends_build h (by omega)]
  rw [h.distance_shift team (i := 2) (j := 1) rfl rfl, h.distance_shift team (i := 0) (j := 1) rfl rfl,
    h.distance_shift team (i := 1) (j := 2) rfl rfl, h.distance_shift team (i := 1) (j := 0) rfl rfl]
  rw [h.distance_here team] at hAway ⊢
  obtain ⟨c, hc, hBack⟩ := (h.slopes team).back.resolve_left hAway
  simp only [around, List.mem_cons, List.not_mem_nil, or_false] at hc
  rcases hc with rfl | rfl | rfl | rfl
  · exact Or.inl (by simp only at hBack; omega)
  · exact Or.inr (Or.inl (by simp only at hBack; simp only [Nat.add_zero]; omega))
  · exact Or.inr (Or.inr (Or.inl (by simp only at hBack; omega)))
  · exact Or.inr (Or.inr (Or.inr (by simp only at hBack; simp only [Nat.add_zero]; omega)))

theorem not_descends_both_sides (team : Team) {t : Tile} (h : IsOpen t)
    (hRight : (build Map.arena (baseOf team)).Descends t 1 0) :
    ¬ (build Map.arena (baseOf team)).Descends t (-1) 0 := by
  intro hLeft
  rw [descends_build h (by omega), h.distance_here team] at hRight hLeft
  rw [h.distance_shift team (i := 2) (j := 1) rfl rfl] at hRight
  rw [h.distance_shift team (i := 0) (j := 1) rfl rfl] at hLeft
  have hSide := (h.slopes team).side
  simp only [Nat.add_zero] at hLeft
  omega

/-- Where the ways up and down are both nearer, the third case of `Slopes.down` applies. -/
theorem slopes_down {team : Team} {t : Tile} (h : IsOpen t) (hDown : (build Map.arena (baseOf team)).Descends t 0 1)
    (hUp : (build Map.arena (baseOf team)).Descends t 0 (-1)) :
    tableDist team ((t.x - 1).toNat + 1) ((t.y - 1).toNat + 2) ≤
        tableDist team ((t.x - 1).toNat + 1) (t.y - 1).toNat ∧
      (tableDist team ((t.x - 1).toNat + 2) ((t.y - 1).toNat + 2) = 255 →
        tableDist team ((t.x - 1).toNat + 2) ((t.y - 1).toNat + 1) = 255) := by
  rw [descends_build h (by omega), h.distance_here team] at hDown hUp
  rw [h.distance_shift team (i := 1) (j := 2) rfl rfl] at hDown
  rw [h.distance_shift team (i := 1) (j := 0) rfl rfl] at hUp
  simp only [Nat.add_zero] at hUp
  rcases (h.slopes team).down with hNot | hNot | hBoth
  · omega
  · omega
  · exact hBoth

theorem down_le_up {team : Team} {t : Tile} (h : IsOpen t) (hDown : (build Map.arena (baseOf team)).Descends t 0 1)
    (hUp : (build Map.arena (baseOf team)).Descends t 0 (-1)) :
    ((build Map.arena (baseOf team)).distAt ⟨t.x, t.y + 1⟩).toNat ≤
      ((build Map.arena (baseOf team)).distAt ⟨t.x, t.y - 1⟩).toNat := by
  have hBelow := (distAt_build team hDown.1).2
  have hAbove := (distAt_build team hUp.1).2
  rw [h.distance_shift team (i := 1) (j := 2) rfl rfl, Int.add_zero] at hBelow
  rw [h.distance_shift team (i := 1) (j := 0) rfl rfl, Int.add_zero] at hAbove
  have hUpTile : (⟨t.x, t.y - 1⟩ : Tile) = ⟨t.x, t.y + -1⟩ := rfl
  rw [hBelow, hUpTile, hAbove]
  exact (slopes_down h hDown hUp).1

theorem corner_open {team : Team} {t : Tile} (h : IsOpen t) (hDown : (build Map.arena (baseOf team)).Descends t 0 1)
    (hUp : (build Map.arena (baseOf team)).Descends t 0 (-1)) (hRight : IsOpen ⟨t.x + 1, t.y⟩) :
    IsOpen ⟨t.x + 1, t.y + 1⟩ := by
  obtain ⟨hx, hy⟩ := h.inner
  by_contra hShut
  have hCorner := (@distance_eq_wall team ⟨t.x + 1, t.y + 1⟩ (by simp only; omega) (by simp only; omega)).mpr hShut
  have hSide := (hRight.distance_lt team).ne
  rw [h.distance_shift team (i := 2) (j := 2) rfl rfl] at hCorner
  have hRow := @IsOpen.distance_shift t h team 1 0 2 1 rfl rfl
  rw [Int.add_zero] at hRow
  rw [hRow] at hSide
  exact hSide ((slopes_down h hDown hUp).2 hCorner)

theorem corner_nearer {team : Team} {t : Tile} (h : IsOpen t) {dx dy : Int} (hx : dx = 1 ∨ dx = -1)
    (hy : dy = 1 ∨ dy = -1) (hSide : (build Map.arena (baseOf team)).Descends t dx 0)
    (hDown : (build Map.arena (baseOf team)).Descends t 0 dy) (hCorner : IsOpen ⟨t.x + dx, t.y + dy⟩) :
    ((build Map.arena (baseOf team)).distAt ⟨t.x + dx, t.y + dy⟩).toNat <
      ((build Map.arena (baseOf team)).distAt t).toNat := by
  rw [descends_build h (by omega), h.distance_here team] at hSide hDown
  rw [(distAt_build team hCorner).2, (distAt_build team h).2, h.distance_here team]
  have hSmall := (hCorner.distance_lt team).ne
  obtain ⟨i, hi, hi'⟩ : ∃ i : Nat, dx + 1 = i ∧ (i = 2 ∨ i = 0) := ⟨(dx + 1).toNat, by omega, by omega⟩
  obtain ⟨j, hj, hj'⟩ : ∃ j : Nat, dy + 1 = j ∧ (j = 2 ∨ j = 0) := ⟨(dy + 1).toNat, by omega, by omega⟩
  rw [h.distance_shift team hi (j := 1) rfl] at hSide
  rw [h.distance_shift team (i := 1) rfl hj] at hDown
  rw [h.distance_shift team hi hj] at hSmall ⊢
  have hTable := (h.slopes team).corner ((t.x - 1).toNat + i) (by rcases hi' with rfl | rfl <;> simp)
    ((t.y - 1).toNat + j) (by rcases hj' with rfl | rfl <;> simp)
  omega

theorem guides_build (team : Team) : Guides (build Map.arena (baseOf team)) (tileOf (baseOf team)) where
  reachable _ h := (distAt_build team h).1
  arrives _ h hHere := h.eq_base ((distAt_build_eq_zero team h).mp hHere)
  descends _ h hAway := exists_descends_build team h (fun hHere => hAway ((distAt_build_eq_zero team h).mpr hHere))
  oneSide _ h hRight := not_descends_both_sides team h hRight
  downFirst _ h hDown hUp := ⟨down_le_up h hDown hUp, corner_open h hDown hUp⟩
  corner _ h _ _ hx hy hSide hDown hCorner := corner_nearer h hx hy hSide hDown hCorner

end FlowField
end CaptureTheFlag
