import CaptureTheFlag.Shared.GameTypes

/-! # Tile grid and collision queries

`Map` holds the tile rows, so that the collision code can be read over any grid; `Map.arena` is
the hardcoded one. Tiles outside the 40 x 25 range are walls whatever the rows say.
-/
namespace CaptureTheFlag
set_option autoImplicit false

inductive TileType where
  | empty
  | wall
deriving DecidableEq, Repr

structure Map where
  rows : List String

def kMapRows : List String :=
  ["########################################",
   "#......................................#",
   "#......................................#",
   "#...####...........##...........####...#",
   "#...####...........##...........####...#",
   "#...####...........##...........####...#",
   "#...####...........##...........####...#",
   "#......................................#",
   "###########....##########....###########",
   "#......................................#",
   "#......................................#",
   "#.......####................####.......#",
   "#.......####................####.......#",
   "#.......####................####.......#",
   "#......................................#",
   "#......................................#",
   "###########....##########....###########",
   "#......................................#",
   "#...####...........##...........####...#",
   "#...####...........##...........####...#",
   "#...####...........##...........####...#",
   "#...####...........##...........####...#",
   "#......................................#",
   "#......................................#",
   "########################################"]

def tileToFp (tileX tileY : Int) : Vec2Fixed :=
  ⟨tileX * kTileSizePx * kFixedScale, tileY * kTileSizePx * kFixedScale⟩

namespace Map

/-- `Map::instance()`: the hardcoded arena. -/
def arena : Map := ⟨kMapRows⟩

def tileAt (map : Map) (tileX tileY : Int) : TileType :=
  if tileX < 0 ∨ tileX ≥ kMapWidthTiles ∨ tileY < 0 ∨ tileY ≥ kMapHeightTiles then .wall
  else if (map.rows.getD tileY.toNat "").toList.getD tileX.toNat '.' = '#' then .wall
  else .empty

def isWall (map : Map) (tileX tileY : Int) : Bool := map.tileAt tileX tileY == .wall

/-- The integers a loop `for (t = lo; t <= hi; ++t)` visits. -/
def span (lo hi : Int) : List Int := (List.range (hi - lo + 1).toNat).map (fun i : Nat => lo + i)

def aabbCollides (map : Map) (position : Vec2Fixed) : Bool :=
  let sizeFp := kPlayerSizePx * kFixedScale
  let tileFp := kTileSizePx * kFixedScale
  let minTx := position.x.tdiv tileFp
  let maxTx := (position.x + sizeFp - 1).tdiv tileFp
  let minTy := position.y.tdiv tileFp
  let maxTy := (position.y + sizeFp - 1).tdiv tileFp
  (span minTy maxTy).any fun ty => (span minTx maxTx).any fun tx => map.isWall tx ty

theorem mem_span (lo hi t : Int) : t ∈ span lo hi ↔ lo ≤ t ∧ t ≤ hi := by
  simp only [span, List.mem_map, List.mem_range]
  constructor
  · rintro ⟨i, hi, rfl⟩
    omega
  · rintro ⟨hLo, hHi⟩
    exact ⟨(t - lo).toNat, by omega, by omega⟩

theorem isWall_of_outside (map : Map) (tx ty : Int)
    (h : tx < 0 ∨ tx ≥ 40 ∨ ty < 0 ∨ ty ≥ 25) : map.isWall tx ty = true := by
  simp [isWall, tileAt, h]

/-- C++ division truncates towards zero. -/
theorem tdiv_tile (a : Int) : a.tdiv 8192 = if 0 ≤ a then a / 8192 else -(-a / 8192) := by
  split
  · exact Int.tdiv_eq_ediv_of_nonneg ‹_›
  · rw [← Int.tdiv_eq_ediv_of_nonneg (by omega), Int.neg_tdiv, Int.neg_neg]

theorem tdiv_tile_le (a : Int) : a.tdiv 8192 ≤ (a + 6143).tdiv 8192 := by
  rw [tdiv_tile, tdiv_tile]
  split <;> split <;> omega

theorem aabbCollides_eq_false (map : Map) (p : Vec2Fixed) :
    map.aabbCollides p = false ↔ ∀ ty, p.y.tdiv 8192 ≤ ty → ty ≤ (p.y + 6143).tdiv 8192 →
      ∀ tx, p.x.tdiv 8192 ≤ tx → tx ≤ (p.x + 6143).tdiv 8192 → map.isWall tx ty = false := by
  have hx : p.x + 24 * 256 - 1 = p.x + 6143 := by omega
  have hy : p.y + 24 * 256 - 1 = p.y + 6143 := by omega
  simp only [aabbCollides, hx, hy, List.any_eq_false, mem_span, Bool.not_eq_true]
  constructor
  · intro h ty hLo hHi tx hLo' hHi'
    exact h ty ⟨hLo, hHi⟩ tx ⟨hLo', hHi'⟩
  · rintro h ty ⟨hLo, hHi⟩ tx ⟨hLo', hHi'⟩
    exact h ty hLo hHi tx hLo' hHi'

end Map

/-- A box that touches no wall lies inside the map, whatever the grid: tiles outside are solid. -/
theorem Map.onWire_of_not_collides (map : Map) (p : Vec2Fixed) (h : map.aabbCollides p = false) :
    p.OnWire := by
  rw [Map.aabbCollides_eq_false] at h
  have hWall : ∀ ty, p.y.tdiv 8192 ≤ ty → ty ≤ (p.y + 6143).tdiv 8192 →
      ∀ tx, p.x.tdiv 8192 ≤ tx → tx ≤ (p.x + 6143).tdiv 8192 →
      0 ≤ tx ∧ tx < 40 ∧ 0 ≤ ty ∧ ty < 25 := by
    intro ty hLo hHi tx hLo' hHi'
    by_contra hOut
    have := map.isWall_of_outside tx ty (by omega)
    rw [h ty hLo hHi tx hLo' hHi'] at this
    cases this
  obtain ⟨hx, -, hy, -⟩ := hWall (p.y.tdiv 8192) le_rfl (tdiv_tile_le _) (p.x.tdiv 8192) le_rfl (tdiv_tile_le _)
  obtain ⟨-, hx', -, hy'⟩ := hWall ((p.y + 6143).tdiv 8192) (tdiv_tile_le _) le_rfl
    ((p.x + 6143).tdiv 8192) (tdiv_tile_le _) le_rfl
  rw [tdiv_tile] at hx hy hx' hy'
  constructor <;> omega

def kRedBasePosition : Vec2Fixed := tileToFp 2 12
def kBlueBasePosition : Vec2Fixed := tileToFp 37 12

def kRedSpawnPoints : List Vec2Fixed :=
  [tileToFp 2 5, tileToFp 2 7, tileToFp 2 9, tileToFp 2 11, tileToFp 2 13, tileToFp 1 12,
   tileToFp 3 10, tileToFp 3 14, tileToFp 1 9, tileToFp 1 15]

def kBlueSpawnPoints : List Vec2Fixed :=
  [tileToFp 37 5, tileToFp 37 7, tileToFp 37 9, tileToFp 37 11, tileToFp 37 13, tileToFp 38 12,
   tileToFp 36 10, tileToFp 36 14, tileToFp 38 9, tileToFp 38 15]

/-- `team == Team::Blue ? kBlueSpawnPoints : kRedSpawnPoints`, indexed. -/
def spawnPoint (team : Team) (index : Fin kMaxPlayers) : Vec2Fixed :=
  match team with
  | .blue => kBlueSpawnPoints.getD index {}
  | .red => kRedSpawnPoints.getD index {}

theorem spawnPoint_free (team : Team) (index : Fin kMaxPlayers) :
    Map.arena.aabbCollides (spawnPoint team index) = false := by
  revert team index
  have hRed : ∀ index, Map.arena.aabbCollides (spawnPoint .red index) = false := by decide +kernel
  have hBlue : ∀ index, Map.arena.aabbCollides (spawnPoint .blue index) = false := by decide +kernel
  intro team index
  cases team
  · exact hRed index
  · exact hBlue index

end CaptureTheFlag
