import CaptureTheFlag.Shared.Movement

/-! # Flow-field navigation of the bot

A breadth-first distance field over the tiles, and the buttons that walk a player down it.
-/
namespace CaptureTheFlag
set_option autoImplicit false

abbrev kTileFp : Int := kTileSizePx * kFixedScale
abbrev kBoxFp : Int := kPlayerSizePx * kFixedScale
/-- Margin that centers the player box inside a tile. -/
abbrev kCenterMarginFp : Int := (kTileFp - kBoxFp).tdiv 2
abbrev kAlignTol : Int := kTileFp.tdiv 8
abbrev kUnreachable : U16 := 0xFFFF

structure Tile where
  x : Int
  y : Int
deriving DecidableEq, Repr

/-- The rows of `dist_`. -/
structure FlowField where
  dist : List (List U16)
deriving DecidableEq

namespace FlowField

/-- The tile of a position, clamped into the grid. -/
def tileOf (pos : Vec2Fixed) : Tile :=
  let x := pos.x.tdiv kTileFp
  let y := pos.y.tdiv kTileFp
  let x := if x < 0 then 0 else x
  let y := if y < 0 then 0 else y
  let x := if x ≥ kMapWidthTiles then kMapWidthTiles - 1 else x
  let y := if y ≥ kMapHeightTiles then kMapHeightTiles - 1 else y
  ⟨x, y⟩

/-- The bounds check of the three functions that look up a tile. -/
def outside (t : Tile) : Bool := t.x < 0 || t.y < 0 || t.x ≥ kMapWidthTiles || t.y ≥ kMapHeightTiles

def tilePassable (map : Map) (t : Tile) : Bool :=
  if outside t then false
  else if map.isWall t.x t.y then false
  else !map.aabbCollides ⟨t.x * kTileFp + kCenterMarginFp, t.y * kTileFp + kCenterMarginFp⟩

def distAt (field : FlowField) (t : Tile) : U16 :=
  if outside t then kUnreachable
  else (field.dist.getD t.y.toNat []).getD t.x.toNat kUnreachable

def setDist (field : FlowField) (t : Tile) (d : U16) : FlowField :=
  { dist := field.dist.set t.y.toNat ((field.dist.getD t.y.toNat []).set t.x.toNat d) }

def unreachable : FlowField :=
  { dist := List.replicate kMapHeightTiles.toNat (List.replicate kMapWidthTiles.toNat kUnreachable) }

def neighbors (t : Tile) : List Tile := [⟨t.x + 1, t.y⟩, ⟨t.x - 1, t.y⟩, ⟨t.x, t.y + 1⟩, ⟨t.x, t.y - 1⟩]

structure Search where
  field : FlowField
  queue : List Tile

/-- One iteration of the loop over the neighbours. -/
def visit (passable : Tile → Bool) (next : U16) (s : Search) (n : Tile) : Search :=
  if outside n then s
  else if s.field.distAt n ≠ kUnreachable then s
  else if !passable n then s
  else { field := s.field.setDist n next, queue := s.queue ++ [n] }

/-- The queue loop. Every tile enters the queue at most once, so it takes no more turns than there are tiles. -/
def search (passable : Tile → Bool) : Nat → Search → Search
  | 0, s => s
  | turns + 1, s =>
    match s.queue with
    | [] => s
    | cur :: queue =>
      let next := s.field.distAt cur + 1
      search passable turns ((neighbors cur).foldl (visit passable next) { s with queue })

def kTiles : Nat := (kMapWidthTiles * kMapHeightTiles).toNat

def build (map : Map) (source : Vec2Fixed) : FlowField :=
  let s := tileOf source
  if !tilePassable map s then unreachable
  else (search (tilePassable map) kTiles { field := unreachable.setDist s 0, queue := [s] }).field

structure Cardinal where
  dx : Int
  dy : Int
  bit : U8

def cardinals : List Cardinal :=
  [⟨1, 0, kInputRight⟩, ⟨-1, 0, kInputLeft⟩, ⟨0, 1, kInputDown⟩, ⟨0, -1, kInputUp⟩]

/-- A full step in the direction ends free. -/
def axisFeasible (map : Map) (pos : Vec2Fixed) (dx dy : Int) : Bool :=
  !map.aabbCollides ⟨pos.x + dx * kMoveSpeedFpPerTick, pos.y + dy * kMoveSpeedFpPerTick⟩

/-- The best descent found so far on each axis. -/
structure Descent where
  haveX : Bool := false
  haveY : Bool := false
  bestX : U16 := kUnreachable
  bestY : U16 := kUnreachable
  btnX : U8 := 0
  btnY : U8 := 0

def consider (field : FlowField) (map : Map) (pos : Vec2Fixed) (d : Descent) (c : Cardinal) : Descent :=
  let here := tileOf pos
  let n : Tile := ⟨here.x + c.dx, here.y + c.dy⟩
  let nd := field.distAt n
  if !tilePassable map n then d
  else if nd.toNat ≥ (field.distAt here).toNat then d
  else if !axisFeasible map pos c.dx c.dy then d
  else if c.dy = 0 then
    if nd.toNat < d.bestX.toNat then { d with bestX := nd, btnX := c.bit, haveX := true } else { d with haveX := true }
  else
    if nd.toNat < d.bestY.toNat then { d with bestY := nd, btnY := c.bit, haveY := true } else { d with haveY := true }

def pressTowardCenterY (map : Map) (pos : Vec2Fixed) : U8 :=
  let center := (tileOf pos).y * kTileFp + kCenterMarginFp
  if pos.y < center - kAlignTol ∧ axisFeasible map pos 0 1 then kInputDown
  else if pos.y > center + kAlignTol ∧ axisFeasible map pos 0 (-1) then kInputUp
  else 0

def pressTowardCenterX (map : Map) (pos : Vec2Fixed) : U8 :=
  let center := (tileOf pos).x * kTileFp + kCenterMarginFp
  if pos.x < center - kAlignTol ∧ axisFeasible map pos 1 0 then kInputRight
  else if pos.x > center + kAlignTol ∧ axisFeasible map pos (-1) 0 then kInputLeft
  else 0

/-- The buttons that descend the field; 0 on the source tile and where the source cannot be reached. -/
def steer (field : FlowField) (map : Map) (pos : Vec2Fixed) : U8 :=
  let here := field.distAt (tileOf pos)
  if here = 0 ∨ here = kUnreachable then 0
  else
    let d := cardinals.foldl (consider field map pos) {}
    let cy := pressTowardCenterY map pos
    let cx := pressTowardCenterX map pos
    if d.haveX ∧ d.haveY then d.btnX ||| d.btnY
    else if d.haveX then (if cy ≠ 0 then d.btnX ||| cy else d.btnX)
    else if d.haveY then (if cx ≠ 0 then d.btnY ||| cx else d.btnY)
    -- Wedged: back to the middle of the tile.
    else if cy ≠ 0 then cy
    else if cx ≠ 0 then cx
    else 0

end FlowField
end CaptureTheFlag
