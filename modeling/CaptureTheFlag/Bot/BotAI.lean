import Mathlib.Algebra.Order.Ring.Unbundled.Rat
import CaptureTheFlag.Bot.FlowField
import CaptureTheFlag.Client.Prediction
import CaptureTheFlag.Server.SimState

/-! # The decisions of the bot

One decision a tick, from the latest snapshot: where to go, which buttons lead there, where to aim. Positions are whole
numbers of 1/256 px below 2^24, so `float` holds them and their differences exactly. What `float` rounds, and what the
generator draws, is `Numerics`.
-/
namespace CaptureTheFlag
set_option autoImplicit false

/-- The rounded arithmetic and the draws, `R` being the state of the generator. -/
structure Numerics (R : Type) where
  /-- `dx * dx + dy * dy` for differences in 1/256 px, in 1/65536 px². -/
  squares : Int → Int → Nat
  /-- `std::sqrt` of such a sum, in px. -/
  root : Nat → ℚ
  /-- `aim_spread_rng_(rng_)`. -/
  spread : R → ℚ × R
  /-- `fire_chance_(rng_)`. -/
  fires : R → Bool × R
  /-- `(std::atan2(dy, dx) + spread) / (2π) * 65536` as a `uint16_t`. -/
  bearing : Int → Int → ℚ → U16

structure BotAI (R : Type) where
  rng : R
  myId : U8
  myTeam : Team
  ownBaseField : FlowField
  enemyBaseField : FlowField

namespace BotAI

variable {R : Type}

def init (seed : R) (playerId : U8) (team : Team) : BotAI R where
  rng := seed
  myId := playerId
  myTeam := team
  ownBaseField := FlowField.build Map.arena (baseOf team)
  enemyBaseField := FlowField.build Map.arena (baseOf team.other)

/-- `best` of the loop; the distance starts at `1e9f` px². -/
structure Candidate where
  btn : U8 := 0
  dist : Nat := 1000000000 * 65536
  ok : Bool := false
deriving DecidableEq

/-- One candidate step: it is taken when it ends free and strictly nearer than the best so far. -/
def probe (N : Numerics R) (map : Map) (pos target : Vec2Fixed) (best : Candidate) (c : FlowField.Cardinal) :
    Candidate :=
  let test : Vec2Fixed := ⟨pos.x + c.dx * kMoveSpeedFpPerTick, pos.y + c.dy * kMoveSpeedFpPerTick⟩
  if map.aabbCollides test then best
  else
    let ndist := N.squares (target.x - test.x) (target.y - test.y)
    if ndist < best.dist then { btn := c.bit, dist := ndist, ok := true } else best

/-- 4 px. -/
abbrev kArrivedFp : Int := 4 * kFixedScale

/-- The diagonal that heads for a target that is off on both axes. -/
def diagonal (dx dy : Int) : FlowField.Cardinal where
  dx := if dx > 0 then 1 else -1
  dy := if dy > 0 then 1 else -1
  bit := (if dx > 0 then kInputRight else kInputLeft) ||| (if dy > 0 then kInputDown else kInputUp)

def greedyButtons (N : Numerics R) (map : Map) (pos target : Vec2Fixed) : U8 :=
  let dx := target.x - pos.x
  let dy := target.y - pos.y
  if |dx| ≤ kArrivedFp ∧ |dy| ≤ kArrivedFp then 0
  else
    let best := FlowField.cardinals.foldl (probe N map pos target) {}
    let best := if |dx| > kArrivedFp ∧ |dy| > kArrivedFp then probe N map pos target best (diagonal dx dy) else best
    if best.ok then best.btn else 0

/-- Where `tick` sends the bot: down the field of a base, or straight at a carrier. -/
inductive Course where
  | toBase (team : Team)
  | chase (target : Vec2Fixed)
deriving DecidableEq

/-- Carrying a flag: home. Own flag in the hands of an enemy that the snapshot shows: at that enemy. Otherwise: to the
enemy base. -/
def course (ai : BotAI R) (self : PlayerState) (snap : WorldSnapshot) : Course :=
  let ownFlagState := match ai.myTeam with | .red => snap.flagStateRed | .blue => snap.flagStateBlue
  let ownFlagCarrier := match ai.myTeam with | .red => snap.flagCarrierRed | .blue => snap.flagCarrierBlue
  if self.carryingFlag then .toBase ai.myTeam
  else if ownFlagState = .carried ∧ ownFlagCarrier.toNat < kMaxPlayers then
    match Prediction.findSelf snap ownFlagCarrier with
    | some carrier => if carrier.team ≠ ai.myTeam then .chase carrier.motion.position else .toBase ai.myTeam.other
    | none => .toBase ai.myTeam.other
  else .toBase ai.myTeam.other

def fieldTo (ai : BotAI R) (team : Team) : FlowField :=
  if team = ai.myTeam then ai.ownBaseField else ai.enemyBaseField

/-- The movement buttons. Within two tiles of a base the field hands over to direct steering. -/
def navButtons (N : Numerics R) (ai : BotAI R) (pos : Vec2Fixed) : Course → U8
  | .chase target => greedyButtons N Map.arena pos target
  | .toBase team =>
    let field := ai.fieldTo team
    let buttons := field.steer Map.arena pos
    if (field.distAt (FlowField.tileOf pos)).toNat ≤ 2 ∨ buttons = 0 then greedyButtons N Map.arena pos (baseOf team)
    else buttons

/-- The nearest living enemy of the loop over the snapshot. -/
structure Sighting where
  dist : ℚ := 99999
  dx : Int := 0
  dy : Int := 0
  seen : Bool := false

def sight (N : Numerics R) (ai : BotAI R) (pos : Vec2Fixed) (best : Sighting) (p : PlayerState) : Sighting :=
  if p.id = ai.myId ∨ p.team = ai.myTeam ∨ p.alive = false then best
  else
    let dx := p.motion.position.x - pos.x
    let dy := p.motion.position.y - pos.y
    let dist := N.root (N.squares dx dy)
    if dist < best.dist then { dist, dx, dy, seen := true } else best

def nearestEnemy (N : Numerics R) (ai : BotAI R) (pos : Vec2Fixed) (snap : WorldSnapshot) : Sighting :=
  ((Protocol.firstSlots snap.playerCount.toNat).map snap.players).foldl (sight N ai pos) {}

/-- Aiming where the bot goes; `cmd` has no fire bit yet. -/
def aimAhead (N : Numerics R) (buttons : U8) : U16 :=
  let cmd : InputCmd := { buttons }
  let mx : Int := (if cmd.pressed kInputRight then 1 else 0) - (if cmd.pressed kInputLeft then 1 else 0)
  let my : Int := (if cmd.pressed kInputDown then 1 else 0) - (if cmd.pressed kInputUp then 1 else 0)
  N.bearing my mx 0

/-- Aim and fire: at an enemy within 350 px with a spread and a chance, else ahead. -/
def combat (N : Numerics R) (ai : BotAI R) (enemy : Sighting) (buttons : U8) : BotAI R × InputCmd :=
  if enemy.seen ∧ enemy.dist < 350 then
    let (spread, rng) := N.spread ai.rng
    let (fire, rng) := N.fires rng
    ({ ai with rng }, { buttons := if fire then buttons ||| kInputFire else buttons,
                        aimAngle := N.bearing enemy.dy enemy.dx spread })
  else if ({ buttons } : InputCmd).pressed (kInputLeft ||| kInputRight ||| kInputUp ||| kInputDown) then
    (ai, { buttons, aimAngle := aimAhead N buttons })
  else (ai, { buttons })

def tick (N : Numerics R) (ai : BotAI R) (snap : WorldSnapshot) : BotAI R × InputCmd :=
  match Prediction.findSelf snap ai.myId with
  | none => (ai, {})
  | some self =>
    let pos := self.motion.position
    ai.combat N (ai.nearestEnemy N pos snap) (ai.navButtons N pos (ai.course self snap))

end BotAI
end CaptureTheFlag
