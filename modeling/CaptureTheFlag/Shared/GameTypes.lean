import Mathlib.Algebra.GroupWithZero.Nat
import Mathlib.Data.Fintype.Basic
import Mathlib.Order.Basic
import Mathlib.Tactic.Common

/-! # Core value types and tuning constants

The fixed-width integers of the source are bit vectors. Positions are `int32` in 1/256 px and never
leave the map, so they are plain integers here; the wire codec is where their width matters.
-/
namespace CaptureTheFlag
set_option autoImplicit false

abbrev U8 := BitVec 8
abbrev U16 := BitVec 16
abbrev U32 := BitVec 32

abbrev kMaxPlayers : Nat := 10
abbrev kInputRingSize : Nat := 8
abbrev kInputHistoryRingSize : Nat := 64
abbrev kInputRedundancy : Nat := 3
abbrev kSnapshotRingSize : Nat := 30
abbrev kTcpFrameCapBytes : Nat := 4096
abbrev kTcpPendingBufferCapBytes : Nat := 64 * 1024
abbrev kUdpHeaderBytes : Nat := 8
abbrev kSnapshotKeyframeInterval : Nat := 10
abbrev kUdpSilenceTimeoutSec : Nat := 3

instance : NeZero kMaxPlayers := ⟨by decide⟩
instance : NeZero kInputRingSize := ⟨by decide⟩
instance : NeZero kInputHistoryRingSize := ⟨by decide⟩
instance : NeZero kSnapshotRingSize := ⟨by decide⟩

abbrev kTickRateHz : Int := 30
abbrev kInterpolationDelayTicks : Int := 2
abbrev kTileSizePx : Int := 32
abbrev kPlayerSizePx : Int := 24
abbrev kMoveSpeedFpPerTick : Int := 1365
abbrev kDiagonalFactorNum : Int := 181
abbrev kMaxHealth : Int := 100
abbrev kFixedShift : Nat := 8
abbrev kFixedScale : Int := 256
abbrev kMapWidthTiles : Int := 40
abbrev kMapHeightTiles : Int := 25
abbrev kMapWidthPx : Int := 1280
abbrev kMapHeightPx : Int := 800
abbrev kWireFixedShift : Nat := 4
abbrev kDamagePerShot : Int := 34
abbrev kFireCooldownTicks : Int := 10
abbrev kRespawnDelayTicks : Int := 90
abbrev kFlagAutoReturnTicks : U32 := 450
abbrev kScoreToWin : U8 := 3
abbrev kMatchTimeLimitSec : Int := 600

structure Vec2Fixed where
  x : Int := 0
  y : Int := 0
deriving DecidableEq, Repr, Inhabited

/-- The coordinates that `int16` in 1/16 px can carry without wrapping. -/
structure Vec2Fixed.OnWire (p : Vec2Fixed) : Prop where
  x_ge : -524288 ≤ p.x
  x_lt : p.x < 524288
  y_ge : -524288 ≤ p.y
  y_lt : p.y < 524288

inductive Team where
  | red
  | blue
deriving DecidableEq, Repr, Inhabited

namespace Team

def other : Team → Team
  | red => blue
  | blue => red

@[simp] theorem other_other (t : Team) : t.other.other = t := by cases t <;> rfl

@[simp] theorem other_ne (t : Team) : t.other ≠ t := by cases t <;> decide

@[simp] theorem ne_other (t : Team) : t ≠ t.other := by cases t <;> decide

theorem eq_other_iff (a b : Team) : a = b.other ↔ a ≠ b := by cases a <;> cases b <;> decide

end Team

inductive FlagState where
  | atBase
  | carried
  | dropped
deriving DecidableEq, Repr, Inhabited

abbrev kInputUp : U8 := 1
abbrev kInputDown : U8 := 2
abbrev kInputLeft : U8 := 4
abbrev kInputRight : U8 := 8
abbrev kInputFire : U8 := 16

structure InputCmd where
  buttons : U8 := 0
  aimAngle : U16 := 0
deriving DecidableEq, Repr, Inhabited

/-- `buttons & mask`, used as a condition. -/
def InputCmd.pressed (cmd : InputCmd) (mask : U8) : Bool := cmd.buttons &&& mask != 0

structure PlayerMotion where
  position : Vec2Fixed := {}
  velocity : Vec2Fixed := {}
deriving DecidableEq, Repr, Inhabited

structure PlayerState where
  id : U8 := 0
  team : Team := .red
  motion : PlayerMotion := {}
  aimAngle : U16 := 0
  health : U8 := 100
  alive : Bool := true
  carryingFlag : Bool := false
  firing : Bool := false
deriving DecidableEq, Repr, Inhabited

abbrev kNoCarrier : U8 := 0xFF

structure FlagInfo where
  state : FlagState := .atBase
  position : Vec2Fixed := {}
  carrierId : U8 := kNoCarrier
deriving DecidableEq, Repr, Inhabited

structure WorldSnapshot where
  tick : U32 := 0
  lastInputSeq : U32 := 0
  playerCount : U8 := 0
  flagCarrierRed : U8 := kNoCarrier
  flagCarrierBlue : U8 := kNoCarrier
  flagStateRed : FlagState := .atBase
  flagStateBlue : FlagState := .atBase
  scoreRed : U8 := 0
  scoreBlue : U8 := 0
  secondsRemaining : U16 := 0
  players : Fin kMaxPlayers → PlayerState := fun _ => {}
deriving Inhabited

end CaptureTheFlag
