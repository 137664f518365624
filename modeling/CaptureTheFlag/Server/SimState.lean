import CaptureTheFlag.Library.Circular
import CaptureTheFlag.Server.Queues
import CaptureTheFlag.Shared.DeltaSnapshot
import CaptureTheFlag.Shared.Movement

/-! # Simulation state

All game state lives in `Sim`. Flags, drop ticks and scores are indexed by team where the source has
`[0]` for red and `[1]` for blue. `outbound` is everything pushed to the outbound queue so far, oldest
first: what the network thread has popped at any time is a first part of it.
-/
namespace CaptureTheFlag
set_option autoImplicit false
open Protocol Circular

structure Player where
  active : Bool := false
  team : Team := .red
  position : Vec2Fixed := {}
  aimAngle : U16 := 0
  health : Int := kMaxHealth
  alive : Bool := true
  carryingFlag : Bool := false
  spawnIndex : Fin kMaxPlayers := 0
  respawnTimer : Int := 0
  fireCooldown : Int := 0
  ring : Fin kInputRingSize → InputCmd := fun _ => {}
  seqs : Fin kInputRingSize → U32 := fun _ => 0
  ringHead : Nat := 0
  ringCount : Nat := 0
  newestSeq : U32 := 0
  lastInputSeq : U32 := 0

structure Sim where
  players : Fin kMaxPlayers → Player := fun _ => {}
  playerCount : Int := 0
  flags : Team → FlagInfo := fun _ => {}
  dropTick : Team → U32 := fun _ => 0
  score : Team → U8 := fun _ => 0
  snapshot : WorldSnapshot := {}
  appliedCmds : Fin kMaxPlayers → InputCmd := fun _ => {}
  playerAcks : Fin kMaxPlayers → U32 := fun _ => 0
  tickHz : Int := kTickRateHz
  snapshotHz : Int := kTickRateHz
  deltaSnapshots : Bool := true
  prevPublished : WorldSnapshot := {}
  havePublished : Bool := false
  snapshotsPublished : U32 := 0
  currentTick : U32 := 0
  matchOver : Bool := false
  outbound : List OutboundEvent := []

def baseOf : Team → Vec2Fixed
  | .blue => kBlueBasePosition
  | .red => kRedBasePosition

namespace Sim

/-- The constructor of the source. -/
def init : Sim := { flags := fun team => { position := baseOf team } }

def setTickRate (s : Sim) (hz : Int) : Sim := { s with tickHz := if hz > 0 then hz else kTickRateHz }

def setSnapshotRate (s : Sim) (hz : Int) : Sim := { s with snapshotHz := if hz > 0 then hz else kTickRateHz }

def setDeltaSnapshots (s : Sim) (on : Bool) : Sim := { s with deltaSnapshots := on }

/-- `find_player`, with the slot number in place of the pointer. -/
def findPlayer (s : Sim) (id : U8) : Option (Fin kMaxPlayers) :=
  if h : id.toNat < kMaxPlayers then
    if (s.players ⟨id.toNat, h⟩).active then some ⟨id.toNat, h⟩ else none
  else none

def setPlayer (s : Sim) (id : Fin kMaxPlayers) (p : Player) : Sim :=
  { s with players := Function.update s.players id p }

def setFlag (s : Sim) (team : Team) (flag : FlagInfo) : Sim :=
  { s with flags := Function.update s.flags team flag }

def push (s : Sim) (ev : OutboundEvent) : Sim := { s with outbound := s.outbound ++ [ev] }

/-- The byte that names a slot on the wire. -/
def idByte (id : Fin kMaxPlayers) : U8 := BitVec.ofNat 8 id.val

@[simp] theorem toNat_idByte (id : Fin kMaxPlayers) : (idByte id).toNat = id.val := by
  have hLt : id.val < 10 := id.isLt
  simp only [idByte, BitVec.toNat_ofNat]
  omega

theorem idByte_inj {i j : Fin kMaxPlayers} (h : idByte i = idByte j) : i = j := by
  have := congrArg BitVec.toNat h
  rw [toNat_idByte, toNat_idByte] at this
  exact Fin.ext this

theorem idByte_ne_noCarrier (id : Fin kMaxPlayers) : idByte id ≠ kNoCarrier := by
  intro h
  have hLt : id.val < 10 := id.isLt
  have hVal : id.val = 255 := by rw [← toNat_idByte, h]; rfl
  omega

theorem findPlayer_eq_some {s : Sim} {id : U8} {i : Fin kMaxPlayers} :
    s.findPlayer id = some i ↔ id = idByte i ∧ (s.players i).active = true := by
  constructor
  · intro h
    simp only [findPlayer] at h
    split at h
    · split at h
      · rename_i hLt hActive
        cases h
        exact ⟨BitVec.eq_of_toNat_eq (by simp), hActive⟩
      · cases h
    · cases h
  · rintro ⟨rfl, hActive⟩
    have hLt : (idByte i).toNat < kMaxPlayers := by simp
    have hi : (⟨(idByte i).toNat, hLt⟩ : Fin kMaxPlayers) = i := Fin.ext (toNat_idByte i)
    simp only [findPlayer, hLt, dite_true, hi, hActive, if_true]

end Sim
end CaptureTheFlag
