import CaptureTheFlag.Shared.Snapshot

/-! # DELTA_SNAPSHOT

A field-level diff against the previous published snapshot. The baseline is named only by its distance
in ticks, clamped to a byte. Comparisons are made at wire granularity.
-/
namespace CaptureTheFlag.Protocol
set_option autoImplicit false
open BigEndian ByteWriter

def kDeltaHeaderScoreRed : U8 := 1
def kDeltaHeaderScoreBlue : U8 := 2
def kDeltaHeaderSecondsRemaining : U8 := 4
def kDeltaHeaderFlagRed : U8 := 8
def kDeltaHeaderFlagBlue : U8 := 16
def kDeltaHeaderPlayerCount : U8 := 32
def kDeltaHeaderKnownMask : U8 := 0x3F

def kDeltaFieldPos : U8 := 1
def kDeltaFieldAim : U8 := 2
def kDeltaFieldHealth : U8 := 4
def kDeltaFieldFlagsByte : U8 := 8
def kDeltaFieldKnownMask : U8 := 0x0F

def wirePosEq (a b : Vec2Fixed) : Bool :=
  a.x >>> kWireFixedShift == b.x >>> kWireFixedShift && a.y >>> kWireFixedShift == b.y >>> kWireFixedShift

def playerDiffers (a b : PlayerState) : Bool :=
  a.id != b.id || !wirePosEq a.motion.position b.motion.position || a.aimAngle != b.aimAngle ||
    a.health != b.health || packPlayerFlags a != packPlayerFlags b

def deltaTicksAgo (current baseline : U32) : U8 :=
  let ago := if current.toNat ≥ baseline.toNat then current - baseline else 0
  if ago.toNat > 255 then 255 else ago.setWidth 8

/-- Bits collected with `mask |= bit`. -/
def maskOf (bits : List (Bool × U8)) : U8 := bits.foldl (fun m b => if b.1 then m ||| b.2 else m) 0

def rosterChanged (current baseline : WorldSnapshot) : Bool := current.playerCount != baseline.playerCount

def deltaHeaderMask (current baseline : WorldSnapshot) : U8 := maskOf
  [(current.scoreRed != baseline.scoreRed, kDeltaHeaderScoreRed),
   (current.scoreBlue != baseline.scoreBlue, kDeltaHeaderScoreBlue),
   (current.secondsRemaining != baseline.secondsRemaining, kDeltaHeaderSecondsRemaining),
   (decide (current.flagStateRed ≠ baseline.flagStateRed ∨ current.flagCarrierRed ≠ baseline.flagCarrierRed),
    kDeltaHeaderFlagRed),
   (decide (current.flagStateBlue ≠ baseline.flagStateBlue ∨ current.flagCarrierBlue ≠ baseline.flagCarrierBlue),
    kDeltaHeaderFlagBlue),
   (rosterChanged current baseline, kDeltaHeaderPlayerCount)]

def deltaFieldMask (full : Bool) (p b : PlayerState) : U8 := maskOf
  [(full || !wirePosEq p.motion.position b.motion.position, kDeltaFieldPos),
   (full || p.aimAngle != b.aimAngle, kDeltaFieldAim),
   (full || p.health != b.health, kDeltaFieldHealth),
   (full || packPlayerFlags p != packPlayerFlags b, kDeltaFieldFlagsByte)]

/-- `n_cmp`: how many slots the encoder compares. -/
def deltaSlots (current baseline : WorldSnapshot) : Nat :=
  let nCur := min current.playerCount.toNat kMaxPlayers
  let nBase := min baseline.playerCount.toNat kMaxPlayers
  if rosterChanged current baseline then max nCur nBase else nCur

def deltaPlayerMask (current baseline : WorldSnapshot) : U16 :=
  (firstSlots (deltaSlots current baseline)).foldl (fun m i =>
    if rosterChanged current baseline || playerDiffers (current.players i) (baseline.players i)
    then m ||| 1#16 <<< i.val else m) 0

def encodeDeltaHeader (w : ByteWriter) (mask : U8) (current : WorldSnapshot) : ByteWriter :=
  let w := if mask &&& kDeltaHeaderScoreRed ≠ 0 then w.u8 current.scoreRed else w
  let w := if mask &&& kDeltaHeaderScoreBlue ≠ 0 then w.u8 current.scoreBlue else w
  let w := if mask &&& kDeltaHeaderSecondsRemaining ≠ 0 then w.u16 current.secondsRemaining else w
  let w := if mask &&& kDeltaHeaderFlagRed ≠ 0
    then (w.u8 (flagStateByte current.flagStateRed)).u8 current.flagCarrierRed else w
  let w := if mask &&& kDeltaHeaderFlagBlue ≠ 0
    then (w.u8 (flagStateByte current.flagStateBlue)).u8 current.flagCarrierBlue else w
  if mask &&& kDeltaHeaderPlayerCount ≠ 0 then w.u8 current.playerCount else w

def encodeDeltaPlayer (w : ByteWriter) (full : Bool) (p b : PlayerState) : ByteWriter :=
  let fm := deltaFieldMask full p b
  let w := (w.u8 p.id).u8 fm
  let w := if fm &&& kDeltaFieldPos ≠ 0 then writeVec2 w p.motion.position else w
  let w := if fm &&& kDeltaFieldAim ≠ 0 then w.u16 p.aimAngle else w
  let w := if fm &&& kDeltaFieldHealth ≠ 0 then w.u8 p.health else w
  if fm &&& kDeltaFieldFlagsByte ≠ 0 then w.u8 (packPlayerFlags p) else w

def encodeDeltaSnapshot (w : ByteWriter) (current baseline : WorldSnapshot) : ByteWriter :=
  let w := (w.u32 current.lastInputSeq).u8 (deltaTicksAgo current.tick baseline.tick)
  let mask := deltaHeaderMask current baseline
  let w := encodeDeltaHeader (w.u8 mask) mask current
  let pchange := deltaPlayerMask current baseline
  (firstSlots (deltaSlots current baseline)).foldl (fun w i =>
    if pchange &&& 1#16 <<< i.val ≠ 0
    then encodeDeltaPlayer w (rosterChanged current baseline) (current.players i) (baseline.players i)
    else w) (w.u16 pchange)

def decodeDeltaScores (mask : U8) (out : WorldSnapshot) : Decoder WorldSnapshot := do
  let out ← if mask &&& kDeltaHeaderScoreRed ≠ 0
    then (do return { out with scoreRed := ← ByteReader.u8 }) else pure out
  let out ← if mask &&& kDeltaHeaderScoreBlue ≠ 0
    then (do return { out with scoreBlue := ← ByteReader.u8 }) else pure out
  if mask &&& kDeltaHeaderSecondsRemaining ≠ 0
    then (do return { out with secondsRemaining := ← ByteReader.u16 }) else pure out

def decodeDeltaFlagRed (mask : U8) (out : WorldSnapshot) : Decoder (Option WorldSnapshot) :=
  if mask &&& kDeltaHeaderFlagRed ≠ 0 then do
    let stateRaw ← ByteReader.u8
    let carrier ← ByteReader.u8
    if !(← ByteReader.ok) then return none
    return (decodeFlagState stateRaw).map fun state =>
      { out with flagStateRed := state, flagCarrierRed := carrier }
  else pure (some out)

def decodeDeltaFlagBlue (mask : U8) (out : WorldSnapshot) : Decoder (Option WorldSnapshot) :=
  if mask &&& kDeltaHeaderFlagBlue ≠ 0 then do
    let stateRaw ← ByteReader.u8
    let carrier ← ByteReader.u8
    if !(← ByteReader.ok) then return none
    return (decodeFlagState stateRaw).map fun state =>
      { out with flagStateBlue := state, flagCarrierBlue := carrier }
  else pure (some out)

def decodeDeltaCount (mask : U8) (out : WorldSnapshot) : Decoder (Option WorldSnapshot) :=
  if mask &&& kDeltaHeaderPlayerCount ≠ 0 then do
    let playerCount ← ByteReader.u8
    if !(← ByteReader.ok) ∨ playerCount.toNat > kMaxPlayers then return none
    return some { out with playerCount }
  else pure (some out)

def decodeDeltaFields (fm : U8) (p : PlayerState) : Decoder PlayerState := do
  let p ← if fm &&& kDeltaFieldPos ≠ 0
    then (do return { p with motion := { p.motion with position := ← readVec2 } }) else pure p
  let p ← if fm &&& kDeltaFieldAim ≠ 0
    then (do return { p with aimAngle := ← ByteReader.u16 }) else pure p
  let p ← if fm &&& kDeltaFieldHealth ≠ 0
    then (do return { p with health := ← ByteReader.u8 }) else pure p
  if fm &&& kDeltaFieldFlagsByte ≠ 0
    then (do return unpackPlayerFlags (← ByteReader.u8) p) else pure p

def decodeDeltaPlayers (pchange : U16) :
    List (Fin kMaxPlayers) → WorldSnapshot → Decoder (Option WorldSnapshot)
  | [], out => pure (some out)
  | i :: is, out =>
    if pchange &&& 1#16 <<< i.val ≠ 0 then do
      let id ← ByteReader.u8
      let fm ← ByteReader.u8
      if !(← ByteReader.ok) then return none
      if fm &&& ~~~kDeltaFieldKnownMask ≠ 0 then return none
      let p ← decodeDeltaFields fm { out.players i with id }
      if !(← ByteReader.ok) then return none
      decodeDeltaPlayers pchange is { out with players := Function.update out.players i p }
    else decodeDeltaPlayers pchange is out

/-- Everything after the baseline check. -/
def decodeDeltaBody (mask : U8) (currentTick : U32) (out : WorldSnapshot) :
    Decoder (Option WorldSnapshot) := do
  let out ← decodeDeltaScores mask out
  let some out ← decodeDeltaFlagRed mask out | return none
  let some out ← decodeDeltaFlagBlue mask out | return none
  let some out ← decodeDeltaCount mask out | return none
  let pchange ← ByteReader.u16
  if !(← ByteReader.ok) then return none
  if pchange.toNat ≥ 1 <<< kMaxPlayers then return none
  let some out ← decodeDeltaPlayers pchange (List.finRange kMaxPlayers) out | return none
  return some { out with tick := currentTick }

/-- The new cache, or `none` where the source returns false and leaves the cache alone. -/
def decodeDeltaSnapshot (currentTick : U32) (cache : WorldSnapshot) : Decoder (Option WorldSnapshot) := do
  let lastInputSeq ← ByteReader.u32
  let ticksAgo ← ByteReader.u8
  let headerMask ← ByteReader.u8
  if !(← ByteReader.ok) then return none
  if headerMask &&& ~~~kDeltaHeaderKnownMask ≠ 0 then return none
  if ticksAgo.toNat > currentTick.toNat then return none
  if cache.tick ≠ currentTick - ticksAgo.setWidth 32 then return none
  decodeDeltaBody headerMask currentTick { cache with lastInputSeq }

end CaptureTheFlag.Protocol
