import CaptureTheFlag.Shared.Messages

/-! # WORLD_SNAPSHOT -/
namespace CaptureTheFlag.Protocol
set_option autoImplicit false
open BigEndian ByteWriter

def kFlagAlive : U8 := 1
def kFlagCarrying : U8 := 2
def kFlagTeamBlue : U8 := 4
def kFlagFiring : U8 := 8

def packPlayerFlags (p : PlayerState) : U8 :=
  (if p.alive then kFlagAlive else 0) ||| (if p.carryingFlag then kFlagCarrying else 0) |||
    (if p.team = .blue then kFlagTeamBlue else 0) ||| (if p.firing then kFlagFiring else 0)

def unpackPlayerFlags (f : U8) (p : PlayerState) : PlayerState :=
  { p with
    alive := f &&& kFlagAlive != 0
    carryingFlag := f &&& kFlagCarrying != 0
    team := if f &&& kFlagTeamBlue != 0 then .blue else .red
    firing := f &&& kFlagFiring != 0 }

def encodePlayerState (w : ByteWriter) (p : PlayerState) : ByteWriter :=
  (((writeVec2 (w.u8 p.id) p.motion.position).u16 p.aimAngle).u8 p.health).u8 (packPlayerFlags p)

def encodeWorldSnapshot (w : ByteWriter) (snap : WorldSnapshot) : ByteWriter :=
  let w := (w.u32 snap.lastInputSeq).u32 snap.tick
  let w := ((w.u8 snap.playerCount).u8 snap.flagCarrierRed).u8 snap.flagCarrierBlue
  let w := (w.u8 (flagStateByte snap.flagStateRed)).u8 (flagStateByte snap.flagStateBlue)
  let w := ((w.u8 snap.scoreRed).u8 snap.scoreBlue).u16 snap.secondsRemaining
  (firstSlots snap.playerCount.toNat).foldl (fun w i => encodePlayerState w (snap.players i)) w

/-- One iteration of the player loop of `decode_world_snapshot`. -/
def decodePlayerState (p : PlayerState) : Decoder PlayerState := do
  let id ← ByteReader.u8
  let position ← readVec2
  let aimAngle ← ByteReader.u16
  let health ← ByteReader.u8
  let flags ← ByteReader.u8
  return unpackPlayerFlags flags { p with id, motion := { position, velocity := {} }, aimAngle, health }

def decodePlayerStates : List (Fin kMaxPlayers) → WorldSnapshot → Decoder WorldSnapshot
  | [], out => pure out
  | i :: is, out => do
    let p ← decodePlayerState (out.players i)
    decodePlayerStates is { out with players := Function.update out.players i p }

def decodeWorldSnapshot : Decoder (Option WorldSnapshot) := do
  let lastInputSeq ← ByteReader.u32
  let tick ← ByteReader.u32
  let playerCount ← ByteReader.u8
  let flagCarrierRed ← ByteReader.u8
  let flagCarrierBlue ← ByteReader.u8
  let flagStateRedRaw ← ByteReader.u8
  let flagStateBlueRaw ← ByteReader.u8
  let scoreRed ← ByteReader.u8
  let scoreBlue ← ByteReader.u8
  let secondsRemaining ← ByteReader.u16
  if !(← ByteReader.ok) ∨ playerCount.toNat > kMaxPlayers then return none
  match decodeFlagState flagStateRedRaw, decodeFlagState flagStateBlueRaw with
  | some flagStateRed, some flagStateBlue =>
    let out ← decodePlayerStates (firstSlots playerCount.toNat)
      { lastInputSeq, tick, playerCount, flagCarrierRed, flagCarrierBlue, flagStateRed, flagStateBlue,
        scoreRed, scoreBlue, secondsRemaining }
    return if ← ByteReader.ok then some out else none
  | _, _ => return none

def playerStateBytes (p : PlayerState) : List U8 :=
  [p.id] ++ (vec2Bytes p.motion.position ++ (split16 p.aimAngle ++ [p.health, packPlayerFlags p]))

def worldSnapshotBytes (snap : WorldSnapshot) : List U8 :=
  split32 snap.lastInputSeq ++ (split32 snap.tick ++
    ([snap.playerCount, snap.flagCarrierRed, snap.flagCarrierBlue, flagStateByte snap.flagStateRed,
      flagStateByte snap.flagStateBlue, snap.scoreRed, snap.scoreBlue] ++
    (split16 snap.secondsRemaining ++
      (firstSlots snap.playerCount.toNat).flatMap (fun i => playerStateBytes (snap.players i)))))

/-- A record as it comes out of the wire: position rounded, velocity never sent. -/
def wirePlayer (p : PlayerState) : PlayerState :=
  { p with motion := { position := wireVec2 p.motion.position, velocity := {} } }

theorem unpack_pack (p q : PlayerState) :
    unpackPlayerFlags (packPlayerFlags p) q =
      { q with alive := p.alive, carryingFlag := p.carryingFlag, team := p.team, firing := p.firing } := by
  obtain ⟨_, team, _, _, _, alive, carrying, firing⟩ := p
  cases team <;> cases alive <;> cases carrying <;> cases firing <;>
    simp [unpackPlayerFlags, packPlayerFlags, kFlagAlive, kFlagCarrying, kFlagTeamBlue, kFlagFiring]

theorem packPlayerFlags_inj {p q : PlayerState} (h : packPlayerFlags p = packPlayerFlags q) :
    p.alive = q.alive ∧ p.carryingFlag = q.carryingFlag ∧ p.team = q.team ∧ p.firing = q.firing := by
  have hp := unpack_pack p p
  rw [h, unpack_pack q p] at hp
  simp only [PlayerState.mk.injEq] at hp
  exact ⟨hp.2.2.2.2.2.1.symm, hp.2.2.2.2.2.2.1.symm, hp.2.1.symm, hp.2.2.2.2.2.2.2.symm⟩

theorem emits_encodePlayerState (p : PlayerState) :
    Emits (fun w => encodePlayerState w p) (playerStateBytes p) := by
  have h := ((((emits_u8 p.id).andThen (emits_writeVec2 p.motion.position)).andThen
    (emits_u16 p.aimAngle)).andThen (emits_u8 p.health)).andThen (emits_u8 (packPlayerFlags p))
  exact h.of_eq (by simp [playerStateBytes])

theorem emits_encodeWorldSnapshot (snap : WorldSnapshot) :
    Emits (fun w => encodeWorldSnapshot w snap) (worldSnapshotBytes snap) := by
  have hHead := (((((((((emits_u32 snap.lastInputSeq).andThen (emits_u32 snap.tick)).andThen
    (emits_u8 snap.playerCount)).andThen (emits_u8 snap.flagCarrierRed)).andThen
    (emits_u8 snap.flagCarrierBlue)).andThen (emits_u8 (flagStateByte snap.flagStateRed))).andThen
    (emits_u8 (flagStateByte snap.flagStateBlue))).andThen (emits_u8 snap.scoreRed)).andThen
    (emits_u8 snap.scoreBlue)).andThen (emits_u16 snap.secondsRemaining)
  have h := hHead.andThen (emits_foldl (firstSlots snap.playerCount.toNat)
    (fun i => emits_encodePlayerState (snap.players i)))
  exact h.of_eq (by simp [worldSnapshotBytes])

@[simp] theorem decodePlayerState_run (p q : PlayerState) (tail : List U8) :
    decodePlayerState q ⟨playerStateBytes p ++ tail, false⟩ = (wirePlayer p, ⟨tail, false⟩) := by
  simp [decodePlayerState, playerStateBytes, wirePlayer, unpack_pack]

theorem decodePlayerStates_run (snap : WorldSnapshot) (is : List (Fin kMaxPlayers)) (out : WorldSnapshot)
    (tail : List U8) :
    decodePlayerStates is out ⟨is.flatMap (fun i => playerStateBytes (snap.players i)) ++ tail, false⟩ =
      ({ out with players := fun i => if i ∈ is then wirePlayer (snap.players i) else out.players i },
        ⟨tail, false⟩) := by
  induction is generalizing out with
  | nil => simp [decodePlayerStates]
  | cons i is ih =>
    simp only [decodePlayerStates, List.flatMap_cons, List.append_assoc, ByteReader.bind_run,
      decodePlayerState_run, ih, filled_cons is i (fun i => wirePlayer (snap.players i)) out.players]

/-- The snapshot a client decodes from a full snapshot: slots past the count are default records. -/
def wireSnapshot (snap : WorldSnapshot) : WorldSnapshot :=
  { snap with
    players := fun i => if i ∈ firstSlots snap.playerCount.toNat then wirePlayer (snap.players i) else {} }

theorem decodeWorldSnapshot_run (snap : WorldSnapshot) (hCount : snap.playerCount.toNat ≤ kMaxPlayers)
    (tail : List U8) :
    decodeWorldSnapshot ⟨worldSnapshotBytes snap ++ tail, false⟩ = (some (wireSnapshot snap), ⟨tail, false⟩) := by
  have hNot : ¬ snap.playerCount.toNat > kMaxPlayers := by omega
  simp [decodeWorldSnapshot, worldSnapshotBytes, decodePlayerStates_run, hNot, wireSnapshot]

theorem mem_firstSlots (n : Nat) (i : Fin kMaxPlayers) : i ∈ firstSlots n ↔ i.val < n :=
  mem_take_finRange n i

theorem firstSlots_succ {n : Nat} (h : n < kMaxPlayers) : firstSlots (n + 1) = firstSlots n ++ [⟨n, h⟩] := by
  rw [firstSlots, firstSlots, List.take_add_one, List.getElem?_eq_getElem (by rwa [List.length_finRange]),
    List.getElem_finRange]
  rfl

/-- Filling in the next slot lists one more item. -/
theorem map_firstSlots_succ {α : Type} {n : Nat} (h : n < kMaxPlayers) {f g : Fin kMaxPlayers → α}
    (hSame : ∀ i, i ≠ ⟨n, h⟩ → f i = g i) :
    (firstSlots (n + 1)).map f = (firstSlots n).map g ++ [f ⟨n, h⟩] := by
  rw [firstSlots_succ h, List.map_append, List.map_singleton]
  congr 1
  refine List.map_congr_left fun i hMem => hSame i ?_
  rintro rfl
  exact Nat.lt_irrefl _ ((mem_firstSlots _ _).mp hMem)

theorem toNat_count_succ {count : U8} (h : count.toNat < kMaxPlayers) : (count + 1).toNat = count.toNat + 1 := by
  rw [BitVec.toNat_add]
  have hOne : (1 : U8).toNat = 1 := rfl
  simp only [kMaxPlayers] at h
  omega

theorem length_flatMap_le {α : Type} (l : List α) (f : α → List U8) (n : Nat) (h : ∀ a, (f a).length ≤ n) :
    (l.flatMap f).length ≤ l.length * n := by
  induction l with
  | nil => simp
  | cons a l ih =>
    have := h a
    simp only [List.flatMap_cons, List.length_append, List.length_cons, Nat.succ_mul]
    omega

theorem length_flatMap_firstSlots {f : Fin kMaxPlayers → List U8} {width : Nat} (h : ∀ i, (f i).length ≤ width)
    (n : Nat) : ((firstSlots n).flatMap f).length ≤ 10 * width := by
  refine (length_flatMap_le _ _ width h).trans (Nat.mul_le_mul_right width ?_)
  rw [firstSlots, List.length_take, List.length_finRange]
  exact Nat.min_le_right _ _

theorem length_worldSnapshotBytes (snap : WorldSnapshot) : (worldSnapshotBytes snap).length ≤ 107 := by
  have hBody := @length_flatMap_firstSlots (fun i => playerStateBytes (snap.players i)) 9 (fun _ => Nat.le_refl _)
    snap.playerCount.toNat
  simp only [worldSnapshotBytes, List.length_append, length_split32, length_split16, List.length_cons, List.length_nil]
  omega

end CaptureTheFlag.Protocol
