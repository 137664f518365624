import CaptureTheFlag.Shared.DeltaSnapshot

/-! # Applying a delta to a cache that agrees with its baseline

`Agrees got auth` is what a client may rely on: the header fields and the first `player_count` records,
positions as the wire carries them. A delta applied to a cache that agrees with the delta's baseline
gives a cache that agrees with the delta's snapshot.
-/
namespace CaptureTheFlag.Protocol
set_option autoImplicit false
open BigEndian ByteWriter

structure Agrees (got auth : WorldSnapshot) : Prop where
  tick : got.tick = auth.tick
  playerCount : got.playerCount = auth.playerCount
  flagCarrierRed : got.flagCarrierRed = auth.flagCarrierRed
  flagCarrierBlue : got.flagCarrierBlue = auth.flagCarrierBlue
  flagStateRed : got.flagStateRed = auth.flagStateRed
  flagStateBlue : got.flagStateBlue = auth.flagStateBlue
  scoreRed : got.scoreRed = auth.scoreRed
  scoreBlue : got.scoreBlue = auth.scoreBlue
  secondsRemaining : got.secondsRemaining = auth.secondsRemaining
  players : ∀ i : Fin kMaxPlayers, i.val < auth.playerCount.toNat → got.players i = wirePlayer (auth.players i)
  velocity : ∀ i : Fin kMaxPlayers, (got.players i).motion.velocity = {}

theorem wireSnapshot_agrees (snap : WorldSnapshot) : Agrees (wireSnapshot snap) snap where
  tick := rfl
  playerCount := rfl
  flagCarrierRed := rfl
  flagCarrierBlue := rfl
  flagStateRed := rfl
  flagStateBlue := rfl
  scoreRed := rfl
  scoreBlue := rfl
  secondsRemaining := rfl
  players i hi := by simp [wireSnapshot, mem_firstSlots, hi]
  velocity i := by
    simp only [wireSnapshot]
    split <;> rfl

theorem maskOf_header (a b c d e f : Bool) :
    let m := maskOf [(a, kDeltaHeaderScoreRed), (b, kDeltaHeaderScoreBlue), (c, kDeltaHeaderSecondsRemaining),
      (d, kDeltaHeaderFlagRed), (e, kDeltaHeaderFlagBlue), (f, kDeltaHeaderPlayerCount)]
    (m &&& kDeltaHeaderScoreRed ≠ 0 ↔ a = true) ∧ (m &&& kDeltaHeaderScoreBlue ≠ 0 ↔ b = true) ∧
    (m &&& kDeltaHeaderSecondsRemaining ≠ 0 ↔ c = true) ∧ (m &&& kDeltaHeaderFlagRed ≠ 0 ↔ d = true) ∧
    (m &&& kDeltaHeaderFlagBlue ≠ 0 ↔ e = true) ∧ (m &&& kDeltaHeaderPlayerCount ≠ 0 ↔ f = true) ∧
    m &&& ~~~kDeltaHeaderKnownMask = 0 := by
  cases a <;> cases b <;> cases c <;> cases d <;> cases e <;> cases f <;> decide

theorem maskOf_fields (a b c d : Bool) :
    let m := maskOf [(a, kDeltaFieldPos), (b, kDeltaFieldAim), (c, kDeltaFieldHealth), (d, kDeltaFieldFlagsByte)]
    (m &&& kDeltaFieldPos ≠ 0 ↔ a = true) ∧ (m &&& kDeltaFieldAim ≠ 0 ↔ b = true) ∧
    (m &&& kDeltaFieldHealth ≠ 0 ↔ c = true) ∧ (m &&& kDeltaFieldFlagsByte ≠ 0 ↔ d = true) ∧
    m &&& ~~~kDeltaFieldKnownMask = 0 := by
  cases a <;> cases b <;> cases c <;> cases d <;> decide

theorem slotBit_ne_zero (m : U16) (i : Fin kMaxPlayers) : m &&& 1#16 <<< i.val ≠ 0 ↔ m.getLsbD i.val = true := by
  have h := BitVec.and_twoPow m i.val
  have hPow : ∀ i : Fin kMaxPlayers, BitVec.twoPow 16 i.val ≠ 0#16 := by decide
  change m &&& BitVec.twoPow 16 i.val ≠ 0 ↔ _
  rw [h]
  split <;> simp_all [hPow i]

theorem slotMask_bit (c : Fin kMaxPlayers → Bool) (is : List (Fin kMaxPlayers)) (m : U16) (j : Fin kMaxPlayers) :
    (is.foldl (fun m i => if c i then m ||| 1#16 <<< i.val else m) m).getLsbD j.val =
      (m.getLsbD j.val || (decide (j ∈ is) && c j)) := by
  induction is generalizing m with
  | nil => simp
  | cons i is ih =>
    have hOnes : ∀ i j : Fin kMaxPlayers, (1#16 <<< i.val).getLsbD j.val = decide (j = i) := by decide
    have hOne := hOnes i j
    rw [List.foldl_cons, ih]
    by_cases hj : j = i
    · subst hj
      by_cases hc : c j <;> simp [hc, hOne]
    · by_cases hc : c i <;> simp [hc, hOne, hj]

theorem slotMask_lt (c : Fin kMaxPlayers → Bool) (is : List (Fin kMaxPlayers)) (m : U16) (hm : m.toNat < 2 ^ 10) :
    (is.foldl (fun m i => if c i then m ||| 1#16 <<< i.val else m) m).toNat < 2 ^ 10 := by
  induction is generalizing m with
  | nil => exact hm
  | cons i is ih =>
    rw [List.foldl_cons]
    apply ih
    have hOnes : ∀ i : Fin kMaxPlayers, (1#16 <<< i.val).toNat < 2 ^ 10 := by decide
    have hOne := hOnes i
    split
    · rw [BitVec.toNat_or]
      exact Nat.or_lt_two_pow hm hOne
    · exact hm

theorem deltaPlayerMask_bit (current baseline : WorldSnapshot) (i : Fin kMaxPlayers) :
    deltaPlayerMask current baseline &&& 1#16 <<< i.val ≠ 0 ↔
      i.val < deltaSlots current baseline ∧
        (rosterChanged current baseline || playerDiffers (current.players i) (baseline.players i)) = true := by
  rw [slotBit_ne_zero, deltaPlayerMask, slotMask_bit]
  simp [mem_firstSlots]

def deltaScoresBytes (mask : U8) (current : WorldSnapshot) : List U8 :=
  (if mask &&& kDeltaHeaderScoreRed ≠ 0 then [current.scoreRed] else []) ++
  ((if mask &&& kDeltaHeaderScoreBlue ≠ 0 then [current.scoreBlue] else []) ++
    (if mask &&& kDeltaHeaderSecondsRemaining ≠ 0 then split16 current.secondsRemaining else []))

def deltaFlagRedBytes (mask : U8) (current : WorldSnapshot) : List U8 :=
  if mask &&& kDeltaHeaderFlagRed ≠ 0 then [flagStateByte current.flagStateRed, current.flagCarrierRed] else []

def deltaFlagBlueBytes (mask : U8) (current : WorldSnapshot) : List U8 :=
  if mask &&& kDeltaHeaderFlagBlue ≠ 0 then [flagStateByte current.flagStateBlue, current.flagCarrierBlue] else []

def deltaCountBytes (mask : U8) (current : WorldSnapshot) : List U8 :=
  if mask &&& kDeltaHeaderPlayerCount ≠ 0 then [current.playerCount] else []

def deltaFieldsBytes (fm : U8) (p : PlayerState) : List U8 :=
  (if fm &&& kDeltaFieldPos ≠ 0 then vec2Bytes p.motion.position else []) ++
  ((if fm &&& kDeltaFieldAim ≠ 0 then split16 p.aimAngle else []) ++
    ((if fm &&& kDeltaFieldHealth ≠ 0 then [p.health] else []) ++
      (if fm &&& kDeltaFieldFlagsByte ≠ 0 then [packPlayerFlags p] else [])))

def deltaSlotBytes (current baseline : WorldSnapshot) (i : Fin kMaxPlayers) : List U8 :=
  if deltaPlayerMask current baseline &&& 1#16 <<< i.val ≠ 0 then
    let fm := deltaFieldMask (rosterChanged current baseline) (current.players i) (baseline.players i)
    [(current.players i).id, fm] ++ deltaFieldsBytes fm (current.players i)
  else []

def deltaBodyBytes (current baseline : WorldSnapshot) : List U8 :=
  let mask := deltaHeaderMask current baseline
  deltaScoresBytes mask current ++ (deltaFlagRedBytes mask current ++ (deltaFlagBlueBytes mask current ++
    (deltaCountBytes mask current ++ (split16 (deltaPlayerMask current baseline) ++
      (firstSlots (deltaSlots current baseline)).flatMap (deltaSlotBytes current baseline)))))

def deltaSnapshotBytes (current baseline : WorldSnapshot) : List U8 :=
  split32 current.lastInputSeq ++
    ([deltaTicksAgo current.tick baseline.tick, deltaHeaderMask current baseline] ++
      deltaBodyBytes current baseline)

theorem emits_encodeDeltaHeader (mask : U8) (current : WorldSnapshot) :
    Emits (fun w => encodeDeltaHeader w mask current)
      (deltaScoresBytes mask current ++ (deltaFlagRedBytes mask current ++ (deltaFlagBlueBytes mask current ++
        deltaCountBytes mask current))) := by
  have hRed := (emits_u8 (flagStateByte current.flagStateRed)).andThen (emits_u8 current.flagCarrierRed)
  have hBlue := (emits_u8 (flagStateByte current.flagStateBlue)).andThen (emits_u8 current.flagCarrierBlue)
  have h := (((((emits_if (mask &&& kDeltaHeaderScoreRed ≠ 0) (emits_u8 current.scoreRed)).andThen
    (emits_if (mask &&& kDeltaHeaderScoreBlue ≠ 0) (emits_u8 current.scoreBlue))).andThen
    (emits_if (mask &&& kDeltaHeaderSecondsRemaining ≠ 0) (emits_u16 current.secondsRemaining))).andThen
    (emits_if (mask &&& kDeltaHeaderFlagRed ≠ 0) hRed)).andThen
    (emits_if (mask &&& kDeltaHeaderFlagBlue ≠ 0) hBlue)).andThen
    (emits_if (mask &&& kDeltaHeaderPlayerCount ≠ 0) (emits_u8 current.playerCount))
  exact h.of_eq (by
    simp only [deltaScoresBytes, deltaFlagRedBytes, deltaFlagBlueBytes, deltaCountBytes, List.append_assoc,
      List.cons_append, List.nil_append])

theorem emits_encodeDeltaPlayer (full : Bool) (p b : PlayerState) :
    Emits (fun w => encodeDeltaPlayer w full p b)
      ([p.id, deltaFieldMask full p b] ++ deltaFieldsBytes (deltaFieldMask full p b) p) := by
  have h := (((((emits_u8 p.id).andThen (emits_u8 (deltaFieldMask full p b))).andThen
    (emits_if (deltaFieldMask full p b &&& kDeltaFieldPos ≠ 0) (emits_writeVec2 p.motion.position))).andThen
    (emits_if (deltaFieldMask full p b &&& kDeltaFieldAim ≠ 0) (emits_u16 p.aimAngle))).andThen
    (emits_if (deltaFieldMask full p b &&& kDeltaFieldHealth ≠ 0) (emits_u8 p.health))).andThen
    (emits_if (deltaFieldMask full p b &&& kDeltaFieldFlagsByte ≠ 0) (emits_u8 (packPlayerFlags p)))
  exact h.of_eq (by simp only [deltaFieldsBytes, List.append_assoc, List.cons_append, List.nil_append])

theorem emits_encodeDeltaSnapshot (current baseline : WorldSnapshot) :
    Emits (fun w => encodeDeltaSnapshot w current baseline) (deltaSnapshotBytes current baseline) := by
  have hSlots := emits_foldl (firstSlots (deltaSlots current baseline)) (fun i =>
    emits_if (deltaPlayerMask current baseline &&& 1#16 <<< i.val ≠ 0)
      (emits_encodeDeltaPlayer (rosterChanged current baseline) (current.players i) (baseline.players i)))
  have h := (((((emits_u32 current.lastInputSeq).andThen (emits_u8 (deltaTicksAgo current.tick baseline.tick))).andThen
    (emits_u8 (deltaHeaderMask current baseline))).andThen
    (emits_encodeDeltaHeader (deltaHeaderMask current baseline) current)).andThen
    (emits_u16 (deltaPlayerMask current baseline))).andThen hSlots
  refine h.of_eq ?_
  simp only [deltaSnapshotBytes, deltaBodyBytes, List.append_assoc, List.cons_append, List.nil_append]
  rfl

theorem wirePosEq_eq {a b : Vec2Fixed} (h : wirePosEq a b = true) : wireVec2 a = wireVec2 b := by
  simp only [wirePosEq, Bool.and_eq_true, beq_iff_eq] at h
  simp only [wireVec2, wireCoord, h.1, h.2]

theorem wirePlayer_eq_of_not_differs {a b : PlayerState} (h : playerDiffers a b = false) :
    wirePlayer a = wirePlayer b := by
  simp only [playerDiffers, Bool.or_eq_false_iff, bne_eq_false_iff_eq, Bool.not_eq_false'] at h
  obtain ⟨⟨⟨⟨hId, hPos⟩, hAim⟩, hHealth⟩, hFlags⟩ := h
  obtain ⟨hAlive, hCarry, hTeam, hFiring⟩ := packPlayerFlags_inj hFlags
  simp only [wirePlayer, PlayerState.mk.injEq, PlayerMotion.mk.injEq]
  exact ⟨hId, hTeam, ⟨wirePosEq_eq hPos, trivial⟩, hAim, hHealth, hAlive, hCarry, hFiring⟩

/-- One record: either every field is sent, or what is not sent is already in the cache. -/
theorem decodeDeltaFields_run (full : Bool) (p b q : PlayerState) (tail : List U8)
    (hVelocity : q.motion.velocity = {}) (hCached : full = true ∨ q = wirePlayer b) :
    decodeDeltaFields (deltaFieldMask full p b) { q with id := p.id }
        ⟨deltaFieldsBytes (deltaFieldMask full p b) p ++ tail, false⟩ =
      (wirePlayer p, ⟨tail, false⟩) := by
  obtain ⟨hPos, hAim, hHealth, hFlags, -⟩ := maskOf_fields
    (full || !wirePosEq p.motion.position b.motion.position) (full || p.aimAngle != b.aimAngle)
    (full || p.health != b.health) (full || packPlayerFlags p != packPlayerFlags b)
  simp only [decodeDeltaFields, deltaFieldsBytes, deltaFieldMask, hPos, hAim, hHealth, hFlags]
  rcases hCached with rfl | rfl
  · simp [unpack_pack, wirePlayer, hVelocity]
  · cases full with
    | true => simp [unpack_pack, wirePlayer]
    | false =>
      -- Field by field: sent, or equal at wire granularity.
      have hPosEq : wirePosEq p.motion.position b.motion.position = true →
          wireVec2 b.motion.position = wireVec2 p.motion.position := fun h => (wirePosEq_eq h).symm
      have hFlagsEq : packPlayerFlags p = packPlayerFlags b →
          b.alive = p.alive ∧ b.carryingFlag = p.carryingFlag ∧ b.team = p.team ∧ b.firing = p.firing :=
        fun h => packPlayerFlags_inj h.symm
      by_cases h1 : wirePosEq p.motion.position b.motion.position = true <;>
      by_cases h2 : p.aimAngle = b.aimAngle <;>
      by_cases h3 : p.health = b.health <;>
      by_cases h4 : packPlayerFlags p = packPlayerFlags b <;>
      simp_all [unpack_pack, wirePlayer]

theorem decodeDeltaPlayers_run (current baseline : WorldSnapshot) (is : List (Fin kMaxPlayers)) (hNodup : is.Nodup)
    (out : WorldSnapshot) (tail : List U8) (hVelocity : ∀ i, (out.players i).motion.velocity = {})
    (hCached : ∀ i ∈ is, deltaPlayerMask current baseline &&& 1#16 <<< i.val ≠ 0 →
      rosterChanged current baseline = true ∨ out.players i = wirePlayer (baseline.players i)) :
    decodeDeltaPlayers (deltaPlayerMask current baseline) is out
        ⟨is.flatMap (deltaSlotBytes current baseline) ++ tail, false⟩ =
      (some { out with players := fun i =>
          if i ∈ is ∧ deltaPlayerMask current baseline &&& 1#16 <<< i.val ≠ 0
          then wirePlayer (current.players i) else out.players i }, ⟨tail, false⟩) := by
  induction is generalizing out with
  | nil => simp [decodeDeltaPlayers]
  | cons i is ih =>
    obtain ⟨hNotMem, hNodup⟩ := List.nodup_cons.mp hNodup
    by_cases hBit : deltaPlayerMask current baseline &&& 1#16 <<< i.val ≠ 0
    · have hMask := (maskOf_fields
        (rosterChanged current baseline ||
          !wirePosEq (current.players i).motion.position (baseline.players i).motion.position)
        (rosterChanged current baseline || (current.players i).aimAngle != (baseline.players i).aimAngle)
        (rosterChanged current baseline || (current.players i).health != (baseline.players i).health)
        (rosterChanged current baseline ||
          packPlayerFlags (current.players i) != packPlayerFlags (baseline.players i))).2.2.2.2
      have hFields := decodeDeltaFields_run (rosterChanged current baseline) (current.players i)
        (baseline.players i) (out.players i) (is.flatMap (deltaSlotBytes current baseline) ++ tail)
        (hVelocity i) (hCached i List.mem_cons_self hBit)
      have hRest := ih hNodup { out with players := Function.update out.players i (wirePlayer (current.players i)) }
        (by
          intro j
          by_cases hj : j = i
          · subst hj; simp [wirePlayer]
          · simp [hj, hVelocity j])
        (by
          intro j hj hBit'
          have hne : j ≠ i := fun h => hNotMem (h ▸ hj)
          simpa [hne] using hCached j (List.mem_cons_of_mem _ hj) hBit')
      simp only [decodeDeltaPlayers, if_pos hBit, List.flatMap_cons, deltaSlotBytes, List.append_assoc,
        List.cons_append, List.nil_append]
      have hKnown : deltaFieldMask (rosterChanged current baseline) (current.players i) (baseline.players i) &&&
          ~~~kDeltaFieldKnownMask = 0 := hMask
      simp only [ByteReader.bind_run, ByteReader.u8_run, ByteReader.ok_run, ByteReader.ite_run, hKnown, hFields,
        hRest, ne_eq, not_true_eq_false, if_false, Bool.not_not, Bool.false_eq_true]
      congr 3
      funext j
      by_cases hj : j = i
      · subst hj
        rw [if_neg (fun h => hNotMem h.1), if_pos ⟨List.mem_cons_self, hBit⟩, Function.update_self]
      · simp only [List.mem_cons, hj, false_or, Function.update_of_ne hj]
    · have hRest := ih hNodup out hVelocity (fun j hj => hCached j (List.mem_cons_of_mem _ hj))
      have hEmpty : deltaSlotBytes current baseline i = [] := by simp only [deltaSlotBytes, if_neg hBit]
      simp only [decodeDeltaPlayers, if_neg hBit, List.flatMap_cons, hEmpty, List.nil_append]
      rw [hRest]
      congr 3
      funext j
      by_cases hj : j = i
      · subst hj
        rw [if_neg (fun h => hNotMem h.1), if_neg (fun h => hBit h.2)]
      · simp only [List.mem_cons, hj, false_or]

end CaptureTheFlag.Protocol
