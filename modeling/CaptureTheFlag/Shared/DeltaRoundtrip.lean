import CaptureTheFlag.Shared.DeltaCorrect

/-! # The delta path agrees with the full path -/
namespace CaptureTheFlag.Protocol
set_option autoImplicit false
open BigEndian ByteWriter

theorem decodeDeltaScores_run (mask : U8) (current out : WorldSnapshot) (tail : List U8) :
    decodeDeltaScores mask out ⟨deltaScoresBytes mask current ++ tail, false⟩ =
      ({ out with
          scoreRed := if mask &&& kDeltaHeaderScoreRed ≠ 0 then current.scoreRed else out.scoreRed
          scoreBlue := if mask &&& kDeltaHeaderScoreBlue ≠ 0 then current.scoreBlue else out.scoreBlue
          secondsRemaining := if mask &&& kDeltaHeaderSecondsRemaining ≠ 0 then current.secondsRemaining
            else out.secondsRemaining }, ⟨tail, false⟩) := by
  simp only [decodeDeltaScores, deltaScoresBytes]
  by_cases h1 : mask &&& kDeltaHeaderScoreRed = 0#8 <;>
  by_cases h2 : mask &&& kDeltaHeaderScoreBlue = 0#8 <;>
  by_cases h3 : mask &&& kDeltaHeaderSecondsRemaining = 0#8 <;>
  simp [h1, h2, h3]

theorem decodeDeltaFlagRed_run (mask : U8) (current out : WorldSnapshot) (tail : List U8) :
    decodeDeltaFlagRed mask out ⟨deltaFlagRedBytes mask current ++ tail, false⟩ =
      (some { out with
          flagStateRed := if mask &&& kDeltaHeaderFlagRed ≠ 0 then current.flagStateRed else out.flagStateRed
          flagCarrierRed := if mask &&& kDeltaHeaderFlagRed ≠ 0 then current.flagCarrierRed
            else out.flagCarrierRed }, ⟨tail, false⟩) := by
  simp only [decodeDeltaFlagRed, deltaFlagRedBytes]
  by_cases h : mask &&& kDeltaHeaderFlagRed = 0#8 <;> simp [h]

theorem decodeDeltaFlagBlue_run (mask : U8) (current out : WorldSnapshot) (tail : List U8) :
    decodeDeltaFlagBlue mask out ⟨deltaFlagBlueBytes mask current ++ tail, false⟩ =
      (some { out with
          flagStateBlue := if mask &&& kDeltaHeaderFlagBlue ≠ 0 then current.flagStateBlue else out.flagStateBlue
          flagCarrierBlue := if mask &&& kDeltaHeaderFlagBlue ≠ 0 then current.flagCarrierBlue
            else out.flagCarrierBlue }, ⟨tail, false⟩) := by
  simp only [decodeDeltaFlagBlue, deltaFlagBlueBytes]
  by_cases h : mask &&& kDeltaHeaderFlagBlue = 0#8 <;> simp [h]

theorem decodeDeltaCount_run (mask : U8) (current out : WorldSnapshot) (tail : List U8)
    (hCount : current.playerCount.toNat ≤ kMaxPlayers) :
    decodeDeltaCount mask out ⟨deltaCountBytes mask current ++ tail, false⟩ =
      (some { out with
          playerCount := if mask &&& kDeltaHeaderPlayerCount ≠ 0 then current.playerCount
            else out.playerCount }, ⟨tail, false⟩) := by
  have hNot : ¬ current.playerCount.toNat > kMaxPlayers := by omega
  simp only [decodeDeltaCount, deltaCountBytes]
  by_cases h : mask &&& kDeltaHeaderPlayerCount = 0#8 <;> simp [h, hNot]

/-- Slots past the compared range send nothing, so the encoder's loop and the decoder's see the same bytes. -/
theorem flatMap_deltaSlotBytes (current baseline : WorldSnapshot) :
    (firstSlots (deltaSlots current baseline)).flatMap (deltaSlotBytes current baseline) =
      (List.finRange kMaxPlayers).flatMap (deltaSlotBytes current baseline) := by
  have hSilent : ((List.finRange kMaxPlayers).drop (deltaSlots current baseline)).flatMap
      (deltaSlotBytes current baseline) = [] := by
    apply List.flatMap_eq_nil_iff.mpr
    intro i hi
    have hGe : deltaSlots current baseline ≤ i.val := by
      obtain ⟨k, hk, rfl⟩ := List.mem_iff_getElem.mp hi
      simp
    have hBit : ¬ deltaPlayerMask current baseline &&& 1#16 <<< i.val ≠ 0 := by
      rw [deltaPlayerMask_bit]
      omega
    simp only [deltaSlotBytes, if_neg hBit]
  conv_rhs => rw [← List.take_append_drop (deltaSlots current baseline) (List.finRange kMaxPlayers),
    List.flatMap_append, hSilent, List.append_nil]
  rfl

theorem deltaHeaderMask_unsent (current baseline : WorldSnapshot) :
    let m := deltaHeaderMask current baseline
    (¬ m &&& kDeltaHeaderScoreRed ≠ 0 → current.scoreRed = baseline.scoreRed) ∧
    (¬ m &&& kDeltaHeaderScoreBlue ≠ 0 → current.scoreBlue = baseline.scoreBlue) ∧
    (¬ m &&& kDeltaHeaderSecondsRemaining ≠ 0 → current.secondsRemaining = baseline.secondsRemaining) ∧
    (¬ m &&& kDeltaHeaderFlagRed ≠ 0 → current.flagStateRed = baseline.flagStateRed ∧
      current.flagCarrierRed = baseline.flagCarrierRed) ∧
    (¬ m &&& kDeltaHeaderFlagBlue ≠ 0 → current.flagStateBlue = baseline.flagStateBlue ∧
      current.flagCarrierBlue = baseline.flagCarrierBlue) ∧
    (¬ m &&& kDeltaHeaderPlayerCount ≠ 0 → current.playerCount = baseline.playerCount) ∧
    m &&& ~~~kDeltaHeaderKnownMask = 0 := by
  obtain ⟨h1, h2, h3, h4, h5, h6, h7⟩ := maskOf_header (current.scoreRed != baseline.scoreRed)
    (current.scoreBlue != baseline.scoreBlue) (current.secondsRemaining != baseline.secondsRemaining)
    (decide (current.flagStateRed ≠ baseline.flagStateRed ∨ current.flagCarrierRed ≠ baseline.flagCarrierRed))
    (decide (current.flagStateBlue ≠ baseline.flagStateBlue ∨ current.flagCarrierBlue ≠ baseline.flagCarrierBlue))
    (rosterChanged current baseline)
  have hBit : ∀ {m bit : U8} {b : Bool}, (m &&& bit ≠ 0 ↔ b = true) → ¬ m &&& bit ≠ 0 → b = false :=
    fun hIff hNot => Bool.eq_false_iff.mpr (fun hb => hNot (hIff.mpr hb))
  refine ⟨fun h => ?_, fun h => ?_, fun h => ?_, fun h => ?_, fun h => ?_, fun h => ?_, h7⟩
  · simpa using hBit h1 h
  · simpa using hBit h2 h
  · simpa using hBit h3 h
  · simpa using hBit h4 h
  · simpa using hBit h5 h
  · simpa [rosterChanged] using hBit h6 h

theorem ite_unsent {α : Type} {c : Prop} [Decidable c] {new old cached : α} (hUnsent : ¬ c → new = old)
    (hCached : cached = old) : (if c then new else cached) = new := by
  split
  · rfl
  · rw [hCached, hUnsent ‹_›]

theorem deltaPlayerMask_lt (current baseline : WorldSnapshot) :
    (deltaPlayerMask current baseline).toNat < 1 <<< kMaxPlayers :=
  slotMask_lt (fun i => rosterChanged current baseline || playerDiffers (current.players i) (baseline.players i)) _ 0
    (by decide)

theorem playerCount_unchanged {current baseline : WorldSnapshot} (h : rosterChanged current baseline = false) :
    current.playerCount = baseline.playerCount := by
  simpa [rosterChanged] using h

/-- A slot that is sent piecemeal is in range of the baseline, so the cache holds it. -/
theorem Agrees.piecemeal {cache current baseline : WorldSnapshot} (h : Agrees cache baseline) (i : Fin kMaxPlayers)
    (hBit : deltaPlayerMask current baseline &&& 1#16 <<< i.val ≠ 0) :
    rosterChanged current baseline = true ∨ cache.players i = wirePlayer (baseline.players i) := by
  rw [deltaPlayerMask_bit] at hBit
  cases hChanged : rosterChanged current baseline with
  | true => exact Or.inl rfl
  | false =>
    right
    apply h.players i
    have hLt := hBit.1
    simp only [deltaSlots, hChanged, Bool.false_eq_true, if_false] at hLt
    rw [← playerCount_unchanged hChanged]
    omega

theorem decodeDeltaBody_agrees {cache current baseline : WorldSnapshot} (h : Agrees cache baseline)
    (hCount : current.playerCount.toNat ≤ kMaxPlayers) (hBase : baseline.playerCount.toNat ≤ kMaxPlayers)
    (tail : List U8) :
    ∃ out, decodeDeltaBody (deltaHeaderMask current baseline) current.tick cache
        ⟨deltaBodyBytes current baseline ++ tail, false⟩ = (some out, ⟨tail, false⟩) ∧
      Agrees out current ∧ out.lastInputSeq = cache.lastInputSeq := by
  obtain ⟨hRed, hBlue, hSeconds, hFlagRed, hFlagBlue, hPlayers, -⟩ := deltaHeaderMask_unsent current baseline
  have hSlots : current.playerCount.toNat ≤ deltaSlots current baseline := by
    simp only [deltaSlots]
    split <;> omega
  have hMask : ¬ (deltaPlayerMask current baseline).toNat ≥ 1 <<< kMaxPlayers :=
    Nat.not_le_of_lt (deltaPlayerMask_lt current baseline)
  simp only [decodeDeltaBody, deltaBodyBytes, List.append_assoc, ByteReader.bind_run, decodeDeltaScores_run,
    decodeDeltaFlagRed_run, decodeDeltaFlagBlue_run, decodeDeltaCount_run _ _ _ _ hCount, ByteReader.u16_run,
    ByteReader.ok_run, ByteReader.ite_run, hMask, Bool.not_not, Bool.false_eq_true, if_false,
    flatMap_deltaSlotBytes]
  rw [decodeDeltaPlayers_run current baseline (List.finRange kMaxPlayers) (List.nodup_finRange _) _ tail
    (by exact h.velocity) (by exact fun i _ hBit => h.piecemeal i hBit)]
  refine ⟨_, rfl, ?_, rfl⟩
  exact
    { tick := rfl
      playerCount := ite_unsent hPlayers h.playerCount
      flagCarrierRed := ite_unsent (fun hc => (hFlagRed hc).2) h.flagCarrierRed
      flagCarrierBlue := ite_unsent (fun hc => (hFlagBlue hc).2) h.flagCarrierBlue
      flagStateRed := ite_unsent (fun hc => (hFlagRed hc).1) h.flagStateRed
      flagStateBlue := ite_unsent (fun hc => (hFlagBlue hc).1) h.flagStateBlue
      scoreRed := ite_unsent hRed h.scoreRed
      scoreBlue := ite_unsent hBlue h.scoreBlue
      secondsRemaining := ite_unsent hSeconds h.secondsRemaining
      players := by
        intro i hi
        by_cases hBit : deltaPlayerMask current baseline &&& 1#16 <<< i.val ≠ 0
        · exact if_pos ⟨List.mem_finRange i, hBit⟩
        · refine (if_neg (fun hc => hBit hc.2)).trans ?_
          rw [deltaPlayerMask_bit, not_and, Bool.not_eq_true, Bool.or_eq_false_iff] at hBit
          obtain ⟨hSame, hEqual⟩ := hBit (by omega)
          rw [wirePlayer_eq_of_not_differs hEqual]
          exact h.players i (by rw [← playerCount_unchanged hSame]; exact hi)
      velocity := by
        intro i
        simp only
        split
        · rfl
        · exact h.velocity i }

/-- The distance byte names the baseline exactly while it is not clamped. -/
theorem deltaTicksAgo_sub {current baseline : U32} (hOrder : baseline.toNat ≤ current.toNat)
    (hNear : current.toNat - baseline.toNat ≤ 255) :
    (deltaTicksAgo current baseline).toNat ≤ current.toNat ∧
      current - (deltaTicksAgo current baseline).setWidth 32 = baseline := by
  have hSub : (current - baseline).toNat = current.toNat - baseline.toNat := by
    rw [BitVec.toNat_sub_of_le (by rwa [BitVec.le_def])]
  have hAgo : (deltaTicksAgo current baseline).toNat = current.toNat - baseline.toNat := by
    simp only [deltaTicksAgo, ge_iff_le, hOrder, if_true, hSub, gt_iff_lt]
    rw [if_neg (by omega), BitVec.toNat_setWidth, hSub]
    omega
  refine ⟨by omega, ?_⟩
  apply BitVec.eq_of_toNat_eq
  have hWide : ((deltaTicksAgo current baseline).setWidth 32).toNat = current.toNat - baseline.toNat := by
    rw [BitVec.toNat_setWidth, hAgo]
    omega
  rw [BitVec.toNat_sub_of_le (by rw [BitVec.le_def, hWide]; omega), hWide]
  omega

theorem decodeDeltaSnapshot_agrees {cache current baseline : WorldSnapshot} (h : Agrees cache baseline)
    (hCount : current.playerCount.toNat ≤ kMaxPlayers) (hBase : baseline.playerCount.toNat ≤ kMaxPlayers)
    (hOrder : baseline.tick.toNat ≤ current.tick.toNat)
    (hNear : current.tick.toNat - baseline.tick.toNat ≤ 255) (tail : List U8) :
    ∃ out, decodeDeltaSnapshot current.tick cache ⟨deltaSnapshotBytes current baseline ++ tail, false⟩ =
        (some out, ⟨tail, false⟩) ∧ Agrees out current ∧ out.lastInputSeq = current.lastInputSeq := by
  obtain ⟨hLe, hSub⟩ := deltaTicksAgo_sub hOrder hNear
  have hMask := (deltaHeaderMask_unsent current baseline).2.2.2.2.2.2
  have hCache : Agrees { cache with lastInputSeq := current.lastInputSeq } baseline := { h with }
  obtain ⟨out, hRun, hAgrees, hSeq⟩ := decodeDeltaBody_agrees hCache hCount hBase tail
  refine ⟨out, ?_, hAgrees, hSeq⟩
  have hTick : ¬ cache.tick ≠ current.tick - (deltaTicksAgo current.tick baseline.tick).setWidth 32 := by
    rw [hSub, h.tick, not_not]
  simp only [decodeDeltaSnapshot, deltaSnapshotBytes, List.append_assoc, List.cons_append, List.nil_append,
    ByteReader.bind_run, ByteReader.u32_run, ByteReader.u8_run, ByteReader.ok_run, ByteReader.ite_run, hMask,
    hTick, ne_eq, not_true_eq_false, if_false, Bool.not_not, Bool.false_eq_true,
    show ¬ (deltaTicksAgo current.tick baseline.tick).toNat > current.tick.toNat by omega]
  exact hRun

theorem guard_run {α : Type} {c : Prop} [Decidable c] {d : Decoder (Option α)} {s r : ByteReader} {out : α}
    (h : (if c then pure none else d : Decoder (Option α)) s = (some out, r)) : ¬ c ∧ d s = (some out, r) := by
  by_cases hc : c
  · rw [if_pos hc] at h
    cases h
  · rw [if_neg hc] at h
    exact ⟨hc, h⟩

/-- A delta is applied only on a cache whose tick is the one its distance byte names. -/
theorem decodeDeltaSnapshot_tick {cache out current baseline : WorldSnapshot} {tick : U32} {tail : List U8}
    {r : ByteReader}
    (h : decodeDeltaSnapshot tick cache ⟨deltaSnapshotBytes current baseline ++ tail, false⟩ = (some out, r)) :
    (deltaTicksAgo current.tick baseline.tick).toNat ≤ tick.toNat ∧
      cache.tick = tick - (deltaTicksAgo current.tick baseline.tick).setWidth 32 := by
  have hMask := (deltaHeaderMask_unsent current baseline).2.2.2.2.2.2
  simp only [decodeDeltaSnapshot, deltaSnapshotBytes, List.append_assoc, List.cons_append, List.nil_append,
    ByteReader.bind_run, ByteReader.u32_run, ByteReader.u8_run, ByteReader.ok_run, ByteReader.ite_run, hMask,
    ne_eq, not_true_eq_false, if_false, Bool.not_not, Bool.false_eq_true] at h
  obtain ⟨hLe, h⟩ := guard_run h
  obtain ⟨hTick, -⟩ := guard_run h
  exact ⟨by omega, not_not.mp hTick⟩

theorem length_ite_le {c : Prop} [Decidable c] (l : List U8) {n : Nat} (h : l.length ≤ n) :
    (if c then l else []).length ≤ n := by
  split
  · exact h
  · exact Nat.zero_le n

theorem length_deltaSlotBytes (current baseline : WorldSnapshot) (i : Fin kMaxPlayers) :
    (deltaSlotBytes current baseline i).length ≤ 10 := by
  refine length_ite_le _ ?_
  simp only [deltaFieldsBytes, List.length_append, List.length_cons, List.length_nil]
  have hPos := length_ite_le (c := deltaFieldMask (rosterChanged current baseline) (current.players i)
    (baseline.players i) &&& kDeltaFieldPos ≠ 0) (vec2Bytes (current.players i).motion.position) (n := 4) (by simp)
  have hAim := length_ite_le (c := deltaFieldMask (rosterChanged current baseline) (current.players i)
    (baseline.players i) &&& kDeltaFieldAim ≠ 0) (split16 (current.players i).aimAngle) (n := 2) (by simp)
  have hHealth := length_ite_le (c := deltaFieldMask (rosterChanged current baseline) (current.players i)
    (baseline.players i) &&& kDeltaFieldHealth ≠ 0) [(current.players i).health] (n := 1) (by simp)
  have hFlags := length_ite_le (c := deltaFieldMask (rosterChanged current baseline) (current.players i)
    (baseline.players i) &&& kDeltaFieldFlagsByte ≠ 0) [packPlayerFlags (current.players i)] (n := 1) (by simp)
  omega

theorem length_deltaSnapshotBytes (current baseline : WorldSnapshot) :
    (deltaSnapshotBytes current baseline).length ≤ 117 := by
  have hSlots : ((List.finRange kMaxPlayers).flatMap (deltaSlotBytes current baseline)).length ≤ 100 :=
    (length_flatMap_le _ _ 10 (length_deltaSlotBytes current baseline)).trans (by decide)
  have hRed := length_ite_le (c := deltaHeaderMask current baseline &&& kDeltaHeaderScoreRed ≠ 0)
    [current.scoreRed] (n := 1) (by simp)
  have hBlue := length_ite_le (c := deltaHeaderMask current baseline &&& kDeltaHeaderScoreBlue ≠ 0)
    [current.scoreBlue] (n := 1) (by simp)
  have hSeconds := length_ite_le (c := deltaHeaderMask current baseline &&& kDeltaHeaderSecondsRemaining ≠ 0)
    (split16 current.secondsRemaining) (n := 2) (by simp)
  have hFlagRed := length_ite_le (c := deltaHeaderMask current baseline &&& kDeltaHeaderFlagRed ≠ 0)
    [flagStateByte current.flagStateRed, current.flagCarrierRed] (n := 2) (by simp)
  have hFlagBlue := length_ite_le (c := deltaHeaderMask current baseline &&& kDeltaHeaderFlagBlue ≠ 0)
    [flagStateByte current.flagStateBlue, current.flagCarrierBlue] (n := 2) (by simp)
  have hCount := length_ite_le (c := deltaHeaderMask current baseline &&& kDeltaHeaderPlayerCount ≠ 0)
    [current.playerCount] (n := 1) (by simp)
  simp only [deltaSnapshotBytes, deltaBodyBytes, deltaScoresBytes, deltaFlagRedBytes, deltaFlagBlueBytes,
    deltaCountBytes, List.length_append, length_split32, length_split16, List.length_cons, List.length_nil,
    flatMap_deltaSlotBytes]
  omega

/-- What the client decodes from the delta, on top of the baseline it decoded in full, shows the same world as the full
snapshot decoded in its place. -/
theorem delta_path_eq_full_path (base cur : WorldSnapshot) (hBase : base.playerCount.toNat ≤ kMaxPlayers)
    (hCur : cur.playerCount.toNat ≤ kMaxPlayers) (hOrder : base.tick.toNat ≤ cur.tick.toNat)
    (hNear : cur.tick.toNat - base.tick.toNat ≤ 255) (cap : Nat) (hCap : 117 ≤ cap) :
    ∃ cache out full : WorldSnapshot,
      decodeWorldSnapshot ⟨(encodeWorldSnapshot { cap } base).buf, false⟩ = (some cache, ⟨[], false⟩) ∧
      decodeDeltaSnapshot cur.tick cache ⟨(encodeDeltaSnapshot { cap } cur base).buf, false⟩ =
        (some out, ⟨[], false⟩) ∧
      decodeWorldSnapshot ⟨(encodeWorldSnapshot { cap } cur).buf, false⟩ = (some full, ⟨[], false⟩) ∧
      { out with players := full.players } = full ∧
      ∀ i : Fin kMaxPlayers, i.val < cur.playerCount.toNat → out.players i = full.players i := by
  have hFull := fun snap : WorldSnapshot =>
    (emits_encodeWorldSnapshot snap).fresh cap ((length_worldSnapshotBytes snap).trans (by omega))
  have hDelta := (emits_encodeDeltaSnapshot cur base).fresh cap ((length_deltaSnapshotBytes cur base).trans hCap)
  have hCache := decodeWorldSnapshot_run base hBase []
  have hWhole := decodeWorldSnapshot_run cur hCur []
  obtain ⟨out, hRun, hAgrees, hSeq⟩ :=
    decodeDeltaSnapshot_agrees (wireSnapshot_agrees base) hCur hBase hOrder hNear []
  rw [List.append_nil] at hCache hWhole hRun
  refine ⟨wireSnapshot base, out, wireSnapshot cur, ?_, ?_, ?_, ?_, ?_⟩
  · rw [hFull]
    exact hCache
  · rw [hDelta]
    exact hRun
  · rw [hFull]
    exact hWhole
  · obtain ⟨tick, seq, count, carrierRed, carrierBlue, stateRed, stateBlue, scoreRed, scoreBlue, seconds, players⟩ := out
    cases hAgrees with
    | mk hTick hCount hCarrierRed hCarrierBlue hStateRed hStateBlue hScoreRed hScoreBlue hSeconds _ _ =>
      simp only at hTick hCount hCarrierRed hCarrierBlue hStateRed hStateBlue hScoreRed hScoreBlue hSeconds hSeq
      subst hTick hCount hCarrierRed hCarrierBlue hStateRed hStateBlue hScoreRed hScoreBlue hSeconds hSeq
      rfl
  · intro i hi
    rw [hAgrees.players i hi, (wireSnapshot_agrees cur).players i hi]

/-- Two players stand near each other. -/
def twoStanding : WorldSnapshot :=
  { tick := 7, playerCount := 2
    players := fun i => { id := BitVec.ofNat 8 i.val, team := .red, motion := { position := ⟨24576 + 8192 * i.val, 81920⟩ } } }

/-- One of them has moved, turned and been hit; the other has left, and a third has come to its place. -/
def oneReplaced : WorldSnapshot :=
  { tick := 8, playerCount := 2, scoreBlue := 1
    players := fun i =>
      if i = 0 then
        { id := 0, team := .red, motion := { position := ⟨25941, 81920⟩ }, aimAngle := 16384, health := 66 }
      else { id := 5, team := .blue, motion := { position := ⟨40960, 90112⟩ }, carryingFlag := true } }

theorem delta_path_eq_full_path_one_replaced :
    deltaPlayerMask oneReplaced twoStanding = 3 ∧
      ∃ cache out full : WorldSnapshot,
        decodeWorldSnapshot ⟨(encodeWorldSnapshot { cap := 128 } twoStanding).buf, false⟩ = (some cache, ⟨[], false⟩) ∧
        decodeDeltaSnapshot 8 cache ⟨(encodeDeltaSnapshot { cap := 128 } oneReplaced twoStanding).buf, false⟩ =
          (some out, ⟨[], false⟩) ∧
        decodeWorldSnapshot ⟨(encodeWorldSnapshot { cap := 128 } oneReplaced).buf, false⟩ = (some full, ⟨[], false⟩) ∧
        { out with players := full.players } = full ∧
        ∀ i : Fin kMaxPlayers, i.val < 2 → out.players i = full.players i :=
  ⟨by decide, delta_path_eq_full_path twoStanding oneReplaced (by decide) (by decide) (by decide) (by decide) 128
    (by decide)⟩

end CaptureTheFlag.Protocol
