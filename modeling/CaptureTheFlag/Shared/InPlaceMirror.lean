import CaptureTheFlag.Shared.InPlace

/-! # Decoding in place and decoding into a value

Each decoder that fills in its out-parameter accepts what the decoder into a value accepts, stops at the same byte, and
leaves the bytes of that value in the record.
-/
namespace CaptureTheFlag
set_option autoImplicit false
open Protocol Filling

def PlayerState.raw (p : PlayerState) : Raw.PlayerState :=
  { id := p.id
    team := teamByte p.team
    motion := p.motion
    aimAngle := p.aimAngle
    health := p.health
    alive := p.alive
    carryingFlag := p.carryingFlag
    firing := p.firing }

def WorldSnapshot.raw (snap : WorldSnapshot) : Raw.WorldSnapshot :=
  { tick := snap.tick
    lastInputSeq := snap.lastInputSeq
    playerCount := snap.playerCount
    flagCarrierRed := snap.flagCarrierRed
    flagCarrierBlue := snap.flagCarrierBlue
    flagStateRed := flagStateByte snap.flagStateRed
    flagStateBlue := flagStateByte snap.flagStateBlue
    scoreRed := snap.scoreRed
    scoreBlue := snap.scoreBlue
    secondsRemaining := snap.secondsRemaining
    players := fun i => (snap.players i).raw }

def Protocol.MsgGameStart.raw (msg : MsgGameStart) : Raw.MsgGameStart :=
  { playerCount := msg.playerCount
    ids := msg.ids
    teams := fun i => teamByte (msg.teams i)
    spawnPoints := msg.spawnPoints
    startTick := msg.startTick }

theorem Protocol.MsgGameStart.raw_update (msg : MsgGameStart) (i : Fin kMaxPlayers) (ids : Fin kMaxPlayers → U8)
    (team : Team) (spawnPoints : Fin kMaxPlayers → Vec2Fixed) :
    { msg with ids, teams := Function.update msg.teams i team, spawnPoints }.raw =
      { msg.raw with ids, teams := Function.update msg.raw.teams i (teamByte team), spawnPoints } := by
  have hTeams := Function.comp_update teamByte msg.teams i team
  simp only [raw, Raw.MsgGameStart.mk.injEq, true_and, and_true]
  exact hTeams

def Protocol.MsgFlagTouched.raw (msg : MsgFlagTouched) : Raw.MsgFlagTouched :=
  { flagTeam := teamByte msg.flagTeam, playerId := msg.playerId, tick := msg.tick }

def Protocol.MsgFlagDropped.raw (msg : MsgFlagDropped) : Raw.MsgFlagDropped :=
  { flagTeam := teamByte msg.flagTeam, position := msg.position, tick := msg.tick }

def Protocol.MsgMatchEnd.raw (msg : MsgMatchEnd) : Raw.MsgMatchEnd :=
  { winningTeam := teamByte msg.winningTeam, scoreRed := msg.scoreRed, scoreBlue := msg.scoreBlue }

namespace Raw

section steps

variable {σ β : Type} {embed : β → σ} {x : σ}

theorem decodeTeam_accepts (team : Team) (put : U8 → σ → σ) :
    decodeTeam (teamByte team) put = write (put (teamByte team)) := by
  cases team <;> rfl

theorem decodeTeam_rejects {raw : U8} (hGt : ¬ raw.toNat ≤ (teamByte .blue).toNat) (put : U8 → σ → σ) :
    decodeTeam raw put = (throw .rejected : Filling ByteReader σ Unit) := by
  rw [decodeTeam, require, if_neg (fun hLe => hGt (of_decide_eq_true hLe))]
  rfl

theorem decodeFlagState_accepts (state : FlagState) (put : U8 → σ → σ) :
    decodeFlagState (flagStateByte state) put = write (put (flagStateByte state)) := by
  cases state <;> rfl

theorem decodeFlagState_rejects {raw : U8} (hGt : ¬ raw.toNat ≤ (flagStateByte .dropped).toNat) (put : U8 → σ → σ) :
    decodeFlagState raw put = (throw .rejected : Filling ByteReader σ Unit) := by
  rw [decodeFlagState, require, if_neg (fun hLe => hGt (of_decide_eq_true hLe))]
  rfl

theorem mirrors_team {raw : U8} {put : U8 → σ → σ} {build : Team → β}
    (h : ∀ team, put (teamByte team) x = embed (build team)) :
    Mirrors embed (decodeTeam raw put) x (pure ((Protocol.decodeTeam raw).map build)) := by
  rcases decodeTeam_cases raw with ⟨-, team, hTeam, rfl⟩ | ⟨hGt, hNone⟩
  · rw [hTeam, decodeTeam_accepts]
    exact fun r => congrArg (·, r) (h team)
  · rw [hNone, decodeTeam_rejects hGt]
    exact fun r => rfl

theorem mirrors_flagState {raw : U8} {put : U8 → σ → σ} {build : FlagState → β}
    (h : ∀ state, put (flagStateByte state) x = embed (build state)) :
    Mirrors embed (decodeFlagState raw put) x (pure ((Protocol.decodeFlagState raw).map build)) := by
  rcases decodeFlagState_cases raw with ⟨-, state, hState, rfl⟩ | ⟨hGt, hNone⟩
  · rw [hState, decodeFlagState_accepts]
    exact fun r => congrArg (·, r) (h state)
  · rw [hNone, decodeFlagState_rejects hGt]
    exact fun r => rfl

theorem mirrors_team_then {raw : U8} {put : U8 → σ → σ} {d : Filling ByteReader σ Unit} {e : Decoder (Option β)}
    (hNone : Protocol.decodeTeam raw = none → e = pure none)
    (hSome : ∀ team, Protocol.decodeTeam raw = some team → Mirrors embed d (put (teamByte team) x) e) :
    Mirrors embed (decodeTeam raw put >>= fun _ => d) x e := by
  rcases decodeTeam_cases raw with ⟨-, team, hTeam, rfl⟩ | ⟨hGt, hReject⟩
  · rw [decodeTeam_accepts]
    exact mirrors_write (hSome team hTeam)
  · rw [decodeTeam_rejects hGt, hNone hReject]
    exact fun r => rfl

theorem mirrors_flagState_then {raw : U8} {put : U8 → σ → σ} {d : Filling ByteReader σ Unit} {e : Decoder (Option β)}
    (hNone : Protocol.decodeFlagState raw = none → e = pure none)
    (hSome : ∀ state, Protocol.decodeFlagState raw = some state → Mirrors embed d (put (flagStateByte state) x) e) :
    Mirrors embed (decodeFlagState raw put >>= fun _ => d) x e := by
  rcases decodeFlagState_cases raw with ⟨-, state, hState, rfl⟩ | ⟨hGt, hReject⟩
  · rw [decodeFlagState_accepts]
    exact mirrors_write (hSome state hState)
  · rw [decodeFlagState_rejects hGt, hNone hReject]
    exact fun r => rfl

/-- `return r.ok()`. -/
theorem mirrors_ok {b : β} (h : x = embed b) :
    Mirrors embed (requireOk : Filling ByteReader σ Unit) x
      (ByteReader.ok >>= fun ok => pure (if ok then some b else none)) := by
  refine mirrors_read fun ok => ?_
  cases ok with
  | true => exact mirrors_done h
  | false => exact fun r => rfl

/-- `if (!r.ok()) return false`. -/
theorem mirrors_requireOk {d : Filling ByteReader σ Unit} {e : Decoder (Option β)} (h : Mirrors embed d x e) :
    Mirrors embed (requireOk >>= fun _ => d) x (ByteReader.ok >>= fun ok => if (!ok) = true then pure none else e) := by
  intro r
  have hRun := h r
  cases hOk : r.underflow with
  | true =>
    have hFirst : (requireOk : Filling ByteReader σ Unit) (x, r) = (.error .rejected, (x, r)) := by
      change require (!r.underflow) (x, r) = _
      rw [hOk]
      rfl
    change Agree embed _ ((if (!(!r.underflow)) = true then pure none else e) r)
    rw [bind_run, hFirst, hOk]
    exact rfl
  | false =>
    have hFirst : (requireOk : Filling ByteReader σ Unit) (x, r) = (.ok (), (x, r)) := by
      change require (!r.underflow) (x, r) = _
      rw [hOk]
      rfl
    change Agree embed _ ((if (!(!r.underflow)) = true then pure none else e) r)
    rw [bind_run, hFirst, hOk]
    exact hRun

end steps

theorem mirrors_decodeShotFired : Mirrors id decodeShotFired {} Protocol.decodeShotFired :=
  mirrors_store fun _ => mirrors_store fun _ => mirrors_store fun _ => mirrors_store fun _ => mirrors_ok rfl

theorem mirrors_decodePlayerKilled : Mirrors id decodePlayerKilled {} Protocol.decodePlayerKilled :=
  mirrors_store fun _ => mirrors_store fun _ => mirrors_store fun _ => mirrors_ok rfl

theorem mirrors_decodePlayerRespawned : Mirrors id decodePlayerRespawned {} Protocol.decodePlayerRespawned :=
  mirrors_store fun _ => mirrors_store fun _ => mirrors_store fun _ => mirrors_ok rfl

theorem mirrors_decodeFlagTouched : Mirrors MsgFlagTouched.raw decodeFlagTouched {} Protocol.decodeFlagTouched :=
  mirrors_read fun _ => mirrors_store fun _ => mirrors_store fun _ => mirrors_requireOk (mirrors_team fun _ => rfl)

theorem mirrors_decodeFlagDropped : Mirrors MsgFlagDropped.raw decodeFlagDropped {} Protocol.decodeFlagDropped :=
  mirrors_read fun _ => mirrors_store fun _ => mirrors_store fun _ => mirrors_requireOk (mirrors_team fun _ => rfl)

theorem mirrors_decodeMatchEnd : Mirrors MsgMatchEnd.raw decodeMatchEnd {} Protocol.decodeMatchEnd :=
  mirrors_read fun _ => mirrors_store fun _ => mirrors_store fun _ => mirrors_requireOk (mirrors_team fun _ => rfl)

theorem range_eq_firstSlots {count : Nat} (h : count ≤ kMaxPlayers) :
    List.range count = (firstSlots count).map Fin.val := by
  rw [firstSlots, List.map_take, List.map_coe_finRange_eq_range, List.take_range, Nat.min_eq_left h]

theorem forIndices_cons {σ : Type} {n : Nat} (body : Fin n → Filling ByteReader σ Unit) (i : Fin n) (is : List Nat) :
    forIndices body (i.val :: is) = body i >>= fun _ => forIndices body is := by
  rw [forIndices, dif_pos i.isLt]

theorem fills_decodeLobbySlots (is : List (Fin kMaxPlayers)) (out : MsgLobbyState) :
    Fills id (forIndices decodeLobbySlot (is.map Fin.val)) out (decodeLobbySlots is out) := by
  induction is generalizing out with
  | nil => exact fills_pure rfl
  | cons i is ih =>
    rw [List.map_cons, forIndices_cons, decodeLobbySlot, bind_assoc, decodeLobbySlots]
    exact fills_store_then fun id => fills_store_then fun name => ih _

theorem mirrors_decodeLobbyState : Mirrors id decodeLobbyState {} Protocol.decodeLobbyState := by
  refine mirrors_store fun count => mirrors_record (mirrors_require ?_ fun hRoom => ?_)
  · rw [decide_eq_true_iff]
    exact Nat.not_lt.symm
  · rw [range_eq_firstSlots (Nat.not_lt.mp hRoom)]
    exact mirrors_fills (fills_decodeLobbySlots _ _) fun out => mirrors_store fun _ => mirrors_ok rfl

theorem mirrors_decodeGameStartSlots (is : List (Fin kMaxPlayers)) (out : Protocol.MsgGameStart) :
    Mirrors MsgGameStart.raw (forIndices decodeGameStartSlot (is.map Fin.val)) out.raw (decodeGameStartSlots is out) := by
  induction is generalizing out with
  | nil => exact mirrors_done rfl
  | cons i is ih =>
    rw [List.map_cons, forIndices_cons, decodeGameStartSlot, decodeGameStartSlots]
    simp only [bind_assoc]
    refine mirrors_store fun id => mirrors_read fun teamRaw => ?_
    refine mirrors_team_then (fun hNone => by rw [hNone]) fun team hTeam => ?_
    rw [hTeam]
    refine mirrors_store fun spawn => ?_
    have hNext := ih
      { out with
        ids := Function.update out.ids i id
        teams := Function.update out.teams i team
        spawnPoints := Function.update out.spawnPoints i spawn }
    rw [MsgGameStart.raw_update] at hNext
    exact hNext

theorem mirrors_decodeGameStart : Mirrors MsgGameStart.raw decodeGameStart {} Protocol.decodeGameStart := by
  refine mirrors_store fun count => mirrors_store fun startTick => mirrors_read fun ok => mirrors_record ?_
  refine mirrors_require ?_ fun hRoom => ?_
  · rw [Bool.and_eq_true, decide_eq_true_iff, not_or, Nat.not_lt, Bool.not_eq_true', Bool.not_eq_false]
  · rw [range_eq_firstSlots (Nat.not_lt.mp (not_or.mp hRoom).2)]
    refine mirrors_bind (mirrors_decodeGameStartSlots _ { playerCount := count, startTick }) ?_ fun out => mirrors_ok rfl
    simp only [ite_self]
    rfl

theorem raw_setPlayer (snap : CaptureTheFlag.WorldSnapshot) (i : Fin kMaxPlayers) (p : CaptureTheFlag.PlayerState)
    {f : PlayerState → PlayerState} (h : f (snap.players i).raw = p.raw) :
    setPlayer i f snap.raw = { snap with players := Function.update snap.players i p }.raw := by
  have hPlayers := Function.comp_update CaptureTheFlag.PlayerState.raw snap.players i p
  simp only [setPlayer, WorldSnapshot.raw, WorldSnapshot.mk.injEq, true_and]
  rw [h]
  exact hPlayers.symm

theorem raw_unpack (flags : U8) (p : CaptureTheFlag.PlayerState) :
    unpackPlayerFlags flags p.raw = (Protocol.unpackPlayerFlags flags p).raw := by
  simp only [unpackPlayerFlags, Protocol.unpackPlayerFlags, PlayerState.raw, PlayerState.mk.injEq, true_and]
  split <;> simp

theorem setPlayer_setPlayer (i : Fin kMaxPlayers) (f g : PlayerState → PlayerState) (snap : WorldSnapshot) :
    setPlayer i g (setPlayer i f snap) = setPlayer i (fun p => g (f p)) snap := by
  simp only [setPlayer, Function.update_self, Function.update_idem]

theorem fills_decodePlayerStates (is : List (Fin kMaxPlayers)) (out : CaptureTheFlag.WorldSnapshot) :
    Fills WorldSnapshot.raw (forIndices decodePlayerState (is.map Fin.val)) out.raw (decodePlayerStates is out) := by
  induction is generalizing out with
  | nil => exact fills_pure rfl
  | cons i is ih =>
    rw [List.map_cons, forIndices_cons, decodePlayerState, decodePlayerStates, Protocol.decodePlayerState]
    simp only [bind_assoc, pure_bind]
    refine fills_store_then fun id => fills_store_then fun position => fills_write_then (fills_store_then fun aim => ?_)
    refine fills_store_then fun health => fills_store_then fun flags => ?_
    simp only [setPlayer_setPlayer]
    rw [raw_setPlayer out i _ (raw_unpack flags
      { out.players i with id, motion := { position, velocity := {} }, aimAngle := aim, health })]
    exact ih _

theorem mirrors_decodeWorldSnapshot :
    Mirrors WorldSnapshot.raw decodeWorldSnapshot {} Protocol.decodeWorldSnapshot := by
  -- The record is a literal after each step, or its projections would pile up.
  refine mirrors_store fun seq => ?_
  dsimp only
  refine mirrors_store fun tick => ?_
  dsimp only
  refine mirrors_store fun count => ?_
  dsimp only
  refine mirrors_store fun carrierRed => ?_
  dsimp only
  refine mirrors_store fun carrierBlue => mirrors_read fun redRaw => mirrors_read fun blueRaw => ?_
  dsimp only
  refine mirrors_store fun scoreRed => ?_
  dsimp only
  refine mirrors_store fun scoreBlue => ?_
  dsimp only
  refine mirrors_store fun seconds => ?_
  dsimp only
  refine mirrors_read fun ok => mirrors_record (mirrors_require ?_ fun hRoom => ?_)
  · rw [Bool.and_eq_true, decide_eq_true_iff, not_or, Nat.not_lt, Bool.not_eq_true', Bool.not_eq_false]
  · dsimp only at hRoom ⊢
    rw [range_eq_firstSlots (Nat.not_lt.mp (not_or.mp hRoom).2)]
    refine mirrors_flagState_then (fun hNone => by rw [hNone]) fun red hRed => ?_
    dsimp only
    refine mirrors_flagState_then (fun hNone => by rw [hRed, hNone]) fun blue hBlue => ?_
    dsimp only
    rw [hRed, hBlue]
    have hSlots := fills_decodePlayerStates (firstSlots count.toNat)
      { lastInputSeq := seq, tick, playerCount := count, flagCarrierRed := carrierRed, flagCarrierBlue := carrierBlue,
        flagStateRed := red, flagStateBlue := blue, scoreRed, scoreBlue, secondsRemaining := seconds }
    exact mirrors_fills hSlots fun out => mirrors_ok rfl

theorem fills_decodeDeltaScores (mask : U8) (out : CaptureTheFlag.WorldSnapshot) :
    Fills WorldSnapshot.raw (decodeDeltaScores mask) out.raw (Protocol.decodeDeltaScores mask out) := by
  unfold decodeDeltaScores Protocol.decodeDeltaScores
  refine fills_when_then (by rfl) (fills_store (by intro; rfl)) fun out => ?_
  refine fills_when_then (by rfl) (fills_store (by intro; rfl)) fun out => ?_
  exact fills_when (by rfl) (fills_store (by intro; rfl))

theorem mirrors_decodeDeltaFlagRed (mask : U8) (out : CaptureTheFlag.WorldSnapshot) :
    Mirrors WorldSnapshot.raw (decodeDeltaFlagRed mask) out.raw (Protocol.decodeDeltaFlagRed mask out) :=
  mirrors_when rfl (mirrors_read fun _ => mirrors_store fun _ => mirrors_requireOk (mirrors_flagState fun _ => rfl))

theorem mirrors_decodeDeltaFlagBlue (mask : U8) (out : CaptureTheFlag.WorldSnapshot) :
    Mirrors WorldSnapshot.raw (decodeDeltaFlagBlue mask) out.raw (Protocol.decodeDeltaFlagBlue mask out) :=
  mirrors_when rfl (mirrors_read fun _ => mirrors_store fun _ => mirrors_requireOk (mirrors_flagState fun _ => rfl))

theorem mirrors_decodeDeltaCount (mask : U8) (out : CaptureTheFlag.WorldSnapshot) :
    Mirrors WorldSnapshot.raw (decodeDeltaCount mask) out.raw (Protocol.decodeDeltaCount mask out) := by
  refine mirrors_when rfl (mirrors_store fun count => mirrors_read fun ok => mirrors_record ?_)
  exact mirrors_require_last (by
    rw [Bool.and_eq_true, decide_eq_true_iff, not_or, Nat.not_lt, Bool.not_eq_true', Bool.not_eq_false]) rfl

/-- The record with one player written out. -/
def withPlayer (snap : WorldSnapshot) (i : Fin kMaxPlayers) (p : CaptureTheFlag.PlayerState) : WorldSnapshot :=
  setPlayer i (fun _ => p.raw) snap

theorem setPlayer_withPlayer (snap : WorldSnapshot) (i : Fin kMaxPlayers) {f : PlayerState → PlayerState}
    {p q : CaptureTheFlag.PlayerState} (h : f p.raw = q.raw) :
    setPlayer i f (withPlayer snap i p) = withPlayer snap i q := by
  rw [withPlayer, setPlayer_setPlayer, h, withPlayer]

theorem fills_decodeDeltaFields (snap : WorldSnapshot) (i : Fin kMaxPlayers) (fm : U8)
    (p : CaptureTheFlag.PlayerState) :
    Fills (withPlayer snap i) (decodeDeltaFields fm i) (withPlayer snap i p) (Protocol.decodeDeltaFields fm p) := by
  unfold decodeDeltaFields Protocol.decodeDeltaFields
  refine fills_when_then (by rfl) (fills_store fun _ => setPlayer_withPlayer snap i (by rfl)) fun p => ?_
  refine fills_when_then (by rfl) (fills_store fun _ => setPlayer_withPlayer snap i (by rfl)) fun p => ?_
  refine fills_when_then (by rfl) (fills_store fun _ => setPlayer_withPlayer snap i (by rfl)) fun p => ?_
  exact fills_when (by rfl) (fills_store fun flags => setPlayer_withPlayer snap i (raw_unpack flags p))

theorem withPlayer_raw (snap : CaptureTheFlag.WorldSnapshot) (i : Fin kMaxPlayers) (p : CaptureTheFlag.PlayerState) :
    withPlayer snap.raw i p = { snap with players := Function.update snap.players i p }.raw :=
  raw_setPlayer snap i p rfl

theorem mirrors_decodeDeltaPlayers (pchange : U16) (is : List (Fin kMaxPlayers)) (out : CaptureTheFlag.WorldSnapshot) :
    Mirrors WorldSnapshot.raw (forIndices (decodeDeltaPlayer pchange) (is.map Fin.val)) out.raw
      (decodeDeltaPlayers pchange is out) := by
  induction is generalizing out with
  | nil => exact mirrors_done rfl
  | cons i is ih =>
    rw [List.map_cons, forIndices_cons, decodeDeltaPlayer, decodeDeltaPlayers]
    refine mirrors_when_then ?_ (ih out)
    simp only [bind_assoc]
    refine mirrors_store fun id => mirrors_read fun fm => mirrors_requireOk (mirrors_require ?_ fun _ => ?_)
    · rw [decide_eq_true_iff, not_not]
    have hId : setPlayer i (fun p => { p with id }) out.raw = withPlayer out.raw i { out.players i with id } := rfl
    rw [hId]
    refine mirrors_fills (fills_decodeDeltaFields out.raw i fm _) fun p => mirrors_requireOk ?_
    rw [withPlayer_raw]
    exact ih _

theorem mirrors_decodeDeltaBody (mask : U8) (currentTick : U32) (out : CaptureTheFlag.WorldSnapshot) :
    Mirrors WorldSnapshot.raw (decodeDeltaBody mask currentTick) out.raw
      (Protocol.decodeDeltaBody mask currentTick out) := by
  refine mirrors_fills (fills_decodeDeltaScores mask out) fun out => ?_
  refine mirrors_bind (mirrors_decodeDeltaFlagRed mask out) rfl fun out => ?_
  refine mirrors_bind (mirrors_decodeDeltaFlagBlue mask out) rfl fun out => ?_
  refine mirrors_bind (mirrors_decodeDeltaCount mask out) rfl fun out => ?_
  refine mirrors_read fun pchange => mirrors_requireOk (mirrors_require ?_ fun _ => ?_)
  · rw [decide_eq_true_iff, ge_iff_le, Nat.not_le]
  rw [← List.map_coe_finRange_eq_range]
  refine mirrors_bind (mirrors_decodeDeltaPlayers pchange _ out) rfl fun out => ?_
  exact fun r => rfl

theorem mirrors_decodeDeltaSnapshot (currentTick : U32) (cache : CaptureTheFlag.WorldSnapshot) :
    Mirrors WorldSnapshot.raw (decodeDeltaSnapshot currentTick) cache.raw
      (Protocol.decodeDeltaSnapshot currentTick cache) := by
  refine mirrors_onCopy (mirrors_record (mirrors_store fun seq => mirrors_read fun ago => mirrors_read fun mask => ?_))
  refine mirrors_requireOk (mirrors_require ?_ fun _ => mirrors_require ?_ fun _ => mirrors_require ?_ fun _ => ?_)
  · rw [decide_eq_true_iff, not_not]
  · rw [decide_eq_true_iff, gt_iff_lt, Nat.not_lt]
  · rw [decide_eq_true_iff, not_not]
    rfl
  · exact mirrors_decodeDeltaBody mask currentTick { cache with lastInputSeq := seq }

end Raw
end CaptureTheFlag
