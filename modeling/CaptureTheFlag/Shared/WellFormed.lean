import CaptureTheFlag.Shared.InPlace

/-! # What a decoder accepts is well formed

The enumeration bytes are checked before they are stored, so they are enumerators at every moment. The count is stored
first and checked afterwards; the loops over the slots come after the check.
-/
namespace CaptureTheFlag.Raw
set_option autoImplicit false
open Protocol Filling

def IsTeam (raw : U8) : Prop := ∃ team : Team, raw = teamByte team

def IsFlagState (raw : U8) : Prop := ∃ state : FlagState, raw = flagStateByte state

theorem isTeam_of_le {raw : U8} (h : raw.toNat ≤ (teamByte .blue).toNat) : IsTeam raw := by
  rcases decodeTeam_cases raw with ⟨-, team, -, hTeam⟩ | ⟨hGt, -⟩
  · exact ⟨team, hTeam⟩
  · exact absurd h hGt

theorem isFlagState_of_le {raw : U8} (h : raw.toNat ≤ (flagStateByte .dropped).toNat) : IsFlagState raw := by
  rcases decodeFlagState_cases raw with ⟨-, state, -, hState⟩ | ⟨hGt, -⟩
  · exact ⟨state, hState⟩
  · exact absurd h hGt

section steps

variable {σ : Type} {I : σ → Prop}

theorem sat_requireOk : Sat I (requireOk : Filling ByteReader σ Unit) (fun _ => I) :=
  sat_read fun _ => sat_require_last fun _ _ hI => hI

theorem sat_decodeTeam {raw : U8} {put : U8 → σ → σ} (h : ∀ team x, IsTeam team → I x → I (put team x)) :
    Sat I (decodeTeam raw put) (fun _ => I) :=
  sat_require fun hLe => sat_write fun x hI => h raw x (isTeam_of_le (of_decide_eq_true hLe)) hI

theorem sat_decodeFlagState {raw : U8} {put : U8 → σ → σ} (h : ∀ state x, IsFlagState state → I x → I (put state x)) :
    Sat I (decodeFlagState raw put) (fun _ => I) :=
  sat_require fun hLe => sat_write fun x hI => h raw x (isFlagState_of_le (of_decide_eq_true hLe)) hI

end steps

def LobbyWellFormed (msg : MsgLobbyState) : Prop := msg.playerCount.toNat ≤ kMaxPlayers

theorem range_inside {count : U8} (h : count.toNat ≤ kMaxPlayers) : ∀ i ∈ List.range count.toNat, i < kMaxPlayers := by
  intro i hMem
  exact Nat.lt_of_lt_of_le (List.mem_range.mp hMem) h

theorem sat_decodeLobbyState : Sat (fun _ => True) decodeLobbyState (fun _ => LobbyWellFormed) := by
  refine sat_bind (sat_store fun _ _ _ => trivial) fun _ => sat_record fun out => sat_require fun hCount => ?_
  have hRoom : out.playerCount.toNat ≤ kMaxPlayers := of_decide_eq_true hCount
  refine sat_pre LobbyWellFormed (fun x hx => by rw [hx.1]; exact hRoom) ?_
  refine sat_bind (sat_forIndices (fun i => ?_) (range_inside hRoom)) fun _ => ?_
  · exact sat_bind (sat_store fun _ _ h => h) fun _ => sat_store fun _ _ h => h
  · exact sat_bind (sat_store fun _ _ h => h) fun _ => sat_requireOk

def MsgGameStart.Teams (msg : MsgGameStart) : Prop := ∀ i, IsTeam (msg.teams i)

def MsgGameStart.WellFormed (msg : MsgGameStart) : Prop := msg.playerCount.toNat ≤ kMaxPlayers ∧ msg.Teams

theorem sat_decodeGameStartSlot (i : Fin kMaxPlayers) :
    Sat MsgGameStart.WellFormed (decodeGameStartSlot i) (fun _ => MsgGameStart.WellFormed) := by
  refine sat_bind (sat_store fun _ _ h => h) fun _ => sat_read fun raw => ?_
  refine sat_bind (sat_decodeTeam fun team x hTeam h => ⟨h.1, fun j => ?_⟩) fun _ => sat_store fun _ _ h => h
  by_cases hj : j = i
  · subst hj
    simpa only [Function.update_self] using hTeam
  · simpa only [Function.update_of_ne hj] using h.2 j

theorem sat_decodeGameStart : Sat MsgGameStart.Teams decodeGameStart (fun _ => MsgGameStart.WellFormed) := by
  refine sat_bind (sat_store fun _ _ h => h) fun _ => sat_bind (sat_store fun _ _ h => h) fun _ => ?_
  refine sat_read fun ok => sat_record fun out => sat_require fun hCount => ?_
  have hRoom : out.playerCount.toNat ≤ kMaxPlayers := of_decide_eq_true (Bool.and_eq_true_iff.mp hCount).2
  refine sat_pre MsgGameStart.WellFormed (fun x hx => ⟨by rw [hx.1]; exact hRoom, hx.2⟩) ?_
  exact sat_bind (sat_forIndices sat_decodeGameStartSlot (range_inside hRoom)) fun _ => sat_requireOk

theorem sat_decodePlayerKilled : Sat (fun _ => True) decodePlayerKilled (fun _ _ => True) :=
  sat_bind (sat_store fun _ _ h => h) fun _ => sat_bind (sat_store fun _ _ h => h) fun _ =>
    sat_bind (sat_store fun _ _ h => h) fun _ => sat_requireOk

theorem sat_decodePlayerRespawned : Sat (fun _ => True) decodePlayerRespawned (fun _ _ => True) :=
  sat_bind (sat_store fun _ _ h => h) fun _ => sat_bind (sat_store fun _ _ h => h) fun _ =>
    sat_bind (sat_store fun _ _ h => h) fun _ => sat_requireOk

theorem sat_decodeShotFired : Sat (fun _ => True) decodeShotFired (fun _ _ => True) :=
  sat_bind (sat_store fun _ _ h => h) fun _ => sat_bind (sat_store fun _ _ h => h) fun _ =>
    sat_bind (sat_store fun _ _ h => h) fun _ => sat_bind (sat_store fun _ _ h => h) fun _ => sat_requireOk

def MsgFlagTouched.WellFormed (msg : MsgFlagTouched) : Prop := IsTeam msg.flagTeam

theorem sat_decodeFlagTouched : Sat MsgFlagTouched.WellFormed decodeFlagTouched (fun _ => MsgFlagTouched.WellFormed) :=
  sat_read fun _ => sat_bind (sat_store fun _ _ h => h) fun _ => sat_bind (sat_store fun _ _ h => h) fun _ =>
    sat_bind sat_requireOk fun _ => sat_decodeTeam fun _ _ hTeam _ => hTeam

def MsgFlagDropped.WellFormed (msg : MsgFlagDropped) : Prop := IsTeam msg.flagTeam

theorem sat_decodeFlagDropped : Sat MsgFlagDropped.WellFormed decodeFlagDropped (fun _ => MsgFlagDropped.WellFormed) :=
  sat_read fun _ => sat_bind (sat_store fun _ _ h => h) fun _ => sat_bind (sat_store fun _ _ h => h) fun _ =>
    sat_bind sat_requireOk fun _ => sat_decodeTeam fun _ _ hTeam _ => hTeam

def MsgMatchEnd.WellFormed (msg : MsgMatchEnd) : Prop := IsTeam msg.winningTeam

theorem sat_decodeMatchEnd : Sat MsgMatchEnd.WellFormed decodeMatchEnd (fun _ => MsgMatchEnd.WellFormed) :=
  sat_read fun _ => sat_bind (sat_store fun _ _ h => h) fun _ => sat_bind (sat_store fun _ _ h => h) fun _ =>
    sat_bind sat_requireOk fun _ => sat_decodeTeam fun _ _ hTeam _ => hTeam

namespace WorldSnapshot

/-- Every enumeration byte is an enumerator, also in the slots past the count. -/
def Enums (snap : WorldSnapshot) : Prop :=
  IsFlagState snap.flagStateRed ∧ IsFlagState snap.flagStateBlue ∧ ∀ i, IsTeam (snap.players i).team

def WellFormed (snap : WorldSnapshot) : Prop := snap.playerCount.toNat ≤ kMaxPlayers ∧ snap.Enums

theorem WellFormed.setPlayer {snap : WorldSnapshot} (h : snap.WellFormed) (i : Fin kMaxPlayers)
    {f : PlayerState → PlayerState} (hf : ∀ p, IsTeam p.team → IsTeam (f p).team) :
    (Raw.setPlayer i f snap).WellFormed := by
  obtain ⟨hCount, hRed, hBlue, hTeams⟩ := h
  refine ⟨hCount, hRed, hBlue, fun j => ?_⟩
  by_cases hj : j = i
  · subst hj
    simpa only [Raw.setPlayer, Function.update_self] using hf _ (hTeams j)
  · simpa only [Raw.setPlayer, Function.update_of_ne hj] using hTeams j

end WorldSnapshot

open Raw.WorldSnapshot

theorem isTeam_unpack (flags : U8) (p : PlayerState) : IsTeam (unpackPlayerFlags flags p).team := by
  simp only [unpackPlayerFlags]
  split
  · exact ⟨.blue, rfl⟩
  · exact ⟨.red, rfl⟩

theorem sat_storePlayer {α : Type} {d : Decoder α} (i : Fin kMaxPlayers) {put : α → PlayerState → PlayerState}
    (h : ∀ a p, IsTeam p.team → IsTeam (put a p).team) :
    Sat WellFormed (store d fun a => setPlayer i (put a)) (fun _ => WellFormed) :=
  sat_store fun a _ hx => hx.setPlayer i (h a)

theorem sat_decodePlayerState (i : Fin kMaxPlayers) :
    Sat WellFormed (decodePlayerState i) (fun _ => WellFormed) := by
  refine sat_bind (sat_storePlayer i fun _ _ h => h) fun _ => sat_bind (sat_storePlayer i fun _ _ h => h) fun _ => ?_
  refine sat_bind (sat_write (Q := fun _ => WellFormed) fun _ hx => hx.setPlayer i fun _ h => h) fun _ => ?_
  refine sat_bind (sat_storePlayer i fun _ _ h => h) fun _ => sat_bind (sat_storePlayer i fun _ _ h => h) fun _ => ?_
  exact sat_storePlayer i fun flags p _ => isTeam_unpack flags p

theorem sat_decodeWorldSnapshot : Sat Enums decodeWorldSnapshot (fun _ => WellFormed) := by
  refine sat_bind (sat_store fun _ _ h => h) fun _ => sat_bind (sat_store fun _ _ h => h) fun _ => ?_
  refine sat_bind (sat_store fun _ _ h => h) fun _ => sat_bind (sat_store fun _ _ h => h) fun _ => ?_
  refine sat_bind (sat_store fun _ _ h => h) fun _ => sat_read fun redRaw => sat_read fun blueRaw => ?_
  refine sat_bind (sat_store fun _ _ h => h) fun _ => sat_bind (sat_store fun _ _ h => h) fun _ => ?_
  refine sat_bind (sat_store fun _ _ h => h) fun _ => sat_read fun ok => sat_record fun out => ?_
  refine sat_require fun hCount => ?_
  have hRoom : out.playerCount.toNat ≤ kMaxPlayers := of_decide_eq_true (Bool.and_eq_true_iff.mp hCount).2
  refine sat_pre WellFormed (fun x hx => ⟨by rw [hx.1]; exact hRoom, hx.2⟩) ?_
  refine sat_bind (sat_decodeFlagState fun _ _ hState hx => ⟨hx.1, hState, hx.2.2⟩) fun _ => ?_
  refine sat_bind (sat_decodeFlagState fun _ _ hState hx => ⟨hx.1, hx.2.1, hState, hx.2.2.2⟩) fun _ => ?_
  exact sat_bind (sat_forIndices sat_decodePlayerState (range_inside hRoom)) fun _ => sat_requireOk

theorem sat_decodeDeltaScores (mask : U8) : Sat WellFormed (decodeDeltaScores mask) (fun _ => WellFormed) :=
  sat_bind (sat_when fun _ => sat_store fun _ _ h => h) fun _ =>
    sat_bind (sat_when fun _ => sat_store fun _ _ h => h) fun _ => sat_when fun _ => sat_store fun _ _ h => h

theorem sat_decodeDeltaFlagRed (mask : U8) : Sat WellFormed (decodeDeltaFlagRed mask) (fun _ => WellFormed) :=
  sat_when fun _ => sat_read fun _ => sat_bind (sat_store fun _ _ h => h) fun _ => sat_bind sat_requireOk fun _ =>
    sat_decodeFlagState fun _ _ hState hx => ⟨hx.1, hState, hx.2.2⟩

theorem sat_decodeDeltaFlagBlue (mask : U8) : Sat WellFormed (decodeDeltaFlagBlue mask) (fun _ => WellFormed) :=
  sat_when fun _ => sat_read fun _ => sat_bind (sat_store fun _ _ h => h) fun _ => sat_bind sat_requireOk fun _ =>
    sat_decodeFlagState fun _ _ hState hx => ⟨hx.1, hx.2.1, hState, hx.2.2.2⟩

/-- The count of the copy is out of range for a moment. -/
theorem sat_decodeDeltaCount (mask : U8) : Sat WellFormed (decodeDeltaCount mask) (fun _ => WellFormed) := by
  refine sat_when fun _ => sat_pre Enums (fun _ hx => hx.2) ?_
  refine sat_bind (sat_store fun _ _ h => h) fun _ => sat_read fun ok => sat_record fun out => ?_
  refine sat_require_last fun hCount x hx => ⟨?_, hx.2⟩
  rw [hx.1]
  exact of_decide_eq_true (Bool.and_eq_true_iff.mp hCount).2

theorem sat_decodeDeltaFields (fm : U8) (i : Fin kMaxPlayers) :
    Sat WellFormed (decodeDeltaFields fm i) (fun _ => WellFormed) := by
  refine sat_bind (sat_when fun _ => sat_storePlayer i fun _ _ h => h) fun _ => ?_
  refine sat_bind (sat_when fun _ => sat_storePlayer i fun _ _ h => h) fun _ => ?_
  refine sat_bind (sat_when fun _ => sat_storePlayer i fun _ _ h => h) fun _ => ?_
  exact sat_when fun _ => sat_storePlayer i fun flags p _ => isTeam_unpack flags p

theorem sat_decodeDeltaPlayer (pchange : U16) (i : Fin kMaxPlayers) :
    Sat WellFormed (decodeDeltaPlayer pchange i) (fun _ => WellFormed) := by
  refine sat_when fun _ => sat_bind (sat_storePlayer i fun _ _ h => h) fun _ => sat_read fun fm => ?_
  refine sat_bind sat_requireOk fun _ => sat_require fun _ => ?_
  exact sat_bind (sat_decodeDeltaFields fm i) fun _ => sat_requireOk

theorem sat_decodeDeltaBody (mask : U8) (currentTick : U32) :
    Sat WellFormed (decodeDeltaBody mask currentTick) (fun _ => WellFormed) := by
  refine sat_bind (sat_decodeDeltaScores mask) fun _ => sat_bind (sat_decodeDeltaFlagRed mask) fun _ => ?_
  refine sat_bind (sat_decodeDeltaFlagBlue mask) fun _ => sat_bind (sat_decodeDeltaCount mask) fun _ => ?_
  refine sat_read fun pchange => sat_bind sat_requireOk fun _ => sat_require fun _ => ?_
  refine sat_bind (sat_forIndices (sat_decodeDeltaPlayer pchange) fun i hMem => List.mem_range.mp hMem) fun _ => ?_
  exact sat_write fun _ hx => hx

theorem sat_decodeDeltaSnapshot (currentTick : U32) :
    Sat WellFormed (decodeDeltaSnapshot currentTick) (fun _ => WellFormed) := by
  refine sat_onCopy (sat_record fun cache => sat_pre WellFormed (fun _ hx => hx.2) ?_)
  refine sat_bind (sat_store fun _ _ h => h) fun _ => sat_read fun ticksAgo => sat_read fun mask => ?_
  refine sat_bind sat_requireOk fun _ => sat_require fun _ => sat_require fun _ => sat_require fun _ => ?_
  exact sat_decodeDeltaBody mask currentTick

end CaptureTheFlag.Raw
