import CaptureTheFlag.Client.LerpAngle

/-! # What is drawn

`sample` answers for an absent player with a default record, which is the record of nobody except that it has the id
of the first player.
-/
namespace CaptureTheFlag
set_option autoImplicit false

namespace Interpolation

def listed (snap : WorldSnapshot) : List PlayerState :=
  (Protocol.firstSlots snap.playerCount.toNat).map snap.players

/-- The records of a player in the bracketing snapshots. -/
def recordsOf (ip : Interpolation) (playerId : U8) : List PlayerState :=
  match ip.brackets with
  | none => []
  | some (a, b) => (listed a ++ listed b).filter (·.id == playerId)

/-- The last part of `sample`. -/
def blend (arith : DoubleArithmetic) (pa pb : PlayerState) (t : Double) : PlayerState :=
  { if t.lt (arith.literal (1 / 2)) then pa else pb with
    motion :=
      { position :=
          { x := lerpI32 arith pa.motion.position.x pb.motion.position.x t
            y := lerpI32 arith pa.motion.position.y pb.motion.position.y t }
        velocity := {} }
    aimAngle := lerpAngle arith pa.aimAngle pb.aimAngle t }

/-- One of the records, or a blend of two of them somewhere between the two. -/
def BuiltFrom (arith : DoubleArithmetic) (records : List PlayerState) (out : PlayerState) : Prop :=
  ∃ pa ∈ records, ∃ pb ∈ records, out = pa ∨ ∃ t, out = blend arith pa pb (clamp t (.ofInt 0) (.ofInt 1))

theorem mem_of_findPlayer {snap : WorldSnapshot} {playerId : U8} {ps : PlayerState}
    (h : findPlayer snap playerId = some ps) : ps ∈ listed snap ∧ (ps.id == playerId) = true :=
  ⟨List.mem_of_find?_eq_some h, List.find?_some (p := fun ps : PlayerState => ps.id == playerId) h⟩

theorem not_mem_of_findPlayer {snap : WorldSnapshot} {playerId : U8} (h : findPlayer snap playerId = none)
    {ps : PlayerState} (hMem : ps ∈ listed snap) : ¬ (ps.id == playerId) = true :=
  List.find?_eq_none.mp h ps hMem

/-- What `sample` answers: the default record for an absent player, and otherwise something made of the player's
records. -/
theorem sample_cases (arith : DoubleArithmetic) (ip : Interpolation) (playerId : U8) :
    (ip.recordsOf playerId = [] ∧ ip.sample arith playerId = {}) ∨
      (ip.recordsOf playerId ≠ [] ∧ BuiltFrom arith (ip.recordsOf playerId) (ip.sample arith playerId)) := by
  rw [recordsOf, sample]
  cases ip.brackets with
  | none => exact Or.inl ⟨rfl, rfl⟩
  | some bracket =>
    obtain ⟨a, b⟩ := bracket
    dsimp only
    have hOf : ∀ {snap : WorldSnapshot} {ps : PlayerState}, (∀ ps ∈ listed snap, ps ∈ listed a ++ listed b) →
        findPlayer snap playerId = some ps → ps ∈ (listed a ++ listed b).filter (·.id == playerId) :=
      fun hSub hFound =>
        List.mem_filter.mpr ⟨hSub _ (mem_of_findPlayer hFound).1, (mem_of_findPlayer hFound).2⟩
    have hLeft : ∀ ps ∈ listed a, ps ∈ listed a ++ listed b := fun _ hMem => List.mem_append_left _ hMem
    have hRight : ∀ ps ∈ listed b, ps ∈ listed a ++ listed b := fun _ hMem => List.mem_append_right _ hMem
    cases hA : findPlayer a playerId with
    | none =>
      cases hB : findPlayer b playerId with
      | none =>
        left
        refine ⟨List.filter_eq_nil_iff.mpr ?_, rfl⟩
        intro ps hMem
        rcases List.mem_append.mp hMem with hMem | hMem
        · exact not_mem_of_findPlayer hA hMem
        · exact not_mem_of_findPlayer hB hMem
      | some pb =>
        have hPb := hOf hRight hB
        exact Or.inr ⟨List.ne_nil_of_mem hPb, pb, hPb, pb, hPb, Or.inl rfl⟩
    | some pa =>
      have hPa := hOf hLeft hA
      refine Or.inr ⟨List.ne_nil_of_mem hPa, ?_⟩
      cases hB : findPlayer b playerId with
      | none => exact ⟨pa, hPa, pa, hPa, Or.inl rfl⟩
      | some pb =>
        refine ⟨pa, hPa, pb, hOf hRight hB, Or.inr ?_⟩
        dsimp only
        split
        · exact ⟨_, rfl⟩
        · exact ⟨.ofInt 0, rfl⟩

theorem BuiltFrom.id {arith : DoubleArithmetic} {records : List PlayerState} {out : PlayerState} {playerId : U8}
    (h : BuiltFrom arith records out) (hIds : ∀ ps ∈ records, ps.id = playerId) : out.id = playerId := by
  obtain ⟨pa, hPa, pb, hPb, rfl | ⟨t, rfl⟩⟩ := h
  · exact hIds _ hPa
  · rw [blend]
    dsimp only
    split
    · exact hIds pa hPa
    · exact hIds pb hPb

theorem id_of_mem_recordsOf {ip : Interpolation} {playerId : U8} {ps : PlayerState}
    (h : ps ∈ ip.recordsOf playerId) : ps.id = playerId := by
  rw [recordsOf] at h
  split at h
  · cases h
  · exact beq_iff_eq.mp (List.mem_filter.mp h).2

end Interpolation

namespace RenderPolicy

variable (arith : DoubleArithmetic)

def resolveRemoteState (interpolationEnabled : Bool) (raw : PlayerState) (interpolation : Interpolation) :
    PlayerState :=
  if !interpolationEnabled then raw
  else
    let interp := interpolation.sample arith raw.id
    if interp.id = raw.id then interp else raw

/-- An absent player is drawn as it is, a present one from its own records. -/
structure NotInvented (raw : PlayerState) (interpolation : Interpolation) (drawn : PlayerState) : Prop where
  absent : interpolation.recordsOf raw.id = [] → drawn = raw
  present : interpolation.recordsOf raw.id ≠ [] →
    drawn.id = raw.id ∧ Interpolation.BuiltFrom arith (interpolation.recordsOf raw.id) drawn

/-- Only the first player's id is mistaken for an answer of `sample`. -/
theorem resolveRemoteState_faithful_iff (raw : PlayerState) (interpolation : Interpolation) :
    NotInvented arith raw interpolation (resolveRemoteState arith true raw interpolation) ↔
      (raw.id = 0 → interpolation.recordsOf raw.id = [] → raw = {}) := by
  have hResolve : resolveRemoteState arith true raw interpolation =
      if (interpolation.sample arith raw.id).id = raw.id then interpolation.sample arith raw.id else raw := rfl
  rw [hResolve]
  rcases interpolation.sample_cases arith raw.id with ⟨hAbsent, hSample⟩ | ⟨hPresent, hBuilt⟩
  · rw [hSample]
    by_cases hFirst : raw.id = 0
    · rw [if_pos hFirst.symm]
      constructor
      · intro h _ _
        exact (h.absent hAbsent).symm
      · intro h
        exact ⟨fun _ => (h hFirst hAbsent).symm, fun hPresent => absurd hAbsent hPresent⟩
    · rw [if_neg (fun hSame => hFirst hSame.symm)]
      exact ⟨fun _ hZero => absurd hZero hFirst, fun _ => ⟨fun _ => rfl, fun hPresent => absurd hAbsent hPresent⟩⟩
  · have hId := hBuilt.id fun ps hMem => Interpolation.id_of_mem_recordsOf hMem
    rw [if_pos hId]
    exact ⟨fun _ _ hAbsent => absurd hAbsent hPresent,
      fun _ => ⟨fun hAbsent => absurd hAbsent hPresent, fun _ => ⟨hId, hBuilt⟩⟩⟩

/-- Player 0 is in the newest snapshot and not yet in the two around the render tick. -/
def lateSnapshot (tick : U32) : WorldSnapshot :=
  { tick, playerCount := if tick = 3 then 2 else 1
    players := fun i => { id := if i.val = 0 then 1 else 0, health := 66 } }

def lateInterpolation : Interpolation :=
  Interpolation.run (.exact fun _ => 0) [.pushSnapshot (lateSnapshot 1), .pushSnapshot (lateSnapshot 2),
    .pushSnapshot (lateSnapshot 3)]

theorem first_player_invented :
    lateInterpolation.recordsOf 0 = [] ∧
      resolveRemoteState (.exact fun _ => 0) true ((lateSnapshot 3).players 1) lateInterpolation ≠
        (lateSnapshot 3).players 1 := by
  decide +kernel

end RenderPolicy
end CaptureTheFlag
