import CaptureTheFlag.Shared.DeltaSnapshot
import CaptureTheFlag.Library.StateRel

/-! # Whether a delta decodes depends on the cached tick alone

Two decoders that start from different caches read the same bytes and succeed or fail together.
-/
namespace CaptureTheFlag.Protocol
set_option autoImplicit false

/-- Both decoders succeed, or both fail. -/
abbrev BothOrNone {α β : Type} : Option α → Option β → Prop := Option.Rel fun _ _ => True

theorem field_blind {α β : Type} {c : Prop} {_ : Decidable c} {x : Decoder β} {f g : β → α} {a b : α} :
    StateRel (fun _ _ => True) (if c then (do return f (← x)) else pure a) (if c then (do return g (← x)) else pure b) :=
  .ite (.andThen x fun _ => .pure trivial) (.pure trivial)

theorem field_then_blind {α β γ δ : Type} {R : γ → δ → Prop} {c : Prop} {_ : Decidable c} {x : Decoder β} {f g : β → α}
    {a b : α} {k : α → Decoder γ} {l : α → Decoder δ} (h : ∀ a b, StateRel R (k a) (l b)) :
    StateRel R (if c then (do let out ← (do return f (← x)); k out) else (do let out ← pure a; k out))
      (if c then (do let out ← (do return g (← x)); l out) else (do let out ← pure b; l out)) := by
  refine .ite ?_ (h a b)
  exact .bind (R := fun _ _ => True) (.andThen x fun _ => .pure trivial) fun a b _ => h a b

theorem decodeDeltaScores_blind (mask : U8) (a b : WorldSnapshot) :
    StateRel (fun _ _ => True) (decodeDeltaScores mask a) (decodeDeltaScores mask b) := by
  unfold decodeDeltaScores
  exact field_then_blind fun a b => field_then_blind fun a b => field_blind

/-- What is done with the state and the carrier of a flag does not matter. -/
theorem flag_blind {c : Prop} {_ : Decidable c} {f g : FlagState → U8 → WorldSnapshot} {a b : WorldSnapshot} :
    StateRel BothOrNone
      (if c then (do
        let stateRaw ← ByteReader.u8
        let carrier ← ByteReader.u8
        if !(← ByteReader.ok) then return none
        return (decodeFlagState stateRaw).map fun state => f state carrier) else pure (some a))
      (if c then (do
        let stateRaw ← ByteReader.u8
        let carrier ← ByteReader.u8
        if !(← ByteReader.ok) then return none
        return (decodeFlagState stateRaw).map fun state => g state carrier) else pure (some b)) := by
  refine .ite ?_ (.pure (.some trivial))
  refine .andThen _ fun stateRaw => .andThen _ fun carrier => .andThen _ fun ok => ?_
  refine .ite (.pure .none) (.pure ?_)
  cases decodeFlagState stateRaw with
  | none => exact .none
  | some state => exact .some trivial

theorem decodeDeltaFlagRed_blind (mask : U8) (a b : WorldSnapshot) :
    StateRel BothOrNone (decodeDeltaFlagRed mask a) (decodeDeltaFlagRed mask b) := by
  unfold decodeDeltaFlagRed
  exact flag_blind

theorem decodeDeltaFlagBlue_blind (mask : U8) (a b : WorldSnapshot) :
    StateRel BothOrNone (decodeDeltaFlagBlue mask a) (decodeDeltaFlagBlue mask b) := by
  unfold decodeDeltaFlagBlue
  exact flag_blind

theorem decodeDeltaCount_blind (mask : U8) (a b : WorldSnapshot) :
    StateRel BothOrNone (decodeDeltaCount mask a) (decodeDeltaCount mask b) := by
  refine .ite ?_ (.pure (.some trivial))
  refine .andThen _ fun count => .andThen _ fun ok => ?_
  exact .ite (.pure .none) (.pure (.some trivial))

theorem decodeDeltaFields_blind (fm : U8) (p q : PlayerState) :
    StateRel (fun _ _ => True) (decodeDeltaFields fm p) (decodeDeltaFields fm q) := by
  unfold decodeDeltaFields
  exact field_then_blind fun p q => field_then_blind fun p q => field_then_blind fun p q => field_blind

theorem decodeDeltaPlayers_blind (pchange : U16) (slots : List (Fin kMaxPlayers)) (a b : WorldSnapshot) :
    StateRel BothOrNone (decodeDeltaPlayers pchange slots a) (decodeDeltaPlayers pchange slots b) := by
  induction slots generalizing a b with
  | nil => exact .pure (.some trivial)
  | cons i slots ih =>
    refine .ite ?_ (ih a b)
    refine .andThen _ fun id => .andThen _ fun fm => .andThen _ fun ok => ?_
    refine .ite (.pure .none) (.ite (.pure .none) ?_)
    refine .bind (decodeDeltaFields_blind fm _ _) fun p q _ => .andThen _ fun ok => ?_
    exact .ite (.pure .none) (ih _ _)

/-- The results, where there are any, are stamped with the header's tick. -/
abbrev BothStamped (tick : U32) : Option WorldSnapshot → Option WorldSnapshot → Prop :=
  Option.Rel fun a b => a.tick = tick ∧ b.tick = tick

theorem decodeDeltaBody_blind (mask : U8) (tick : U32) (a b : WorldSnapshot) :
    StateRel (BothStamped tick) (decodeDeltaBody mask tick a) (decodeDeltaBody mask tick b) := by
  refine .bind (decodeDeltaScores_blind mask a b) fun a b _ => .bind (decodeDeltaFlagRed_blind mask a b) ?_
  rintro _ _ (@⟨a, b, -⟩ | -)
  · refine .bind (decodeDeltaFlagBlue_blind mask a b) ?_
    rintro _ _ (@⟨a, b, -⟩ | -)
    · refine .bind (decodeDeltaCount_blind mask a b) ?_
      rintro _ _ (@⟨a, b, -⟩ | -)
      · refine .andThen _ fun pchange => .andThen _ fun ok => .ite (.pure .none) (.ite (.pure .none) ?_)
        refine .bind (decodeDeltaPlayers_blind pchange _ a b) ?_
        rintro _ _ (@⟨a, b, -⟩ | -)
        · exact .pure (.some ⟨rfl, rfl⟩)
        · exact .pure .none
      · exact .pure .none
    · exact .pure .none
  · exact .pure .none

theorem decodeDeltaSnapshot_blind (tick : U32) {cache cache' : WorldSnapshot} (hTick : cache.tick = cache'.tick) :
    StateRel (BothStamped tick) (decodeDeltaSnapshot tick cache) (decodeDeltaSnapshot tick cache') := by
  refine .andThen _ fun seq => .andThen _ fun ago => .andThen _ fun mask => .andThen _ fun ok => ?_
  rw [hTick]
  refine .ite (.pure .none) (.ite (.pure .none) (.ite (.pure .none) (.ite (.pure .none) ?_)))
  exact decodeDeltaBody_blind mask tick _ _

end CaptureTheFlag.Protocol
