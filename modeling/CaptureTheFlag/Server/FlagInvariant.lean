import CaptureTheFlag.Server.SimPhases

/-! # Flags and their carriers

The relation between the per-player `carrying_flag` and the per-flag records. It holds after every atomic
update, not only at the end of a tick.
-/
namespace CaptureTheFlag
set_option autoImplicit false

namespace Sim

structure FlagInv (s : Sim) : Prop where
  carrier : ∀ team, (s.flags team).state = .carried → ∃ id, (s.flags team).carrierId = idByte id ∧
    (s.players id).active = true ∧ (s.players id).carryingFlag = true ∧ (s.players id).team = team.other
  carrying : ∀ id, (s.players id).active = true → (s.players id).carryingFlag = true →
    (s.players id).alive = true ∧ (s.flags (s.players id).team.other).state = .carried ∧
      (s.flags (s.players id).team.other).carrierId = idByte id
  vacant : ∀ team, (s.flags team).state ≠ .carried → (s.flags team).carrierId = kNoCarrier
  atBase : ∀ team, (s.flags team).state = .atBase → (s.flags team).position = baseOf team

structure SameRole (p q : Player) : Prop where
  active : q.active = p.active
  team : q.team = p.team
  carryingFlag : q.carryingFlag = p.carryingFlag
  alive : p.carryingFlag = true → p.alive = true → q.alive = true

theorem SameRole.refl (p : Player) : SameRole p p := ⟨rfl, rfl, rfl, fun _ h => h⟩

theorem FlagInv.congr {s s' : Sim} (h : FlagInv s) (hFlags : s'.flags = s.flags)
    (hRole : ∀ id, SameRole (s.players id) (s'.players id)) : FlagInv s' where
  carrier team hState := by
    rw [hFlags] at hState ⊢
    obtain ⟨id, hId, hActive, hCarries, hTeam⟩ := h.carrier team hState
    exact ⟨id, hId, (hRole id).active.trans hActive, (hRole id).carryingFlag.trans hCarries,
      (hRole id).team.trans hTeam⟩
  carrying id hActive hCarries := by
    rw [(hRole id).active] at hActive
    rw [(hRole id).carryingFlag] at hCarries
    obtain ⟨hAlive, hCarry⟩ := h.carrying id hActive hCarries
    rw [hFlags, (hRole id).team]
    exact ⟨(hRole id).alive hCarries hAlive, hCarry⟩
  vacant := by
    rw [hFlags]
    exact h.vacant
  atBase := by
    rw [hFlags]
    exact h.atBase

theorem FlagInv.setPlayer {s : Sim} (h : FlagInv s) (id : Fin kMaxPlayers) (p : Player)
    (hRole : SameRole (s.players id) p) : FlagInv (s.setPlayer id p) := by
  refine FlagInv.congr h ?_ ?_
  · rfl
  · intro i
    by_cases hi : i = id
    · subst hi
      simpa [Sim.setPlayer] using hRole
    · simpa [Sim.setPlayer, hi] using SameRole.refl (s.players i)

theorem FlagInv.push {s : Sim} (h : FlagInv s) (ev : OutboundEvent) : FlagInv (s.push ev) :=
  FlagInv.congr h rfl (fun _ => SameRole.refl _)

theorem FlagInv.carrier_unique {s : Sim} (h : FlagInv s) {i j : Fin kMaxPlayers}
    (hi : (s.players i).active = true) (hiCarries : (s.players i).carryingFlag = true)
    (hj : (s.players j).active = true) (hjCarries : (s.players j).carryingFlag = true)
    (hTeam : (s.players i).team = (s.players j).team) : i = j := by
  have hId := (h.carrying i hi hiCarries).2.2
  have hId' := (h.carrying j hj hjCarries).2.2
  rw [hTeam] at hId
  exact idByte_inj (hId.symm.trans hId')

/-- A flag that its carrier gives up, with the player no longer carrying: death, departure or capture. -/
theorem FlagInv.release {s s' : Sim} (h : FlagInv s) (id : Fin kMaxPlayers) (p : Player) (flag : FlagInfo)
    (hActive : (s.players id).active = true) (hCarries : (s.players id).carryingFlag = true)
    (hFree : p.carryingFlag = false) (hState : flag.state ≠ .carried) (hNone : flag.carrierId = kNoCarrier)
    (hBase : flag.state = .atBase → flag.position = baseOf (s.players id).team.other)
    (hFlags : s'.flags = Function.update s.flags (s.players id).team.other flag)
    (hPlayers : s'.players = Function.update s.players id p) : FlagInv s' where
  carrier team hCarried := by
    rw [hFlags] at hCarried ⊢
    by_cases hTeam : team = (s.players id).team.other
    · subst hTeam
      simp [hState] at hCarried
    · rw [Function.update_of_ne hTeam] at hCarried ⊢
      obtain ⟨i, hId, hi, hiCarries, hiTeam⟩ := h.carrier team hCarried
      -- The carrier of the other flag is another player, since the teams differ.
      have hne : i ≠ id := by
        rintro rfl
        exact hTeam (by rw [hiTeam, Team.other_other])
      exact ⟨i, hId, by rw [hPlayers, Function.update_of_ne hne]; exact ⟨hi, hiCarries, hiTeam⟩⟩
  carrying i hi hiCarries := by
    rw [hPlayers] at hi hiCarries ⊢
    by_cases hEq : i = id
    · subst hEq
      simp [hFree] at hiCarries
    · rw [Function.update_of_ne hEq] at hi hiCarries ⊢
      have hTeam : (s.players i).team.other ≠ (s.players id).team.other := by
        intro hSame
        have hSame : (s.players i).team = (s.players id).team := by
          rw [← Team.other_other (s.players i).team, hSame, Team.other_other]
        exact hEq (h.carrier_unique hi hiCarries hActive hCarries hSame)
      rw [hFlags, Function.update_of_ne hTeam]
      exact h.carrying i hi hiCarries
  vacant team hFreeFlag := by
    rw [hFlags] at hFreeFlag ⊢
    by_cases hTeam : team = (s.players id).team.other
    · subst hTeam
      simpa using hNone
    · rw [Function.update_of_ne hTeam] at hFreeFlag ⊢
      exact h.vacant team hFreeFlag
  atBase team hAt := by
    rw [hFlags] at hAt ⊢
    by_cases hTeam : team = (s.players id).team.other
    · subst hTeam
      simp only [Function.update_self] at hAt ⊢
      exact hBase hAt
    · rw [Function.update_of_ne hTeam] at hAt ⊢
      exact h.atBase team hAt

theorem FlagInv.setFlag {s : Sim} (h : FlagInv s) (team : Team) (flag : FlagInfo)
    (hBefore : (s.flags team).state ≠ .carried) (hAfter : flag.state ≠ .carried)
    (hNone : flag.carrierId = kNoCarrier) (hBase : flag.state = .atBase → flag.position = baseOf team) :
    FlagInv (s.setFlag team flag) where
  carrier t hCarried := by
    by_cases ht : t = team
    · subst ht
      simp [Sim.setFlag, hAfter] at hCarried
    · simp only [Sim.setFlag, Function.update_of_ne ht] at hCarried ⊢
      exact h.carrier t hCarried
  carrying i hi hiCarries := by
    have hCarry := h.carrying i hi hiCarries
    have ht : (s.players i).team.other ≠ team := fun ht => hBefore (ht ▸ hCarry.2.1)
    simpa only [Sim.setFlag, Function.update_of_ne ht] using hCarry
  vacant t hFree := by
    by_cases ht : t = team
    · subst ht
      simpa [Sim.setFlag] using hNone
    · simp only [Sim.setFlag, Function.update_of_ne ht] at hFree ⊢
      exact h.vacant t hFree
  atBase t hAt := by
    by_cases ht : t = team
    · subst ht
      simp only [Sim.setFlag, Function.update_self] at hAt ⊢
      exact hBase hAt
    · simp only [Sim.setFlag, Function.update_of_ne ht] at hAt ⊢
      exact h.atBase t hAt

theorem FlagInv.follow {s : Sim} (h : FlagInv s) (team : Team) (position : Vec2Fixed)
    (hCarried : (s.flags team).state = .carried) :
    FlagInv (s.setFlag team { s.flags team with position }) where
  carrier t ht := by
    by_cases hEq : t = team
    · subst hEq
      simpa [Sim.setFlag] using h.carrier t hCarried
    · simp only [Sim.setFlag, Function.update_of_ne hEq] at ht ⊢
      exact h.carrier t ht
  carrying i hi hiCarries := by
    have hCarry := h.carrying i hi hiCarries
    by_cases hEq : (s.players i).team.other = team
    · subst hEq
      simpa [Sim.setFlag] using hCarry
    · simpa only [Sim.setFlag, Function.update_of_ne hEq] using hCarry
  vacant t ht := by
    by_cases hEq : t = team
    · subst hEq
      simp [Sim.setFlag, hCarried] at ht
    · simp only [Sim.setFlag, Function.update_of_ne hEq] at ht ⊢
      exact h.vacant t ht
  atBase t ht := by
    by_cases hEq : t = team
    · subst hEq
      simp [Sim.setFlag, hCarried] at ht
    · simp only [Sim.setFlag, Function.update_of_ne hEq] at ht ⊢
      exact h.atBase t ht

theorem FlagInv.pickUp {s : Sim} (h : FlagInv s) (id : Fin kMaxPlayers) (hLive : s.Living id)
    (hFree : (s.players id).carryingFlag = false)
    (hState : (s.flags (s.players id).team.other).state ≠ .carried) :
    FlagInv ((s.setFlag (s.players id).team.other
      { s.flags (s.players id).team.other with state := .carried, carrierId := idByte id }).setPlayer id
        { s.players id with carryingFlag := true }) where
  carrier t ht := by
    by_cases hEq : t = (s.players id).team.other
    · subst hEq
      exact ⟨id, by simp [Sim.setPlayer, Sim.setFlag, hLive.1]⟩
    · simp only [Sim.setPlayer, Sim.setFlag, Function.update_of_ne hEq] at ht ⊢
      obtain ⟨i, hId, hi, hiCarries, hiTeam⟩ := h.carrier t ht
      have hne : i ≠ id := by
        rintro rfl
        rw [hFree] at hiCarries
        cases hiCarries
      exact ⟨i, hId, by rw [Function.update_of_ne hne]; exact ⟨hi, hiCarries, hiTeam⟩⟩
  carrying i hi hiCarries := by
    by_cases hEq : i = id
    · subst hEq
      simp [Sim.setPlayer, Sim.setFlag, hLive.2]
    · simp only [Sim.setPlayer, Sim.setFlag, Function.update_of_ne hEq] at hi hiCarries ⊢
      have hCarry := h.carrying i hi hiCarries
      have hTeam : (s.players i).team.other ≠ (s.players id).team.other := fun hSame => hState (hSame ▸ hCarry.2.1)
      simpa only [Function.update_of_ne hTeam] using hCarry
  vacant t ht := by
    by_cases hEq : t = (s.players id).team.other
    · subst hEq
      simp [Sim.setPlayer, Sim.setFlag] at ht
    · simp only [Sim.setPlayer, Sim.setFlag, Function.update_of_ne hEq] at ht ⊢
      exact h.vacant t ht
  atBase t ht := by
    by_cases hEq : t = (s.players id).team.other
    · subst hEq
      simp [Sim.setPlayer, Sim.setFlag] at ht
    · simp only [Sim.setPlayer, Sim.setFlag, Function.update_of_ne hEq] at ht ⊢
      exact h.atBase t ht

theorem FlagInv.combat {s s' : Sim} (hChange : CombatChange True s s') (h : FlagInv s) : FlagInv s' := by
  cases hChange with
  | cool id hLive => exact h.setPlayer id _ ⟨rfl, rfl, rfl, fun _ hAlive => hAlive⟩
  | shoot id msg hLive => exact (h.push _).setPlayer id _ ⟨rfl, rfl, rfl, fun _ hAlive => hAlive⟩
  | wound id health hLive => exact h.setPlayer id _ ⟨rfl, rfl, rfl, fun _ hAlive => hAlive⟩
  | kill id msg hLive hFree =>
    have hRole : SameRole (s.players id) (dead (s.players id)) :=
      ⟨rfl, rfl, rfl, fun hCarries => absurd hCarries (by simp [hFree])⟩
    exact (h.setPlayer id _ hRole).push _
  | killCarrier id drop msg _ hLive hCarries =>
    refine FlagInv.push ?_ _
    exact h.release id { dead (s.players id) with carryingFlag := false } _ hLive.1 hCarries rfl (by simp) rfl
      (by simp) rfl rfl

theorem FlagInv.flags {s s' : Sim} (hChange : FlagChange s s') (h : FlagInv s) : FlagInv s' := by
  cases hChange with
  | follow team position hCarried => exact h.follow team position hCarried
  | flagReturn team playerId hDropped =>
    exact (h.setFlag team _ (by simp [hDropped]) (by simp) rfl (fun _ => rfl)).push _
  | pickUp id hLive hFree hState hTouch => exact (h.pickUp id hLive hFree hState).push _
  | capture id hLive hCarries =>
    refine FlagInv.push ?_ _
    exact h.release id { s.players id with carryingFlag := false } _ hLive.1 hCarries rfl (by simp) rfl
      (fun _ => rfl) rfl rfl

theorem FlagInv.respawn {s s' : Sim} (hChange : RespawnChange s s') (h : FlagInv s) : FlagInv s' := by
  cases hChange with
  | countDown id hDead => exact h.setPlayer id _ ⟨rfl, rfl, rfl, fun _ hAlive => hAlive⟩
  | respawn id msg hActive hDead hDue =>
    refine FlagInv.push (h.setPlayer id _ ?_) _
    exact ⟨rfl, rfl, rfl, fun _ _ => rfl⟩

theorem acceptInput_sameRole (p : Player) (seq : U32) (input : InputCmd) :
    SameRole p (p.acceptInput seq input) := by
  simp only [Player.acceptInput]
  split
  · exact SameRole.refl p
  · split
    · exact SameRole.refl p
    · split <;> exact ⟨rfl, rfl, rfl, fun _ hAlive => hAlive⟩

theorem popped_sameRole (p : Player) : SameRole p p.popped := by
  simp only [Player.popped]
  split
  · exact ⟨rfl, rfl, rfl, fun _ hAlive => hAlive⟩
  · exact SameRole.refl p

theorem FlagInv.join {s : Sim} (h : FlagInv s) (id : Fin kMaxPlayers) (team : Team) (spawnIndex : U8)
    (hFree : (s.players id).active = false) :
    FlagInv { s with
      players := Function.update s.players id (joined (s.players id) team spawnIndex)
      playerCount := s.playerCount + 1 } where
  carrier t ht := by
    obtain ⟨i, hId, hi, hCarries⟩ := h.carrier t ht
    have hne : i ≠ id := by
      rintro rfl
      rw [hFree] at hi
      cases hi
    exact ⟨i, hId, by simp only [Function.update_of_ne hne]; exact ⟨hi, hCarries⟩⟩
  carrying i hi hiCarries := by
    by_cases hEq : i = id
    · subst hEq
      simp [joined] at hiCarries
    · simp only [Function.update_of_ne hEq] at hi hiCarries ⊢
      exact h.carrying i hi hiCarries
  vacant := h.vacant
  atBase := h.atBase

theorem FlagInv.command {s s' : Sim} {cmd : InboundCommand} (hApplied : Applied s cmd s') (h : FlagInv s) :
    FlagInv s' := by
  cases hApplied with
  | ignored => exact h
  | join id team spawnIndex hGoing hFree => exact h.join id team spawnIndex hFree
  | leave id hGoing hActive =>
    cases hCarries : (s.players id).carryingFlag with
    | true =>
      refine h.release id {} { state := .dropped, position := (s.players id).position, carrierId := kNoCarrier }
        hActive hCarries rfl (by simp) rfl (by simp) ?_ rfl
      simp [leaveDrop, hCarries]
    | false =>
      -- Nothing is dropped: the slot alone is emptied.
      have hFlags : (s.leaveDrop id).flags = s.flags := by simp [leaveDrop, hCarries]
      constructor
      · intro t ht
        simp only [hFlags] at ht ⊢
        obtain ⟨i, hId, hi, hiCarries, hTeam⟩ := h.carrier t ht
        have hne : i ≠ id := by
          rintro rfl
          rw [hCarries] at hiCarries
          cases hiCarries
        exact ⟨i, hId, by simp only [Function.update_of_ne hne]; exact ⟨hi, hiCarries, hTeam⟩⟩
      · intro i hi hiCarries
        by_cases hEq : i = id
        · subst hEq
          simp at hi
        · simp only [Function.update_of_ne hEq, hFlags] at hi hiCarries ⊢
          exact h.carrying i hi hiCarries
      · simpa only [hFlags] using h.vacant
      · simpa only [hFlags] using h.atBase
  | input id seq input hGoing hActive =>
    exact h.setPlayer id _ (acceptInput_sameRole _ seq input)

theorem flagInv_preserved : Preserved FlagInv where
  command _ _ _ := FlagInv.command
  pop s h := by
    rw [popInputs_eq]
    refine FlagInv.congr h ?_ ?_
    · rfl
    · intro id
      simp only
      split
      · exact popped_sameRole _
      · exact SameRole.refl _
  move s h := by
    rw [movePlayers_eq]
    refine FlagInv.congr h ?_ ?_
    · rfl
    · intro id
      simp only
      split
      · exact ⟨rfl, rfl, rfl, fun _ hAlive => hAlive⟩
      · exact SameRole.refl _
  combat _ _ := FlagInv.combat
  flags _ _ := FlagInv.flags
  respawn _ _ := FlagInv.respawn
  win s h := by
    simp only [winCheck]
    split
    · exact h
    · split
      · exact FlagInv.congr h rfl (fun _ => SameRole.refl _)
      · exact h
  publish s h := by
    simp only [publish]
    split <;> exact FlagInv.congr h rfl (fun _ => SameRole.refl _)
  clock s t h := FlagInv.congr h rfl (fun _ => SameRole.refl _)

theorem flagInv_init (tickHz snapshotHz : Int) (delta : Bool) : FlagInv (configured tickHz snapshotHz delta) where
  carrier _ h := by cases h
  carrying _ h := by cases h
  vacant _ _ := rfl
  atBase _ _ := rfl

theorem flags_carriers_consistent (rayDir : RayDir) (tickHz snapshotHz : Int) (delta : Bool)
    (ticks : List (List InboundCommand)) (flag : Team) :
    let s := (configured tickHz snapshotHz delta).run rayDir ticks
    let carries := fun id => (s.players id).active = true ∧ (s.players id).carryingFlag = true ∧
      (s.players id).team = flag.other
    ((s.flags flag).state = .carried ↔ ∃! id, carries id) ∧
    (∀ id, carries id → (s.flags flag).state = .carried ∧ (s.players id).alive = true ∧
      (s.flags flag).carrierId = idByte id) ∧
    ((s.flags flag).state ≠ .carried → (∀ id, ¬ carries id) ∧ (s.flags flag).carrierId = kNoCarrier) ∧
    ((s.flags flag).state = .atBase → (s.flags flag).position = baseOf flag) := by
  intro s carries
  have h : FlagInv s := flagInv_preserved.run rayDir _ ticks (flagInv_init tickHz snapshotHz delta)
  have hCarries : ∀ id, carries id → (s.flags flag).state = .carried ∧ (s.players id).alive = true ∧
      (s.flags flag).carrierId = idByte id := by
    rintro id ⟨hActive, hCarry, hTeam⟩
    obtain ⟨hAlive, hState, hId⟩ := h.carrying id hActive hCarry
    rw [hTeam, Team.other_other] at hState hId
    exact ⟨hState, hAlive, hId⟩
  refine ⟨⟨fun hState => ?_, fun ⟨id, hId, _⟩ => (hCarries id hId).1⟩, hCarries, fun hState => ?_, h.atBase flag⟩
  · obtain ⟨id, hId, hActive, hCarry, hTeam⟩ := h.carrier flag hState
    refine ⟨id, ⟨hActive, hCarry, hTeam⟩, ?_⟩
    rintro other ⟨hActive', hCarry', hTeam'⟩
    exact h.carrier_unique hActive' hCarry' hActive hCarry (hTeam'.trans hTeam.symm)
  · exact ⟨fun id hId => hState (hCarries id hId).1, h.vacant flag hState⟩

end Sim
end CaptureTheFlag
