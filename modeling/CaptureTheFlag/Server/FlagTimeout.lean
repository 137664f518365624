import CaptureTheFlag.Server.CarrierDrop
import CaptureTheFlag.Server.FlagInvariant
import CaptureTheFlag.Server.Lifecycle

/-! # Dropped flags time out

Every drop writes down its tick, and only the flags phase takes a dropped flag away. Unless a player touches it
first, the flags phase `kFlagAutoReturnTicks` later returns it, ahead of any touch in that phase.
-/
namespace CaptureTheFlag
set_option autoImplicit false
open Protocol

def OutboundEvent.isReturnOf (team : Team) (ev : OutboundEvent) : Bool :=
  ev.message = some .flagReturned ∧ ev.payload[1]? = some (teamByte team)

namespace Sim

def returnsOf (s : Sim) (team : Team) : List OutboundEvent := s.outbound.filter (OutboundEvent.isReturnOf team)

/-- The state in which the flags phase of a tick begins. -/
def fought (rayDir : RayDir) (s : Sim) (cmds : List InboundCommand) : Sim := (s.movedBy cmds).combat rayDir

/-- The state after the first loop of the flags phase. -/
def timersRun (s : Sim) : Sim := [Team.red, Team.blue].foldl flagTurn s

theorem returnsOf_push {s : Sim} {ev : OutboundEvent} {team : Team} (h : ev.isReturnOf team = false) :
    (s.push ev).returnsOf team = s.returnsOf team := by
  rw [returnsOf, returnsOf, push, List.filter_append, List.filter_cons_of_neg (by rw [h]; exact Bool.false_ne_true),
    List.filter_nil, List.append_nil]

theorem isReturnOf_of_message {ev : OutboundEvent} {message : MessageType} (h : ev.message = some message)
    (hOther : message ≠ .flagReturned) (team : Team) : ev.isReturnOf team = false := by
  rw [OutboundEvent.isReturnOf, h, decide_eq_false_iff_not]
  exact fun hReturn => hOther (Option.some.inj hReturn.1)

theorem isReturnOf_flagReturned (msg : MsgFlagReturned) (team : Team) :
    (OutboundEvent.flagReturned msg).isReturnOf team = decide (msg.flagTeam = team) := by
  have hMessage : (OutboundEvent.flagReturned msg).message = some .flagReturned :=
    OutboundEvent.message_serEvent _ (Or.inl rfl) _ _
  have hPayload : (OutboundEvent.flagReturned msg).payload[1]? = some (teamByte msg.flagTeam) :=
    congrArg (fun bytes : List U8 => bytes[1]?)
      (OutboundEvent.flagTouched_payload .tcpBroadcast .flagReturned (.flagReturned msg) msg rfl)
  rw [OutboundEvent.isReturnOf, hMessage, hPayload]
  cases msg.flagTeam <;> cases team <;> decide

/-- The flag of `team` is as it was, or its carrier has just dropped it. -/
structure Handled (team : Team) (s s' : Sim) : Prop where
  currentTick : s'.currentTick = s.currentTick
  returns : s'.returnsOf team = s.returnsOf team
  flag : (s'.flags team = s.flags team ∧ s'.dropTick team = s.dropTick team) ∨
    ((s.flags team).state = .carried ∧ (s'.flags team).state = .dropped ∧ s'.dropTick team = s.currentTick)

theorem Handled.refl (team : Team) (s : Sim) : Handled team s s := ⟨rfl, rfl, Or.inl ⟨rfl, rfl⟩⟩

theorem Handled.trans {team : Team} {s s' s'' : Sim} (h : Handled team s s') (h' : Handled team s' s'') :
    Handled team s s'' := by
  refine ⟨h'.currentTick.trans h.currentTick, h'.returns.trans h.returns, ?_⟩
  rcases h'.flag with ⟨hFlag', hTick'⟩ | ⟨hCarried', hDropped', hTick'⟩
  · rw [hFlag', hTick']
    exact h.flag
  · rcases h.flag with ⟨hFlag, -⟩ | ⟨-, hDropped, -⟩
    · rw [hFlag] at hCarried'
      exact Or.inr ⟨hCarried', hDropped', hTick'.trans h.currentTick⟩
    · rw [hDropped] at hCarried'
      cases hCarried'

theorem Handled.dropped {team : Team} {s s' : Sim} (h : Handled team s s')
    (hDropped : (s.flags team).state = .dropped) :
    (s'.flags team).state = .dropped := by
  rcases h.flag with ⟨hFlag, -⟩ | ⟨-, hNow, -⟩
  · rw [hFlag]
    exact hDropped
  · exact hNow

theorem handled_drop {s s' : Sim} {flagTeam : Team} {position : Vec2Fixed} (team : Team)
    (hCarried : (s.flags flagTeam).state = .carried) (hClock : s'.currentTick = s.currentTick)
    (hReturns : s'.returnsOf team = s.returnsOf team)
    (hFlags : s'.flags = Function.update s.flags flagTeam { state := .dropped, position, carrierId := kNoCarrier })
    (hTicks : s'.dropTick = Function.update s.dropTick flagTeam s.currentTick) : Handled team s s' := by
  refine ⟨hClock, hReturns, ?_⟩
  rw [hFlags, hTicks]
  by_cases hTeam : team = flagTeam
  · subst hTeam
    rw [Function.update_self, Function.update_self]
    exact Or.inr ⟨hCarried, rfl, rfl⟩
  · rw [Function.update_of_ne hTeam, Function.update_of_ne hTeam]
    exact Or.inl ⟨rfl, rfl⟩

theorem handled_command {s s' : Sim} {cmd : InboundCommand} (hInv : FlagInv s) (hApplied : Applied s cmd s')
    (team : Team) : Handled team s s' := by
  cases hApplied with
  | ignored => exact Handled.refl team s
  | join => exact ⟨rfl, rfl, Or.inl ⟨rfl, rfl⟩⟩
  | leave id hGoing hActive =>
    by_cases hCarries : (s.players id).carryingFlag = true
    · apply handled_drop team (hInv.carrying id hActive hCarries).2.1
      · simp only [leaveDrop, if_pos hCarries]
      · simp only [leaveDrop, if_pos hCarries, returnsOf]
      · simp only [leaveDrop, if_pos hCarries]
        rfl
      · simp only [leaveDrop, if_pos hCarries]
    · simp only [leaveDrop, if_neg hCarries]
      exact ⟨rfl, rfl, Or.inl ⟨rfl, rfl⟩⟩
  | input => exact ⟨rfl, rfl, Or.inl ⟨rfl, rfl⟩⟩

theorem handled_combat {s s' : Sim} (hInv : FlagInv s) (hChange : CombatChange True s s') (team : Team) :
    Handled team s s' := by
  cases hChange with
  | cool id hLive => exact ⟨rfl, rfl, Or.inl ⟨rfl, rfl⟩⟩
  | shoot id msg hLive hMsg =>
    have hShot := OutboundEvent.message_serEvent .udpEvent (Or.inr rfl) .shotFired (.shotFired msg)
    exact ⟨rfl, returnsOf_push (s := s) (isReturnOf_of_message hShot (by decide) team), Or.inl ⟨rfl, rfl⟩⟩
  | wound id health hLive hHealth => exact ⟨rfl, rfl, Or.inl ⟨rfl, rfl⟩⟩
  | kill id msg hLive hFree hMsg =>
    exact ⟨rfl, returnsOf_push (s := s) (isReturnOf_of_message (message_playerKilled msg) (by decide) team),
      Or.inl ⟨rfl, rfl⟩⟩
  | killCarrier id drop msg hDrops hLive hCarries hMsg hDrop =>
    have hDropped := OutboundEvent.message_serEvent .tcpBroadcast (Or.inl rfl) .flagDropped (.flagDropped drop)
    apply handled_drop team (hInv.carrying id hLive.1 hCarries).2.1
    · rfl
    · exact (returnsOf_push (s := s.push (.flagDropped drop))
        (isReturnOf_of_message (message_playerKilled msg) (by decide) team)).trans
        (returnsOf_push (isReturnOf_of_message hDropped (by decide) team))
    · rfl
    · rfl

theorem movedBy_handled {s : Sim} (hInv : FlagInv s) (cmds : List InboundCommand) (team : Team) :
    FlagInv (s.movedBy cmds) ∧ Handled team s (s.movedBy cmds) := by
  have hDrained : FlagInv (s.drainInbound cmds) ∧ Handled team s (s.drainInbound cmds) := by
    refine drainInbound_invariant (I := fun s' => FlagInv s' ∧ Handled team s s') ?_ s cmds ⟨hInv, Handled.refl team s⟩
    intro s₁ cmd s₂ hApplied h
    exact ⟨FlagInv.command hApplied h.1, h.2.trans (handled_command h.1 hApplied team)⟩
  refine ⟨flagInv_preserved.move _ (flagInv_preserved.pop _ hDrained.1), hDrained.2.trans ?_⟩
  rw [movedBy, movePlayers_eq, popInputs_eq]
  exact ⟨rfl, rfl, Or.inl ⟨rfl, rfl⟩⟩

theorem combat_handled (rayDir : RayDir) {s : Sim} (hInv : FlagInv s) (team : Team) :
    FlagInv (s.combat rayDir) ∧ Handled team s (s.combat rayDir) := by
  refine Chain.invariant (I := fun s' => FlagInv s' ∧ Handled team s s') ?_ (combat_changes rayDir s)
    ⟨hInv, Handled.refl team s⟩
  intro s₁ s₂ hChange h
  exact ⟨FlagInv.combat hChange h.1, h.2.trans (handled_combat h.1 hChange team)⟩

theorem fought_handled (rayDir : RayDir) {s : Sim} (hInv : FlagInv s) (cmds : List InboundCommand) (team : Team) :
    FlagInv (s.fought rayDir cmds) ∧ Handled team s (s.fought rayDir cmds) := by
  obtain ⟨hMovedInv, hMoved⟩ := movedBy_handled hInv cmds team
  obtain ⟨hFoughtInv, hFought⟩ := combat_handled rayDir hMovedInv team
  exact ⟨hFoughtInv, hMoved.trans hFought⟩

/-- The flags phase drops no flag: one that lies there afterwards lay there before. -/
structure Touched (team : Team) (s s' : Sim) : Prop where
  currentTick : s'.currentTick = s.currentTick
  dropTick : s'.dropTick = s.dropTick
  flag : (s'.flags team).state = .dropped → s'.flags team = s.flags team

theorem Touched.refl (team : Team) (s : Sim) : Touched team s s := ⟨rfl, rfl, fun _ => rfl⟩

theorem Touched.trans {team : Team} {s s' s'' : Sim} (h : Touched team s s') (h' : Touched team s' s'') :
    Touched team s s'' := by
  refine ⟨h'.currentTick.trans h.currentTick, h'.dropTick.trans h.dropTick, ?_⟩
  intro hDropped
  have hSame := h'.flag hDropped
  rw [hSame] at hDropped ⊢
  exact h.flag hDropped

theorem touched_setFlag {s s' : Sim} {flagTeam : Team} {flag : FlagInfo} (team : Team) (hTaken : flag.state ≠ .dropped)
    (hClock : s'.currentTick = s.currentTick) (hTicks : s'.dropTick = s.dropTick)
    (hFlags : s'.flags = Function.update s.flags flagTeam flag) : Touched team s s' := by
  refine ⟨hClock, hTicks, ?_⟩
  rw [hFlags]
  by_cases hTeam : team = flagTeam
  · subst hTeam
    rw [Function.update_self]
    exact fun hDropped => absurd hDropped hTaken
  · rw [Function.update_of_ne hTeam]
    exact fun _ => rfl

theorem touched_flagChange {s s' : Sim} (h : FlagChange s s') (team : Team) : Touched team s s' := by
  cases h with
  | follow flagTeam position hCarried =>
    have hTaken : ({ s.flags flagTeam with position } : FlagInfo).state ≠ .dropped := by
      rw [hCarried]
      decide
    exact touched_setFlag team hTaken rfl rfl rfl
  | flagReturn => exact touched_setFlag team (by rintro ⟨⟩) rfl rfl rfl
  | pickUp => exact touched_setFlag team (by rintro ⟨⟩) rfl rfl rfl
  | capture => exact touched_setFlag team (by rintro ⟨⟩) rfl rfl rfl

theorem touched_chain {s s' : Sim} (h : Relation.ReflTransGen FlagChange s s') (team : Team) : Touched team s s' :=
  Chain.invariant (I := Touched team s) (fun _ _ hLast hSoFar => hSoFar.trans (touched_flagChange hLast team)) h
    (Touched.refl team s)

theorem returnsOf_flagChange {s s' : Sim} (h : FlagChange s s') {team : Team} (hNot : (s.flags team).state ≠ .dropped) :
    s'.returnsOf team = s.returnsOf team := by
  cases h with
  | follow flagTeam position hCarried => rfl
  | flagReturn flagTeam playerId hDropped hBy =>
    refine returnsOf_push (s := s.setFlag flagTeam _) ?_
    rw [isReturnOf_flagReturned, decide_eq_false_iff_not]
    rintro rfl
    exact hNot hDropped
  | pickUp id hLive hFree hState hTouch =>
    exact returnsOf_push (s := s)
      (isReturnOf_of_message (OutboundEvent.message_serEvent _ (Or.inl rfl) _ _) (by decide) team)
  | capture id hLive hCarries hOwn hBase =>
    exact returnsOf_push (s := s)
      (isReturnOf_of_message (OutboundEvent.message_serEvent _ (Or.inl rfl) _ _) (by decide) team)

theorem returnsOf_chain {s s' : Sim} (h : Relation.ReflTransGen FlagChange s s') {team : Team}
    (hNot : (s.flags team).state ≠ .dropped) :
    (s'.flags team).state ≠ .dropped ∧ s'.returnsOf team = s.returnsOf team := by
  refine Chain.invariant
    (I := fun s' => (s'.flags team).state ≠ .dropped ∧ s'.returnsOf team = s.returnsOf team) ?_ h ⟨hNot, rfl⟩
  rintro s₁ s₂ hChange ⟨hSoFar, hReturns⟩
  refine ⟨?_, (returnsOf_flagChange hChange hSoFar).trans hReturns⟩
  intro hDropped
  rw [(touched_flagChange hChange team).flag hDropped] at hDropped
  exact hSoFar hDropped

/-- The flag of `team` and its timer are as they were, and so is everybody's body. -/
structure Passed (team : Team) (s s' : Sim) : Prop where
  flag : s'.flags team = s.flags team
  dropTick : s'.dropTick = s.dropTick
  currentTick : s'.currentTick = s.currentTick
  returns : s'.returnsOf team = s.returnsOf team
  living : ∀ id, s'.Living id ↔ s.Living id
  position : ∀ id, (s'.players id).position = (s.players id).position

theorem Passed.refl (team : Team) (s : Sim) : Passed team s s := ⟨rfl, rfl, rfl, rfl, fun _ => Iff.rfl, fun _ => rfl⟩

theorem Passed.trans {team : Team} {s s' s'' : Sim} (h : Passed team s s') (h' : Passed team s' s'') :
    Passed team s s'' where
  flag := h'.flag.trans h.flag
  dropTick := h'.dropTick.trans h.dropTick
  currentTick := h'.currentTick.trans h.currentTick
  returns := h'.returns.trans h.returns
  living id := (h'.living id).trans (h.living id)
  position id := (h'.position id).trans (h.position id)

theorem Passed.push {team : Team} {s s' : Sim} {ev : OutboundEvent} (h : Passed team s s')
    (hOther : ev.isReturnOf team = false) : Passed team s (s'.push ev) :=
  h.trans ⟨rfl, rfl, rfl, returnsOf_push hOther, fun _ => Iff.rfl, fun _ => rfl⟩

theorem passed_setFlag {team flagTeam : Team} (hTeam : team ≠ flagTeam) (s : Sim) (flag : FlagInfo) :
    Passed team s (s.setFlag flagTeam flag) :=
  ⟨Function.update_of_ne hTeam _ _, rfl, rfl, rfl, fun _ => Iff.rfl, fun _ => rfl⟩

theorem passed_carryingFlag (team : Team) (s : Sim) (id : Fin kMaxPlayers) (carryingFlag : Bool) :
    Passed team s (s.setPlayer id { s.players id with carryingFlag }) := by
  refine ⟨rfl, rfl, rfl, rfl, ?_, ?_⟩
  · intro i
    by_cases hi : i = id
    · subst hi
      simp only [Living, setPlayer, Function.update_self]
    · simp only [Living, setPlayer, Function.update_of_ne hi]
  · intro i
    by_cases hi : i = id
    · subst hi
      simp only [setPlayer, Function.update_self]
    · simp only [setPlayer, Function.update_of_ne hi]

theorem passed_flagTurn {team flagTeam : Team} (hTeam : team ≠ flagTeam) (s : Sim) :
    Passed team s (s.flagTurn flagTeam) := by
  by_cases hDue : s.DropDue flagTeam
  · simp only [flagTurn, hDue.1, if_pos hDue.2]
    apply (passed_setFlag hTeam s _).push
    rw [isReturnOf_flagReturned, decide_eq_false_iff_not]
    exact fun hEq => hTeam hEq.symm
  · rw [flagTurn_calm s flagTeam hDue]
    exact passed_setFlag hTeam s _

theorem flagTurn_waits {s : Sim} {team : Team} (hDropped : (s.flags team).state = .dropped)
    (hWaits : ¬ s.DropDue team) :
    s.flagTurn team = s := by
  have hFollowed : s.followed team = s.flags team := by
    rw [followed, hDropped]
  rw [flagTurn_calm s team hWaits, hFollowed, setFlag, Function.update_eq_self]

theorem Passed.dropDue {team : Team} {s s' : Sim} (h : Passed team s s') : s'.DropDue team ↔ s.DropDue team := by
  rw [DropDue, DropDue, h.flag, h.dropTick, h.currentTick]

theorem timersRun_eq (s : Sim) : s.timersRun = (s.flagTurn .red).flagTurn .blue := rfl

theorem timersRun_waits {s : Sim} {team : Team} (hDropped : (s.flags team).state = .dropped)
    (hWaits : ¬ s.DropDue team) :
    Passed team s s.timersRun := by
  rw [timersRun_eq]
  cases team with
  | red =>
    rw [flagTurn_waits hDropped hWaits]
    exact passed_flagTurn (by decide) s
  | blue =>
    have hRed : Passed .blue s (s.flagTurn .red) := passed_flagTurn (by decide) s
    rw [flagTurn_waits (by rw [hRed.flag]; exact hDropped) (fun hDue => hWaits (hRed.dropDue.mp hDue))]
    exact hRed

def flagHome (team : Team) : FlagInfo := { state := .atBase, position := baseOf team, carrierId := kNoCarrier }

def timeoutReturn (team : Team) (tick : U32) : OutboundEvent :=
  .flagReturned { flagTeam := team, playerId := kNoCarrier, tick }

theorem flagTurn_returns {s : Sim} {team : Team} (hDue : s.DropDue team) :
    (s.flagTurn team).flags team = flagHome team ∧
      (s.flagTurn team).returnsOf team = s.returnsOf team ++ [timeoutReturn team s.currentTick] := by
  have hOwn : (timeoutReturn team s.currentTick).isReturnOf team = true := by
    rw [timeoutReturn, isReturnOf_flagReturned, decide_eq_true_eq]
  have hTurn : s.flagTurn team = (s.setFlag team (flagHome team)).push (timeoutReturn team s.currentTick) := by
    simp only [flagTurn, hDue.1, if_pos hDue.2]
    rfl
  rw [hTurn]
  constructor
  · simp only [push, setFlag, Function.update_self]
  · rw [returnsOf, push, List.filter_append, List.filter_cons_of_pos hOwn, List.filter_nil]
    rfl

theorem timersRun_returns {s : Sim} {team : Team} (hDue : s.DropDue team) :
    s.timersRun.flags team = flagHome team ∧
      s.timersRun.returnsOf team = s.returnsOf team ++ [timeoutReturn team s.currentTick] := by
  rw [timersRun_eq]
  cases team with
  | red =>
    have hBlue : Passed .red (s.flagTurn .red) ((s.flagTurn .red).flagTurn .blue) := passed_flagTurn (by decide) _
    rw [hBlue.flag, hBlue.returns]
    exact flagTurn_returns hDue
  | blue =>
    have hRed : Passed .blue s (s.flagTurn .red) := passed_flagTurn (by decide) s
    have hTurn := flagTurn_returns (hRed.dropDue.mpr hDue)
    rw [hRed.returns, hRed.currentTick] at hTurn
    exact hTurn

section Spared

variable {s : Sim} {team : Team} {id : Fin kMaxPlayers} (hDropped : (s.flags team).state = .dropped)
  (hFar : aabbOverlap (s.players id).position (s.flags team).position = false)

include hDropped hFar in
theorem passed_touchReturn : Passed team s (s.touchReturn id) := by
  simp only [touchReturn]
  split
  · rename_i hTouch
    have hTeam : team ≠ (s.players id).team := by
      rintro rfl
      rw [hFar] at hTouch
      exact Bool.false_ne_true hTouch.2
    apply (passed_setFlag hTeam s _).push
    rw [isReturnOf_flagReturned, decide_eq_false_iff_not]
    exact fun hEq => hTeam hEq.symm
  · exact Passed.refl team s

include hFar in
theorem passed_pickUp : Passed team s (s.pickUp id) := by
  simp only [pickUp]
  split
  · rename_i hTouch
    have hTeam : team ≠ (s.players id).team.other := by
      rintro rfl
      rw [hFar] at hTouch
      exact Bool.false_ne_true hTouch.2.2
    refine Passed.push ?_ (isReturnOf_of_message (OutboundEvent.message_serEvent _ (Or.inl rfl) _ _) (by decide) team)
    exact (passed_setFlag hTeam s _).trans (passed_carryingFlag team (s.setFlag _ _) id true)
  · exact Passed.refl team s

include hDropped in
theorem passed_capture (hInv : FlagInv s) (hActive : (s.players id).active = true) : Passed team s (s.capture id) := by
  simp only [capture]
  split
  · rename_i hTouch
    have hTeam : team ≠ (s.players id).team.other := by
      rintro rfl
      rw [(hInv.carrying id hActive hTouch.1).2.1] at hDropped
      cases hDropped
    refine Passed.push ?_ (isReturnOf_of_message (OutboundEvent.message_serEvent _ (Or.inl rfl) _ _) (by decide) team)
    have hFreed := (passed_carryingFlag team s id false).trans
      (passed_setFlag hTeam _ { state := .atBase, position := baseOf (s.players id).team.other, carrierId := kNoCarrier })
    rw [enemy_eq_other]
    exact ⟨hFreed.flag, hFreed.dropTick, hFreed.currentTick, hFreed.returns, hFreed.living, hFreed.position⟩
  · exact Passed.refl team s

end Spared

theorem passed_touchTurn {s : Sim} {team : Team} (hInv : FlagInv s) (hDropped : (s.flags team).state = .dropped)
    (id : Fin kMaxPlayers)
    (hFar : s.Living id → aabbOverlap (s.players id).position (s.flags team).position = false) :
    Passed team s (s.touchTurn id) := by
  by_cases hLive : s.Living id
  · have hTurn : s.touchTurn id = ((s.touchReturn id).pickUp id).capture id := by
      simp only [touchTurn, hLive.1, hLive.2, Bool.not_true, Bool.or_self, Bool.false_eq_true, if_false]
    have hReturn := passed_touchReturn hDropped (hFar hLive)
    have hReturnLive := (living_touchReturn s id id).mpr hLive
    have hPick : Passed team (s.touchReturn id) ((s.touchReturn id).pickUp id) := by
      apply passed_pickUp
      rw [hReturn.position, hReturn.flag]
      exact hFar hLive
    have hBoth := hReturn.trans hPick
    have hInv' := Chain.invariant flagInv_preserved.flags
      ((touchReturn_changes s id hLive).trans (pickUp_changes _ id hReturnLive)) hInv
    rw [hTurn]
    refine hBoth.trans (passed_capture ?_ hInv' ((hBoth.living id).mpr hLive).1)
    rw [hBoth.flag]
    exact hDropped
  · have hTurn : s.touchTurn id = s := by
      apply touchTurn_calm
      exact fun hTouches => hLive hTouches.1
    rw [hTurn]
    exact Passed.refl team s

theorem foldl_touchTurn_passed {team : Team} (is : List (Fin kMaxPlayers)) {s : Sim} (hInv : FlagInv s)
    (hDropped : (s.flags team).state = .dropped)
    (hFar : ∀ id, s.Living id → aabbOverlap (s.players id).position (s.flags team).position = false) :
    Passed team s (is.foldl touchTurn s) := by
  refine (Chain.foldl_invariant (I := fun s' => FlagInv s' ∧ Passed team s s') ?_ is s ⟨hInv, Passed.refl team s⟩).2
  rintro s' id ⟨hInv', hPassed⟩
  refine ⟨Chain.invariant flagInv_preserved.flags (touchTurn_changes s' id) hInv', hPassed.trans ?_⟩
  apply passed_touchTurn hInv'
  · rw [hPassed.flag]
    exact hDropped
  · intro hLive
    rw [hPassed.position, hPassed.flag]
    exact hFar id ((hPassed.living id).mp hLive)

theorem touchPhase_eq (s : Sim) : s.touchPhase = (List.finRange kMaxPlayers).foldl touchTurn s.timersRun := rfl

theorem touchPhase_spared {s : Sim} {team : Team} (hInv : FlagInv s) (hDropped : (s.flags team).state = .dropped)
    (hWaits : ¬ s.DropDue team)
    (hFar : ∀ id, s.Living id → aabbOverlap (s.players id).position (s.flags team).position = false) :
    Passed team s s.touchPhase := by
  have hTimers := timersRun_waits hDropped hWaits
  have hInv' : FlagInv s.timersRun := Chain.invariant flagInv_preserved.flags (Chain.foldl flagTurn_changes _ s) hInv
  rw [touchPhase_eq]
  refine hTimers.trans (foldl_touchTurn_passed _ hInv' ?_ ?_)
  · rw [hTimers.flag]
    exact hDropped
  · intro id hLive
    rw [hTimers.position, hTimers.flag]
    exact hFar id ((hTimers.living id).mp hLive)

theorem touchPhase_due {s : Sim} {team : Team} (hDue : s.DropDue team) :
    (s.touchPhase.flags team).state ≠ .dropped ∧
      s.touchPhase.returnsOf team = s.returnsOf team ++ [timeoutReturn team s.currentTick] := by
  obtain ⟨hHome, hReturn⟩ := timersRun_returns hDue
  have hNot : (s.timersRun.flags team).state ≠ .dropped := by
    rw [hHome]
    rintro ⟨⟩
  rw [touchPhase_eq, ← hReturn]
  exact returnsOf_chain (Chain.foldl touchTurn_changes _ _) hNot

structure Aside (team : Team) (s s' : Sim) : Prop where
  flags : s'.flags = s.flags
  dropTick : s'.dropTick = s.dropTick
  returns : s'.returnsOf team = s.returnsOf team

theorem Aside.trans {team : Team} {s s' s'' : Sim} (h : Aside team s s') (h' : Aside team s' s'') : Aside team s s'' :=
  ⟨h'.flags.trans h.flags, h'.dropTick.trans h.dropTick, h'.returns.trans h.returns⟩

theorem aside_respawnPhase (team : Team) (s : Sim) : Aside team s s.respawnPhase := by
  refine Chain.invariant (I := Aside team s) ?_ (respawnPhase_changes s) ⟨rfl, rfl, rfl⟩
  intro s₁ s₂ hChange h
  refine h.trans ?_
  cases hChange with
  | countDown id hDead => exact ⟨rfl, rfl, rfl⟩
  | respawn id msg =>
    exact ⟨rfl, rfl,
      returnsOf_push (s := s₁) (isReturnOf_of_message (message_playerRespawned msg) (by decide) team)⟩

theorem aside_winCheck (team : Team) (s : Sim) : Aside team s s.winCheck := by
  simp only [winCheck]
  split
  · exact ⟨rfl, rfl, rfl⟩
  · split
    · exact ⟨rfl, rfl, returnsOf_push (s := s)
        (isReturnOf_of_message (OutboundEvent.message_serEvent _ (Or.inl rfl) _ _) (by decide) team)⟩
    · exact ⟨rfl, rfl, rfl⟩

theorem aside_publish (team : Team) (s : Sim) : Aside team s s.publish := by
  refine ⟨(publish_world s).1, (publish_world s).2.2.1, ?_⟩
  cases hDue : s.publishDue with
  | true =>
    rw [publish_due s hDue]
    refine returnsOf_push (s := s) ?_
    rw [OutboundEvent.isReturnOf, OutboundEvent.message_of_snapshot (toPublish_isSnapshot s), decide_eq_false_iff_not]
    exact fun hReturn => nomatch hReturn.1
  | false =>
    rw [publish_not_due s hDue]
    rfl

theorem tick_aside (rayDir : RayDir) (s : Sim) (cmds : List InboundCommand) (team : Team) :
    Aside team (s.fought rayDir cmds).touchPhase (s.tick rayDir cmds) := by
  have hClock : ∀ (published : Sim) (now : U32), Aside team published { published with currentTick := now } :=
    fun _ _ => ⟨rfl, rfl, rfl⟩
  rw [tick_eq_finish, finish, flagsPhase_eq]
  exact (((aside_respawnPhase team _).trans (aside_winCheck team _)).trans (aside_publish team _)).trans (hClock _ _)

/-- The flag of `team` has been lying for `n` ticks. -/
structure Lying (team : Team) (flag : FlagInfo) (n : Nat) (s : Sim) : Prop where
  inv : FlagInv s
  record : s.flags team = flag
  dropped : flag.state = .dropped
  since : s.currentTick = s.dropTick team + BitVec.ofNat 32 n

section Lying

variable {team : Team} {flag : FlagInfo} {n : Nat} {s : Sim} {cmds : List InboundCommand} (rayDir : RayDir)

theorem Lying.dropDue (h : Lying team flag n s) (hShort : n ≤ kFlagAutoReturnTicks.toNat) :
    s.DropDue team ↔ n = kFlagAutoReturnTicks.toNat := by
  have hElapsed : (s.currentTick - s.dropTick team).toNat = n := by
    rw [h.since, BitVec.add_comm, BitVec.add_sub_cancel, BitVec.toNat_ofNat]
    exact Nat.mod_eq_of_lt (Nat.lt_of_le_of_lt hShort (by decide))
  rw [DropDue, hElapsed, h.record]
  exact ⟨fun hDue => Nat.le_antisymm hShort hDue.2, fun hEq => ⟨h.dropped, hEq.ge⟩⟩

theorem Lying.fought (h : Lying team flag n s) (cmds : List InboundCommand) :
    Lying team flag n (s.fought rayDir cmds) := by
  obtain ⟨hInv, hHandled⟩ := fought_handled rayDir h.inv cmds team
  rcases hHandled.flag with ⟨hFlag, hTick⟩ | ⟨hCarried, -⟩
  · exact ⟨hInv, hFlag.trans h.record, h.dropped, by rw [hHandled.currentTick, hTick]; exact h.since⟩
  · rw [h.record, h.dropped] at hCarried
    cases hCarried

theorem lying_fought (hInv : FlagInv s) (hBefore : (s.flags team).state ≠ .dropped)
    (hDrop : ((s.fought rayDir cmds).flags team).state = .dropped) :
    Lying team ((s.fought rayDir cmds).flags team) 0 (s.fought rayDir cmds) := by
  obtain ⟨hInv', hHandled⟩ := fought_handled rayDir hInv cmds team
  rcases hHandled.flag with ⟨hFlag, -⟩ | ⟨-, -, hTick⟩
  · rw [hFlag] at hDrop
    exact absurd hDrop hBefore
  · refine ⟨hInv', rfl, hDrop, ?_⟩
    rw [hHandled.currentTick, hTick]
    exact (BitVec.add_zero _).symm

theorem lying_tick (hInv : FlagInv s) (h : Lying team flag n (s.fought rayDir cmds))
    (hFlag : (s.tick rayDir cmds).flags team = flag)
    (hTick : (s.tick rayDir cmds).dropTick team = (s.fought rayDir cmds).dropTick team) :
    Lying team flag (n + 1) (s.tick rayDir cmds) := by
  refine ⟨flagInv_preserved.tick rayDir s cmds hInv, hFlag, h.dropped, ?_⟩
  have hSince := h.since
  rw [(fought_handled rayDir hInv cmds team).2.currentTick] at hSince
  rw [tick_currentTick, hTick, hSince, BitVec.ofNat_add, BitVec.add_assoc]
  rfl

theorem tick_lies (hInv : FlagInv s) (h : Lying team flag n (s.fought rayDir cmds))
    (hShort : n ≤ kFlagAutoReturnTicks.toNat) (hStill : ((s.tick rayDir cmds).flags team).state = .dropped) :
    n < kFlagAutoReturnTicks.toNat ∧ Lying team flag (n + 1) (s.tick rayDir cmds) := by
  have hAside := tick_aside rayDir s cmds team
  have hTouched := touched_chain (touchPhase_changes (s.fought rayDir cmds)) team
  rw [hAside.flags] at hStill
  constructor
  · refine Nat.lt_of_le_of_ne hShort (fun hUp => ?_)
    exact (touchPhase_due ((h.dropDue hShort).mpr hUp)).1 hStill
  · apply lying_tick rayDir hInv h
    · rw [hAside.flags, hTouched.flag hStill, h.record]
    · rw [hAside.dropTick, hTouched.dropTick]

theorem tick_spared (hInv : FlagInv s) (h : Lying team flag n (s.fought rayDir cmds))
    (hShort : n < kFlagAutoReturnTicks.toNat)
    (hFar : ∀ id, (s.fought rayDir cmds).Living id →
      aabbOverlap ((s.fought rayDir cmds).players id).position flag.position = false) :
    Lying team flag (n + 1) (s.tick rayDir cmds) ∧ (s.tick rayDir cmds).returnsOf team = s.returnsOf team := by
  have hAside := tick_aside rayDir s cmds team
  have hWaits : ¬ (s.fought rayDir cmds).DropDue team :=
    fun hDue => Nat.ne_of_lt hShort ((h.dropDue (Nat.le_of_lt hShort)).mp hDue)
  have hPassed : Passed team (s.fought rayDir cmds) (s.fought rayDir cmds).touchPhase := by
    apply touchPhase_spared h.inv
    · rw [h.record]
      exact h.dropped
    · exact hWaits
    · rw [h.record]
      exact hFar
  constructor
  · apply lying_tick rayDir hInv h
    · rw [hAside.flags, hPassed.flag, h.record]
    · rw [hAside.dropTick, hPassed.dropTick]
  · rw [hAside.returns, hPassed.returns]
    exact (fought_handled rayDir hInv cmds team).2.returns

theorem tick_timesOut (hInv : FlagInv s)
    (h : Lying team flag kFlagAutoReturnTicks.toNat (s.fought rayDir cmds)) :
    (s.fought rayDir cmds).timersRun.flags team = flagHome team ∧
      ((s.tick rayDir cmds).flags team).state ≠ .dropped ∧
      (s.tick rayDir cmds).returnsOf team = s.returnsOf team ++ [timeoutReturn team s.currentTick] := by
  have hDue := (h.dropDue le_rfl).mpr rfl
  have hAside := tick_aside rayDir s cmds team
  have hHandled := (fought_handled rayDir hInv cmds team).2
  have hPhase := touchPhase_due hDue
  rw [hHandled.returns, hHandled.currentTick] at hPhase
  rw [hAside.flags, hAside.returns]
  exact ⟨(timersRun_returns hDue).1, hPhase⟩

end Lying

/-- The flag of `team` is dropped at the end of each of the ticks. -/
def Lies (rayDir : RayDir) (team : Team) : Sim → List (List InboundCommand) → Prop
  | _, [] => True
  | s, cmds :: ticks => ((s.tick rayDir cmds).flags team).state = .dropped ∧ Lies rayDir team (s.tick rayDir cmds) ticks

/-- In the flags phase of each of the ticks, nobody alive stands on `position`. -/
def Spared (rayDir : RayDir) (position : Vec2Fixed) : Sim → List (List InboundCommand) → Prop
  | _, [] => True
  | s, cmds :: ticks =>
    (∀ id, (s.fought rayDir cmds).Living id →
      aabbOverlap ((s.fought rayDir cmds).players id).position position = false) ∧
    Spared rayDir position (s.tick rayDir cmds) ticks

theorem Lying.lies (rayDir : RayDir) {team : Team} {flag : FlagInfo} {n : Nat} {s : Sim} (h : Lying team flag n s)
    (hShort : n ≤ kFlagAutoReturnTicks.toNat) (later : List (List InboundCommand)) (hLies : Lies rayDir team s later) :
    n + later.length ≤ kFlagAutoReturnTicks.toNat ∧ (s.run rayDir later).flags team = flag := by
  induction later generalizing s n with
  | nil => exact ⟨hShort, h.record⟩
  | cons cmds later ih =>
    obtain ⟨hNow, hLater⟩ := hLies
    obtain ⟨hEarly, hNext⟩ := tick_lies rayDir h.inv (h.fought rayDir cmds) hShort hNow
    obtain ⟨hLength, hFlag⟩ := ih hNext hEarly hLater
    rw [List.length_cons, run_cons]
    exact ⟨by omega, hFlag⟩

theorem Lying.spared (rayDir : RayDir) {team : Team} {flag : FlagInfo} {n : Nat} {s : Sim} (h : Lying team flag n s)
    (meanwhile : List (List InboundCommand)) (hShort : n + meanwhile.length ≤ kFlagAutoReturnTicks.toNat)
    (hSpared : Spared rayDir flag.position s meanwhile) :
    Lies rayDir team s meanwhile ∧ Lying team flag (n + meanwhile.length) (s.run rayDir meanwhile) ∧
      (s.run rayDir meanwhile).returnsOf team = s.returnsOf team := by
  induction meanwhile generalizing s n with
  | nil => exact ⟨trivial, h, rfl⟩
  | cons cmds meanwhile ih =>
    obtain ⟨hFar, hLater⟩ := hSpared
    rw [List.length_cons] at hShort ⊢
    rw [run_cons]
    obtain ⟨hNext, hReturns⟩ := tick_spared rayDir h.inv (h.fought rayDir cmds) (by omega) hFar
    obtain ⟨hLies, hEnd, hReturnsEnd⟩ := ih hNext (by omega) hLater
    refine ⟨⟨?_, hLies⟩, ?_, hReturnsEnd.trans hReturns⟩
    · rw [hNext.record]
      exact hNext.dropped
    · rw [Nat.add_right_comm, Nat.add_assoc] at hEnd
      exact hEnd

/-- A flag dropped at tick `T` is taken away by tick `T + kFlagAutoReturnTicks` and does not move before. If nobody
stands on it, it goes home in exactly that tick; who stands there in that last tick does not matter. -/
theorem dropped_flag_times_out (rayDir : RayDir) (tickHz snapshotHz : Int) (delta : Bool)
    (earlier : List (List InboundCommand)) (drop : List InboundCommand) (team : Team) :
    let s := (configured tickHz snapshotHz delta).run rayDir earlier
    let dropped := (s.fought rayDir drop).flags team
    (s.flags team).state ≠ .dropped → dropped.state = .dropped →
    (∀ later, Lies rayDir team s (drop :: later) →
      later.length < kFlagAutoReturnTicks.toNat ∧
      ((s.run rayDir (drop :: later)).flags team).position = dropped.position) ∧
    (∀ meanwhile last, meanwhile.length + 1 = kFlagAutoReturnTicks.toNat →
      Spared rayDir dropped.position s (drop :: meanwhile) →
      let now := s.run rayDir (drop :: meanwhile)
      Lies rayDir team s (drop :: meanwhile) ∧ now.returnsOf team = s.returnsOf team ∧
      now.currentTick = s.currentTick + kFlagAutoReturnTicks ∧
      (now.fought rayDir last).timersRun.flags team = flagHome team ∧
      ((now.tick rayDir last).flags team).state ≠ .dropped ∧
      (now.tick rayDir last).returnsOf team =
        s.returnsOf team ++ [timeoutReturn team (s.currentTick + kFlagAutoReturnTicks)]) := by
  intro s dropped hBefore hDrop
  have hInv : FlagInv s := flagInv_preserved.run rayDir _ earlier (flagInv_init tickHz snapshotHz delta)
  have hLying : Lying team dropped 0 (s.fought rayDir drop) := lying_fought rayDir hInv hBefore hDrop
  clear_value dropped s
  constructor
  · rintro later ⟨hNow, hLater⟩
    obtain ⟨hEarly, hNext⟩ := tick_lies rayDir hInv hLying (Nat.zero_le _) hNow
    obtain ⟨hLength, hFlag⟩ := hNext.lies rayDir hEarly later hLater
    rw [run_cons, hFlag]
    exact ⟨by omega, rfl⟩
  · rintro meanwhile last hLength ⟨hFar, hSpared⟩
    obtain ⟨hNext, hReturns⟩ := tick_spared rayDir hInv hLying (by decide) hFar
    obtain ⟨hLies, hEnd, hReturnsEnd⟩ := hNext.spared rayDir meanwhile (by omega) hSpared
    have hTick := run_currentTick_from rayDir s (drop :: meanwhile)
    rw [List.length_cons, hLength, BitVec.ofNat_toNat, BitVec.setWidth_eq] at hTick
    have hOut : Lying team dropped kFlagAutoReturnTicks.toNat
        ((s.run rayDir (drop :: meanwhile)).fought rayDir last) := by
      rw [Nat.zero_add, Nat.add_comm, hLength] at hEnd
      rw [run_cons]
      exact hEnd.fought rayDir last
    have hLast := tick_timesOut rayDir (by rw [run_cons]; exact hEnd.inv) hOut
    have hReturnsAll : (s.run rayDir (drop :: meanwhile)).returnsOf team = s.returnsOf team := by
      rw [run_cons]
      exact hReturnsEnd.trans hReturns
    rw [hTick, hReturnsAll] at hLast
    refine ⟨⟨?_, hLies⟩, hReturnsAll, hTick, hLast⟩
    rw [hNext.record]
    exact hNext.dropped

def Deserted (s : Sim) : Prop := ∀ id, (s.players id).active = false

def everyoneLeaves : List InboundCommand := (List.finRange kMaxPlayers).map fun id => .playerLeft (idByte id)

theorem drain_leaves (ids : List (Fin kMaxPlayers)) {s : Sim} (hGoing : s.matchOver = false) {i : Fin kMaxPlayers}
    (hActive : ((s.drainInbound (ids.map fun id => .playerLeft (idByte id))).players i).active = true) :
    i ∉ ids ∧ (s.players i).active = true := by
  induction ids generalizing s with
  | nil => exact ⟨List.not_mem_nil, hActive⟩
  | cons id ids ih =>
    rw [List.map_cons, drainInbound_cons] at hActive
    obtain ⟨hRest, hBefore⟩ := ih ((applyCommand_matchOver s _).trans hGoing) hActive
    have hLeave : s.applyCommand (.playerLeft (idByte id)) = s.applyLeave (idByte id) := by
      simp only [applyCommand, hGoing, Bool.false_eq_true, if_false]
    rw [hLeave, applyLeave_idByte] at hBefore
    by_cases hi : i = id
    · subst hi
      exfalso
      by_cases hHere : (s.players i).active = true
      · simp only [hHere, if_true, Function.update_self] at hBefore
        cases hBefore
      · rw [if_neg hHere] at hBefore
        exact hHere hBefore
    · refine ⟨fun hMem => (List.mem_cons.mp hMem).elim hi hRest, ?_⟩
      split at hBefore
      · simpa only [Function.update_of_ne hi] using hBefore
      · exact hBefore

theorem fought_active (rayDir : RayDir) (s : Sim) (cmds : List InboundCommand) (id : Fin kMaxPlayers) :
    ((s.fought rayDir cmds).players id).active = ((s.drainInbound cmds).players id).active := by
  have hMoved : ((s.movedBy cmds).players id).active = ((s.drainInbound cmds).players id).active :=
    (stepped_fields (s.drainInbound cmds) id).1
  rw [fought, ← hMoved]
  exact ((Frame.combats (combat_changes rayDir (s.movedBy cmds))).inputs id).active

theorem tick_active (rayDir : RayDir) (s : Sim) (cmds : List InboundCommand) (id : Fin kMaxPlayers) :
    ((s.tick rayDir cmds).players id).active = ((s.drainInbound cmds).players id).active := by
  have hMoved : ((s.movedBy cmds).players id).active = ((s.drainInbound cmds).players id).active :=
    (stepped_fields (s.drainInbound cmds) id).1
  rw [tick_eq_publish]
  simp only [publish_players]
  rw [published, ← movedBy, ← hMoved]
  exact ((settled_frame rayDir (s.movedBy cmds)).inputs id).active

theorem spared_of_deserted (rayDir : RayDir) (position : Vec2Fixed) (n : Nat) {s : Sim} {cmds : List InboundCommand}
    (h : (s.drainInbound cmds).Deserted) : Spared rayDir position s (cmds :: List.replicate n []) := by
  have hNow : ∀ id, (s.fought rayDir cmds).Living id →
      aabbOverlap ((s.fought rayDir cmds).players id).position position = false := by
    intro id hLive
    exact absurd (hLive.1.symm.trans ((fought_active rayDir s cmds id).trans (h id))) (by decide)
  induction n generalizing s cmds with
  | zero => exact ⟨hNow, trivial⟩
  | succ n ih =>
    have hNext : ((s.tick rayDir cmds).drainInbound []).Deserted :=
      fun id => (tick_active rayDir s cmds id).trans (h id)
    refine ⟨hNow, ih hNext ?_⟩
    intro id hLive
    exact absurd (hLive.1.symm.trans ((fought_active rayDir _ [] id).trans (hNext id))) (by decide)

theorem carrier_leaves {s : Sim} (rayDir : RayDir) (hInv : FlagInv s) (hGoing : s.matchOver = false)
    (hActive : (s.players 0).active = true) (hCarries : (s.players 0).carryingFlag = true)
    (hTeam : (s.players 0).team = .red) :
    (s.flags .blue).state ≠ .dropped ∧ ((s.fought rayDir everyoneLeaves).flags .blue).state = .dropped ∧
      (s.drainInbound everyoneLeaves).Deserted := by
  refine ⟨?_, ?_, ?_⟩
  · have hCarried := (hInv.carrying 0 hActive hCarries).2.1
    rw [hTeam] at hCarried
    exact fun hDropped => nomatch hCarried.symm.trans hDropped
  · have hFirst : everyoneLeaves = .playerLeft (idByte 0) :: (List.finRange kMaxPlayers).tail.map fun id =>
        .playerLeft (idByte id) := rfl
    have hLeft : s.applyCommand (.playerLeft (idByte 0)) = s.applyLeave (idByte 0) := by
      simp only [applyCommand, hGoing, Bool.false_eq_true, if_false]
    have hDropped := (applyLeave_dropsFlag hActive hCarries).flag
    rw [hTeam] at hDropped
    have hInv' : FlagInv (s.applyLeave (idByte 0)) := by
      rw [← hLeft]
      exact FlagInv.command (applyCommand_applied s _) hInv
    rw [hFirst, fought, movedBy, drainInbound_cons, hLeft, ← movedBy, ← fought]
    exact (fought_handled rayDir hInv' _ .blue).2.dropped (congrArg FlagInfo.state hDropped)
  · intro id
    by_contra hHere
    exact (drain_leaves _ hGoing (Bool.eq_true_of_not_eq_false hHere)).1 (List.mem_finRange id)

/-- The carrier of the blue flag leaves with all the others, and the arena stays empty. -/
theorem dropped_flag_times_out_deserted :
    (((configured 30 30 true).run eastward carryTicks).flags .blue).state ≠ .dropped ∧
    ((((configured 30 30 true).run eastward carryTicks).fought eastward everyoneLeaves).flags .blue).state = .dropped ∧
    (((configured 30 30 true).run eastward carryTicks).run eastward
        (everyoneLeaves :: List.replicate 449 [] ++ [[]])).returnsOf .blue =
      ((configured 30 30 true).run eastward carryTicks).returnsOf .blue ++
        [timeoutReturn .blue (((configured 30 30 true).run eastward carryTicks).currentTick + 450)] := by
  have hInv : FlagInv ((configured 30 30 true).run eastward carryTicks) :=
    flagInv_preserved.run eastward _ carryTicks (flagInv_init 30 30 true)
  obtain ⟨w, hw, hCarrying⟩ := carryTicks_carrying
  have hCarrier : ((configured 30 30 true).run eastward carryTicks).players 0 = { w with carryingFlag := true } :=
    congrFun hCarrying.players 0
  obtain ⟨hBefore, hDrop, hGone⟩ := carrier_leaves eastward hInv hCarrying.matchOver (by rw [hCarrier]; exact hw.active)
    (by rw [hCarrier]) (by rw [hCarrier]; exact hw.team)
  have hLength : (List.replicate 449 ([] : List InboundCommand)).length + 1 = kFlagAutoReturnTicks.toNat := by
    rw [List.length_replicate]
    decide
  have hReturned := (dropped_flag_times_out eastward 30 30 true carryTicks everyoneLeaves .blue hBefore hDrop).2
    (List.replicate 449 []) [] hLength (spared_of_deserted eastward _ 449 hGone)
  refine ⟨hBefore, hDrop, ?_⟩
  rw [run_snoc]
  exact hReturned.2.2.2.2.2

end Sim
end CaptureTheFlag
