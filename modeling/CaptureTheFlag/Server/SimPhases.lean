import CaptureTheFlag.Server.SimChange

/-! # What the other phases do

Commands touch one slot each; the pop and move loops treat every slot on its own, so both have a closed
form.
-/
namespace CaptureTheFlag
set_option autoImplicit false

namespace Sim

/-- The state after a carried flag is dropped by a leaving player; no event is pushed. -/
def leaveDrop (s : Sim) (id : Fin kMaxPlayers) : Sim :=
  if (s.players id).carryingFlag then
    { s with
      flags := Function.update s.flags (s.players id).team.other
        { state := .dropped, position := (s.players id).position, carrierId := kNoCarrier }
      dropTick := Function.update s.dropTick (s.players id).team.other s.currentTick }
  else s

inductive Applied (s : Sim) : InboundCommand → Sim → Prop where
  | ignored (cmd : InboundCommand) : Applied s cmd s
  | join (id : Fin kMaxPlayers) (team : Team) (spawnIndex : U8) (hGoing : s.matchOver = false)
      (hFree : (s.players id).active = false) :
      Applied s (.playerJoined (idByte id) team spawnIndex)
        { s with
          players := Function.update s.players id (joined (s.players id) team spawnIndex)
          playerCount := s.playerCount + 1 }
  | leave (id : Fin kMaxPlayers) (hGoing : s.matchOver = false) (hActive : (s.players id).active = true) :
      Applied s (.playerLeft (idByte id))
        { s.leaveDrop id with players := Function.update s.players id {}, playerCount := s.playerCount - 1 }
  | input (id : Fin kMaxPlayers) (seq : U32) (input : InputCmd) (hGoing : s.matchOver = false)
      (hActive : (s.players id).active = true) :
      Applied s (.playerInput (idByte id) seq input)
        { s with players := Function.update s.players id ((s.players id).acceptInput seq input) }

theorem findPlayer_idByte (s : Sim) (id : Fin kMaxPlayers) :
    s.findPlayer (idByte id) = if (s.players id).active then some id else none := by
  by_cases h : (s.players id).active = true
  · rw [if_pos h, findPlayer_eq_some]
    exact ⟨rfl, h⟩
  · rw [if_neg h, Option.eq_none_iff_forall_ne_some]
    intro i hi
    obtain ⟨hId, hActive⟩ := findPlayer_eq_some.mp hi
    exact h (idByte_inj hId ▸ hActive)

theorem exists_idByte {id : U8} (h : id.toNat < kMaxPlayers) : ∃ i, id = idByte i :=
  ⟨⟨id.toNat, h⟩, BitVec.eq_of_toNat_eq (by simp)⟩

theorem findPlayer_of_large (s : Sim) {id : U8} (h : ¬ id.toNat < kMaxPlayers) : s.findPlayer id = none := by
  simp only [findPlayer, h, dite_false]

theorem applyJoin_idByte (s : Sim) (id : Fin kMaxPlayers) (team : Team) (spawnIndex : U8) :
    s.applyJoin (idByte id) team spawnIndex =
      if s.matchOver ∨ (s.players id).active then s
      else { s with
        players := Function.update s.players id (joined (s.players id) team spawnIndex)
        playerCount := s.playerCount + 1 } := by
  have hSlot : (⟨(idByte id).toNat, by simp⟩ : Fin kMaxPlayers) = id := Fin.ext (toNat_idByte id)
  have hLt : (idByte id).toNat < kMaxPlayers := by simp
  simp only [applyJoin, findPlayer_idByte, hSlot, hLt, dite_true]
  by_cases hOver : s.matchOver = true
  · simp [hOver]
  · by_cases hActive : (s.players id).active = true
    · simp [hActive]
    · simp [hOver, hActive, setPlayer]

theorem applyLeave_idByte (s : Sim) (id : Fin kMaxPlayers) :
    s.applyLeave (idByte id) =
      if (s.players id).active then
        { s.leaveDrop id with players := Function.update s.players id {}, playerCount := s.playerCount - 1 }
      else s := by
  simp only [applyLeave, findPlayer_idByte]
  by_cases hActive : (s.players id).active = true
  · by_cases hCarries : (s.players id).carryingFlag = true
    · simp [hActive, hCarries, leaveDrop, setFlag, setPlayer]
    · simp [hActive, hCarries, leaveDrop, setPlayer]
  · simp [hActive]

/-- Everything a command can do. -/
theorem applyCommand_applied (s : Sim) (cmd : InboundCommand) : Applied s cmd (s.applyCommand cmd) := by
  simp only [applyCommand]
  by_cases hOver : s.matchOver = true
  · rw [if_pos hOver]
    exact .ignored cmd
  · rw [if_neg hOver]
    have hGoing : s.matchOver = false := by simpa using hOver
    cases cmd with
    | playerJoined id team spawnIndex =>
      by_cases hLt : id.toNat < kMaxPlayers
      · obtain ⟨i, rfl⟩ := exists_idByte hLt
        simp only [applyJoin_idByte]
        split
        · exact .ignored _
        · rename_i hFree
          exact .join i team spawnIndex hGoing (by simpa [hGoing] using hFree)
      · simp only [applyJoin, findPlayer_of_large s hLt, hLt, dite_false, Option.isSome_none, ite_self]
        exact .ignored _
    | playerLeft id =>
      by_cases hLt : id.toNat < kMaxPlayers
      · obtain ⟨i, rfl⟩ := exists_idByte hLt
        simp only [applyLeave_idByte]
        split
        · exact .leave _ hGoing ‹_›
        · exact .ignored _
      · simp only [applyLeave, findPlayer_of_large s hLt]
        exact .ignored _
    | playerInput id seq input =>
      by_cases hLt : id.toNat < kMaxPlayers
      · obtain ⟨i, rfl⟩ := exists_idByte hLt
        by_cases hActive : (s.players i).active = true
        · simp only [findPlayer_idByte, hActive, if_true]
          exact .input i seq input hGoing hActive
        · simp only [findPlayer_idByte, hActive]
          exact .ignored _
      · simp only [findPlayer_of_large s hLt]
        exact .ignored _

theorem applyCommand_matchOver (s : Sim) (cmd : InboundCommand) : (s.applyCommand cmd).matchOver = s.matchOver := by
  have hApplied := applyCommand_applied s cmd
  generalize s.applyCommand cmd = s' at hApplied ⊢
  cases hApplied with
  | ignored => rfl
  | join => rfl
  | leave id =>
    simp only [leaveDrop]
    split <;> rfl
  | input => rfl

/-- A command reaches the slot it names and no other. -/
theorem applyCommand_other (s : Sim) {cmd : InboundCommand} {id : Fin kMaxPlayers} (hOther : cmd.playerId ≠ idByte id) :
    (s.applyCommand cmd).players id = s.players id := by
  have hUpdate : ∀ (i : Fin kMaxPlayers) (p : Player), idByte i ≠ idByte id →
      Function.update s.players i p id = s.players id :=
    fun i p hne => Function.update_of_ne (fun h => hne (by rw [h])) _ _
  have hApplied := applyCommand_applied s cmd
  generalize s.applyCommand cmd = s' at hApplied ⊢
  cases hApplied with
  | ignored => rfl
  | join i => exact hUpdate i _ hOther
  | leave i => exact hUpdate i _ hOther
  | input i => exact hUpdate i _ hOther

theorem applyCommand_join (s : Sim) (id : Fin kMaxPlayers) (team : Team) (spawnIndex : U8)
    (hGoing : s.matchOver = false) (hFree : (s.players id).active = false) :
    s.applyCommand (.playerJoined (idByte id) team spawnIndex) =
      { s with
        players := Function.update s.players id (joined (s.players id) team spawnIndex)
        playerCount := s.playerCount + 1 } := by
  simp only [applyCommand, hGoing, Bool.false_eq_true, if_false, applyJoin_idByte, hFree, or_self]

theorem applyCommand_input (s : Sim) (id : Fin kMaxPlayers) (seq : U32) (input : InputCmd)
    (hGoing : s.matchOver = false) (hActive : (s.players id).active = true) :
    s.applyCommand (.playerInput (idByte id) seq input) =
      s.setPlayer id ((s.players id).acceptInput seq input) := by
  simp only [applyCommand, hGoing, Bool.false_eq_true, if_false, findPlayer_idByte, hActive, if_true]

theorem drainInbound_cons (s : Sim) (cmd : InboundCommand) (cmds : List InboundCommand) :
    s.drainInbound (cmd :: cmds) = (s.applyCommand cmd).drainInbound cmds := List.foldl_cons ..

theorem drainInbound_invariant {I : Sim → Prop} (hStep : ∀ s cmd s', Applied s cmd s' → I s → I s')
    (s : Sim) (cmds : List InboundCommand) (hInit : I s) : I (s.drainInbound cmds) :=
  Chain.foldl_invariant (fun s cmd => hStep s cmd _ (applyCommand_applied s cmd)) cmds s hInit

theorem foldl_popInput (is : List (Fin kMaxPlayers)) (hNodup : is.Nodup) (s : Sim) :
    is.foldl popInput s =
      { s with
        players := fun i => if i ∈ is ∧ (s.players i).active then (s.players i).popped else s.players i
        appliedCmds := fun i => if i ∈ is ∧ (s.players i).active then (s.players i).nextInput
          else s.appliedCmds i } := by
  induction is generalizing s with
  | nil => simp
  | cons i is ih =>
    obtain ⟨hNotMem, hNodup⟩ := List.nodup_cons.mp hNodup
    rw [List.foldl_cons, ih hNodup]
    by_cases hActive : (s.players i).active = true
    · simp only [popInput, hActive, Bool.not_true, Bool.false_eq_true, if_false, setPlayer]
      congr 1 <;> funext j <;> by_cases hj : j = i <;> simp_all
    · simp only [popInput, hActive, Bool.not_false, if_true]
      congr 1 <;> funext j <;> by_cases hj : j = i <;> simp_all

theorem popInputs_eq (s : Sim) :
    s.popInputs =
      { s with
        players := fun i => if (s.players i).active then (s.players i).popped else s.players i
        appliedCmds := fun i => if (s.players i).active then (s.players i).nextInput else s.appliedCmds i } := by
  simp [popInputs, foldl_popInput _ (List.nodup_finRange _)]

theorem foldl_movePlayer (is : List (Fin kMaxPlayers)) (hNodup : is.Nodup) (s : Sim) :
    is.foldl movePlayer s =
      { s with
        players := fun i => if i ∈ is ∧ (s.players i).active ∧ (s.players i).alive
          then (s.players i).moved (s.appliedCmds i) else s.players i } := by
  induction is generalizing s with
  | nil => simp
  | cons i is ih =>
    obtain ⟨hNotMem, hNodup⟩ := List.nodup_cons.mp hNodup
    rw [List.foldl_cons, ih hNodup]
    by_cases hLive : (s.players i).active = true ∧ (s.players i).alive = true
    · simp only [movePlayer, hLive, Bool.not_true, Bool.or_self, Bool.false_eq_true, if_false, setPlayer]
      congr 1 ; funext j ; by_cases hj : j = i <;> simp_all
    · have hSkip : (!(s.players i).active || !(s.players i).alive) = true := by
        cases hA : (s.players i).active <;> cases hB : (s.players i).alive <;> simp_all
      simp only [movePlayer, hSkip, if_true]
      congr 1 ; funext j ; by_cases hj : j = i <;> simp_all

theorem movePlayers_eq (s : Sim) :
    s.movePlayers =
      { s with
        players := fun i => if (s.players i).active ∧ (s.players i).alive
          then (s.players i).moved (s.appliedCmds i) else s.players i } := by
  simp [movePlayers, foldl_movePlayer _ (List.nodup_finRange _)]

/-- The phases after movement. -/
def finish (rayDir : RayDir) (s : Sim) : Sim :=
  let s := (((s.combat rayDir).flagsPhase).winCheck).publish
  { s with currentTick := s.currentTick + 1 }

theorem tick_eq_finish (rayDir : RayDir) (s : Sim) (cmds : List InboundCommand) :
    s.tick rayDir cmds = (s.drainInbound cmds).popInputs.movePlayers.finish rayDir := rfl

/-- A property that every phase of a tick keeps. -/
structure Preserved (I : Sim → Prop) : Prop where
  command : ∀ s cmd s', Applied s cmd s' → I s → I s'
  pop : ∀ s, I s → I s.popInputs
  move : ∀ s, I s → I s.movePlayers
  combat : ∀ s s', CombatChange True s s' → I s → I s'
  flags : ∀ s s', FlagChange s s' → I s → I s'
  respawn : ∀ s s', RespawnChange s s' → I s → I s'
  win : ∀ s, I s → I s.winCheck
  publish : ∀ s, I s → I s.publish
  clock : ∀ s t, I s → I { s with currentTick := t }

theorem Preserved.moved {I : Sim → Prop} (h : Preserved I) (s : Sim) (cmds : List InboundCommand) (hInit : I s) :
    I (s.drainInbound cmds).popInputs.movePlayers :=
  h.move _ (h.pop _ (drainInbound_invariant h.command s cmds hInit))

theorem Preserved.phases {I : Sim → Prop} (h : Preserved I) (rayDir : RayDir) (s : Sim) (cmds : List InboundCommand)
    (hInit : I s) : I ((s.drainInbound cmds).popInputs.movePlayers.combat rayDir).flagsPhase := by
  have hCombat := Chain.invariant h.combat (combat_changes rayDir _) (h.moved s cmds hInit)
  have hTouch := Chain.invariant h.flags (touchPhase_changes _) hCombat
  rw [flagsPhase_eq]
  exact Chain.invariant h.respawn (respawnPhase_changes _) hTouch

theorem Preserved.tick {I : Sim → Prop} (h : Preserved I) (rayDir : RayDir) (s : Sim)
    (cmds : List InboundCommand) (hInit : I s) : I (s.tick rayDir cmds) :=
  h.clock _ _ (h.publish _ (h.win _ (h.phases rayDir s cmds hInit)))

theorem Preserved.run {I : Sim → Prop} (h : Preserved I) (rayDir : RayDir) (s : Sim)
    (ticks : List (List InboundCommand)) (hInit : I s) : I (s.run rayDir ticks) :=
  Chain.foldl_invariant (fun s cmds => h.tick rayDir s cmds) ticks s hInit

end Sim
end CaptureTheFlag
