import CaptureTheFlag.Library.Interleaving
import CaptureTheFlag.Server.FlagInvariant

/-! # Commands of different players commute

Every command is put in one form: it rewrites the slot it names, moves the player count, and drops the flag the
slot carried. Two such rewrites of different slots can only clash over a flag, and two carriers never have the
same one.
-/
namespace CaptureTheFlag
set_option autoImplicit false
open Interleaving

namespace InboundCommand

/-- The slot a command names, after the command. -/
def onSlot (p : Player) : InboundCommand → Player
  | .playerJoined _ team spawnIndex => if p.active then p else Sim.joined p team spawnIndex
  | .playerLeft _ => if p.active then {} else p
  | .playerInput _ seq input => if p.active then p.acceptInput seq input else p

/-- What a command adds to `player_count_`. -/
def countChange (p : Player) : InboundCommand → Int
  | .playerJoined _ _ _ => if p.active then 0 else 1
  | .playerLeft _ => if p.active then -1 else 0
  | .playerInput _ _ _ => 0

def drops (p : Player) : InboundCommand → Bool
  | .playerLeft _ => p.active && p.carryingFlag
  | _ => false

end InboundCommand

namespace Sim

/-- A command as a rewrite of the slot it names. -/
def rewriteSlot (s : Sim) (i : Fin kMaxPlayers) (cmd : InboundCommand) : Sim :=
  { s with
    players := Function.update s.players i (cmd.onSlot (s.players i))
    playerCount := s.playerCount + cmd.countChange (s.players i)
    flags := if cmd.drops (s.players i) then Function.update s.flags (s.players i).team.other
        { state := .dropped, position := (s.players i).position, carrierId := kNoCarrier }
      else s.flags
    dropTick := if cmd.drops (s.players i) then Function.update s.dropTick (s.players i).team.other s.currentTick
      else s.dropTick }

theorem rewriteSlot_idle {s : Sim} {i : Fin kMaxPlayers} {cmd : InboundCommand}
    (hSlot : cmd.onSlot (s.players i) = s.players i) (hCount : cmd.countChange (s.players i) = 0)
    (hKeeps : cmd.drops (s.players i) = false) : s.rewriteSlot i cmd = s := by
  simp only [rewriteSlot, hSlot, hCount, hKeeps, Function.update_eq_self, Int.add_zero, Bool.false_eq_true, if_false]

theorem applyCommand_eq_rewriteSlot {s : Sim} {i : Fin kMaxPlayers} {cmd : InboundCommand}
    (hGoing : s.matchOver = false) (hId : cmd.playerId = idByte i) : s.applyCommand cmd = s.rewriteSlot i cmd := by
  cases cmd with
  | playerJoined id team spawnIndex =>
    obtain rfl : id = idByte i := hId
    by_cases hActive : (s.players i).active = true
    · rw [rewriteSlot_idle (by simp only [InboundCommand.onSlot, hActive, if_true])
        (by simp only [InboundCommand.countChange, hActive, if_true]) rfl]
      simp only [applyCommand, applyJoin_idByte, hActive, or_true, if_true, ite_self]
    · rw [applyCommand_join s i team spawnIndex hGoing (by simpa using hActive)]
      simp only [rewriteSlot, InboundCommand.onSlot, InboundCommand.countChange, InboundCommand.drops, hActive,
        Bool.false_eq_true, if_false]
  | playerLeft id =>
    obtain rfl : id = idByte i := hId
    simp only [applyCommand, hGoing, Bool.false_eq_true, if_false, applyLeave_idByte]
    by_cases hActive : (s.players i).active = true
    · by_cases hCarries : (s.players i).carryingFlag = true
      · simp only [rewriteSlot, leaveDrop, InboundCommand.onSlot, InboundCommand.countChange, InboundCommand.drops,
          hActive, hCarries, Bool.and_self, if_true, Int.sub_eq_add_neg]
      · simp only [rewriteSlot, leaveDrop, InboundCommand.onSlot, InboundCommand.countChange, InboundCommand.drops,
          hActive, hCarries, Bool.and_false, Bool.false_eq_true, if_true, if_false, Int.sub_eq_add_neg]
    · rw [if_neg hActive, rewriteSlot_idle]
      · simp only [InboundCommand.onSlot, hActive, Bool.false_eq_true, if_false]
      · simp only [InboundCommand.countChange, hActive, Bool.false_eq_true, if_false]
      · simp only [InboundCommand.drops, hActive, Bool.false_and]
  | playerInput id seq input =>
    obtain rfl : id = idByte i := hId
    by_cases hActive : (s.players i).active = true
    · rw [applyCommand_input s i seq input hGoing hActive]
      simp only [rewriteSlot, InboundCommand.onSlot, InboundCommand.countChange, InboundCommand.drops, hActive,
        Bool.false_eq_true, if_true, if_false, Int.add_zero, setPlayer]
    · rw [rewriteSlot_idle (by simp only [InboundCommand.onSlot, hActive, Bool.false_eq_true, if_false]) rfl rfl]
      simp only [applyCommand, findPlayer_idByte, hGoing, hActive, Bool.false_eq_true, if_false]

/-- A command for a slot that does not exist is ignored, and so is every command after the match. -/
theorem applyCommand_ignored {s : Sim} {cmd : InboundCommand}
    (h : s.matchOver = true ∨ ¬ cmd.playerId.toNat < kMaxPlayers) : s.applyCommand cmd = s := by
  rcases h with hOver | hLarge
  · simp only [applyCommand, hOver, if_true]
  · have hNone := findPlayer_of_large s hLarge
    cases cmd with
    | playerJoined id team spawnIndex =>
      have hId : ¬ id.toNat < kMaxPlayers := hLarge
      simp only [applyCommand, applyJoin, hId, dite_false, ite_self]
    | playerLeft id =>
      have hId : s.findPlayer id = none := hNone
      simp only [applyCommand, applyLeave, hId, ite_self]
    | playerInput id seq input =>
      have hId : s.findPlayer id = none := hNone
      simp only [applyCommand, hId, ite_self]

theorem update_if_comm {α : Type} (f : Team → α) {a b : Team} (x y : α) {p q : Bool}
    (hApart : p = true → q = true → a ≠ b) :
    (if q then Function.update (if p then Function.update f a x else f) b y
      else (if p then Function.update f a x else f)) =
    (if p then Function.update (if q then Function.update f b y else f) a x
      else (if q then Function.update f b y else f)) := by
  cases p with
  | false => rfl
  | true =>
    cases q with
    | false => rfl
    | true => exact Function.update_comm (hApart rfl rfl).symm y x f |>.symm

theorem drops_spec {p : Player} {cmd : InboundCommand} (h : cmd.drops p = true) :
    p.active = true ∧ p.carryingFlag = true := by
  cases cmd with
  | playerJoined => cases h
  | playerLeft => exact (Bool.and_eq_true _ _).mp h
  | playerInput => cases h

theorem rewriteSlot_comm {s : Sim} (h : FlagInv s) {i j : Fin kMaxPlayers} (hne : i ≠ j) (a b : InboundCommand) :
    (s.rewriteSlot i a).rewriteSlot j b = (s.rewriteSlot j b).rewriteSlot i a := by
  have hApart : a.drops (s.players i) = true → b.drops (s.players j) = true →
      (s.players i).team.other ≠ (s.players j).team.other := by
    intro ha hb hSame
    obtain ⟨hi, hiCarries⟩ := drops_spec ha
    obtain ⟨hj, hjCarries⟩ := drops_spec hb
    have hTeam : (s.players i).team = (s.players j).team := by
      rw [← Team.other_other (s.players i).team, hSame, Team.other_other]
    exact hne (h.carrier_unique hi hiCarries hj hjCarries hTeam)
  have hPlayers := Function.update_comm hne (a.onSlot (s.players i)) (b.onSlot (s.players j)) s.players
  have hCount := Int.add_right_comm s.playerCount (a.countChange (s.players i)) (b.countChange (s.players j))
  have hFlags := fun x y => update_if_comm s.flags x y hApart
  have hTicks := fun x y => update_if_comm s.dropTick x y hApart
  simp only [rewriteSlot, Function.update_of_ne hne, Function.update_of_ne hne.symm, hPlayers, hCount, hFlags, hTicks]

theorem applyCommand_comm {s : Sim} (h : FlagInv s) {a b : InboundCommand} (hne : a.playerId ≠ b.playerId) :
    (s.applyCommand a).applyCommand b = (s.applyCommand b).applyCommand a := by
  by_cases hOver : s.matchOver = true
  · rw [applyCommand_ignored (Or.inl hOver), applyCommand_ignored (Or.inl hOver), applyCommand_ignored (Or.inl hOver)]
  have hGoing : s.matchOver = false := by simpa using hOver
  by_cases ha : a.playerId.toNat < kMaxPlayers
  · by_cases hb : b.playerId.toNat < kMaxPlayers
    · obtain ⟨i, hi⟩ := exists_idByte ha
      obtain ⟨j, hj⟩ := exists_idByte hb
      have hSlots : i ≠ j := by
        rintro rfl
        exact hne (hi.trans hj.symm)
      have hThen : ∀ k cmd, (s.rewriteSlot k cmd).matchOver = false := fun _ _ => hGoing
      rw [applyCommand_eq_rewriteSlot hGoing hi, applyCommand_eq_rewriteSlot hGoing hj,
        applyCommand_eq_rewriteSlot (hThen i a) hj, applyCommand_eq_rewriteSlot (hThen j b) hi]
      exact rewriteSlot_comm h hSlots a b
    · rw [applyCommand_ignored (Or.inr hb), applyCommand_ignored (Or.inr hb)]
  · rw [applyCommand_ignored (Or.inr ha), applyCommand_ignored (Or.inr ha)]

theorem FlagInv.drain_sameStreams {s : Sim} (h : FlagInv s) {xs ys : List InboundCommand}
    (hSame : SameStreams InboundCommand.playerId xs ys) : s.drainInbound xs = s.drainInbound ys :=
  foldl_sameStreams (fun s cmd hInv => hInv.command (applyCommand_applied s cmd))
    (fun _ _ _ hInv hne => applyCommand_comm hInv hne) hSame h

theorem drain_interleaving (rayDir : RayDir) (tickHz snapshotHz : Int) (delta : Bool)
    (ticks : List (List InboundCommand)) (xs ys : List InboundCommand)
    (hSame : SameStreams InboundCommand.playerId xs ys) :
    ((configured tickHz snapshotHz delta).run rayDir ticks).drainInbound xs =
        ((configured tickHz snapshotHz delta).run rayDir ticks).drainInbound ys ∧
      ((configured tickHz snapshotHz delta).run rayDir ticks).tick rayDir xs =
        ((configured tickHz snapshotHz delta).run rayDir ticks).tick rayDir ys := by
  have h : FlagInv ((configured tickHz snapshotHz delta).run rayDir ticks) :=
    flagInv_preserved.run rayDir _ ticks (flagInv_init tickHz snapshotHz delta)
  generalize (configured tickHz snapshotHz delta).run rayDir ticks = s at h ⊢
  have hDrain := h.drain_sameStreams hSame
  refine ⟨hDrain, ?_⟩
  simp only [Sim.tick, hDrain]

/-- Two players join and one of them leaves again, in two of the three possible orders. -/
theorem drain_interleaving_joins :
    let xs := [.playerJoined 0 .red 0, .playerJoined 1 .blue 0, .playerLeft 0]
    let ys := [.playerJoined 0 .red 0, .playerLeft 0, .playerJoined 1 .blue 0]
    SameStreams InboundCommand.playerId xs ys ∧
      ((configured 30 30 true).run (fun _ => (0, 0)) []).drainInbound xs =
        ((configured 30 30 true).run (fun _ => (0, 0)) []).drainInbound ys := by
  intro xs ys
  have hSame : SameStreams InboundCommand.playerId xs ys := by
    have hAll : ∀ k : U8, xs.filter (fun x => x.playerId = k) = ys.filter (fun y => y.playerId = k) := by
      decide +kernel
    exact hAll
  exact ⟨hSame, (drain_interleaving _ 30 30 true [] xs ys hSame).1⟩

end Sim
end CaptureTheFlag
