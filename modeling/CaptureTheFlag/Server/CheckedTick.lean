import CaptureTheFlag.Library.Sums
import CaptureTheFlag.Server.CheckedSim
import CaptureTheFlag.Server.PublishHistory
import CaptureTheFlag.Server.TickFrame
import Mathlib.Algebra.Order.BigOperators.Group.Finset

/-! # The tick in machine arithmetic

Commands, the inputs and the publish with every operation on signed numbers checked, and the tick made of all checked
phases. In every run the checks pass, so the unbounded integers of the model are the machine's.
-/
namespace CaptureTheFlag
set_option autoImplicit false
open Checked Relation Protocol Circular

namespace Player

/-- The head of a full ring moves on. -/
def dropOldestChecked (p : Player) : Option Player := do
  let next ← add 32 p.ringHead 1
  let ringHead ← mod 32 next kInputRingSize
  let ringHead ← ringHead.toNat?
  let ringCount ← sub 32 p.ringCount 1
  let ringCount ← ringCount.toNat?
  pure { p with ringHead, ringCount }

/-- The cell behind the last input. -/
def placeChecked (p : Player) : Option (Fin kInputRingSize) := do
  let past ← add 32 p.ringHead p.ringCount
  let place ← mod 32 past kInputRingSize
  toIndex kInputRingSize place

def appendChecked (p : Player) (seq : U32) (input : InputCmd) : Option Player := do
  let idx ← p.placeChecked
  let ringCount ← add 32 p.ringCount 1
  let ringCount ← ringCount.toNat?
  pure { p with ring := Function.update p.ring idx input, seqs := Function.update p.seqs idx seq, ringCount }

def acceptInputChecked (p : Player) (seq : U32) (input : InputCmd) : Option Player := do
  if !p.alive then pure p
  else if seq.toNat ≤ p.newestSeq.toNat then pure p
  else
    let p := { p with newestSeq := seq }
    let p ← if p.ringCount = kInputRingSize then p.dropOldestChecked else pure p
    p.appendChecked seq input

/-- The player after its turn of `pop_inputs`, and the input applied. -/
def poppedChecked (p : Player) : Option (Player × InputCmd) := do
  if p.alive ∧ p.ringCount > 0 then
    let head ← toIndex kInputRingSize p.ringHead
    let q ← { p with lastInputSeq := p.seqs head }.dropOldestChecked
    pure (q, p.ring head)
  else pure (p, {})

end Player

namespace Sim

def applyJoinChecked (s : Sim) (id : U8) (team : Team) (spawnIndex : U8) : Option Sim :=
  if s.matchOver then some s
  else if (s.findPlayer id).isSome then some s
  else if h : id.toNat < kMaxPlayers then do
    let s := s.setPlayer ⟨id.toNat, h⟩ (joined (s.players ⟨id.toNat, h⟩) team spawnIndex)
    let playerCount ← add 32 s.playerCount 1
    pure { s with playerCount }
  else some s

def applyLeaveChecked (s : Sim) (id : U8) : Option Sim :=
  match s.findPlayer id with
  | none => some s
  | some i => do
    let p := s.players i
    let s := if p.carryingFlag then
        let s := s.setFlag p.team.other { state := .dropped, position := p.position, carrierId := kNoCarrier }
        { s with dropTick := Function.update s.dropTick p.team.other s.currentTick }
      else s
    let s := s.setPlayer i {}
    let playerCount ← sub 32 s.playerCount 1
    pure { s with playerCount }

def applyCommandChecked (s : Sim) (cmd : InboundCommand) : Option Sim :=
  if s.matchOver then some s
  else match cmd with
    | .playerJoined id team spawnIndex => s.applyJoinChecked id team spawnIndex
    | .playerLeft id => s.applyLeaveChecked id
    | .playerInput id seq input =>
      match s.findPlayer id with
      | none => some s
      | some i => do
        let p ← (s.players i).acceptInputChecked seq input
        pure (s.setPlayer i p)

def drainInboundChecked (s : Sim) (cmds : List InboundCommand) : Option Sim := cmds.foldlM applyCommandChecked s

def popInputChecked (s : Sim) (id : Fin kMaxPlayers) : Option Sim := do
  let p := s.players id
  if !p.active then pure s
  else
    let (q, input) ← p.poppedChecked
    pure { s.setPlayer id q with appliedCmds := Function.update s.appliedCmds id input }

def popInputsChecked (s : Sim) : Option Sim := (List.finRange kMaxPlayers).foldlM popInputChecked s

def playerStateChecked (id : Fin kMaxPlayers) (p : Player) : Option PlayerState := do
  let health ← toWord 8 p.health
  pure { playerState id p with health }

/-- The tick is divided as an unsigned number, the quotient is signed. -/
def secondsRemainingChecked (s : Sim) : Option U16 := do
  let elapsed ← fit 32 (s.currentTick.toNat / kTickRateHz)
  let remaining ← sub 32 kMatchTimeLimitSec elapsed
  toWord 16 (if remaining > 0 then remaining else 0)

def worldSnapshotChecked (s : Sim) : Option WorldSnapshot := do
  let states ← s.activeIds.mapM fun id => playerStateChecked id (s.players id)
  let playerCount ← toWord 8 states.length
  let secondsRemaining ← s.secondsRemainingChecked
  pure { s.worldSnapshot with playerCount, secondsRemaining, players := fun n => states[n.val]?.getD {} }

def publishChecked (s : Sim) : Option Sim := do
  let snap ← s.worldSnapshotChecked
  let s := { s with
    playerAcks := fun id => if (s.players id).active then (s.players id).lastInputSeq else s.playerAcks id
    snapshot := snap }
  let every ← div 32 s.tickHz s.snapshotHz
  pure <| if every ≤ 1 ∨ s.currentTick.toNat % every.toNat = 0 then
    { s.push (s.snapshotEvent snap) with
      prevPublished := snap
      havePublished := true
      snapshotsPublished := s.snapshotsPublished + 1 }
  else s

/-- The win check compares unsigned numbers with constants. -/
def tickChecked (rayDir : RayDir) (s : Sim) (cmds : List InboundCommand) : Option Sim := do
  let s ← s.drainInboundChecked cmds
  let s ← s.popInputsChecked
  let s ← s.movePlayersChecked
  let s ← s.combatChecked rayDir
  let s ← s.flagsPhaseChecked
  let s ← s.winCheck.publishChecked
  pure { s with currentTick := s.currentTick + 1 }

end Sim

theorem fits_small {m : Nat} (h : m ≤ 1000000) : Fits 32 (m : Int) := by
  rw [fits_32]
  omega

namespace Player

/-- The head is a cell of the ring and the ring holds no more than its cells. -/
structure RingFits (p : Player) : Prop where
  head : p.ringHead < kInputRingSize
  count : p.ringCount ≤ kInputRingSize

theorem dropOldestChecked_eq {p : Player} (h : p.RingFits) (hSome : 0 < p.ringCount) :
    p.dropOldestChecked =
      some { p with ringHead := (p.ringHead + 1) % kInputRingSize, ringCount := p.ringCount - 1 } := by
  obtain ⟨hHead, hCount⟩ := h
  simp only [kInputRingSize] at hHead hCount
  have hNext : add 32 p.ringHead 1 = some ((p.ringHead + 1 : Nat) : Int) := add_nat (n := 1) (fits_small (by omega))
  have hRound : mod 32 ((p.ringHead + 1 : Nat) : Int) kInputRingSize =
      some (((p.ringHead + 1) % kInputRingSize : Nat) : Int) :=
    mod_nat (by decide) (fits_small (by simp only [kInputRingSize]; omega))
  have hLess : sub 32 p.ringCount 1 = some ((p.ringCount - 1 : Nat) : Int) := sub_nat (n := 1) hSome (fits_small (by omega))
  simp only [dropOldestChecked, Option.bind_eq_bind]
  rw [hNext, Option.bind_some, hRound, Option.bind_some, toNat?_nat, Option.bind_some, hLess, Option.bind_some,
    toNat?_nat, Option.bind_some]
  rfl

theorem placeChecked_eq {p : Player} (h : p.RingFits) :
    p.placeChecked = some (slot kInputRingSize (p.ringHead + p.ringCount)) := by
  obtain ⟨hHead, hCount⟩ := h
  simp only [kInputRingSize] at hHead hCount
  have hPast : add 32 p.ringHead p.ringCount = some ((p.ringHead + p.ringCount : Nat) : Int) :=
    add_nat (fits_small (by omega))
  have hPlace : mod 32 ((p.ringHead + p.ringCount : Nat) : Int) kInputRingSize =
      some (((p.ringHead + p.ringCount) % kInputRingSize : Nat) : Int) :=
    mod_nat (by decide) (fits_small (by simp only [kInputRingSize]; omega))
  simp only [placeChecked, Option.bind_eq_bind]
  rw [hPast, Option.bind_some, hPlace, Option.bind_some]
  exact toIndex_eq (Nat.mod_lt _ (by decide))

theorem appendChecked_eq {p : Player} (h : p.RingFits) (seq : U32) (input : InputCmd) :
    p.appendChecked seq input =
      some { p with
        ring := Function.update p.ring (slot kInputRingSize (p.ringHead + p.ringCount)) input
        seqs := Function.update p.seqs (slot kInputRingSize (p.ringHead + p.ringCount)) seq
        ringCount := p.ringCount + 1 } := by
  have hCount := h.count
  simp only [kInputRingSize] at hCount
  have hMore : add 32 p.ringCount 1 = some ((p.ringCount + 1 : Nat) : Int) := add_nat (n := 1) (fits_small (by omega))
  simp only [appendChecked, Option.bind_eq_bind]
  rw [placeChecked_eq h, Option.bind_some, hMore, Option.bind_some, toNat?_nat, Option.bind_some]
  rfl

theorem acceptInputChecked_eq {p : Player} (h : p.RingFits) (seq : U32) (input : InputCmd) :
    p.acceptInputChecked seq input = some (p.acceptInput seq input) := by
  rw [acceptInputChecked, acceptInput]
  split
  · rfl
  · split
    · rfl
    · have hNewest : RingFits { p with newestSeq := seq } := ⟨h.head, h.count⟩
      by_cases hFull : p.ringCount = kInputRingSize
      · have hDrop := dropOldestChecked_eq hNewest (by simp only [hFull]; decide)
        simp only [if_pos hFull, Option.bind_eq_bind]
        rw [hDrop, Option.bind_some]
        apply appendChecked_eq
        constructor
        · exact Nat.mod_lt _ (by decide)
        · exact Nat.le_trans (Nat.sub_le _ _) h.count
      · simp only [if_neg hFull, Option.bind_eq_bind]
        rw [Option.pure_def, Option.bind_some]
        exact appendChecked_eq hNewest seq input

theorem poppedChecked_eq {p : Player} (h : p.RingFits) : p.poppedChecked = some (p.popped, p.nextInput) := by
  rw [poppedChecked, popped, nextInput]
  split
  · rename_i hSome
    have hHead : toIndex kInputRingSize p.ringHead = some (slot kInputRingSize p.ringHead) := by
      rw [toIndex_eq h.head, slot]
      simp only [Nat.mod_eq_of_lt h.head]
    have hActed : RingFits { p with lastInputSeq := p.seqs (slot kInputRingSize p.ringHead) } := ⟨h.head, h.count⟩
    simp only [Option.bind_eq_bind]
    rw [hHead, Option.bind_some, dropOldestChecked_eq hActed hSome.2, Option.bind_some]
    rfl
  · rfl

theorem ringFits_empty : ({} : Player).RingFits := ⟨by decide, by decide⟩

theorem RingFits.accept {p : Player} (h : p.RingFits) (seq : U32) (input : InputCmd) :
    (p.acceptInput seq input).RingFits := by
  obtain ⟨hHead, hCount⟩ := h
  rw [acceptInput]
  split
  · exact ⟨hHead, hCount⟩
  · split
    · exact ⟨hHead, hCount⟩
    · by_cases hFull : p.ringCount = kInputRingSize
      · simp only [if_pos hFull]
        constructor
        · exact Nat.mod_lt _ (by decide)
        · simp only [kInputRingSize] at hFull ⊢
          omega
      · simp only [if_neg hFull]
        exact ⟨hHead, Nat.lt_of_le_of_ne hCount hFull⟩

theorem RingFits.popped {p : Player} (h : p.RingFits) : p.popped.RingFits := by
  obtain ⟨hHead, hCount⟩ := h
  rw [Player.popped]
  split
  · exact ⟨Nat.mod_lt _ (by decide), Nat.le_trans (Nat.sub_le _ _) hCount⟩
  · exact ⟨hHead, hCount⟩

end Player

namespace Sim

def inUse (players : Fin kMaxPlayers → Player) : Int := ∑ id, if (players id).active then 1 else 0

theorem inUse_range (players : Fin kMaxPlayers → Player) : 0 ≤ inUse players ∧ inUse players ≤ kMaxPlayers := by
  constructor
  · apply Finset.sum_nonneg
    intro id _
    split <;> decide
  · have hEach : ∀ id ∈ Finset.univ, (if (players id).active then 1 else 0) ≤ (1 : Int) := by
      intro id _
      split <;> decide
    have hSum := Finset.sum_le_card_nsmul _ _ _ hEach
    rw [Finset.card_univ, Fintype.card_fin, nsmul_one] at hSum
    exact hSum

theorem inUse_update (players : Fin kMaxPlayers → Player) (id : Fin kMaxPlayers) (p : Player) :
    inUse (Function.update players id p) =
      inUse players - (if (players id).active then 1 else 0) + (if p.active then 1 else 0) :=
  Sums.sum_update (fun q : Player => if q.active then (1 : Int) else 0) players id p

theorem inUse_congr {players players' : Fin kMaxPlayers → Player}
    (h : ∀ id, (players' id).active = (players id).active) :
    inUse players' = inUse players := by
  simp only [inUse, h]

structure Sized (s : Sim) : Prop where
  rings : ∀ id, (s.players id).RingFits
  count : s.playerCount = inUse s.players
  tickHz : 0 < s.tickHz ∧ s.tickHz < 2147483648
  snapshotHz : 0 < s.snapshotHz

theorem Sized.player {s s' : Sim} (h : Sized s) (id : Fin kMaxPlayers) {p : Player}
    (hPlayers : s'.players = Function.update s.players id p) (hRing : p.RingFits)
    (hCount : s'.playerCount =
      s.playerCount - (if (s.players id).active then 1 else 0) + (if p.active then 1 else 0))
    (hRates : s'.tickHz = s.tickHz ∧ s'.snapshotHz = s.snapshotHz) : Sized s' := by
  constructor
  · intro i
    rw [hPlayers]
    by_cases hi : i = id
    · rw [hi, Function.update_self]
      exact hRing
    · rw [Function.update_of_ne hi]
      exact h.rings i
  · rw [hCount, hPlayers, inUse_update, h.count]
  · rw [hRates.1]
    exact h.tickHz
  · rw [hRates.2]
    exact h.snapshotHz

theorem Sized.congr {s s' : Sim} (h : Sized s) (hActive : ∀ id, (s'.players id).active = (s.players id).active)
    (hRings : ∀ id, (s'.players id).RingFits) (hCount : s'.playerCount = s.playerCount)
    (hRates : s'.tickHz = s.tickHz ∧ s'.snapshotHz = s.snapshotHz) : Sized s' := by
  constructor
  · exact hRings
  · rw [hCount, inUse_congr hActive, h.count]
  · rw [hRates.1]
    exact h.tickHz
  · rw [hRates.2]
    exact h.snapshotHz

theorem Sized.frame {s s' : Sim} (h : Sized s) (hFrame : Frame s s') (hCount : s'.playerCount = s.playerCount) :
    Sized s' := by
  apply h.congr
  · intro id
    exact (hFrame.inputs id).active
  · intro id
    constructor
    · rw [(hFrame.inputs id).ringHead]
      exact (h.rings id).head
    · rw [(hFrame.inputs id).ringCount]
      exact (h.rings id).count
  · exact hCount
  · exact ⟨hFrame.publisher.tickHz, hFrame.publisher.snapshotHz⟩

theorem leaveDrop_same (s : Sim) (id : Fin kMaxPlayers) :
    (s.leaveDrop id).tickHz = s.tickHz ∧ (s.leaveDrop id).snapshotHz = s.snapshotHz := by
  rw [leaveDrop]
  split <;> exact ⟨rfl, rfl⟩

theorem sized_preserved : Preserved Sized where
  command s cmd s' hApplied h := by
    cases hApplied with
    | ignored => exact h
    | join id team spawnIndex hGoing hFree =>
      apply h.player id rfl
      · exact ⟨Player.ringFits_empty.head, Player.ringFits_empty.count⟩
      · simp [hFree, joined]
      · exact ⟨rfl, rfl⟩
    | leave id hGoing hActive =>
      apply h.player id rfl Player.ringFits_empty
      · simp [hActive]
      · exact leaveDrop_same s id
    | input id seq input hGoing hActive =>
      apply h.player id rfl ((h.rings id).accept seq input)
      · simp [(acceptInput_sameLife (s.players id) seq input).active]
      · exact ⟨rfl, rfl⟩
  pop s h := by
    rw [popInputs_eq]
    apply h.congr
    · intro id
      simp only
      split
      · exact (popped_sameLife _).active
      · rfl
    · intro id
      simp only
      split
      · exact (h.rings id).popped
      · exact h.rings id
    · rfl
    · exact ⟨rfl, rfl⟩
  move s h := by
    rw [movePlayers_eq]
    apply h.congr
    · intro id
      simp only
      split <;> rfl
    · intro id
      simp only
      split
      · exact ⟨(h.rings id).head, (h.rings id).count⟩
      · exact h.rings id
    · rfl
    · exact ⟨rfl, rfl⟩
  combat s s' hChange h := h.frame (Frame.combat hChange) (by cases hChange <;> rfl)
  flags s s' hChange h := h.frame (Frame.flags hChange) (by cases hChange <;> rfl)
  respawn s s' hChange h := h.frame (Frame.respawn hChange) (by cases hChange <;> rfl)
  win s h := by
    apply h.frame (Frame.win s)
    simp only [winCheck]
    split
    · rfl
    · split <;> rfl
  publish s h := by
    rw [publish]
    split
    · exact h.congr (fun _ => rfl) h.rings rfl ⟨rfl, rfl⟩
    · exact h.congr (fun _ => rfl) h.rings rfl ⟨rfl, rfl⟩
  clock s t h := h.congr (fun _ => rfl) h.rings rfl ⟨rfl, rfl⟩

theorem fits_count {s : Sim} (h : Sized s) {count : Int}
    (hNear : s.playerCount - 1 ≤ count ∧ count ≤ s.playerCount + 1) : Fits 32 count := by
  have hRange := inUse_range s.players
  rw [← h.count] at hRange
  simp only [kMaxPlayers] at hRange
  exact (fits_wide (by omega) (by omega)).2

theorem applyJoinChecked_eq {s : Sim} (h : Sized s) (id : U8) (team : Team) (spawnIndex : U8) :
    s.applyJoinChecked id team spawnIndex = some (s.applyJoin id team spawnIndex) := by
  have hCount : add 32 s.playerCount 1 = some (s.playerCount + 1) := add_eq (fits_count h (by omega))
  rw [applyJoinChecked, applyJoin]
  split
  · rfl
  · split
    · rfl
    · split
      · simp only [setPlayer, hCount, Option.bind_eq_bind, Option.bind_some]
        rfl
      · rfl

theorem applyLeaveChecked_eq {s : Sim} (h : Sized s) (id : U8) :
    s.applyLeaveChecked id = some (s.applyLeave id) := by
  have hCount : sub 32 s.playerCount 1 = some (s.playerCount - 1) := sub_eq (fits_count h (by omega))
  rw [applyLeaveChecked, applyLeave]
  cases s.findPlayer id with
  | none => rfl
  | some i =>
    by_cases hCarries : (s.players i).carryingFlag = true
    · simp only [if_pos hCarries, setPlayer, setFlag, hCount, Option.bind_eq_bind, Option.bind_some]
      rfl
    · simp only [if_neg hCarries, setPlayer, hCount, Option.bind_eq_bind, Option.bind_some]
      rfl

theorem applyCommandChecked_eq {s : Sim} (h : Sized s) (cmd : InboundCommand) :
    s.applyCommandChecked cmd = some (s.applyCommand cmd) := by
  by_cases hOver : s.matchOver = true
  · simp only [applyCommandChecked, applyCommand, if_pos hOver]
  · cases cmd with
    | playerJoined id team spawnIndex =>
      simp only [applyCommandChecked, applyCommand, if_neg hOver]
      exact applyJoinChecked_eq h id team spawnIndex
    | playerLeft id =>
      simp only [applyCommandChecked, applyCommand, if_neg hOver]
      exact applyLeaveChecked_eq h id
    | playerInput id seq input =>
      simp only [applyCommandChecked, applyCommand, if_neg hOver]
      cases s.findPlayer id with
      | none => rfl
      | some i =>
        simp only [Player.acceptInputChecked_eq (h.rings i), Option.bind_eq_bind, Option.bind_some]
        rfl

theorem drainInboundChecked_eq {s : Sim} (h : Sized s) (cmds : List InboundCommand) :
    s.drainInboundChecked cmds = some (s.drainInbound cmds) := by
  apply foldlM_eq (I := Sized)
  · intro s cmd h
    exact applyCommandChecked_eq h cmd
  · intro s cmd h
    exact sized_preserved.command s cmd _ (applyCommand_applied s cmd) h
  · exact h

theorem popInputChecked_eq {s : Sim} (h : ∀ id, (s.players id).RingFits) (id : Fin kMaxPlayers) :
    s.popInputChecked id = some (s.popInput id) := by
  rw [popInputChecked, popInput]
  split
  · rfl
  · simp only [Player.poppedChecked_eq (h id), Option.bind_eq_bind, Option.bind_some]
    rfl

theorem popInput_rings {s : Sim} (h : ∀ id, (s.players id).RingFits) (id i : Fin kMaxPlayers) :
    ((s.popInput id).players i).RingFits := by
  rw [popInput]
  split
  · exact h i
  · simp only [setPlayer]
    by_cases hi : i = id
    · rw [hi, Function.update_self]
      exact (h id).popped
    · rw [Function.update_of_ne hi]
      exact h i

theorem popInputsChecked_eq {s : Sim} (h : Sized s) : s.popInputsChecked = some s.popInputs := by
  apply foldlM_eq (I := fun s => ∀ id, (s.players id).RingFits)
  · intro s id h
    exact popInputChecked_eq h id
  · intro s id h i
    exact popInput_rings h id i
  · exact h.rings

theorem playerStateChecked_eq {s : Sim} (h : InRange s) (id : Fin kMaxPlayers) :
    playerStateChecked id (s.players id) = some (playerState id (s.players id)) := by
  have hHealth := h.health id
  simp only [kMaxHealth] at hHealth
  simp only [playerStateChecked, toWord_eq (w := 8) (a := (s.players id).health) (by omega), Option.bind_eq_bind,
    Option.bind_some]
  rfl

theorem secondsRemainingChecked_eq (s : Sim) : s.secondsRemainingChecked = some s.worldSnapshot.secondsRemaining := by
  have hElapsed : 0 ≤ (s.currentTick.toNat : Int) / kTickRateHz ∧ (s.currentTick.toNat : Int) / kTickRateHz < 143165577 := by
    have hTick := s.currentTick.isLt
    simp only [kTickRateHz]
    omega
  have hFit : fit 32 ((s.currentTick.toNat : Int) / kTickRateHz) = some ((s.currentTick.toNat : Int) / kTickRateHz) := by
    apply fit_eq
    rw [fits_32]
    omega
  have hLess : sub 32 kMatchTimeLimitSec ((s.currentTick.toNat : Int) / kTickRateHz) =
      some (kMatchTimeLimitSec - (s.currentTick.toNat : Int) / kTickRateHz) := by
    apply sub_eq
    rw [fits_32]
    simp only [kMatchTimeLimitSec]
    omega
  simp only [secondsRemainingChecked, Option.bind_eq_bind]
  rw [hFit, Option.bind_some, hLess, Option.bind_some]
  apply toWord_eq
  simp only [kMatchTimeLimitSec]
  split <;> omega

theorem worldSnapshotChecked_eq {s : Sim} (h : InRange s) : s.worldSnapshotChecked = some s.worldSnapshot := by
  have hStates : (s.activeIds.mapM fun id => playerStateChecked id (s.players id)) =
      some (s.activeIds.map fun id => playerState id (s.players id)) := mapM_eq _ (playerStateChecked_eq h)
  have hLength := length_activeIds s
  have hCount : toWord 8 ((s.activeIds.map fun id => playerState id (s.players id)).length : Int) =
      some (BitVec.ofNat 8 s.activeIds.length) := by
    rw [List.length_map, toWord_eq (by omega), BitVec.ofInt_natCast]
  have hPlayers : (fun n : Fin kMaxPlayers => (s.activeIds.map fun id => playerState id (s.players id))[n.val]?.getD {}) =
      s.worldSnapshot.players := by
    funext n
    simp only [List.getElem?_map, worldSnapshot]
    cases s.activeIds[n.val]? with
    | none => rfl
    | some id => rfl
  simp only [worldSnapshotChecked, Option.bind_eq_bind]
  rw [hStates, Option.bind_some, hCount, Option.bind_some, secondsRemainingChecked_eq, Option.bind_some, hPlayers]
  rfl

theorem publishChecked_eq {s : Sim} (hRange : InRange s) (h : Sized s) : s.publishChecked = some s.publish := by
  have hSnapshotHz := h.snapshotHz
  have hFits : Fits 32 s.snapshotDiv := by
    have hLess : s.snapshotDiv.natAbs ≤ s.tickHz.natAbs := Int.natAbs_tdiv_le_natAbs _ _
    have hTickHz := h.tickHz
    rw [fits_32]
    omega
  have hDiv : div 32 s.tickHz s.snapshotHz = some s.snapshotDiv := div_eq (by omega) hFits
  simp only [publishChecked, Option.bind_eq_bind]
  rw [worldSnapshotChecked_eq hRange, Option.bind_some, hDiv, Option.bind_some]
  simp only [publish, publishDue, decide_eq_true_eq]
  rfl

theorem tickChecked_eq {rayDir : RayDir}
    (hDir : ∀ aim, (-1024 ≤ (rayDir aim).1 ∧ (rayDir aim).1 ≤ 1024) ∧ -1024 ≤ (rayDir aim).2 ∧ (rayDir aim).2 ≤ 1024)
    {s : Sim} (hRange : InRange s) (hSized : Sized s) (hLife : AllLife s) (cmds : List InboundCommand) :
    s.tickChecked rayDir cmds = some (s.tick rayDir cmds) := by
  have hDrained : InRange (s.drainInbound cmds) := drainInbound_invariant inRange_preserved.command s cmds hRange
  have hSized' : Sized (s.drainInbound cmds) := drainInbound_invariant sized_preserved.command s cmds hSized
  have hPopped : InRange (s.drainInbound cmds).popInputs := inRange_preserved.pop _ hDrained
  have hMoved : InRange (s.movedBy cmds) := inRange_preserved.move _ hPopped
  have hChanges := combat_changes rayDir (s.movedBy cmds)
  have hFought : InRange ((s.movedBy cmds).combat rayDir) := Chain.invariant inRange_preserved.combat hChanges hMoved
  have hKeeps : ∀ s s', CombatChange True s s' → Awaiting s → Awaiting s' := fun _ _ => Awaiting.combat
  have hAwaiting : Awaiting ((s.movedBy cmds).combat rayDir) :=
    Chain.invariant hKeeps hChanges (hLife.movedBy cmds).awaiting
  have hMoves : (s.drainInbound cmds).popInputs.movePlayersChecked = some (s.movedBy cmds) :=
    movePlayersChecked_eq hPopped.arena
  have hPlayed : InRange ((s.movedBy cmds).combat rayDir).flagsPhase := inRange_preserved.phases rayDir s cmds hRange
  have hPlayed' : Sized ((s.movedBy cmds).combat rayDir).flagsPhase := sized_preserved.phases rayDir s cmds hSized
  have hPublish := publishChecked_eq (inRange_preserved.win _ hPlayed) (sized_preserved.win _ hPlayed')
  simp only [tickChecked, Option.bind_eq_bind]
  rw [drainInboundChecked_eq hSized, Option.bind_some, popInputsChecked_eq hSized', Option.bind_some, hMoves,
    Option.bind_some, combatChecked_eq hDir hMoved, Option.bind_some, flagsPhaseChecked_eq hFought hAwaiting,
    Option.bind_some, hPublish, Option.bind_some]
  rfl

theorem configured_inRange (tickHz snapshotHz : Int) (delta : Bool) : InRange (configured tickHz snapshotHz delta) := by
  have hEmpty : ∀ id, ((configured tickHz snapshotHz delta).players id).health = kMaxHealth ∧
      ((configured tickHz snapshotHz delta).players id).fireCooldown = 0 ∧
        ((configured tickHz snapshotHz delta).players id).respawnTimer = 0 := fun id => ⟨rfl, rfl, rfl⟩
  refine ⟨configured_inArena tickHz snapshotHz delta, fun team _ => onWire_base team, ?_, ?_, ?_⟩
  · intro id
    rw [(hEmpty id).1]
    exact full_health
  · intro id
    rw [(hEmpty id).2.1]
    exact nothing_left.1
  · intro id
    rw [(hEmpty id).2.2]
    exact nothing_left.2

theorem configured_sized {tickHz snapshotHz : Int} (hHz : Fits 32 tickHz) (delta : Bool) :
    Sized (configured tickHz snapshotHz delta) := by
  have hRate : ∀ hz : Int, Fits 32 hz →
      0 < (if hz > 0 then hz else kTickRateHz) ∧ (if hz > 0 then hz else kTickRateHz) < 2147483648 := by
    intro hz hFits
    rw [fits_32] at hFits
    simp only [kTickRateHz]
    split <;> omega
  constructor
  · exact fun id => Player.ringFits_empty
  · rfl
  · exact hRate tickHz hHz
  · have hPositive : 0 < (if snapshotHz > 0 then snapshotHz else kTickRateHz) := by
      simp only [kTickRateHz]
      split <;> omega
    exact hPositive

/-- No operation of any run leaves its type. -/
theorem run_checked {rayDir : RayDir}
    (hDir : ∀ aim, (-1024 ≤ (rayDir aim).1 ∧ (rayDir aim).1 ≤ 1024) ∧ -1024 ≤ (rayDir aim).2 ∧ (rayDir aim).2 ≤ 1024)
    {tickHz snapshotHz : Int} (hHz : Fits 32 tickHz) (delta : Bool) (ticks : List (List InboundCommand)) :
    ticks.foldlM (tickChecked rayDir) (configured tickHz snapshotHz delta) =
      some ((configured tickHz snapshotHz delta).run rayDir ticks) := by
  apply foldlM_eq (I := fun s => InRange s ∧ Sized s ∧ AllLife s)
  · rintro s cmds ⟨hRange, hSized, hLife⟩
    exact tickChecked_eq hDir hRange hSized hLife cmds
  · rintro s cmds ⟨hRange, hSized, hLife⟩
    exact ⟨inRange_preserved.tick rayDir s cmds hRange, sized_preserved.tick rayDir s cmds hSized,
      hLife.tick rayDir cmds⟩
  · exact ⟨configured_inRange tickHz snapshotHz delta, configured_sized hHz delta,
      allLife_run rayDir tickHz snapshotHz delta []⟩

theorem run_checked_fire :
    [[.playerJoined 0 .red 0, .playerInput 0 1 { buttons := kInputFire }], []].foldlM (tickChecked fun _ => (1024, 0))
        (configured 60 20 true) =
      some ((configured 60 20 true).run (fun _ => (1024, 0))
        [[.playerJoined 0 .red 0, .playerInput 0 1 { buttons := kInputFire }], []]) :=
  run_checked (fun _ => by decide) (by decide) true _

end Sim
end CaptureTheFlag
