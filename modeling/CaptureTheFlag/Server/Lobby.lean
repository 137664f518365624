import Mathlib
import CaptureTheFlag.Shared.GameTypes

/-! # Lobby roster and match flow -/
namespace CaptureTheFlag
set_option autoImplicit false

inductive JoinResult where
  | ok
  | full
  | inProgress
deriving DecidableEq, Repr

/-- What is known of `std::shuffle`: it rearranges. -/
structure Shuffle where
  run : List U8 → List U8
  perm : ∀ ids, (run ids).Perm ids

structure Lobby where
  playerIds : List U8 := []
  hostId : U8 := 0
  inProgress : Bool := false
deriving DecidableEq, Repr

namespace Lobby

def addPlayer (l : Lobby) (playerId : U8) : JoinResult × Lobby :=
  if l.inProgress then (.inProgress, l)
  else if l.playerIds.length ≥ kMaxPlayers ∨ playerId ∈ l.playerIds then (.full, l)
  else
    let l := { l with playerIds := l.playerIds ++ [playerId] }
    -- First joiner is host.
    (.ok, if l.playerIds.length = 1 then { l with hostId := playerId } else l)

def Open (l : Lobby) : Prop := l.inProgress = false ∧ l.playerIds.length < kMaxPlayers

/-- `min_element` of the roster, 0 if it is empty. -/
def lowestId : List U8 → U8
  | [] => 0
  | id :: ids => ids.foldl (fun low i => if i.toNat < low.toNat then i else low) id

def promoteHost (l : Lobby) : Lobby := { l with hostId := lowestId l.playerIds }

def removePlayer (l : Lobby) (playerId : U8) : Lobby :=
  if playerId ∈ l.playerIds then
    let wasHost := playerId = l.hostId
    let l := { l with playerIds := l.playerIds.erase playerId }
    if wasHost ∧ l.playerIds ≠ [] ∧ l.inProgress = false then l.promoteHost
    else if wasHost ∧ l.inProgress = true then { l with hostId := lowestId l.playerIds }
    else l
  else l

def canIssueStart (l : Lobby) (playerId : U8) : Bool := !l.inProgress && playerId == l.hostId

def beginMatch (l : Lobby) : Bool × Lobby :=
  if l.inProgress ∨ l.playerIds.length < 2 then (false, l) else (true, { l with inProgress := true })

/-- Red takes the even positions of the shuffled roster, blue the odd ones. -/
def assignTeams (l : Lobby) (shuffle : Shuffle) : List U8 × List U8 :=
  let shuffled := (shuffle.run l.playerIds).zipIdx
  ((shuffled.filter fun p => p.2 % 2 = 0).map Prod.fst, (shuffled.filter fun p => !(p.2 % 2 = 0)).map Prod.fst)

theorem addPlayer_open {l : Lobby} {playerId : U8} (hNew : playerId ∉ l.playerIds) :
    (l.addPlayer playerId).1 = .ok ↔ l.Open := by
  rw [addPlayer, Open]
  cases l.inProgress with
  | true => simp
  | false =>
    simp only [Bool.false_eq_true, if_false, hNew, or_false, true_and]
    split
    · simp
      omega
    · simp
      omega

theorem assignTeams_perm (l : Lobby) (shuffle : Shuffle) :
    ((l.assignTeams shuffle).1 ++ (l.assignTeams shuffle).2).Perm l.playerIds := by
  have hSplit := List.filter_append_perm (fun p : U8 × Nat => decide (p.2 % 2 = 0)) (shuffle.run l.playerIds).zipIdx
  have hNames := (hSplit.map Prod.fst).trans (by rw [List.zipIdx_map_fst])
  rw [List.map_append] at hNames
  exact hNames.trans (shuffle.perm l.playerIds)

theorem removePlayer_inProgress (l : Lobby) (playerId : U8) :
    (l.removePlayer playerId).inProgress = l.inProgress := by
  simp only [removePlayer, promoteHost]
  split
  · split
    · rfl
    · split <;> rfl
  · rfl

theorem removePlayer_playerIds (l : Lobby) (playerId : U8) :
    (l.removePlayer playerId).playerIds = l.playerIds.erase playerId := by
  simp only [removePlayer, promoteHost]
  split
  · split
    · rfl
    · split <;> rfl
  · exact (List.erase_of_not_mem ‹_›).symm

end Lobby
end CaptureTheFlag
