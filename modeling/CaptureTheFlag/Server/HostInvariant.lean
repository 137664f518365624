import CaptureTheFlag.Server.NetSteps

/-! # Registry, lobby and host

Beside the agreement of registry and lobby there is always a host among the players. What a JOIN_LOBBY does is read off
from the state before it.
-/
namespace CaptureTheFlag
set_option autoImplicit false
open Protocol Framing Relation

namespace Lobby

def Hosted (l : Lobby) : Prop := l.playerIds ≠ [] → l.hostId ∈ l.playerIds

theorem lowestId_mem {ids : List U8} (h : ids ≠ []) : lowestId ids ∈ ids := by
  match ids, h with
  | id :: ids, _ =>
    refine List.foldlRecOn (motive := fun low => low ∈ id :: ids) ids _ List.mem_cons_self ?_
    intro low hLow i hMem
    split
    · exact List.mem_cons_of_mem _ hMem
    · exact hLow

theorem Hosted.addPlayer {l l' : Lobby} {id : U8} (h : l.Hosted) (hAdd : l.addPlayer id = (.ok, l')) : l'.Hosted := by
  simp only [Lobby.addPlayer] at hAdd
  split at hAdd
  · cases hAdd
  · split at hAdd
    · cases hAdd
    · obtain rfl := (Prod.mk.inj hAdd).2
      intro _
      split
      · exact List.mem_append_right _ List.mem_cons_self
      · rename_i hMore
        refine List.mem_append_left _ (h ?_)
        rintro hNone
        simp [hNone] at hMore

/-- In the lobby the host is replaced at once; in a match the new one is derived the same way. -/
theorem Hosted.removePlayer {l : Lobby} {id : U8} (h : l.Hosted) (hNodup : l.playerIds.Nodup) :
    (l.removePlayer id).Hosted := by
  simp only [Lobby.removePlayer, promoteHost]
  split
  · rename_i hMem
    split
    · exact lowestId_mem
    · split
      · exact lowestId_mem
      · rename_i hLobby hMatch
        intro hLeft
        have hStays : id ≠ l.hostId := by
          rintro rfl
          cases hProgress : l.inProgress with
          | false => exact hLobby ⟨rfl, hLeft, hProgress⟩
          | true => exact hMatch ⟨rfl, hProgress⟩
        exact (hNodup.mem_erase_iff).mpr ⟨hStays.symm, h (List.ne_nil_of_mem hMem)⟩
  · exact h

end Lobby

namespace NetServer

theorem hosted_move {limits : Limits} {net net' : NetServer} (hWf : Wf net) (hMove : Move limits net net')
    (h : net.lobby.Hosted) : net'.lobby.Hosted := by
  cases hMove with
  | enter i e registry lobby tokenCounter _ _ _ _ _ _ _ _ _ hLobby => exact h.addPlayer hLobby
  | leave i e registry hAt hClient hSize => exact h.removePlayer hWf.nodup
  | start shuffle lobby hBegin =>
    obtain ⟨-, rfl⟩ := beginMatch_true hBegin
    exact h
  | buffer entry =>
    cases entry with
    | none => exact h
    | some e => exact h
  | _ => exact h

theorem hosted_moves {limits : Limits} {net net' : NetServer} (hWf : Wf net) (hMoves : Moves limits net net')
    (h : net.lobby.Hosted) : net'.lobby.Hosted :=
  (Chain.invariant (I := fun net => Wf net ∧ net.lobby.Hosted)
    (fun _ _ hMove hBoth => ⟨hBoth.1.move hMove, hosted_move hBoth.1 hMove hBoth.2⟩) hMoves ⟨hWf, h⟩).2

/-- The states of a run, those between two frames of one call included. -/
inductive Occurs : NetServer → Prop where
  | reached {net : NetServer} (h : Reachable net) : Occurs net
  | dispatching {net : NetServer} (h : Occurs net) (env : Env) (fd : Int) (f : Frame) (hWatched : net.watched fd = true) :
      Occurs (net.onFrame env fd f)

theorem reachable_hosted {allowed : NetServer → Event → Prop} {net : NetServer} (h : ReachableBy allowed net) :
    net.lobby.Hosted := by
  induction h with
  | start udpPort udpSilenceMs => exact fun hNone => absurd rfl hNone
  | step h event hEnabled hAllowed ih => exact hosted_moves h.wf (step_allMoves h.wf hEnabled) ih
  | drained h cmds rest hQueue ih => exact ih

theorem Occurs.consistent {net : NetServer} (h : Occurs net) : Wf net ∧ net.lobby.Hosted := by
  induction h with
  | reached h => exact ⟨h.wf, reachable_hosted h⟩
  | dispatching h env fd f hWatched ih =>
    have hMoves : Moves {} _ (onFrame env fd _ f) := onFrame_moves ih.1 trivial hWatched (fun _ _ => trivial)
    exact ⟨ih.1.moves hMoves, hosted_moves ih.1 hMoves ih.2⟩

theorem registry_consistent {net : NetServer} (h : Occurs net) :
    (∀ i e, net.registry.client i = some e → e.playerId.toNat = i) ∧
    (∀ i j e e', net.registry.client i = some e → net.registry.client j = some e' → e.tcpFd = e'.tcpFd → i = j) ∧
    net.lobby.playerIds.Nodup ∧ net.lobby.playerIds.length ≤ kMaxPlayers ∧
    (∀ id, id ∈ net.lobby.playerIds ↔ ∃ e ∈ net.registry.live, e.playerId = id) ∧
    (net.lobby.playerIds ≠ [] → net.lobby.hostId ∈ net.lobby.playerIds) ∧
    ∀ env fd msg, net.watched fd = true →
      (∀ e, net.registry.findByFd fd = some e → net.onJoinLobby env fd msg = net) ∧
      (net.registry.findByFd fd = none → (net.tryJoin env fd (nameString msg.name env.behind)).2.1 = false →
        (net.onJoinLobby env fd msg).registry.client = net.registry.client ∧
        (net.onJoinLobby env fd msg).lobby = net.lobby) ∧
      (net.registry.findByFd fd = none → (net.tryJoin env fd (nameString msg.name env.behind)).2.1 = true →
        ∃ id : U8, (net.onJoinLobby env fd msg).registry.idOf fd = some id ∧
          (net.onJoinLobby env fd msg).lobby.playerIds = net.lobby.playerIds ++ [id] ∧
          net.registry.client id.toNat = none ∧ ∀ j < id.toNat, (net.registry.client j).isSome = true) := by
  obtain ⟨hWf, hHosted⟩ := h.consistent
  refine ⟨hWf.indexed.id, hWf.indexed.distinct, hWf.nodup, hWf.roster_length, hWf.roster_live, hHosted, ?_⟩
  intro env fd msg hWatched
  refine ⟨fun e hFind => ?_, fun hNew hRejected => ?_, fun hNew hAccepted => ?_⟩
  · simp only [onJoinLobby, hFind]
  · rcases onJoinLobby_cases hWf env hWatched hNew msg with ⟨-, -, hLobby, hClient⟩ | ⟨hYes, -⟩
    · exact ⟨hClient, hLobby⟩
    · cases hRejected.symm.trans hYes
  · rcases onJoinLobby_cases hWf env hWatched hNew msg with ⟨hNo, -⟩ | ⟨-, -, hEntered⟩
    · cases hAccepted.symm.trans hNo
    · exact hEntered

def oneJoined : NetServer :=
  (({} : NetServer).step (.accept 5)).step (.readable {} 5 [.got (encode joinFrame)] [.sent 100])

theorem registry_consistent_oneJoined :
    oneJoined.lobby.playerIds = [0] ∧
      (oneJoined.lobby.playerIds ≠ [] → oneJoined.lobby.hostId ∈ oneJoined.lobby.playerIds) := by
  have hStart : Reachable {} := .start 0 _
  have hAccepted := hStart.step (.accept 5) ⟨by decide, rfl⟩ trivial
  have hJoined := hAccepted.step (.readable {} 5 [.got (encode joinFrame)] [.sent 100]) rfl trivial
  exact ⟨by decide +kernel, (registry_consistent (.reached hJoined)).2.2.2.2.2.1⟩

end NetServer
end CaptureTheFlag
