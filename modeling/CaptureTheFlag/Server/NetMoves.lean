import CaptureTheFlag.Library.Chain
import CaptureTheFlag.Server.NetServer
import CaptureTheFlag.Server.RegistryView

/-! # What the network thread can do

Every reaction of the poll loop is a chain of moves within limits.
-/
namespace CaptureTheFlag
set_option autoImplicit false
open Protocol Framing Relation

def InboundCommand.IsInput : InboundCommand → Prop
  | .playerInput _ _ _ => True
  | _ => False

namespace NetServer

/-- The part of an entry that UDP traffic leaves alone. -/
def core (e : ClientEntry) : U8 × Int × List U8 := (e.playerId, e.tcpFd, e.pendingOut)

/-- The commands that `begin_match_and_notify` pushes. -/
def matchSetup (lobby : Lobby) (shuffle : Shuffle) : MatchSetup :=
  (({} : MatchSetup).addSide (lobby.assignTeams shuffle).1 .red).addSide (lobby.assignTeams shuffle).2 .blue

structure Limits where
  /-- What may be written straight to a socket: the bytes it has accepted so far, the frame, how much of it is taken. -/
  writes : List U8 → Frame → Nat → Prop := fun _ _ _ => True
  /-- Whose connection may be opened, entered into the registry or read. -/
  serves : Int → Prop := fun _ => True

inductive Move (limits : Limits) (net : NetServer) : NetServer → Prop where
  | touch (registry : ClientRegistry) (inputs : List InboundCommand) (lastSilenceCheckMs tokenCounter : U32)
      (answers : List SendResult) (datagrams : List (SockAddr × List U8))
      (hSame : ∀ i, (registry.client i).map core = (net.registry.client i).map core)
      (hSize : registry.storage.length ≤ kMaxPlayers) (hInputs : ∀ cmd ∈ inputs, cmd.IsInput) :
      Move limits net
        { net with
          registry, inbound := net.inbound ++ inputs, lastSilenceCheckMs, tokenCounter, answers, datagrams }
  | broadcast (f : Frame) (hFits : f.payload.length < 2 ^ 16) :
      Move limits net (net.broadcastPayload (f.type :: f.payload))
  | write (fd : Int) (f : Frame) (n : Nat) (answers : List SendResult) (hFits : f.payload.length < 2 ^ 16)
      (hWrites : limits.writes (net.wire fd) f n) :
      Move limits net
        { net with
          wire := Function.update net.wire fd (net.wire fd ++ (encode f).take n)
          addressed := Function.update net.addressed fd (net.addressed fd ++ [f])
          answers }
  | flush (i : Nat) (e : ClientEntry) (n : Nat) (registry : ClientRegistry) (answers : List SendResult)
      (hAt : net.registry.client i = some e)
      (hClient : registry.client =
        Function.update net.registry.client i (some { e with pendingOut := e.pendingOut.drop n }))
      (hSize : registry.storage.length ≤ kMaxPlayers) :
      Move limits net
        { net with
          registry
          wire := Function.update net.wire e.tcpFd (net.wire e.tcpFd ++ e.pendingOut.take n)
          answers }
  | enter (i : Nat) (e : ClientEntry) (registry : ClientRegistry) (lobby : Lobby) (tokenCounter : U32)
      (hServes : limits.serves e.tcpFd) (hFd : 0 ≤ e.tcpFd) (hWatched : net.watched e.tcpFd = true)
      (hNew : net.registry.findByFd e.tcpFd = none) (hFree : net.registry.client i = none)
      (hId : e.playerId.toNat = i) (hPending : e.pendingOut = [])
      (hClient : registry.client = Function.update net.registry.client i (some e))
      (hSize : registry.storage.length ≤ kMaxPlayers) (hLobby : net.lobby.addPlayer e.playerId = (.ok, lobby)) :
      Move limits net { net with registry, lobby, tokenCounter }
  | leave (i : Nat) (e : ClientEntry) (registry : ClientRegistry) (hAt : net.registry.client i = some e)
      (hClient : registry.client = Function.update net.registry.client i none)
      (hSize : registry.storage.length ≤ kMaxPlayers) :
      Move limits net
        { net.closeUnregistered e.tcpFd with
          registry
          lobby := net.lobby.removePlayer e.playerId
          tcpIn := Function.update net.tcpIn e.playerId []
          inbound := if net.lobby.inProgress then net.inbound ++ [.playerLeft e.playerId] else net.inbound }
  | start (shuffle : Shuffle) (lobby : Lobby) (hBegin : net.lobby.beginMatch = (true, lobby)) :
      Move limits net { net with lobby, inbound := net.inbound ++ (matchSetup lobby shuffle).commands }
  | accept (fd : Int) (hServes : limits.serves fd) (hFd : 0 ≤ fd) (hNew : net.watched fd = false) :
      Move limits net (net.acceptClient fd)
  | close (fd : Int) (hNone : net.registry.findByFd fd = none) : Move limits net (net.closeUnregistered fd)
  | buffer (entry : Option ClientEntry) (fd : Int) (bytes : List U8) (hServes : limits.serves fd)
      (hFd : net.watched fd = true)
      (hEntry : ∀ e ∈ entry, ∃ e', net.registry.findByFd fd = some e' ∧ e'.playerId = e.playerId) :
      Move limits net (net.setAccum entry fd bytes)

abbrev Moves (limits : Limits) : NetServer → NetServer → Prop := ReflTransGen (Move limits)

structure Wf (net : NetServer) : Prop where
  indexed : net.registry.Indexed
  opened : ∀ fd, net.watched fd = true → 0 ≤ fd
  watched : ∀ i e, net.registry.client i = some e → net.watched e.tcpFd = true
  idle : ∀ id : U8, net.registry.client id.toNat = none → net.tcpIn id = []
  closed : ∀ fd, net.watched fd = false → net.preJoin fd = []
  nodup : net.lobby.playerIds.Nodup
  roster : ∀ id : U8, id ∈ net.lobby.playerIds ↔ (net.registry.client id.toNat).isSome = true

theorem Wf.init : Wf {} := by
  have hNone : ∀ i, ({} : NetServer).registry.client i = none := fun i => rfl
  refine ⟨⟨Nat.zero_le _, ?_, ?_, ?_⟩, ?_, ?_, fun _ _ => rfl, fun _ _ => rfl, List.nodup_nil, ?_⟩
  · intro i e h
    cases (hNone i).symm.trans h
  · intro i e h
    cases (hNone i).symm.trans h
  · intro i j e e' h
    cases (hNone i).symm.trans h
  · intro fd h
    cases h
  · intro i e h
    cases (hNone i).symm.trans h
  · intro id
    simp [hNone]

def SameKeys (r r' : ClientRegistry) : Prop :=
  ∀ i, (r'.client i).map (fun e => (e.playerId, e.tcpFd)) = (r.client i).map (fun e => (e.playerId, e.tcpFd))

theorem sameKeys_of_core {r r' : ClientRegistry} (h : ∀ i, (r'.client i).map core = (r.client i).map core) :
    SameKeys r r' := by
  intro i
  have hCore := congrArg (Option.map fun k : U8 × Int × List U8 => (k.1, k.2.1)) (h i)
  rwa [Option.map_map, Option.map_map] at hCore

theorem SameKeys.client {r r' : ClientRegistry} (h : SameKeys r r') {i : Nat} {e : ClientEntry}
    (hAt : r'.client i = some e) : ∃ e', r.client i = some e' ∧ e'.playerId = e.playerId ∧ e'.tcpFd = e.tcpFd := by
  have hKey := h i
  rw [hAt, Option.map_some] at hKey
  obtain ⟨e', hAt', hEq⟩ := Option.map_eq_some_iff.mp hKey.symm
  exact ⟨e', hAt', (Prod.mk.inj hEq).1, (Prod.mk.inj hEq).2⟩

theorem SameKeys.isSome {r r' : ClientRegistry} (h : SameKeys r r') (i : Nat) :
    (r'.client i).isSome = (r.client i).isSome := by
  simpa using congrArg Option.isSome (h i)

theorem SameKeys.indexed {r r' : ClientRegistry} (h : SameKeys r r') (hIndexed : r.Indexed)
    (hSize : r'.storage.length ≤ kMaxPlayers) : r'.Indexed := by
  refine ⟨hSize, ?_, ?_, ?_⟩
  · intro i e hAt
    obtain ⟨e', hAt', hId, -⟩ := h.client hAt
    rw [← hId]
    exact hIndexed.id i e' hAt'
  · intro i e hAt
    obtain ⟨e', hAt', -, hFd⟩ := h.client hAt
    rw [← hFd]
    exact hIndexed.fd i e' hAt'
  · intro i j e f hAt hAtJ hEq
    obtain ⟨e', hAt', -, hFd⟩ := h.client hAt
    obtain ⟨f', hAtJ', -, hFdJ⟩ := h.client hAtJ
    exact hIndexed.distinct i j e' f' hAt' hAtJ' (by rw [hFd, hFdJ, hEq])

theorem SameKeys.findByFd {r r' : ClientRegistry} (h : SameKeys r r') {fd : Int} (hFd : 0 ≤ fd)
    (hNone : r.findByFd fd = none) : r'.findByFd fd = none := by
  cases hFind : r'.findByFd fd with
  | none => rfl
  | some e =>
    obtain ⟨hEq, i, hAt⟩ := ClientRegistry.findByFd_some hFd hFind
    obtain ⟨e', hAt', -, hFd'⟩ := h.client hAt
    exact absurd (hFd'.trans hEq) (ClientRegistry.findByFd_none hNone hAt')

theorem SameKeys.idOf {r r' : ClientRegistry} (h : SameKeys r r') (hIndexed : r.Indexed) (hIndexed' : r'.Indexed)
    {fd : Int} (hFd : 0 ≤ fd) : r'.idOf fd = r.idOf fd := by
  refine ClientRegistry.idOf_congr hIndexed hIndexed' hFd fun i => ?_
  constructor
  · rintro ⟨e, hAt, hEq⟩
    obtain ⟨e', hAt', -, hFd'⟩ := h.client hAt
    exact ⟨e', hAt', hFd'.trans hEq⟩
  · rintro ⟨e, hAt, hEq⟩
    have hBack : SameKeys r' r := fun j => (h j).symm
    obtain ⟨e', hAt', -, hFd'⟩ := hBack.client hAt
    exact ⟨e', hAt', hFd'.trans hEq⟩

theorem Wf.congr {net net' : NetServer} (h : Wf net) (hKeys : SameKeys net.registry net'.registry)
    (hSize : net'.registry.storage.length ≤ kMaxPlayers) (hLobby : net'.lobby = net.lobby)
    (hTcpIn : net'.tcpIn = net.tcpIn) (hPreJoin : net'.preJoin = net.preJoin) (hWatched : net'.watched = net.watched) :
    Wf net' := by
  refine ⟨hKeys.indexed h.indexed hSize, ?_, ?_, ?_, ?_, ?_, ?_⟩
  · rw [hWatched]
    exact h.opened
  · intro i e hAt
    obtain ⟨e', hAt', -, hFd⟩ := hKeys.client hAt
    rw [hWatched, ← hFd]
    exact h.watched i e' hAt'
  · intro id hNone
    rw [hTcpIn]
    refine h.idle id (Option.isSome_eq_false_iff.mp ?_ |> Option.isNone_iff_eq_none.mp)
    rw [← hKeys.isSome, hNone]
    rfl
  · rw [hWatched, hPreJoin]
    exact h.closed
  · rw [hLobby]
    exact h.nodup
  · intro id
    rw [hLobby, hKeys.isSome]
    exact h.roster id

theorem sameKeys_broadcast {r : ClientRegistry} (h : r.Indexed) (payload : List U8) :
    SameKeys r (r.broadcastTcpEvent payload) := by
  intro i
  rw [ClientRegistry.client_broadcastTcpEvent h, Option.map_map]
  rfl

theorem sameKeys_update {r r' : ClientRegistry} {i : Nat} {e e' : ClientEntry} (hAt : r.client i = some e)
    (hClient : r'.client = Function.update r.client i (some e')) (hId : e'.playerId = e.playerId)
    (hFd : e'.tcpFd = e.tcpFd) : SameKeys r r' := by
  intro j
  rw [hClient]
  by_cases hj : j = i
  · subst hj
    rw [Function.update_self, hAt, Option.map_some, Option.map_some, hId, hFd]
  · rw [Function.update_of_ne hj]

theorem addPlayer_ok {l l' : Lobby} {id : U8} (h : l.addPlayer id = (.ok, l')) :
    l.inProgress = false ∧ l'.inProgress = false ∧ id ∉ l.playerIds ∧ l'.playerIds = l.playerIds ++ [id] := by
  simp only [Lobby.addPlayer] at h
  split at h
  · cases h
  · rename_i hLobby
    split at h
    · cases h
    · rename_i hRoom
      have hOut : l.inProgress = false := by simpa using hLobby
      refine ⟨hOut, ?_, fun hMem => hRoom (Or.inr hMem), ?_⟩
      · rw [← (Prod.mk.inj h).2]
        split <;> exact hOut
      · rw [← (Prod.mk.inj h).2]
        split <;> rfl

theorem beginMatch_true {l l' : Lobby} (h : l.beginMatch = (true, l')) :
    l.inProgress = false ∧ l' = { l with inProgress := true } := by
  simp only [Lobby.beginMatch] at h
  split at h
  · cases h
  · rename_i hReady
    refine ⟨?_, (Prod.mk.inj h).2.symm⟩
    simp only [not_or] at hReady
    simpa using hReady.1

theorem Wf.enter {net : NetServer} (h : Wf net) {i : Nat} {e : ClientEntry} {registry : ClientRegistry} {lobby : Lobby}
    (tokenCounter : U32) (hFd : 0 ≤ e.tcpFd) (hWatched : net.watched e.tcpFd = true)
    (hNew : net.registry.findByFd e.tcpFd = none) (hFree : net.registry.client i = none) (hId : e.playerId.toNat = i)
    (hClient : registry.client = Function.update net.registry.client i (some e))
    (hSize : registry.storage.length ≤ kMaxPlayers) (hLobby : net.lobby.addPlayer e.playerId = (.ok, lobby)) :
    Wf { net with registry, lobby, tokenCounter } := by
  obtain ⟨-, -, hAbsent, hIds⟩ := addPlayer_ok hLobby
  refine ⟨h.indexed.enter hFd hNew hId hClient hSize, h.opened, ?_, ?_, h.closed, ?_, ?_⟩
  · intro j e' hAt
    rcases ClientRegistry.client_entered hClient hAt with ⟨rfl, rfl⟩ | ⟨-, hOld⟩
    · exact hWatched
    · exact h.watched j e' hOld
  · intro id hNone
    rw [hClient] at hNone
    by_cases hj : id.toNat = i
    · rw [hj, Function.update_self] at hNone
      cases hNone
    · rw [Function.update_of_ne hj] at hNone
      exact h.idle id hNone
  · rw [hIds]
    exact List.nodup_append.mpr ⟨h.nodup, List.nodup_singleton _, fun a ha b hb hEq => by
      rw [List.mem_singleton] at hb
      subst hb
      subst hEq
      exact hAbsent ha⟩
  · intro id
    rw [hIds, List.mem_append, List.mem_singleton, hClient, h.roster id]
    by_cases hj : id.toNat = i
    · rw [hj, Function.update_self, hFree]
      simp only [Option.isSome_none, Bool.false_eq_true, false_or, Option.isSome_some, iff_true]
      exact BitVec.eq_of_toNat_eq (hj.trans hId.symm)
    · rw [Function.update_of_ne hj]
      have hne : id ≠ e.playerId := fun hEq => hj (by rw [hEq]; exact hId)
      simp only [hne, or_false]

theorem Wf.leave {net : NetServer} (h : Wf net) {i : Nat} {e : ClientEntry} {registry : ClientRegistry}
    (inbound : List InboundCommand) (hAt : net.registry.client i = some e)
    (hClient : registry.client = Function.update net.registry.client i none)
    (hSize : registry.storage.length ≤ kMaxPlayers) :
    Wf { net.closeUnregistered e.tcpFd with
      registry
      lobby := net.lobby.removePlayer e.playerId
      tcpIn := Function.update net.tcpIn e.playerId []
      inbound } := by
  have hId := h.indexed.id i e hAt
  have hOther : ∀ j e', registry.client j = some e' → e'.tcpFd ≠ e.tcpFd := by
    intro j e' hAt' hEq
    obtain ⟨hj, hOld⟩ := ClientRegistry.client_left hClient hAt'
    exact hj (h.indexed.distinct j i e' e hOld hAt hEq)
  refine ⟨h.indexed.leave hClient hSize, ?_, ?_, ?_, ?_, ?_, ?_⟩
  · intro fd hWatched
    simp only [closeUnregistered] at hWatched
    by_cases hEq : fd = e.tcpFd
    · subst hEq
      simp at hWatched
    · rw [Function.update_of_ne hEq] at hWatched
      exact h.opened fd hWatched
  · intro j e' hAt'
    simp only [closeUnregistered]
    rw [Function.update_of_ne (hOther j e' hAt')]
    exact h.watched j e' (ClientRegistry.client_left hClient hAt').2
  · intro id hNone
    simp only at hNone ⊢
    by_cases hEq : id = e.playerId
    · rw [hEq, Function.update_self]
    · rw [Function.update_of_ne hEq]
      refine h.idle id ?_
      rw [hClient, Function.update_of_ne] at hNone
      · exact hNone
      · exact fun hNat => hEq (BitVec.eq_of_toNat_eq (hNat.trans hId.symm))
  · intro fd hWatched
    simp only [closeUnregistered] at hWatched ⊢
    by_cases hEq : fd = e.tcpFd
    · rw [hEq, Function.update_self]
    · rw [Function.update_of_ne hEq] at hWatched ⊢
      exact h.closed fd hWatched
  · rw [Lobby.removePlayer_playerIds]
    exact h.nodup.erase _
  · intro id
    simp only
    rw [Lobby.removePlayer_playerIds, h.nodup.mem_erase_iff, h.roster id, hClient]
    by_cases hj : id.toNat = i
    · rw [hj, Function.update_self]
      have hEq : id = e.playerId := BitVec.eq_of_toNat_eq (hj.trans hId.symm)
      simp [hEq]
    · rw [Function.update_of_ne hj]
      have hne : id ≠ e.playerId := fun hEq => hj (by rw [hEq]; exact hId)
      simp [hne]

theorem Wf.roster_lt {net : NetServer} (h : Wf net) {id : U8} (hMem : id ∈ net.lobby.playerIds) :
    id.toNat < kMaxPlayers := by
  obtain ⟨e, hAt⟩ := Option.isSome_iff_exists.mp ((h.roster id).mp hMem)
  exact h.indexed.slot_lt hAt

theorem Wf.roster_length {net : NetServer} (h : Wf net) : net.lobby.playerIds.length ≤ kMaxPlayers := by
  have hNodup : (net.lobby.playerIds.map BitVec.toNat).Nodup := h.nodup.map fun _ _ hEq => BitVec.eq_of_toNat_eq hEq
  have hSubset : net.lobby.playerIds.map BitVec.toNat ⊆ List.range kMaxPlayers := by
    intro n hMem
    obtain ⟨id, hId, rfl⟩ := List.mem_map.mp hMem
    exact List.mem_range.mpr (h.roster_lt hId)
  have hLe := (List.subperm_of_subset hNodup hSubset).length_le
  rwa [List.length_map, List.length_range] at hLe

theorem Wf.roster_live {net : NetServer} (h : Wf net) (id : U8) :
    id ∈ net.lobby.playerIds ↔ ∃ e ∈ net.registry.live, e.playerId = id := by
  rw [h.roster id]
  constructor
  · intro hSome
    obtain ⟨e, hAt⟩ := Option.isSome_iff_exists.mp hSome
    exact ⟨e, h.indexed.mem_live hAt, BitVec.eq_of_toNat_eq (h.indexed.id _ e hAt)⟩
  · rintro ⟨e, hLive, rfl⟩
    obtain ⟨i, hAt⟩ := ClientRegistry.mem_live hLive
    rw [h.indexed.id i e hAt, hAt]
    rfl

theorem Wf.roster_full {net : NetServer} (h : Wf net)
    (hTaken : ∀ i < kMaxPlayers, (net.registry.client i).isSome = true) : net.lobby.playerIds.length = kMaxPlayers := by
  refine Nat.le_antisymm h.roster_length ?_
  have hNodup : ((List.range kMaxPlayers).map (BitVec.ofNat 8)).Nodup := by decide
  have hSubset : (List.range kMaxPlayers).map (BitVec.ofNat 8) ⊆ net.lobby.playerIds := by
    intro id hMem
    obtain ⟨i, hi, rfl⟩ := List.mem_map.mp hMem
    rw [List.mem_range] at hi
    rw [h.roster, BitVec.toNat_ofNat, Nat.mod_eq_of_lt (by simp only [kMaxPlayers] at hi; omega)]
    exact hTaken i hi
  simpa using (List.subperm_of_subset hNodup hSubset).length_le

theorem Wf.accept {net : NetServer} (h : Wf net) {fd : Int} (hFd : 0 ≤ fd) : Wf (net.acceptClient fd) := by
  refine { h with opened := ?_, watched := ?_, closed := ?_ }
  · intro fd' hWatched
    simp only [acceptClient] at hWatched
    by_cases hEq : fd' = fd
    · rw [hEq]
      exact hFd
    · rw [Function.update_of_ne hEq] at hWatched
      exact h.opened fd' hWatched
  · intro i e hAt
    simp only [acceptClient]
    by_cases hEq : e.tcpFd = fd
    · rw [hEq, Function.update_self]
    · rw [Function.update_of_ne hEq]
      exact h.watched i e hAt
  · intro fd' hWatched
    simp only [acceptClient] at hWatched ⊢
    by_cases hEq : fd' = fd
    · rw [hEq, Function.update_self] at hWatched
      cases hWatched
    · rw [Function.update_of_ne hEq] at hWatched
      exact h.closed fd' hWatched

theorem Wf.close {net : NetServer} (h : Wf net) {fd : Int} (hNone : net.registry.findByFd fd = none) :
    Wf (net.closeUnregistered fd) := by
  refine { h with opened := ?_, watched := ?_, closed := ?_ }
  · intro fd' hWatched
    simp only [closeUnregistered] at hWatched
    by_cases hEq : fd' = fd
    · rw [hEq, Function.update_self] at hWatched
      cases hWatched
    · rw [Function.update_of_ne hEq] at hWatched
      exact h.opened fd' hWatched
  · intro i e hAt
    simp only [closeUnregistered]
    rw [Function.update_of_ne (ClientRegistry.findByFd_none hNone hAt)]
    exact h.watched i e hAt
  · intro fd' hWatched
    simp only [closeUnregistered] at hWatched ⊢
    by_cases hEq : fd' = fd
    · rw [hEq, Function.update_self]
    · rw [Function.update_of_ne hEq] at hWatched ⊢
      exact h.closed fd' hWatched

theorem Wf.buffer {net : NetServer} (h : Wf net) {entry : Option ClientEntry} {fd : Int} (bytes : List U8)
    (hFd : net.watched fd = true)
    (hEntry : ∀ e ∈ entry, ∃ e', net.registry.findByFd fd = some e' ∧ e'.playerId = e.playerId) :
    Wf (net.setAccum entry fd bytes) := by
  cases entry with
  | some e =>
    refine { h with idle := ?_ }
    intro id hNone
    simp only [setAccum] at hNone ⊢
    by_cases hEq : id = e.playerId
    · obtain ⟨e', hFind, hId⟩ := hEntry e rfl
      obtain ⟨-, i, hAt⟩ := ClientRegistry.findByFd_some (h.opened fd hFd) hFind
      have hSlot := h.indexed.id i e' hAt
      rw [hId, ← hEq] at hSlot
      rw [hSlot, hAt] at hNone
      cases hNone
    · rw [Function.update_of_ne hEq]
      exact h.idle id hNone
  | none =>
    refine { h with closed := ?_ }
    intro fd' hWatched
    simp only [setAccum] at hWatched ⊢
    by_cases hEq : fd' = fd
    · rw [hEq, hFd] at hWatched
      cases hWatched
    · rw [Function.update_of_ne hEq]
      exact h.closed fd' hWatched

theorem Wf.move {limits : Limits} {net net' : NetServer} (h : Wf net)
    (hMove : Move limits net net') : Wf net' := by
  cases hMove with
  | touch registry inputs _ _ _ _ hSame hSize =>
    exact h.congr (sameKeys_of_core hSame) hSize rfl rfl rfl rfl
  | broadcast f =>
    refine h.congr (sameKeys_broadcast h.indexed _) ?_ rfl rfl rfl rfl
    rw [broadcastPayload, ClientRegistry.length_broadcastTcpEvent]
    exact h.indexed.size
  | write fd f n => exact h.congr (fun _ => rfl) h.indexed.size rfl rfl rfl rfl
  | flush i e n registry answers hAt hClient hSize =>
    exact h.congr (sameKeys_update hAt hClient rfl rfl) hSize rfl rfl rfl rfl
  | enter i e registry lobby tokenCounter hServes hFd hWatched hNew hFree hId hPending hClient hSize hLobby =>
    exact h.enter tokenCounter hFd hWatched hNew hFree hId hClient hSize hLobby
  | leave i e registry hAt hClient hSize => exact h.leave _ hAt hClient hSize
  | start shuffle lobby hBegin =>
    obtain ⟨-, rfl⟩ := beginMatch_true hBegin
    exact { h with }
  | accept fd hServes hFd hNew => exact h.accept hFd
  | close fd hNone => exact h.close hNone
  | buffer entry fd bytes hServes hFd hEntry => exact h.buffer bytes hFd hEntry

theorem Wf.moves {limits : Limits} {net net' : NetServer} (h : Wf net)
    (hMoves : Moves limits net net') : Wf net' :=
  Chain.invariant (I := Wf) (fun _ _ hMove hWf => hWf.move hMove) hMoves h

end NetServer
end CaptureTheFlag
