import CaptureTheFlag.Server.IdleLobby
import CaptureTheFlag.Server.Roster
import CaptureTheFlag.Shared.MessageBytes

/-! # What GAME_START promises

Team and place of every player are worked out once for the message and once for the commands, and each side looks up
the spawn point for itself.
-/
namespace CaptureTheFlag
set_option autoImplicit false
open Protocol Framing

structure Listed where
  id : U8
  team : Team
  spawn : Vec2Fixed
deriving DecidableEq, Repr

namespace Protocol.MsgGameStart

def listed (msg : MsgGameStart) : List Listed :=
  (firstSlots msg.playerCount.toNat).map fun i => ⟨msg.ids i, msg.teams i, msg.spawnPoints i⟩

end Protocol.MsgGameStart

/-- How a player and its place in the side are listed. -/
def listing (team : Team) (p : U8 × Nat) : Listed :=
  ⟨p.1, team, if h : p.2 < kMaxPlayers then spawnPoint team ⟨p.2, h⟩ else {}⟩

theorem addPlayer_listed (team : Team) (p : U8 × Nat) {setup : MatchSetup}
    (hRoom : setup.gs.playerCount.toNat < kMaxPlayers) :
    (setup.addPlayer team p).gs.listed = setup.gs.listed ++ [listing team p] := by
  simp only [MatchSetup.addPlayer, hRoom, dite_true, MsgGameStart.listed, toNat_count_succ hRoom]
  rw [map_firstSlots_succ hRoom fun i hne => by simp only [Function.update_of_ne hne]; rfl]
  simp only [Function.update_self, listing]

theorem foldl_addPlayer_listed (team : Team) (ps : List (U8 × Nat)) (setup : MatchSetup)
    (hRoom : setup.gs.playerCount.toNat + ps.length ≤ kMaxPlayers) :
    (ps.foldl (MatchSetup.addPlayer team) setup).gs.listed = setup.gs.listed ++ ps.map (listing team) := by
  induction ps generalizing setup with
  | nil => simp
  | cons p ps ih =>
    rw [List.length_cons] at hRoom
    obtain ⟨-, hCount⟩ := foldl_addPlayer team [p] setup (by rw [List.length_singleton]; omega)
    rw [List.foldl_cons, List.foldl_nil, List.length_singleton] at hCount
    rw [List.foldl_cons, ih (setup.addPlayer team p) (by omega), addPlayer_listed team p (by omega), List.map_cons,
      List.append_assoc]
    rfl

/-- The message lists the two sides one after the other, each in the order of its spawn points. -/
theorem matchSetup_listed (lobby : Lobby) (shuffle : Shuffle) (hRoom : lobby.playerIds.length ≤ kMaxPlayers) :
    (NetServer.matchSetup lobby shuffle).gs.listed =
      (lobby.assignTeams shuffle).1.zipIdx.map (listing .red) ++
        (lobby.assignTeams shuffle).2.zipIdx.map (listing .blue) ∧
    (NetServer.matchSetup lobby shuffle).gs.playerCount.toNat = lobby.playerIds.length := by
  obtain ⟨hRedRoom, hTotal⟩ := matchSetup_rooms lobby shuffle hRoom
  have hBlueRoom := hTotal.trans_le hRoom
  constructor
  · rw [NetServer.matchSetup, MatchSetup.addSide, foldl_addPlayer_listed .blue _ _ hBlueRoom, MatchSetup.addSide,
      foldl_addPlayer_listed .red _ _ hRedRoom]
    rfl
  · rw [NetServer.matchSetup, MatchSetup.addSide, (foldl_addPlayer .blue _ _ hBlueRoom).2]
    exact hTotal

theorem length_even_places (ids : List U8) (k : Nat) :
    ((ids.zipIdx k).filter fun p => p.2 % 2 = 0).length = (ids.length + 1 - k % 2) / 2 := by
  induction ids generalizing k with
  | nil =>
    simp only [List.zipIdx_nil, List.filter_nil, List.length_nil]
    omega
  | cons id ids ih =>
    rw [List.zipIdx_cons, List.filter_cons, List.length_cons]
    by_cases hEven : k % 2 = 0
    · rw [if_pos (by simpa using hEven), List.length_cons, ih]
      omega
    · rw [if_neg (by simpa using hEven), ih]
      omega

theorem assignTeams_balanced (lobby : Lobby) (shuffle : Shuffle) :
    (lobby.assignTeams shuffle).2.length ≤ (lobby.assignTeams shuffle).1.length ∧
      (lobby.assignTeams shuffle).1.length ≤ (lobby.assignTeams shuffle).2.length + 1 := by
  have hLen := (lobby.assignTeams_perm shuffle).length_eq
  have hRed : (lobby.assignTeams shuffle).1.length = (lobby.playerIds.length + 1) / 2 := by
    rw [Lobby.assignTeams, List.length_map, length_even_places, (shuffle.perm lobby.playerIds).length_eq]
    rfl
  rw [List.length_append] at hLen
  omega

theorem spawnPoint_injective (team : Team) : ∀ i j, spawnPoint team i = spawnPoint team j → i = j := by
  cases team <;> decide +kernel

/-- Spawn points are whole pixels and keep their value on the wire. -/
theorem wireVec2_spawnPoint (team : Team) (i : Fin kMaxPlayers) : wireVec2 (spawnPoint team i) = spawnPoint team i := by
  revert i
  cases team <;> decide +kernel

theorem listing_spawn (team : Team) {p : U8 × Nat} (h : p.2 < kMaxPlayers) :
    (listing team p).spawn = spawnPoint team ⟨p.2, h⟩ := dif_pos h

theorem listing_apart (team : Team) {ids : List U8} (hRoom : ids.length ≤ kMaxPlayers) :
    (ids.zipIdx.map (listing team)).Pairwise fun a b => a.team = b.team → a.spawn ≠ b.spawn := by
  rw [List.pairwise_map, List.pairwise_iff_getElem]
  intro i j hi hj hLt _ hSame
  rw [List.length_zipIdx] at hi hj
  rw [List.getElem_zipIdx, List.getElem_zipIdx, listing_spawn team (show 0 + i < kMaxPlayers by omega),
    listing_spawn team (show 0 + j < kMaxPlayers by omega)] at hSame
  have hPlace := congrArg Fin.val (spawnPoint_injective team _ _ hSame)
  simp only at hPlace
  omega

theorem wireGameStart_listed (msg : MsgGameStart) :
    (wireGameStart msg).listed = msg.listed.map fun e => { e with spawn := wireVec2 e.spawn } := by
  simp only [MsgGameStart.listed, wireGameStart, List.map_map]
  refine List.map_congr_left fun i hMem => ?_
  simp only [if_pos hMem, Function.comp_apply]

theorem listing_wire (team : Team) (p : U8 × Nat) :
    { listing team p with spawn := wireVec2 (listing team p).spawn } = listing team p := by
  have hSpawn : wireVec2 (listing team p).spawn = (listing team p).spawn := by
    by_cases h : p.2 < kMaxPlayers
    · rw [listing_spawn team h, wireVec2_spawnPoint]
    · have hNone : (listing team p).spawn = {} := dif_neg h
      rw [hNone]
      rfl
  rw [hSpawn]

theorem matchSetup_wire (lobby : Lobby) (shuffle : Shuffle) (hRoom : lobby.playerIds.length ≤ kMaxPlayers) :
    (wireGameStart (NetServer.matchSetup lobby shuffle).gs).listed =
      (NetServer.matchSetup lobby shuffle).gs.listed := by
  rw [wireGameStart_listed, (matchSetup_listed lobby shuffle hRoom).1, List.map_append, List.map_map, List.map_map]
  congr 1
  · exact List.map_congr_left fun p _ => listing_wire .red p
  · exact List.map_congr_left fun p _ => listing_wire .blue p

namespace Sim

theorem drainInbound_others (cmds : List InboundCommand) {s : Sim} {j : Fin kMaxPlayers}
    (h : ∀ cmd ∈ cmds, cmd.playerId ≠ idByte j) : (s.drainInbound cmds).players j = s.players j := by
  induction cmds generalizing s with
  | nil => rfl
  | cons cmd cmds ih =>
    rw [drainInbound_cons, ih fun c hMem => h c (List.mem_cons_of_mem _ hMem)]
    exact applyCommand_other s (h cmd List.mem_cons_self)

theorem drainInbound_joins (cmds : List InboundCommand) {s : Sim} (hGoing : s.matchOver = false)
    (hOnce : (cmds.map InboundCommand.playerId).Nodup) {j : Fin kMaxPlayers} {team : Team} {spawnIndex : U8}
    (hFree : (s.players j).active = false) (hMem : .playerJoined (idByte j) team spawnIndex ∈ cmds) :
    (s.drainInbound cmds).players j = joined (s.players j) team spawnIndex := by
  induction cmds generalizing s with
  | nil => cases hMem
  | cons cmd cmds ih =>
    rw [List.map_cons, List.nodup_cons] at hOnce
    rw [drainInbound_cons]
    rcases List.mem_cons.mp hMem with rfl | hLater
    · rw [drainInbound_others cmds, join_players hGoing, if_pos ⟨rfl, hFree⟩]
      rintro c hc hEq
      exact hOnce.1 (List.mem_map.mpr ⟨c, hc, hEq⟩)
    · have hOther : cmd.playerId ≠ idByte j := by
        intro hEq
        exact hOnce.1 (List.mem_map.mpr ⟨_, hLater, hEq.symm⟩)
      have hSame := applyCommand_other s hOther
      rw [ih ((applyCommand_matchOver s cmd).trans hGoing) hOnce.2 (by rw [hSame]; exact hFree) hLater, hSame]

end Sim

theorem joinCommand_listing (team : Team) {p : U8 × Nat} (hRoom : p.2 < kMaxPlayers) {s : Sim} {j : Fin kMaxPlayers}
    {player : Player} (hPlayer : s.players j = Sim.joined player team (BitVec.ofNat 8 p.2)) :
    (s.players j).active = true ∧ (s.players j).team = (listing team p).team ∧
      (s.players j).position = (listing team p).spawn := by
  have hByte : (BitVec.ofNat 8 p.2).toNat = p.2 := by
    rw [BitVec.toNat_ofNat]
    simp only [kMaxPlayers] at hRoom
    omega
  have hSlot : Sim.spawnSlot (BitVec.ofNat 8 p.2) = ⟨p.2, hRoom⟩ := by
    rw [Sim.spawnSlot, dif_pos (by rwa [hByte])]
    exact Fin.ext hByte
  rw [hPlayer, listing_spawn team hRoom, ← hSlot]
  exact ⟨rfl, rfl, rfl⟩

namespace NetServer

theorem beginMatchAndNotify_eq {net : NetServer} (env : Env) (hWaiting : net.lobby.inProgress = false)
    (hTwo : 2 ≤ net.lobby.playerIds.length) :
    net.beginMatchAndNotify env =
      { net with
        lobby := { net.lobby with inProgress := true }
        inbound := net.inbound ++ (matchSetup net.lobby env.shuffle).commands }.broadcastPayload
          (MessageType.gameStart.code :: gameStartBytes (matchSetup net.lobby env.shuffle).gs) := by
  have hBegin : net.lobby.beginMatch = (true, { net.lobby with inProgress := true }) := by
    rw [Lobby.beginMatch, if_neg]
    rintro (hStarted | hFew)
    · rw [hWaiting] at hStarted
      cases hStarted
    · omega
  have hSetup : matchSetup { net.lobby with inProgress := true } env.shuffle = matchSetup net.lobby env.shuffle := rfl
  have hBytes := (emits_encodeGameStart (matchSetup net.lobby env.shuffle).gs).fresh kGameStartCap
    ((length_gameStartBytes _).trans (by decide))
  rw [beginMatchAndNotify, hBegin]
  change broadcastMessage { net with lobby := _, inbound := net.inbound ++ (matchSetup _ env.shuffle).commands } _ _
    (encodeGameStart · (matchSetup _ env.shuffle).gs) = _
  rw [hSetup, broadcastMessage, hBytes]

end NetServer

/-- The message is true of the roster and of the match it starts. -/
structure TellsTheTruth (lobby : Lobby) (msg : MsgGameStart) (started : Sim) : Prop where
  everyone : (msg.listed.map (·.id)).Perm lobby.playerIds
  once : (msg.listed.map (·.id)).Nodup
  balanced : msg.listed.countP (·.team = .red) ≤ msg.listed.countP (·.team = .blue) + 1 ∧
    msg.listed.countP (·.team = .blue) ≤ msg.listed.countP (·.team = .red) + 1
  apart : msg.listed.Pairwise fun a b => a.team = b.team → a.spawn ≠ b.spawn
  playing : ∀ e ∈ msg.listed, ∃ slot, e.id = Sim.idByte slot ∧ (started.players slot).active = true ∧
    (started.players slot).team = e.team ∧ (started.players slot).position = e.spawn

theorem countP_listing (team other : Team) (ps : List (U8 × Nat)) :
    (ps.map (listing team)).countP (·.team = other) = if team = other then ps.length else 0 := by
  rw [List.countP_map]
  by_cases hSame : team = other
  · rw [if_pos hSame]
    exact List.countP_eq_length.mpr fun p _ => decide_eq_true hSame
  · rw [if_neg hSame]
    exact List.countP_eq_zero.mpr fun p _ hTrue => hSame (of_decide_eq_true hTrue)

theorem mem_matchSetup {lobby : Lobby} {shuffle : Shuffle} (hRoom : lobby.playerIds.length ≤ kMaxPlayers) {e : Listed}
    (hMem : e ∈ (NetServer.matchSetup lobby shuffle).gs.listed) :
    ∃ team p, p.2 < kMaxPlayers ∧ e = listing team p ∧
      joinCommand team p ∈ (NetServer.matchSetup lobby shuffle).commands := by
  have hLen := (lobby.assignTeams_perm shuffle).length_eq
  rw [List.length_append] at hLen
  rw [(matchSetup_listed lobby shuffle hRoom).1, List.mem_append] at hMem
  rw [matchSetup_commands lobby shuffle hRoom]
  rcases hMem with hRed | hBlue
  · obtain ⟨p, hp, rfl⟩ := List.mem_map.mp hRed
    have hPlace := List.snd_lt_of_mem_zipIdx hp
    exact ⟨.red, p, by omega, rfl, List.mem_append_left _ (List.mem_map.mpr ⟨p, hp, rfl⟩)⟩
  · obtain ⟨p, hp, rfl⟩ := List.mem_map.mp hBlue
    have hPlace := List.snd_lt_of_mem_zipIdx hp
    exact ⟨.blue, p, by omega, rfl, List.mem_append_right _ (List.mem_map.mpr ⟨p, hp, rfl⟩)⟩

theorem matchSetup_ids (lobby : Lobby) (shuffle : Shuffle) (hRoom : lobby.playerIds.length ≤ kMaxPlayers) :
    ((NetServer.matchSetup lobby shuffle).gs.listed.map (·.id)).Perm lobby.playerIds ∧
      ((NetServer.matchSetup lobby shuffle).commands.map InboundCommand.playerId).Perm lobby.playerIds := by
  have hIds : ∀ (team : Team) (ids : List U8), (ids.zipIdx.map (listing team)).map (·.id) = ids := by
    intro team ids
    rw [List.map_map]
    exact List.zipIdx_map_fst 0 ids
  have hCommands : ∀ (team : Team) (ids : List U8),
      (ids.zipIdx.map (joinCommand team)).map InboundCommand.playerId = ids := by
    intro team ids
    rw [List.map_map]
    exact List.zipIdx_map_fst 0 ids
  constructor
  · rw [(matchSetup_listed lobby shuffle hRoom).1, List.map_append, hIds, hIds]
    exact lobby.assignTeams_perm shuffle
  · rw [matchSetup_commands lobby shuffle hRoom, List.map_append, hCommands, hCommands]
    exact lobby.assignTeams_perm shuffle

theorem matchSetup_tellsTheTruth {lobby : Lobby} {shuffle : Shuffle} {s : Sim} (hNodup : lobby.playerIds.Nodup)
    (hIds : ∀ id ∈ lobby.playerIds, id.toNat < kMaxPlayers) (hRoom : lobby.playerIds.length ≤ kMaxPlayers)
    (hGoing : s.matchOver = false) (hFree : ∀ j, (s.players j).active = false) {msg : MsgGameStart}
    (hMsg : msg.listed = (NetServer.matchSetup lobby shuffle).gs.listed) :
    TellsTheTruth lobby msg (s.drainInbound (NetServer.matchSetup lobby shuffle).commands) := by
  obtain ⟨hEveryone, hCommands⟩ := matchSetup_ids lobby shuffle hRoom
  obtain ⟨hFewer, hBalanced⟩ := assignTeams_balanced lobby shuffle
  have hListed := (matchSetup_listed lobby shuffle hRoom).1
  have hLen := (lobby.assignTeams_perm shuffle).length_eq
  rw [List.length_append] at hLen
  constructor
  · rw [hMsg]
    exact hEveryone
  · rw [hMsg]
    exact hEveryone.nodup_iff.mpr hNodup
  · rw [hMsg, hListed, List.countP_append, List.countP_append, countP_listing, countP_listing, countP_listing,
      countP_listing, List.length_zipIdx, List.length_zipIdx]
    simp only [if_true, reduceCtorEq, if_false]
    omega
  · rw [hMsg, hListed, List.pairwise_append]
    refine ⟨listing_apart .red (by omega), listing_apart .blue (by omega), ?_⟩
    rintro a hRed b hBlue hSame
    obtain ⟨p, -, rfl⟩ := List.mem_map.mp hRed
    obtain ⟨q, -, rfl⟩ := List.mem_map.mp hBlue
    cases hSame
  · intro e hMem
    rw [hMsg] at hMem
    obtain ⟨team, p, hPlace, rfl, hCommand⟩ := mem_matchSetup hRoom hMem
    have hIn : p.1 ∈ lobby.playerIds := hEveryone.mem_iff.mp (List.mem_map.mpr ⟨_, hMem, rfl⟩)
    obtain ⟨slot, hSlot⟩ := Sim.exists_idByte (hIds p.1 hIn)
    rw [joinCommand, hSlot] at hCommand
    have hPlayer := Sim.drainInbound_joins _ hGoing (hCommands.nodup_iff.mpr hNodup) (hFree slot) hCommand
    exact ⟨slot, hSlot, joinCommand_listing team hPlace hPlayer⟩

namespace System

/-- Before the start the simulation has nobody, and what is queued brings nobody in. -/
theorem Agrees.empty {sys : System} (h : Agrees sys) (hWaiting : sys.net.lobby.inProgress = false)
    (hGoing : sys.sim.matchOver = false) (j : Fin kMaxPlayers) :
    ((sys.sim.drainInbound sys.net.inbound).players j).active = false := by
  have hPending := h.pending hGoing
  rw [← Sim.roster_drainInbound _ hGoing, Roster.after,
    Roster.foldl_apply_inputs _ (h.rostered.waiting hWaiting)] at hPending
  by_contra hActive
  have hSome := roster_some.mp (Bool.eq_true_of_not_eq_false hActive)
  rw [hPending] at hSome
  cases hSome

/-- Whoever is in the lobby and however the roster is shuffled: one GAME_START is queued for every client, and what a
client decodes from it is what the simulation makes of the commands. -/
theorem gameStart_tellsTheTruth {rayDir : RayDir} {sys : System} (h : Reach rayDir sys) (env : Env)
    (hWaiting : sys.net.lobby.inProgress = false) (hTwo : 2 ≤ sys.net.lobby.playerIds.length)
    (hGoing : sys.sim.matchOver = false) :
    ∃ (f : Frame) (msg : MsgGameStart), f.type = MessageType.gameStart.code ∧
      decodeGameStart ⟨f.payload, false⟩ = (some msg, ⟨[], false⟩) ∧
      (∀ i, (sys.net.beginMatchAndNotify env).registry.client i =
        (sys.net.registry.client i).map (ClientRegistry.withPending (encode f))) ∧
      TellsTheTruth sys.net.lobby msg (sys.sim.drainInbound (sys.net.beginMatchAndNotify env).inbound) := by
  have hAgrees := agrees_of_reach h
  have hWf := hAgrees.rostered.wf
  have hRoom := hWf.roster_length
  have hStart := NetServer.beginMatchAndNotify_eq env hWaiting hTwo
  have hCount : (NetServer.matchSetup sys.net.lobby env.shuffle).gs.playerCount.toNat ≤ kMaxPlayers := by
    rw [(matchSetup_listed sys.net.lobby env.shuffle hRoom).2]
    exact hRoom
  have hDecoded := decodeGameStart_run _ hCount []
  rw [List.append_nil] at hDecoded
  refine ⟨⟨MessageType.gameStart.code, _⟩, _, rfl, hDecoded, fun i => ?_, ?_⟩
  · rw [hStart, NetServer.broadcastPayload]
    exact ClientRegistry.client_broadcastTcpEvent hWf.indexed _ i
  · have hDrain : sys.sim.drainInbound (sys.net.beginMatchAndNotify env).inbound =
        (sys.sim.drainInbound sys.net.inbound).drainInbound
          (NetServer.matchSetup sys.net.lobby env.shuffle).commands := by
      rw [hStart]
      exact List.foldl_append
    rw [hDrain]
    exact matchSetup_tellsTheTruth hWf.nodup (fun id hMem => hWf.roster_lt hMem) hRoom
      ((Sim.drainInbound_frame sys.sim sys.net.inbound).2.trans hGoing) (hAgrees.empty hWaiting hGoing)
      (matchSetup_wire sys.net.lobby env.shuffle hRoom)

/-- The second to join is dealt first. -/
theorem gameStart_tellsTheTruth_twoWaiting :
    ∃ msg, TellsTheTruth twoWaiting.net.lobby msg (twoWaiting.sim.drainInbound
      (twoWaiting.net.beginMatchAndNotify { shuffle := ⟨List.reverse, List.reverse_perm⟩ }).inbound) := by
  obtain ⟨-, msg, -, -, -, hTruth⟩ := gameStart_tellsTheTruth (reach_twoWaiting fun _ => (0, 0))
    { shuffle := ⟨List.reverse, List.reverse_perm⟩ } (by decide +kernel) (by decide +kernel) (by decide +kernel)
  exact ⟨msg, hTruth⟩

end System
end CaptureTheFlag
