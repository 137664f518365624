import CaptureTheFlag.Client.DispatchMirror
import CaptureTheFlag.Server.HostInvariant
import CaptureTheFlag.Shared.MessageBytes

/-! # Names on their way from JOIN_LOBBY to LOBBY_STATE

A name crosses a fixed array, a string, a fixed array again and the wire. Only the first of these crossings can go
wrong.
-/
namespace CaptureTheFlag
set_option autoImplicit false
open Protocol Framing

theorem cString_terminated {array : List U8} (h : 0 ∈ array) (behind : List U8) :
    cString array behind = (array.takeWhile (· != 0), false) := by
  induction array with
  | nil => cases h
  | cons c array ih =>
    rw [cString, List.takeWhile_cons]
    by_cases hc : c = 0
    · simp [hc]
    · have hRest : 0 ∈ array := (List.mem_cons.mp h).resolve_left (fun hEq => hc hEq.symm)
      rw [if_neg hc, ih hRest, if_pos (bne_iff_ne.mpr hc)]

theorem terminated_of_cString {array behind : List U8} (h : (cString array behind).2 = false) : 0 ∈ array := by
  induction array with
  | nil => cases h
  | cons c array ih =>
    rw [cString] at h
    by_cases hc : c = 0
    · rw [hc]
      exact List.mem_cons_self
    · rw [if_neg hc] at h
      exact List.mem_cons_of_mem _ (ih h)

/-- What a JOIN_LOBBY payload names: the bytes before the first NUL, or all of them. -/
def sentName (payload : List U8) : List U8 := payload.takeWhile (· != 0)

/-- A name cut to fifteen bytes and filled up with NULs. -/
def shownName (name : List U8) : List U8 := (name.take (kNameBytes - 1)).rightpad kNameBytes 0

theorem nameBytes_nameField (name : List U8) : nameBytes (nameField name) = shownName name := by
  apply List.ext_getElem
  · simp only [nameBytes, shownName, List.length_map, List.length_finRange, List.length_rightpad, List.length_take,
      kNameBytes]
    omega
  · intro i hi hi'
    simp only [nameBytes, shownName, List.getElem_map, List.getElem_finRange, nameField, List.rightpad, Fin.val_cast]
    rw [List.getElem_append]
    by_cases hIn : i < (name.take (kNameBytes - 1)).length
    · have hLength : i < name.length ∧ i + 1 < kNameBytes := by
        rw [List.length_take, kNameBytes] at hIn
        simp only [kNameBytes]
        omega
      rw [dif_pos hIn, List.getElem_take, if_pos hLength.2, List.getD_eq_getElem?_getD, List.getElem?_eq_getElem hLength.1,
        Option.getD_some]
    · rw [dif_neg hIn, List.getElem_replicate]
      split
      · rw [List.length_take, kNameBytes] at hIn
        rw [List.getD_eq_getElem?_getD, List.getElem?_eq_none, Option.getD_none]
        simp only [kNameBytes] at *
        omega
      · rfl

theorem exists_name {payload : List U8} (h : payload.length = kNameBytes) : ∃ name : Name, nameBytes name = payload := by
  refine ⟨fun i => payload[i.val], ?_⟩
  apply List.ext_getElem
  · simp [nameBytes, h]
  · intro i hi hi'
    simp [nameBytes]

def Protocol.MsgLobbyState.listed (msg : MsgLobbyState) : List (U8 × Name) :=
  (firstSlots msg.playerCount.toNat).map fun i => (msg.ids i, msg.names i)

/-- `name` stands beside `id`, and nothing else does. -/
def Protocol.MsgLobbyState.ShowsName (msg : MsgLobbyState) (id : U8) (name : List U8) : Prop :=
  (∃ p ∈ msg.listed, p.1 = id) ∧ ∀ p ∈ msg.listed, p.1 = id → nameBytes p.2 = name

def entryListing (e : ClientEntry) : U8 × Name := (e.playerId, nameField e.name)

namespace NetServer

theorem lobbySlot_listed (st : MsgLobbyState) (hRoom : st.playerCount.toNat < kMaxPlayers) {e : ClientEntry}
    (hLive : ¬ e.tcpFd < 0) :
    (lobbySlot st e).listed = st.listed ++ [entryListing e] ∧
      (lobbySlot st e).playerCount.toNat = st.playerCount.toNat + 1 := by
  simp only [lobbySlot, hLive, if_false, hRoom, dite_true, MsgLobbyState.listed, toNat_count_succ hRoom, and_true]
  rw [map_firstSlots_succ hRoom fun i hne => by simp only [Function.update_of_ne hne]; rfl]
  simp only [Function.update_self, entryListing]

theorem foldl_lobbySlot_listed (es : List ClientEntry) (st : MsgLobbyState)
    (hRoom : st.playerCount.toNat + es.length ≤ kMaxPlayers) :
    (es.foldl lobbySlot st).listed = st.listed ++ (es.filter (fun e => e.tcpFd ≥ 0)).map entryListing ∧
      (es.foldl lobbySlot st).playerCount.toNat ≤ kMaxPlayers := by
  induction es generalizing st with
  | nil => exact ⟨(List.append_nil _).symm, hRoom⟩
  | cons e es ih =>
    rw [List.length_cons] at hRoom
    rw [List.foldl_cons, List.filter_cons]
    by_cases hFree : e.tcpFd < 0
    · have hSame : lobbySlot st e = st := if_pos hFree
      rw [hSame, if_neg (by simpa using hFree)]
      exact ih st (by omega)
    · obtain ⟨hListed, hCount⟩ := lobbySlot_listed st (by omega) hFree
      obtain ⟨hRest, hLe⟩ := ih (lobbySlot st e) (by omega)
      refine ⟨?_, hLe⟩
      rw [hRest, hListed, if_pos (by simpa using hFree), List.map_cons, List.append_assoc]
      rfl

theorem lobbyState_listed {net : NetServer} (hSize : net.registry.storage.length ≤ kMaxPlayers) :
    net.lobbyState.listed = net.registry.live.map entryListing ∧ net.lobbyState.playerCount.toNat ≤ kMaxPlayers := by
  have hStart : ({} : MsgLobbyState).playerCount.toNat = 0 := rfl
  exact foldl_lobbySlot_listed net.registry.storage {} (by rw [hStart]; omega)

/-- The broadcast that follows a join reaches everyone, and everyone decodes the list from it. -/
theorem broadcastLobbyState_decoded {net : NetServer} (h : net.registry.Indexed) :
    ∃ f : Frame, f.type = MessageType.lobbyState.code ∧
      (∀ i, net.broadcastLobbyState.registry.client i =
        (net.registry.client i).map (ClientRegistry.withPending (encode f))) ∧
      ∀ c : Raw.NetClient, ∃ c', c.dispatchTcpFrame f.type f.payload = some c' ∧
        c'.lobbyState.listed = net.registry.live.map entryListing := by
  obtain ⟨hListed, hCount⟩ := lobbyState_listed h.size
  have hBytes := (emits_encodeLobbyState net.lobbyState).fresh kLobbyStateCap
    ((length_lobbyStateBytes _).trans (by decide))
  refine ⟨⟨MessageType.lobbyState.code, lobbyStateBytes net.lobbyState⟩, rfl, fun i => ?_, fun c => ?_⟩
  · rw [broadcastLobbyState, broadcastMessage, hBytes]
    exact ClientRegistry.client_broadcastTcpEvent h _ i
  · have hDecoded := decodeLobbyState_run net.lobbyState hCount []
    rw [List.append_nil] at hDecoded
    refine ⟨{ c with lobbyState := wireLobby net.lobbyState }.pushEvent (.lobbyState (wireLobby net.lobbyState)), ?_, ?_⟩
    · simp only [Raw.NetClient.dispatchTcpFrame, MessageType.ofCode_code]
      rw [Raw.NetClient.onDecoded_mirrors Raw.mirrors_decodeLobbyState, hDecoded]
      rfl
    · rw [← hListed]
      refine List.map_congr_left fun i hMem => ?_
      have hIn : i ∈ firstSlots net.lobbyState.playerCount.toNat := hMem
      simp only [Raw.NetClient.pushEvent, wireLobby, hIn, if_true]

def joinOf (payload : List U8) : Frame := ⟨MessageType.joinLobby.code, payload⟩

/-- What becomes of the name in a JOIN_LOBBY that a new connection sends. -/
structure NameSurvives (net : NetServer) (env : Env) (fd : Int) (payload : List U8) : Prop where
  inside : ∀ msg, (decodeJoinLobby ⟨payload, false⟩).1 = some msg →
    (cString (nameBytes msg.name) env.behind).2 = false
  stored : ∀ e, (net.onFrame env fd (joinOf payload)).registry.findByFd fd = some e → e.name = sentName payload
  shown : ∀ e, (net.onFrame env fd (joinOf payload)).registry.findByFd fd = some e →
    ∀ other ∈ (net.onFrame env fd (joinOf payload)).registry.live, ∃ before f,
      other.pendingOut = before ++ encode f ∧ f.type = MessageType.lobbyState.code ∧
        ∀ c : Raw.NetClient, ∃ c', c.dispatchTcpFrame f.type f.payload = some c' ∧
          c'.lobbyState.ShowsName e.playerId (shownName (sentName payload))

theorem onFrame_join_name (net : NetServer) (env : Env) (fd : Int) (name : Name) :
    net.onFrame env fd (joinOf (nameBytes name)) = net.onJoinLobby env fd { name } := by
  have hDecoded := decodeJoinLobby_run { name } []
  rw [List.append_nil] at hDecoded
  simp only [onFrame, joinOf, MessageType.ofCode_code]
  rw [hDecoded]

/-- In a registry with its slots in order an id is listed once. -/
theorem showsName_of_listed {r : ClientRegistry} (h : r.Indexed) {i : Nat} {e : ClientEntry} (hAt : r.client i = some e)
    {msg : MsgLobbyState} (hListed : msg.listed = r.live.map entryListing) :
    msg.ShowsName e.playerId (shownName e.name) := by
  rw [MsgLobbyState.ShowsName, hListed]
  refine ⟨⟨entryListing e, List.mem_map.mpr ⟨e, h.mem_live hAt, rfl⟩, rfl⟩, ?_⟩
  intro p hMem hId
  obtain ⟨e', hLive, rfl⟩ := List.mem_map.mp hMem
  obtain ⟨j, hAt'⟩ := ClientRegistry.mem_live hLive
  have hSlot : j = i := by
    rw [← h.id i e hAt, ← h.id j e' hAt']
    exact congrArg BitVec.toNat hId
  rw [hSlot, hAt] at hAt'
  obtain rfl := Option.some.inj hAt'
  exact nameBytes_nameField e.name

/-- Whoever is in the registry after a JOIN_LOBBY has entered it with the string, and everyone is told. -/
theorem onJoinLobby_named {net : NetServer} (h : Wf net) (env : Env) {fd : Int} (hWatched : net.watched fd = true)
    (hNew : net.registry.findByFd fd = none) (msg : MsgJoinLobby) {e : ClientEntry}
    (hFind : (net.onJoinLobby env fd msg).registry.findByFd fd = some e) :
    e.name = nameString msg.name env.behind ∧ ∃ f : Frame, f.type = MessageType.lobbyState.code ∧
      (∀ other ∈ (net.onJoinLobby env fd msg).registry.live, ∃ before, other.pendingOut = before ++ encode f) ∧
      ∀ c : Raw.NetClient, ∃ c', c.dispatchTcpFrame f.type f.payload = some c' ∧
        c'.lobbyState.ShowsName e.playerId (shownName e.name) := by
  have hFd := h.opened fd hWatched
  obtain ⟨hSameFd, i, hAt⟩ := ClientRegistry.findByFd_some hFd hFind
  rw [onJoinLobby, hNew] at hFind hAt ⊢
  rcases tryJoin_cases h env hWatched (nameString msg.name env.behind) with
    ⟨-, registry, reason, hSame, hClient, -⟩ |
    ⟨-, j, entry, registry, lobby, hSame, hEntryFd, hId, -, hName, hFree, -, hClient, hSize, hLobby⟩
  · simp only [hSame, sendFrameGeneric] at hAt
    rw [hClient] at hAt
    exact absurd hSameFd (ClientRegistry.findByFd_none hNew hAt)
  · subst hEntryFd
    have hEntered := h.enter (net.tokenCounter + 1) hFd hWatched hNew hFree hId hClient hSize hLobby
    simp only [hSame] at hAt ⊢
    generalize hNet : sendFrameGeneric _ entry.tcpFd _ = sent at hAt ⊢
    have hRegistry : sent.registry = registry := by rw [← hNet]; rfl
    have hIndexed : sent.registry.Indexed := by rw [hRegistry]; exact hEntered.indexed
    obtain ⟨f, hType, hBroadcast, hDecoded⟩ := broadcastLobbyState_decoded hIndexed
    have hEntryAt : sent.registry.client j = some entry := by rw [hRegistry, hClient, Function.update_self]
    rw [hBroadcast, Option.map_eq_some_iff] at hAt
    obtain ⟨e₀, hAt₀, rfl⟩ := hAt
    obtain rfl := hIndexed.distinct i j e₀ entry hAt₀ hEntryAt hSameFd
    obtain rfl := Option.some.inj (hAt₀.symm.trans hEntryAt)
    refine ⟨hName, f, hType, ?_, ?_⟩
    · intro other hLive
      obtain ⟨k, hOther⟩ := ClientRegistry.mem_live hLive
      rw [hBroadcast, Option.map_eq_some_iff] at hOther
      obtain ⟨o, -, rfl⟩ := hOther
      exact ⟨o.pendingOut, rfl⟩
    · intro c
      obtain ⟨c', hDispatch, hListed⟩ := hDecoded c
      exact ⟨c', hDispatch, showsName_of_listed hIndexed hAt₀ hListed⟩

/-- A name reaches everyone unless it fills its array without a NUL. -/
theorem name_survives_iff {net : NetServer} (h : Occurs net) (env : Env) {fd : Int} (hWatched : net.watched fd = true)
    (hNew : net.registry.findByFd fd = none) {payload : List U8} (hLength : payload.length = kNameBytes) :
    NameSurvives net env fd payload ↔ 0 ∈ payload := by
  obtain ⟨name, rfl⟩ := exists_name hLength
  have hDecoded := decodeJoinLobby_run { name } []
  rw [List.append_nil] at hDecoded
  constructor
  · intro hName
    exact terminated_of_cString (hName.inside { name } (by rw [hDecoded]))
  · intro hNul
    have hString : nameString name env.behind = sentName (nameBytes name) :=
      congrArg Prod.fst (cString_terminated hNul env.behind)
    have hNamed := fun e => onJoinLobby_named h.consistent.1 env hWatched hNew { name } (e := e)
    rw [hString] at hNamed
    refine ⟨?_, ?_, ?_⟩
    · intro msg hMsg
      rw [hDecoded] at hMsg
      obtain rfl := Option.some.inj hMsg
      rw [cString_terminated hNul]
    · rw [onFrame_join_name]
      exact fun e hFind => (hNamed e hFind).1
    · rw [onFrame_join_name]
      intro e hFind other hLive
      obtain ⟨hName, f, hType, hQueued, hShown⟩ := hNamed e hFind
      obtain ⟨before, hBefore⟩ := hQueued other hLive
      rw [hName] at hShown
      exact ⟨before, f, hBefore, hType, hShown⟩

theorem name_survives_fifteen :
    NameSurvives (({} : NetServer).step (.accept 5)) {} 5 joinFrame.payload := by
  have hStart : Reachable {} := .start 0 _
  have hAccepted := hStart.step (.accept 5) ⟨by decide, rfl⟩ trivial
  exact (name_survives_iff (.reached hAccepted) {} rfl rfl (by decide)).mpr (by decide)

/-- Sixteen letters, with a seventeenth in memory behind them. -/
theorem unterminated_name_runs_on :
    let payload := List.replicate kNameBytes 65
    let joined := (({} : NetServer).step (.accept 5)).onFrame { behind := [66] } 5 (joinOf payload)
    payload.length = kNameBytes ∧ ¬ NameSurvives (({} : NetServer).step (.accept 5)) { behind := [66] } 5 payload ∧
      ∃ e, joined.registry.findByFd 5 = some e ∧ e.name = payload ++ [66] := by
  refine ⟨by decide, ?_, _, rfl, by decide +kernel⟩
  intro hName
  have hDecoded := decodeJoinLobby_run { name := fun _ => 65 } []
  have hBytes : nameBytes (fun _ => 65) ++ [] = List.replicate kNameBytes 65 := by decide
  rw [hBytes] at hDecoded
  have hInside := hName.inside { name := fun _ => 65 } (by rw [hDecoded])
  revert hInside
  decide +kernel

end NetServer
end CaptureTheFlag
