import CaptureTheFlag.Client.NetClient
import CaptureTheFlag.Shared.WellFormed

/-! # What arrives at the client

Both dispatch functions, with the records as they lie in memory. `none` stands for an access outside an array.
-/
namespace CaptureTheFlag.Raw
set_option autoImplicit false
open Protocol Filling

inductive NetClientState where
  | disconnected
  | waitingJoinAccept
  | rejected
  | inLobby
  | inGame
deriving DecidableEq, Repr

inductive GameEvent where
  | lobbyState (msg : MsgLobbyState)
  | gameStart (msg : MsgGameStart)
  | playerKilled (msg : MsgPlayerKilled)
  | playerRespawned (msg : MsgPlayerRespawned)
  | flagPickedUp (msg : MsgFlagTouched)
  | flagDropped (msg : MsgFlagDropped)
  | flagReturned (msg : MsgFlagTouched)
  | flagCaptured (msg : MsgFlagTouched)
  | matchEnd (msg : MsgMatchEnd)
  | shotFired (msg : MsgShotFired)

structure NetClient where
  state : NetClientState := .disconnected
  lobbyState : MsgLobbyState := {}
  gameStart : MsgGameStart := {}
  firstSnapshotReceived : Bool := false
  lastSnapshotCache : WorldSnapshot := {}
  haveLastSnapshot : Bool := false
  pendingSnapshots : List WorldSnapshot := []
  pendingEvents : List GameEvent := []

namespace NetClient

/-- `if (!decode(r, msg) || !r.ok()) return`, with a fresh `msg`. -/
def onDecoded {σ : Type} (c : NetClient) (decode : Filling ByteReader σ Unit) (fresh : σ) (payload : List U8)
    (use : σ → NetClient) : Option NetClient :=
  match decode (fresh, ⟨payload, false⟩) with
  | (.ok (), (msg, r)) => some (if r.underflow then c else use msg)
  | (.error .rejected, _) => some c
  | (.error .outOfBounds, _) => none

def pushEvent (c : NetClient) (ev : GameEvent) : NetClient := { c with pendingEvents := c.pendingEvents ++ [ev] }

def dispatchTcpFrame (c : NetClient) (type : U8) (payload : List U8) : Option NetClient :=
  match MessageType.ofCode type with
  | some .lobbyState => c.onDecoded decodeLobbyState {} payload fun msg =>
      { c with lobbyState := msg }.pushEvent (.lobbyState msg)
  | some .gameStart => c.onDecoded decodeGameStart {} payload fun msg =>
      { c with gameStart := msg, state := .inGame }.pushEvent (.gameStart msg)
  | some .playerKilled => c.onDecoded decodePlayerKilled {} payload fun msg => c.pushEvent (.playerKilled msg)
  | some .playerRespawned => c.onDecoded decodePlayerRespawned {} payload fun msg => c.pushEvent (.playerRespawned msg)
  | some .flagPickedUp => c.onDecoded decodeFlagPickedUp {} payload fun msg => c.pushEvent (.flagPickedUp msg)
  | some .flagDropped => c.onDecoded decodeFlagDropped {} payload fun msg => c.pushEvent (.flagDropped msg)
  | some .flagReturned => c.onDecoded decodeFlagReturned {} payload fun msg => c.pushEvent (.flagReturned msg)
  | some .flagCaptured => c.onDecoded decodeFlagCaptured {} payload fun msg => c.pushEvent (.flagCaptured msg)
  | some .matchEnd => c.onDecoded decodeMatchEnd {} payload fun msg => c.pushEvent (.matchEnd msg)
  | _ => some c

/-- The DELTA_SNAPSHOT case of `dispatch_udp_payload`: the decoder gets the cache itself. -/
def onDeltaSnapshot (c : NetClient) (tick : U32) (payload : List U8) : Option NetClient :=
  if !c.haveLastSnapshot then some c
  else match decodeDeltaSnapshot tick (c.lastSnapshotCache, ⟨payload, false⟩) with
    | (.ok (), (cache, _)) => some
        { c with
          lastSnapshotCache := cache
          firstSnapshotReceived := true
          pendingSnapshots := c.pendingSnapshots ++ [cache] }
    | (.error .rejected, (cache, _)) => some { c with lastSnapshotCache := cache, haveLastSnapshot := false }
    | (.error .outOfBounds, _) => none

def dispatchUdpPayload (c : NetClient) (type : U8) (tick : U32) (payload : List U8) : Option NetClient :=
  match MessageType.ofCode type with
  | some .worldSnapshot => c.onDecoded decodeWorldSnapshot {} payload fun snap =>
      { c with
        lastSnapshotCache := snap
        haveLastSnapshot := true
        firstSnapshotReceived := true
        pendingSnapshots := c.pendingSnapshots ++ [snap] }
  | some .deltaSnapshot => c.onDeltaSnapshot tick payload
  | some .shotFired => c.onDecoded decodeShotFired {} payload fun msg => c.pushEvent (.shotFired msg)
  | _ => some c

/-- What changes the state of the client: the two dispatch functions, and the two that empty the queues. -/
inductive Delivery where
  | tcpFrame (type : U8) (payload : List U8)
  | udpPayload (type : U8) (tick : U32) (payload : List U8)
  | takeSnapshots
  | takeEvents

def deliver (c : NetClient) : Delivery → Option NetClient
  | .tcpFrame type payload => c.dispatchTcpFrame type payload
  | .udpPayload type tick payload => c.dispatchUdpPayload type tick payload
  | .takeSnapshots => some { c with pendingSnapshots := [] }
  | .takeEvents => some { c with pendingEvents := [] }

def deliverAll (c : NetClient) : List Delivery → Option NetClient
  | [] => some c
  | d :: ds => (c.deliver d).bind (deliverAll · ds)

end NetClient

namespace GameEvent

def WellFormed : GameEvent → Prop
  | lobbyState msg => LobbyWellFormed msg
  | gameStart msg => msg.WellFormed
  | playerKilled _ => True
  | playerRespawned _ => True
  | flagPickedUp msg => msg.WellFormed
  | flagDropped msg => msg.WellFormed
  | flagReturned msg => msg.WellFormed
  | flagCaptured msg => msg.WellFormed
  | matchEnd msg => msg.WellFormed
  | shotFired _ => True

def playerCount : GameEvent → Option U8
  | lobbyState msg => some msg.playerCount
  | gameStart msg => some msg.playerCount
  | _ => none

theorem WellFormed.playerCount {ev : GameEvent} (h : ev.WellFormed) {count : U8} (hCount : ev.playerCount = some count) :
    count.toNat ≤ kMaxPlayers := by
  cases ev with
  | lobbyState msg =>
    cases hCount
    exact h
  | gameStart msg =>
    cases hCount
    exact h.1
  | _ => cases hCount

end GameEvent

namespace NetClient

structure WellFormed (c : NetClient) : Prop where
  cache : c.lastSnapshotCache.WellFormed
  snapshots : ∀ snap ∈ c.pendingSnapshots, snap.WellFormed
  lobby : LobbyWellFormed c.lobbyState
  gameStart : c.gameStart.WellFormed
  events : ∀ ev ∈ c.pendingEvents, ev.WellFormed

theorem wellFormed_init : WellFormed {} where
  cache := ⟨Nat.zero_le _, ⟨.atBase, rfl⟩, ⟨.atBase, rfl⟩, fun _ => ⟨.red, rfl⟩⟩
  snapshots _ hMem := nomatch hMem
  lobby := Nat.zero_le _
  gameStart := ⟨Nat.zero_le _, fun _ => ⟨.red, rfl⟩⟩
  events _ hMem := nomatch hMem

theorem WellFormed.pushEvent {c : NetClient} (h : c.WellFormed) {ev : GameEvent} (hEv : ev.WellFormed) :
    (c.pushEvent ev).WellFormed where
  cache := h.cache
  snapshots := h.snapshots
  lobby := h.lobby
  gameStart := h.gameStart
  events ev' hMem := by
    rcases List.mem_append.mp hMem with hOld | hNew
    · exact h.events ev' hOld
    · rw [List.mem_singleton.mp hNew]
      exact hEv

theorem WellFormed.pushSnapshot {c : NetClient} (h : c.WellFormed) {snap : WorldSnapshot} (hSnap : snap.WellFormed)
    (haveLast first : Bool) :
    WellFormed
      { c with
        lastSnapshotCache := snap
        haveLastSnapshot := haveLast
        firstSnapshotReceived := first
        pendingSnapshots := c.pendingSnapshots ++ [snap] } where
  cache := hSnap
  snapshots snap' hMem := by
    rcases List.mem_append.mp hMem with hOld | hNew
    · exact h.snapshots snap' hOld
    · rw [List.mem_singleton.mp hNew]
      exact hSnap
  lobby := h.lobby
  gameStart := h.gameStart
  events := h.events

/-- A step that stays inside the arrays and ends well formed. -/
def StepsWell (next : Option NetClient) : Prop := ∃ c, next = some c ∧ c.WellFormed

theorem onDecoded_stepsWell {σ : Type} {P Q : σ → Prop} {decode : Filling ByteReader σ Unit}
    (hDecode : Sat P decode (fun _ => Q)) {fresh : σ} (hFresh : P fresh) {c : NetClient} (h : c.WellFormed)
    (payload : List U8) {use : σ → NetClient} (hUse : ∀ msg, Q msg → (use msg).WellFormed) :
    StepsWell (c.onDecoded decode fresh payload use) := by
  have hEnds := hDecode fresh ⟨payload, false⟩ hFresh
  rw [onDecoded]
  generalize decode (fresh, ⟨payload, false⟩) = result at hEnds ⊢
  rcases result with ⟨e | _, msg, r⟩
  · cases e with
    | rejected => exact ⟨c, rfl, h⟩
    | outOfBounds => exact hEnds.elim
  · refine ⟨_, rfl, ?_⟩
    split
    · exact h
    · exact hUse msg hEnds

theorem dispatchTcpFrame_stepsWell {c : NetClient} (h : c.WellFormed) (type : U8) (payload : List U8) :
    StepsWell (c.dispatchTcpFrame type payload) := by
  have hRed : IsTeam 0 := ⟨.red, rfl⟩
  rw [dispatchTcpFrame]
  split
  · refine onDecoded_stepsWell sat_decodeLobbyState trivial h payload fun msg hMsg => ?_
    have hSet : WellFormed { c with lobbyState := msg } := ⟨h.cache, h.snapshots, hMsg, h.gameStart, h.events⟩
    exact hSet.pushEvent hMsg
  · refine onDecoded_stepsWell sat_decodeGameStart (fun _ => hRed) h payload fun msg hMsg => ?_
    have hSet : WellFormed { c with gameStart := msg, state := .inGame } :=
      ⟨h.cache, h.snapshots, h.lobby, hMsg, h.events⟩
    exact hSet.pushEvent hMsg
  · exact onDecoded_stepsWell sat_decodePlayerKilled trivial h payload fun msg hMsg => h.pushEvent hMsg
  · exact onDecoded_stepsWell sat_decodePlayerRespawned trivial h payload fun msg hMsg => h.pushEvent hMsg
  · exact onDecoded_stepsWell sat_decodeFlagTouched (by exact hRed) h payload fun msg hMsg => h.pushEvent hMsg
  · exact onDecoded_stepsWell sat_decodeFlagDropped (by exact hRed) h payload fun msg hMsg => h.pushEvent hMsg
  · exact onDecoded_stepsWell sat_decodeFlagTouched (by exact hRed) h payload fun msg hMsg => h.pushEvent hMsg
  · exact onDecoded_stepsWell sat_decodeFlagTouched (by exact hRed) h payload fun msg hMsg => h.pushEvent hMsg
  · exact onDecoded_stepsWell sat_decodeMatchEnd (by exact hRed) h payload fun msg hMsg => h.pushEvent hMsg
  · exact ⟨c, rfl, h⟩

theorem onDeltaSnapshot_stepsWell {c : NetClient} (h : c.WellFormed) (tick : U32) (payload : List U8) :
    StepsWell (c.onDeltaSnapshot tick payload) := by
  rw [onDeltaSnapshot]
  split
  · exact ⟨c, rfl, h⟩
  · have hEnds := sat_decodeDeltaSnapshot tick c.lastSnapshotCache ⟨payload, false⟩ h.cache
    have hCache : (decodeDeltaSnapshot tick (c.lastSnapshotCache, ⟨payload, false⟩)).1 ≠ .ok () →
        (decodeDeltaSnapshot tick (c.lastSnapshotCache, ⟨payload, false⟩)).2.1 = c.lastSnapshotCache :=
      onCopy_unchanged _ _
    generalize decodeDeltaSnapshot tick (c.lastSnapshotCache, ⟨payload, false⟩) = result at hEnds hCache ⊢
    rcases result with ⟨e | _, cache, r⟩
    · cases e with
      | rejected =>
        have hSame : cache = c.lastSnapshotCache := hCache (fun hOk => nomatch hOk)
        rw [hSame]
        exact ⟨_, rfl, ⟨h.cache, h.snapshots, h.lobby, h.gameStart, h.events⟩⟩
      | outOfBounds => exact hEnds.elim
    · exact ⟨_, rfl, h.pushSnapshot hEnds _ _⟩

theorem dispatchUdpPayload_stepsWell {c : NetClient} (h : c.WellFormed) (type : U8) (tick : U32) (payload : List U8) :
    StepsWell (c.dispatchUdpPayload type tick payload) := by
  rw [dispatchUdpPayload]
  split
  · refine onDecoded_stepsWell sat_decodeWorldSnapshot ?_ h payload fun snap hSnap => h.pushSnapshot hSnap _ _
    exact wellFormed_init.cache.2
  · exact onDeltaSnapshot_stepsWell h tick payload
  · exact onDecoded_stepsWell sat_decodeShotFired trivial h payload fun msg hMsg => h.pushEvent hMsg
  · exact ⟨c, rfl, h⟩

theorem deliver_stepsWell {c : NetClient} (h : c.WellFormed) (d : Delivery) : StepsWell (c.deliver d) := by
  cases d with
  | tcpFrame type payload => exact dispatchTcpFrame_stepsWell h type payload
  | udpPayload type tick payload => exact dispatchUdpPayload_stepsWell h type tick payload
  | takeSnapshots => exact ⟨_, rfl, ⟨h.cache, fun _ hMem => (nomatch hMem), h.lobby, h.gameStart, h.events⟩⟩
  | takeEvents => exact ⟨_, rfl, ⟨h.cache, h.snapshots, h.lobby, h.gameStart, fun _ hMem => (nomatch hMem)⟩⟩

theorem deliverAll_stepsWell (ds : List Delivery) {c : NetClient} (h : c.WellFormed) : StepsWell (c.deliverAll ds) := by
  induction ds generalizing c with
  | nil => exact ⟨c, rfl, h⟩
  | cons d ds ih =>
    obtain ⟨next, hNext, hWell⟩ := deliver_stepsWell h d
    rw [deliverAll, hNext]
    exact ih hWell

/-- Every `player_count` that bounds a loop of a consumer. -/
def playerCounts (c : NetClient) : List U8 :=
  c.lastSnapshotCache.playerCount :: c.lobbyState.playerCount :: c.gameStart.playerCount ::
    (c.pendingSnapshots.map (·.playerCount) ++ c.pendingEvents.filterMap (·.playerCount))

theorem WellFormed.playerCounts {c : NetClient} (h : c.WellFormed) :
    ∀ count ∈ c.playerCounts, count.toNat ≤ kMaxPlayers := by
  refine List.forall_mem_cons.mpr ⟨h.cache.1, List.forall_mem_cons.mpr ⟨h.lobby, List.forall_mem_cons.mpr
    ⟨h.gameStart.1, fun count hMem => ?_⟩⟩⟩
  rcases List.mem_append.mp hMem with hOfSnapshot | hOfEvent
  · obtain ⟨snap, hSnap, rfl⟩ := List.mem_map.mp hOfSnapshot
    exact (h.snapshots snap hSnap).1
  · obtain ⟨ev, hEv, hCount⟩ := List.mem_filterMap.mp hOfEvent
    exact (h.events ev hEv).playerCount hCount

/-- Whatever bytes arrive, in whatever order, the client's state is well formed and the loops over its records stay
inside their arrays; a delta that is rejected leaves the cache as it was. -/
theorem always_wellFormed (ds : List Delivery) :
    (∃ c, deliverAll {} ds = some c ∧ c.WellFormed ∧
      ∀ count ∈ c.playerCounts, ∀ i ∈ List.range count.toNat, i < kMaxPlayers) ∧
    ∀ (tick : U32) (cache : WorldSnapshot) (r : ByteReader),
      (decodeDeltaSnapshot tick (cache, r)).1 ≠ .ok () → (decodeDeltaSnapshot tick (cache, r)).2.1 = cache := by
  refine ⟨?_, fun tick cache r hFailed => onCopy_unchanged _ _ hFailed⟩
  obtain ⟨c, hRun, hWell⟩ := deliverAll_stepsWell ds wellFormed_init
  exact ⟨c, hRun, hWell, fun count hMem => range_inside (hWell.playerCounts count hMem)⟩

end NetClient
end CaptureTheFlag.Raw
