import CaptureTheFlag.Server.FlagInvariant
import CaptureTheFlag.Server.TickFrame
import CaptureTheFlag.Shared.MessageBytes

/-! # The events about one player

Each game event names the player who acts or is acted upon. What a tick pushes about a player who is dead is nothing,
except for the respawn when the timer has run out.
-/
namespace CaptureTheFlag
set_option autoImplicit false
open Protocol ByteWriter

namespace OutboundEvent

/-- The message of a game event, by its type byte. -/
def message (ev : OutboundEvent) : Option MessageType :=
  if ev.isSnapshot then none else ev.payload.head?.bind MessageType.ofCode

/-- The player byte of a game event: the shooter, the victim, the respawned player, or the one who touched a flag. -/
def subject (ev : OutboundEvent) : Option U8 :=
  match ev.message with
  | some .shotFired | some .playerKilled | some .playerRespawned => ev.payload[1]?
  | some .flagPickedUp | some .flagReturned | some .flagCaptured => ev.payload[2]?
  | _ => none

theorem message_serEvent (type : OutboundEventType) (hGame : type = .tcpBroadcast ∨ type = .udpEvent)
    (message : MessageType) (body : EventBody) :
    (serEvent type message body).message = some message := by
  have hNot : (serEvent type message body).isSnapshot = false := by
    rcases hGame with rfl | rfl <;> rfl
  rw [OutboundEvent.message, hNot]
  exact MessageType.ofCode_code message

theorem message_of_snapshot {ev : OutboundEvent} (h : ev.isSnapshot = true) : ev.message = none := by
  rw [message, if_pos h]

theorem subject_of_snapshot {ev : OutboundEvent} (h : ev.isSnapshot = true) : ev.subject = none := by
  rw [subject, message_of_snapshot h]

theorem subject_shotFired (msg : MsgShotFired) : (shotFired msg).subject = some msg.shooterId := by
  have hWritten : encodeShotFired { cap := kEventPayloadCap } msg = { cap := kEventPayloadCap, buf := shotFiredBytes msg } :=
    (emits_encodeShotFired msg).fresh kEventPayloadCap (by simp [shotFiredBytes, kEventPayloadCap])
  rw [subject, shotFired, message_serEvent _ (Or.inr rfl), serEvent, EventBody.write, hWritten]
  rfl

theorem subject_playerKilled (msg : MsgPlayerKilled) : (playerKilled msg).subject = some msg.victimId := by
  rw [subject, playerKilled, message_serEvent _ (Or.inl rfl)]
  rfl

theorem subject_playerRespawned (msg : MsgPlayerRespawned) : (playerRespawned msg).subject = some msg.playerId := by
  rw [subject, playerRespawned, message_serEvent _ (Or.inl rfl)]
  rfl

theorem subject_flagDropped (msg : MsgFlagDropped) : (flagDropped msg).subject = none := by
  rw [subject, flagDropped, message_serEvent _ (Or.inl rfl)]

theorem subject_matchEnd (msg : MsgMatchEnd) : (matchEnd msg).subject = none := by
  rw [subject, matchEnd, message_serEvent _ (Or.inl rfl)]

theorem subject_flagPickedUp (msg : MsgFlagPickedUp) : (flagPickedUp msg).subject = some msg.playerId := by
  rw [subject, flagPickedUp, message_serEvent _ (Or.inl rfl)]
  rfl

theorem subject_flagReturned (msg : MsgFlagReturned) : (flagReturned msg).subject = some msg.playerId := by
  rw [subject, flagReturned, message_serEvent _ (Or.inl rfl)]
  rfl

theorem subject_flagCaptured (msg : MsgFlagCaptured) : (flagCaptured msg).subject = some msg.playerId := by
  rw [subject, flagCaptured, message_serEvent _ (Or.inl rfl)]
  rfl

end OutboundEvent

namespace Sim

/-- The events about slot `v`, oldest first. -/
def eventsOf (s : Sim) (v : Fin kMaxPlayers) : List OutboundEvent :=
  s.outbound.filter fun ev => ev.subject = some (idByte v)

theorem eventsOf_congr {s s' : Sim} (h : s'.outbound = s.outbound) (v : Fin kMaxPlayers) :
    s'.eventsOf v = s.eventsOf v := by
  rw [eventsOf, eventsOf, h]

theorem eventsOf_other {s s' : Sim} {ev : OutboundEvent} (h : s'.outbound = s.outbound ++ [ev]) {v : Fin kMaxPlayers}
    (hOther : ev.subject ≠ some (idByte v)) : s'.eventsOf v = s.eventsOf v := by
  rw [eventsOf, eventsOf, h, List.filter_append, List.filter_cons_of_neg (by simpa using hOther), List.filter_nil,
    List.append_nil]

theorem eventsOf_own {s s' : Sim} {ev : OutboundEvent} (h : s'.outbound = s.outbound ++ [ev]) {v : Fin kMaxPlayers}
    (hOwn : ev.subject = some (idByte v)) : s'.eventsOf v = s.eventsOf v ++ [ev] := by
  rw [eventsOf, eventsOf, h, List.filter_append, List.filter_cons_of_pos (by simpa using hOwn), List.filter_nil]

theorem eventsOf_dropped (s : Sim) (drop : MsgFlagDropped) (v : Fin kMaxPlayers) :
    (s.push (.flagDropped drop)).eventsOf v = s.eventsOf v := by
  refine eventsOf_other rfl ?_
  rw [OutboundEvent.subject_flagDropped]
  simp

theorem idByte_ne {i v : Fin kMaxPlayers} (h : i ≠ v) : some (idByte i) ≠ some (idByte v) :=
  fun hSame => h (idByte_inj (Option.some.inj hSame))

def Silent (v : Fin kMaxPlayers) (s s' : Sim) : Prop := s'.players v = s.players v ∧ s'.eventsOf v = s.eventsOf v

theorem Silent.refl (v : Fin kMaxPlayers) (s : Sim) : Silent v s s := ⟨rfl, rfl⟩

theorem Silent.trans {v : Fin kMaxPlayers} {s s' s'' : Sim} (h : Silent v s s') (h' : Silent v s' s'') :
    Silent v s s'' :=
  ⟨h'.1.trans h.1, h'.2.trans h.2⟩

theorem silent_other {v i : Fin kMaxPlayers} {s s' : Sim} (hi : i ≠ v) {p : Player}
    (hPlayers : s'.players = Function.update s.players i p) (hEvents : s'.eventsOf v = s.eventsOf v) : Silent v s s' :=
  ⟨by rw [hPlayers, Function.update_of_ne hi.symm], hEvents⟩

/-- What one change of combat does to slot `v`: it is about another slot, or `v` cools down or shoots, is wounded, or
is killed. -/
theorem combatChange_slot {s s' : Sim} (hChange : CombatChange True s s') (v : Fin kMaxPlayers) :
    Silent v s s' ∨ s.Living v ∧
      ((∃ fireCooldown shots, s'.players v = { s.players v with fireCooldown } ∧
          s'.eventsOf v = s.eventsOf v ++ shots ∧ ∀ ev ∈ shots, ev.message = some .shotFired) ∨
        ((s.players v).health > kDamagePerShot ∧
          s'.players v = { s.players v with health := (s.players v).health - kDamagePerShot } ∧
          s'.eventsOf v = s.eventsOf v) ∨
        (∃ carryingFlag msg, s'.players v = { dead (s.players v) with carryingFlag } ∧
          s'.eventsOf v = s.eventsOf v ++ [.playerKilled msg] ∧
          msg.victimId = idByte v ∧ msg.tick = s.currentTick)) := by
  cases hChange with
  | cool id hLive =>
    by_cases hi : id = v
    · subst hi
      refine Or.inr ⟨hLive, Or.inl ⟨(s.players id).fireCooldown - 1, [], ?_, ?_, fun _ hMem => nomatch hMem⟩⟩
      · simp only [setPlayer, Function.update_self]
      · rw [List.append_nil]
        exact eventsOf_congr rfl id
    · exact Or.inl (silent_other hi rfl (eventsOf_congr rfl v))
  | shoot id msg hLive hMsg =>
    have hSubject : (OutboundEvent.shotFired msg).subject = some (idByte id) := by
      rw [OutboundEvent.subject_shotFired, hMsg.1]
    by_cases hi : id = v
    · subst hi
      refine Or.inr ⟨hLive, Or.inl ⟨kFireCooldownTicks, [.shotFired msg], ?_, eventsOf_own rfl hSubject, ?_⟩⟩
      · simp only [setPlayer, Function.update_self]
      · intro ev hMem
        rw [List.mem_singleton.mp hMem]
        exact OutboundEvent.message_serEvent _ (Or.inr rfl) _ _
    · exact Or.inl (silent_other hi rfl (eventsOf_other rfl (hSubject ▸ idByte_ne hi)))
  | wound id health hLive hBlow =>
    by_cases hi : id = v
    · subst hi
      refine Or.inr ⟨hLive, Or.inr (Or.inl ⟨hBlow.1, ?_, eventsOf_congr rfl id⟩)⟩
      simp only [setPlayer, Function.update_self, hBlow.2]
    · exact Or.inl (silent_other hi rfl (eventsOf_congr rfl v))
  | kill id msg hLive hFree hMsg =>
    have hSubject : (OutboundEvent.playerKilled msg).subject = some (idByte id) := by
      rw [OutboundEvent.subject_playerKilled, hMsg.1]
    by_cases hi : id = v
    · subst hi
      refine Or.inr ⟨hLive, Or.inr (Or.inr ⟨(s.players id).carryingFlag, msg, ?_, eventsOf_own rfl hSubject, hMsg⟩)⟩
      simp only [push, setPlayer, Function.update_self, dead]
    · exact Or.inl (silent_other hi rfl (eventsOf_other rfl (hSubject ▸ idByte_ne hi)))
  | killCarrier id drop msg hDrops hLive hCarries hMsg =>
    have hDropped := eventsOf_dropped s drop v
    have hSubject : (OutboundEvent.playerKilled msg).subject = some (idByte id) := by
      rw [OutboundEvent.subject_playerKilled, hMsg.1]
    by_cases hi : id = v
    · subst hi
      refine Or.inr ⟨hLive, Or.inr (Or.inr ⟨false, msg, ?_, ?_, hMsg⟩)⟩
      · simp only [push, setPlayer, Function.update_self]
      · rw [← hDropped]
        exact eventsOf_own rfl hSubject
    · refine Or.inl (silent_other hi rfl (Eq.trans ?_ hDropped))
      exact eventsOf_other rfl (hSubject ▸ idByte_ne hi)

theorem combatChange_silent {s s' : Sim} (hChange : CombatChange True s s') {v : Fin kMaxPlayers}
    (hDead : ¬ s.Living v) : Silent v s s' :=
  (combatChange_slot hChange v).resolve_right (fun hOwn => hDead hOwn.1)

def Sound (health : Int) : Prop := health = 100 ∨ health = 66 ∨ health = 32

/-- What combat does not change about a player. -/
structure SameBody (p q : Player) : Prop where
  active : q.active = p.active
  team : q.team = p.team
  spawnIndex : q.spawnIndex = p.spawnIndex
  position : q.position = p.position

theorem SameBody.refl (p : Player) : SameBody p p := ⟨rfl, rfl, rfl, rfl⟩

/-- Slot `v` in the middle of combat, seen from the start of it: still fighting, or fallen. -/
inductive Fighting (v : Fin kMaxPlayers) (s₀ s : Sim) : Prop where
  | fights (hLive : s.Living v) (hHealth : Sound (s.players v).health) (hBody : SameBody (s₀.players v) (s.players v))
      (shots : List OutboundEvent) (hEvents : s.eventsOf v = s₀.eventsOf v ++ shots)
      (hShots : ∀ ev ∈ shots, ev.message = some .shotFired) : Fighting v s₀ s
  | fallen (hDead : (s.players v).alive = false) (hHealth : (s.players v).health = 0)
      (hTimer : (s.players v).respawnTimer = kRespawnDelayTicks) (hBody : SameBody (s₀.players v) (s.players v))
      (shots : List OutboundEvent) (msg : MsgPlayerKilled)
      (hEvents : s.eventsOf v = s₀.eventsOf v ++ (shots ++ [.playerKilled msg]))
      (hShots : ∀ ev ∈ shots, ev.message = some .shotFired)
      (hMsg : msg.victimId = idByte v ∧ msg.tick = s₀.currentTick) : Fighting v s₀ s

theorem Fighting.silent {v : Fin kMaxPlayers} {s₀ s s' : Sim} (h : Fighting v s₀ s) (hSilent : Silent v s s') :
    Fighting v s₀ s' := by
  obtain ⟨hPlayer, hLog⟩ := hSilent
  cases h with
  | fights hLive hHealth hBody shots hEvents hShots =>
    exact .fights (by rw [Living, hPlayer]; exact hLive) (by rw [hPlayer]; exact hHealth) (by rw [hPlayer]; exact hBody)
      shots (hLog.trans hEvents) hShots
  | fallen hDead hHealth hTimer hBody shots msg hEvents hShots hMsg =>
    exact .fallen (by rw [hPlayer]; exact hDead) (by rw [hPlayer]; exact hHealth) (by rw [hPlayer]; exact hTimer)
      (by rw [hPlayer]; exact hBody) shots msg (hLog.trans hEvents) hShots hMsg

theorem combatChange_currentTick {s s' : Sim} (h : CombatChange True s s') : s'.currentTick = s.currentTick := by
  cases h <;> rfl

/-- A blow takes a third of the health, and the third one is the last. -/
theorem Sound.wound {health : Int} (h : Sound health) (hMore : health > kDamagePerShot) :
    Sound (health - kDamagePerShot) := by
  simp only [Sound, kDamagePerShot] at h hMore ⊢
  omega

theorem Fighting.combat {v : Fin kMaxPlayers} {s₀ s s' : Sim} (hTick : s.currentTick = s₀.currentTick)
    (h : Fighting v s₀ s) (hChange : CombatChange True s s') : Fighting v s₀ s' := by
  rcases combatChange_slot hChange v with hSilent | ⟨hLiving, hOwn⟩
  · exact h.silent hSilent
  cases h with
  | fallen hDead =>
    rw [Living, hDead] at hLiving
    exact absurd hLiving.2 (by decide)
  | fights hLive hHealth hBody shots hEvents hShots =>
    obtain ⟨hActive, hTeam, hSpawn, hPosition⟩ := hBody
    rcases hOwn with ⟨fireCooldown, fired, hPlayer, hLog, hFired⟩ | ⟨hMore, hPlayer, hLog⟩ |
      ⟨carryingFlag, msg, hPlayer, hLog, hMsg⟩
    · refine .fights ?_ ?_ ?_ (shots ++ fired) ?_ ?_
      · rw [Living, hPlayer]
        exact hLive
      · rw [hPlayer]
        exact hHealth
      · rw [hPlayer]
        exact ⟨hActive, hTeam, hSpawn, hPosition⟩
      · rw [hLog, hEvents, List.append_assoc]
      · intro ev hMem
        exact (List.mem_append.mp hMem).elim (hShots ev) (hFired ev)
    · refine .fights ?_ ?_ ?_ shots (hLog.trans hEvents) hShots
      · rw [Living, hPlayer]
        exact hLive
      · rw [hPlayer]
        exact hHealth.wound hMore
      · rw [hPlayer]
        exact ⟨hActive, hTeam, hSpawn, hPosition⟩
    · refine .fallen ?_ ?_ ?_ ?_ shots msg ?_ hShots ⟨hMsg.1, hMsg.2.trans hTick⟩
      · rw [hPlayer, dead]
      · rw [hPlayer, dead]
      · rw [hPlayer, dead]
      · rw [hPlayer, dead]
        exact ⟨hActive, hTeam, hSpawn, hPosition⟩
      · rw [hLog, hEvents, List.append_assoc]

theorem combat_fighting (rayDir : RayDir) {v : Fin kMaxPlayers} {s : Sim} (hLive : s.Living v)
    (hHealth : Sound (s.players v).health) : Fighting v s (s.combat rayDir) := by
  have hStart : Fighting v s s :=
    .fights hLive hHealth (SameBody.refl _) [] (List.append_nil _).symm (fun _ hMem => nomatch hMem)
  exact (Chain.invariant (I := fun s' => s'.currentTick = s.currentTick ∧ Fighting v s s')
    (fun _ _ hChange h => ⟨(combatChange_currentTick hChange).trans h.1, h.2.combat h.1 hChange⟩)
    (combat_changes rayDir s) ⟨rfl, hStart⟩).2

theorem combat_silent (rayDir : RayDir) {v : Fin kMaxPlayers} {s : Sim} (hDead : ¬ s.Living v) :
    Silent v s (s.combat rayDir) := by
  refine Chain.invariant (I := Silent v s) (fun s₁ s₂ hChange h => h.trans (combatChange_silent hChange ?_))
    (combat_changes rayDir s) (Silent.refl v s)
  rw [Living, h.1]
  exact hDead

def IsAct (ev : OutboundEvent) : Prop :=
  ev.message = some .shotFired ∨ ev.message = some .flagPickedUp ∨ ev.message = some .flagReturned ∨
    ev.message = some .flagCaptured

theorem flagChange_silent {s s' : Sim} (hChange : FlagChange s s') {v : Fin kMaxPlayers} (hDead : ¬ s.Living v) :
    Silent v s s' := by
  have hNot : ∀ {i : Fin kMaxPlayers}, s.Living i → i ≠ v := fun hLive hEq => hDead (hEq ▸ hLive)
  cases hChange with
  | follow => exact ⟨rfl, eventsOf_congr rfl v⟩
  | flagReturn team playerId hDropped hBy =>
    refine ⟨rfl, eventsOf_other rfl ?_⟩
    rw [OutboundEvent.subject_flagReturned]
    rcases hBy with rfl | ⟨i, rfl, hLive⟩
    · exact fun hSame => idByte_ne_noCarrier v (Option.some.inj hSame).symm
    · exact idByte_ne (hNot hLive)
  | pickUp id hLive =>
    refine silent_other (hNot hLive) rfl (eventsOf_other rfl ?_)
    rw [OutboundEvent.subject_flagPickedUp]
    exact idByte_ne (hNot hLive)
  | capture id hLive =>
    refine silent_other (hNot hLive) rfl (eventsOf_other rfl ?_)
    rw [OutboundEvent.subject_flagCaptured]
    exact idByte_ne (hNot hLive)

/-- Slot `v` lives on, and what is logged of it are acts. -/
structure LivesOn (v : Fin kMaxPlayers) (s₀ s : Sim) : Prop where
  body : SameBody (s₀.players v) (s.players v)
  alive : (s.players v).alive = (s₀.players v).alive
  health : (s.players v).health = (s₀.players v).health
  acts : ∃ acts, s.eventsOf v = s₀.eventsOf v ++ acts ∧ ∀ ev ∈ acts, IsAct ev

theorem LivesOn.push {v : Fin kMaxPlayers} {s₀ s s' : Sim} (h : LivesOn v s₀ s) {ev : OutboundEvent} (hAct : IsAct ev)
    (hOut : s'.outbound = s.outbound ++ [ev]) (hBody : SameBody (s.players v) (s'.players v))
    (hAlive : (s'.players v).alive = (s.players v).alive) (hHealth : (s'.players v).health = (s.players v).health) :
    LivesOn v s₀ s' := by
  obtain ⟨acts, hEvents, hActs⟩ := h.acts
  refine ⟨⟨hBody.active.trans h.body.active, hBody.team.trans h.body.team, hBody.spawnIndex.trans h.body.spawnIndex,
    hBody.position.trans h.body.position⟩, hAlive.trans h.alive, hHealth.trans h.health, ?_⟩
  by_cases hSubject : ev.subject = some (idByte v)
  · refine ⟨acts ++ [ev], by rw [eventsOf_own hOut hSubject, hEvents, List.append_assoc], ?_⟩
    intro ev' hMem
    rcases List.mem_append.mp hMem with hOld | hNew
    · exact hActs ev' hOld
    · rw [List.mem_singleton.mp hNew]
      exact hAct
  · exact ⟨acts, (eventsOf_other hOut hSubject).trans hEvents, hActs⟩

theorem LivesOn.flags {v : Fin kMaxPlayers} {s₀ s s' : Sim} (h : LivesOn v s₀ s) (hChange : FlagChange s s') :
    LivesOn v s₀ s' := by
  have hUpdate : ∀ (i : Fin kMaxPlayers) (carries : Bool),
      let q := Function.update s.players i { s.players i with carryingFlag := carries } v
      SameBody (s.players v) q ∧ q.alive = (s.players v).alive ∧ q.health = (s.players v).health := by
    intro i carries q
    by_cases hi : v = i
    · subst hi
      have hq : q = { s.players v with carryingFlag := carries } := Function.update_self ..
      rw [hq]
      exact ⟨⟨rfl, rfl, rfl, rfl⟩, rfl, rfl⟩
    · have hq : q = s.players v := Function.update_of_ne hi ..
      rw [hq]
      exact ⟨SameBody.refl _, rfl, rfl⟩
  cases hChange with
  | follow => exact ⟨h.body, h.alive, h.health, h.acts⟩
  | flagReturn =>
    exact h.push (Or.inr (Or.inr (Or.inl (OutboundEvent.message_serEvent _ (Or.inl rfl) _ _)))) rfl (SameBody.refl _) rfl rfl
  | pickUp id =>
    obtain ⟨hBody, hAlive, hHealth⟩ := hUpdate id true
    exact h.push (Or.inr (Or.inl (OutboundEvent.message_serEvent _ (Or.inl rfl) _ _))) rfl hBody hAlive hHealth
  | capture id =>
    obtain ⟨hBody, hAlive, hHealth⟩ := hUpdate id false
    exact h.push (Or.inr (Or.inr (Or.inr (OutboundEvent.message_serEvent _ (Or.inl rfl) _ _)))) rfl hBody hAlive hHealth

theorem touchPhase_livesOn (v : Fin kMaxPlayers) (s : Sim) : LivesOn v s s.touchPhase :=
  Chain.invariant (I := LivesOn v s) (fun _ _ hChange h => h.flags hChange) (touchPhase_changes s)
    ⟨SameBody.refl _, rfl, rfl, [], (List.append_nil _).symm, fun _ hMem => nomatch hMem⟩

theorem touchPhase_silent {v : Fin kMaxPlayers} {s : Sim} (hDead : ¬ s.Living v) : Silent v s s.touchPhase := by
  refine Chain.invariant (I := Silent v s) (fun s₁ s₂ hChange h => h.trans (flagChange_silent hChange ?_))
    (touchPhase_changes s) (Silent.refl v s)
  rw [Living, h.1]
  exact hDead

def respawnEvents (v : Fin kMaxPlayers) (p : Player) (tick : U32) : List OutboundEvent :=
  if p.active = true ∧ p.alive = false ∧ p.respawnTimer ≤ 1 then
    [.playerRespawned { playerId := idByte v, position := spawnPoint p.team p.spawnIndex, tick }]
  else []

theorem respawnTurn_eventsOf_other (s : Sim) {id v : Fin kMaxPlayers} (h : id ≠ v) :
    Silent v s (s.respawnTurn id) ∧ (s.respawnTurn id).currentTick = s.currentTick := by
  simp only [respawnTurn]
  split
  · exact ⟨Silent.refl v s, rfl⟩
  · split
    · refine ⟨silent_other h rfl (eventsOf_other rfl ?_), rfl⟩
      rw [OutboundEvent.subject_playerRespawned]
      exact idByte_ne h
    · exact ⟨silent_other h rfl (eventsOf_congr rfl v), rfl⟩

theorem respawnTurn_eventsOf (s : Sim) (v : Fin kMaxPlayers) :
    (s.respawnTurn v).eventsOf v = s.eventsOf v ++ respawnEvents v (s.players v) s.currentTick := by
  simp only [respawnTurn, respawnEvents]
  by_cases hSkip : (!(s.players v).active || (s.players v).alive) = true
  · rw [if_pos hSkip, if_neg, List.append_nil]
    rintro ⟨hActive, hDead, -⟩
    rw [hActive, hDead] at hSkip
    cases hSkip
  · rw [if_neg hSkip]
    simp only [Bool.or_eq_true, Bool.not_eq_true', not_or, Bool.not_eq_false, Bool.not_eq_true] at hSkip
    by_cases hDue : (s.players v).respawnTimer ≤ 1
    · rw [if_pos (show (s.players v).respawnTimer - 1 ≤ 0 by omega), if_pos ⟨hSkip.1, hSkip.2, hDue⟩]
      exact eventsOf_own rfl (OutboundEvent.subject_playerRespawned _)
    · rw [if_neg (show ¬ (s.players v).respawnTimer - 1 ≤ 0 by omega), if_neg (fun h => hDue h.2.2), List.append_nil]
      exact eventsOf_congr rfl v

theorem foldl_respawnTurn_eventsOf (is : List (Fin kMaxPlayers)) (hNodup : is.Nodup) (s : Sim) (v : Fin kMaxPlayers) :
    (is.foldl respawnTurn s).eventsOf v =
      s.eventsOf v ++ if v ∈ is then respawnEvents v (s.players v) s.currentTick else [] := by
  induction is generalizing s with
  | nil => simp
  | cons id is ih =>
    obtain ⟨hNew, hNodup⟩ := List.nodup_cons.mp hNodup
    rw [List.foldl_cons, ih hNodup]
    by_cases hId : id = v
    · subst hId
      rw [if_neg hNew, if_pos List.mem_cons_self, List.append_nil, respawnTurn_eventsOf]
    · obtain ⟨hSilent, hTick⟩ := respawnTurn_eventsOf_other s hId
      have hMem : v ∈ id :: is ↔ v ∈ is := by
        rw [List.mem_cons]
        exact ⟨fun h => h.resolve_left (fun hEq => hId hEq.symm), Or.inr⟩
      rw [hSilent.1, hSilent.2, hTick]
      simp only [hMem]

theorem respawnPhase_eventsOf (s : Sim) (v : Fin kMaxPlayers) :
    s.respawnPhase.eventsOf v = s.eventsOf v ++ respawnEvents v (s.players v) s.currentTick := by
  rw [respawnPhase, foldl_respawnTurn_eventsOf _ (List.nodup_finRange _), if_pos (List.mem_finRange v)]

end Sim
end CaptureTheFlag
