import CaptureTheFlag.Server.TickFrame

/-! # Ticks without game events

A calm state is one in which the phases after movement push no game event: nobody fires, no dropped flag is
due or touched, no flag can be picked up or captured, no respawn is due. From a calm state those phases do no
more than run the timers down and let carried flags follow; from any other state they push an event.
-/
namespace CaptureTheFlag
set_option autoImplicit false

namespace Sim

def games (s : Sim) : Nat := (s.outbound.filter fun ev => !ev.isSnapshot).length

theorem SamePublisher.games_le {s s' : Sim} (h : SamePublisher s s') : s.games ≤ s'.games := by
  obtain ⟨events, hEvents, -⟩ := h.outbound
  simp [games, hEvents]

theorem games_push (s : Sim) (ev : OutboundEvent) (h : ev.isSnapshot = false) : (s.push ev).games = s.games + 1 := by
  simp [games, push, h]

def Fires (s : Sim) (id : Fin kMaxPlayers) : Prop :=
  s.Living id ∧ (s.players id).fireCooldown ≤ 0 ∧ (s.appliedCmds id).pressed kInputFire = true

def cooled (p : Player) : Player :=
  if p.active ∧ p.alive ∧ p.fireCooldown > 0 then { p with fireCooldown := p.fireCooldown - 1 } else p

def coolAll (s : Sim) : Sim := { s with players := fun i => cooled (s.players i) }

theorem combatTurn_calm (rayDir : RayDir) (s : Sim) (id : Fin kMaxPlayers) (h : ¬ s.Fires id) :
    s.combatTurn rayDir id = s.setPlayer id (cooled (s.players id)) := by
  have hSame : s.setPlayer id (s.players id) = s := by simp [setPlayer]
  simp only [combatTurn, cooled]
  split
  · rename_i hSkip
    rw [if_neg, hSame]
    rintro ⟨hActive, hAlive, -⟩
    simp [hActive, hAlive] at hSkip
  · rename_i hLive
    simp only [Bool.or_eq_true, Bool.not_eq_true', not_or, Bool.not_eq_false] at hLive
    split
    · rename_i hCooldown
      rw [if_pos ⟨hLive.1, hLive.2, hCooldown⟩]
    · rename_i hReady
      have hHold : (!(s.appliedCmds id).pressed kInputFire) = true := by
        by_contra hFire
        exact h ⟨hLive, by omega, by simpa using hFire⟩
      rw [if_pos hHold, if_neg (fun hc => hReady hc.2.2), hSame]

theorem combatTurn_fires (rayDir : RayDir) (s : Sim) (id : Fin kMaxPlayers) (h : s.Fires id) :
    s.games < (s.combatTurn rayDir id).games := by
  obtain ⟨⟨hActive, hAlive⟩, hCooldown, hFire⟩ := h
  have hNot : ¬ (s.players id).fireCooldown > 0 := by omega
  simp only [combatTurn, hActive, hAlive, hNot, hFire, Bool.not_true, Bool.or_self, Bool.false_eq_true, if_false]
  split
  · rw [show ∀ (s : Sim) (p : Player), (s.setPlayer id p).games = s.games from fun _ _ => rfl, games_push _ _ rfl]
    omega
  · rename_i enemy hEnemy
    obtain ⟨hA, hL, hT⟩ := castRay_some hEnemy
    have hne : enemy ≠ id := fun h => hT (by rw [h])
    refine Nat.lt_of_lt_of_le ?_
      (Frame.combats (hurt_changes _ id enemy ?_ (fun _ _ => trivial))).publisher.games_le
    · rw [show ∀ (s : Sim) (p : Player), (s.setPlayer id p).games = s.games from fun _ _ => rfl, games_push _ _ rfl]
      omega
    · simpa [Living, setPlayer, push, hne] using And.intro hA hL

/-- Turns of other players do not decide whether a player fires while all they do is cool down. -/
theorem fires_setPlayer (s : Sim) (i id : Fin kMaxPlayers) (p : Player) (hne : id ≠ i) :
    (s.setPlayer i p).Fires id ↔ s.Fires id := by
  simp [Fires, Living, setPlayer, hne]

theorem foldl_combatTurn_calm (rayDir : RayDir) (is : List (Fin kMaxPlayers)) (hNodup : is.Nodup) (s : Sim)
    (h : ∀ id ∈ is, ¬ s.Fires id) :
    is.foldl (combatTurn rayDir) s =
      { s with players := fun i => if i ∈ is then cooled (s.players i) else s.players i } := by
  induction is generalizing s with
  | nil => simp
  | cons i is ih =>
    obtain ⟨hNotMem, hNodup⟩ := List.nodup_cons.mp hNodup
    rw [List.foldl_cons, combatTurn_calm rayDir s i (h i List.mem_cons_self), ih hNodup]
    · simp only [setPlayer]
      congr 1
      funext j
      by_cases hj : j = i <;> simp_all
    · intro id hMem
      rw [fires_setPlayer s i id _ (fun hEq => hNotMem (hEq ▸ hMem))]
      exact h id (List.mem_cons_of_mem _ hMem)

theorem combat_calm (rayDir : RayDir) (s : Sim) (h : ∀ id, ¬ s.Fires id) :
    s.combat rayDir = s.coolAll := by
  simp [combat, coolAll, foldl_combatTurn_calm rayDir _ (List.nodup_finRange _) s (fun id _ => h id)]

theorem foldl_combatTurn_fires (rayDir : RayDir) (is : List (Fin kMaxPlayers)) (hNodup : is.Nodup) (s : Sim)
    (id : Fin kMaxPlayers) (hMem : id ∈ is) (hFires : s.Fires id) :
    s.games < (is.foldl (combatTurn rayDir) s).games := by
  induction is generalizing s with
  | nil => cases hMem
  | cons i is ih =>
    obtain ⟨hNotMem, hNodup⟩ := List.nodup_cons.mp hNodup
    rw [List.foldl_cons]
    by_cases hFirst : s.Fires i
    · refine Nat.lt_of_lt_of_le (combatTurn_fires rayDir s i hFirst) ?_
      have hTurns := Chain.foldl (fun s id => combatTurn_changes rayDir s id (fun _ => trivial)) is
      exact (Frame.combats (hTurns _)).publisher.games_le
    · have hne : id ≠ i := fun hEq => hFirst (hEq ▸ hFires)
      rw [combatTurn_calm rayDir s i hFirst]
      exact ih hNodup _ ((List.mem_cons.mp hMem).resolve_left hne) ((fires_setPlayer s i id _ hne).mpr hFires)

theorem combat_fires (rayDir : RayDir) (s : Sim) (id : Fin kMaxPlayers) (h : s.Fires id) :
    s.games < (s.combat rayDir).games :=
  foldl_combatTurn_fires rayDir _ (List.nodup_finRange _) s id (List.mem_finRange id) h

def DropDue (s : Sim) (team : Team) : Prop :=
  (s.flags team).state = .dropped ∧ (s.currentTick - s.dropTick team).toNat ≥ kFlagAutoReturnTicks.toNat

/-- A carried flag is where its carrier is. -/
def followed (s : Sim) (team : Team) : FlagInfo :=
  match (s.flags team).state, s.findPlayer (s.flags team).carrierId with
  | .carried, some carrier => { s.flags team with position := (s.players carrier).position }
  | _, _ => s.flags team

/-- Only a carried flag follows anybody. -/
theorem followed_resting {s : Sim} (h : ∀ team, (s.flags team).state ≠ .carried) : s.followed = s.flags := by
  funext team
  rw [followed]
  split
  · rename_i hCarried _
    exact absurd hCarried (h team)
  · rfl

theorem flagTurn_calm (s : Sim) (team : Team) (h : ¬ s.DropDue team) :
    s.flagTurn team = s.setFlag team (s.followed team) := by
  have hSame : s.setFlag team (s.flags team) = s := by simp [setFlag]
  simp only [flagTurn, followed]
  split
  · rename_i hState
    cases hFound : s.findPlayer (s.flags team).carrierId with
    | none => simp [hState, hSame]
    | some carrier => simp [hState]
  · rename_i hState
    rw [if_neg (fun hDue => h ⟨hState, hDue⟩)]
    simp [hState, hSame]
  · rename_i hState
    simp [hState, hSame]

theorem flagTurn_due (s : Sim) (team : Team) (h : s.DropDue team) : s.games < (s.flagTurn team).games := by
  simp only [flagTurn, h.1, h.2, if_true]
  rw [games_push _ _ rfl]
  exact Nat.lt_succ_self _

/-- Something for player `id` to do in the touch loop. -/
def Touches (s : Sim) (id : Fin kMaxPlayers) : Prop :=
  s.Living id ∧
    (((s.flags (s.players id).team).state = .dropped ∧
      aabbOverlap (s.players id).position (s.flags (s.players id).team).position = true) ∨
    ((s.players id).carryingFlag = false ∧ (s.flags (s.players id).team.other).state ≠ .carried ∧
      aabbOverlap (s.players id).position (s.flags (s.players id).team.other).position = true) ∨
    ((s.players id).carryingFlag = true ∧ (s.flags (s.players id).team).state = .atBase ∧
      aabbOverlap (s.players id).position (baseOf (s.players id).team) = true))

theorem touchTurn_calm (s : Sim) (id : Fin kMaxPlayers) (h : ¬ s.Touches id) : s.touchTurn id = s := by
  simp only [touchTurn]
  split
  · rfl
  · rename_i hLive
    simp only [Bool.or_eq_true, Bool.not_eq_true', not_or, Bool.not_eq_false] at hLive
    have hReturn : s.touchReturn id = s := if_neg (fun hc => h ⟨hLive, Or.inl hc⟩)
    have hPick : s.pickUp id = s := if_neg (fun hc => h ⟨hLive, Or.inr (Or.inl ⟨by simpa using hc.1, hc.2⟩)⟩)
    have hCapture : s.capture id = s := if_neg (fun hc => h ⟨hLive, Or.inr (Or.inr hc)⟩)
    rw [hReturn, hPick, hCapture]

theorem touchTurn_touches (s : Sim) (id : Fin kMaxPlayers) (h : s.Touches id) :
    s.games < (s.touchTurn id).games := by
  obtain ⟨hLive, hTouch⟩ := h
  have hReturnLive := (living_touchReturn s id id).mpr hLive
  have hPickLive := (living_pickUp _ id id).mpr hReturnLive
  simp only [touchTurn, hLive.1, hLive.2, Bool.not_true, Bool.or_self, Bool.false_eq_true, if_false]
  have hPick := (Frame.touches (pickUp_changes _ id hReturnLive)).publisher.games_le
  have hCapture := (Frame.touches (capture_changes _ id hPickLive)).publisher.games_le
  -- The first of the three that applies pushes its event; what follows only adds.
  by_cases hReturn : (s.flags (s.players id).team).state = .dropped ∧
      aabbOverlap (s.players id).position (s.flags (s.players id).team).position = true
  · have hGrow : s.games < (s.touchReturn id).games := by
      simp only [touchReturn, hReturn, and_self, if_true]
      rw [games_push _ _ rfl]
      exact Nat.lt_succ_self _
    omega
  · have hSame : s.touchReturn id = s := if_neg hReturn
    rw [hSame] at hPick hCapture ⊢
    rcases hTouch.resolve_left hReturn with ⟨hFree, hState, hOverlap⟩ | hCap
    · have hGrow : s.games < (s.pickUp id).games := by
        simp only [pickUp, hFree, hOverlap, ne_eq, hState, not_false_eq_true, Bool.not_false, and_self, if_true]
        rw [games_push _ _ rfl]
        exact Nat.lt_succ_self _
      omega
    · have hNoPick : s.pickUp id = s := if_neg (fun hc => by simp [hCap.1] at hc)
      rw [hNoPick]
      simp only [capture, hCap, and_self, if_true]
      rw [games_push _ _ rfl]
      exact Nat.lt_succ_self _

theorem foldl_touchTurn_calm (is : List (Fin kMaxPlayers)) (s : Sim) (h : ∀ id ∈ is, ¬ s.Touches id) :
    is.foldl touchTurn s = s := by
  induction is with
  | nil => rfl
  | cons i is ih =>
    rw [List.foldl_cons, touchTurn_calm s i (h i List.mem_cons_self)]
    exact ih (fun id hMem => h id (List.mem_cons_of_mem _ hMem))

theorem foldl_touchTurn_touches (is : List (Fin kMaxPlayers)) (s : Sim) (id : Fin kMaxPlayers) (hMem : id ∈ is)
    (h : s.Touches id) : s.games < (is.foldl touchTurn s).games := by
  induction is with
  | nil => cases hMem
  | cons i is ih =>
    rw [List.foldl_cons]
    by_cases hFirst : s.Touches i
    · exact Nat.lt_of_lt_of_le (touchTurn_touches s i hFirst)
        (Frame.touches (Chain.foldl touchTurn_changes is _)).publisher.games_le
    · rw [touchTurn_calm s i hFirst]
      exact ih ((List.mem_cons.mp hMem).resolve_left (fun hEq => hFirst (hEq ▸ h)))

/-- Following carriers changes nothing that the touch loop looks at. -/
theorem touches_followed (s : Sim) (id : Fin kMaxPlayers) :
    { s with flags := s.followed }.Touches id ↔ s.Touches id := by
  have hState : ∀ team, (s.followed team).state = (s.flags team).state := by
    intro team
    simp only [followed]
    split <;> rfl
  have hPos : ∀ team, (s.flags team).state ≠ .carried → (s.followed team).position = (s.flags team).position := by
    intro team hNot
    simp only [followed]
    split
    · rename_i hCarried _
      exact absurd hCarried hNot
    · rfl
  simp only [Touches, Living, hState]
  constructor
  · rintro ⟨hLive, hTouch⟩
    refine ⟨hLive, hTouch.imp (fun h => ?_) (Or.imp_left (fun h => ?_))⟩
    · rwa [hPos _ (by simp [h.1])] at h
    · rwa [hPos _ h.2.1] at h
  · rintro ⟨hLive, hTouch⟩
    refine ⟨hLive, hTouch.imp (fun h => ?_) (Or.imp_left (fun h => ?_))⟩
    · rwa [hPos _ (by simp [h.1])]
    · rwa [hPos _ h.2.1]

theorem flagTurns_calm (s : Sim) (h : ∀ team, ¬ s.DropDue team) :
    [Team.red, Team.blue].foldl flagTurn s = { s with flags := s.followed } := by
  have hBlue : ¬ (s.setFlag .red (s.followed .red)).DropDue .blue := by
    have := h .blue
    simpa [DropDue, setFlag] using this
  have hFollow : (s.setFlag .red (s.followed .red)).followed .blue = s.followed .blue := by
    simp [followed, setFlag, findPlayer]
  simp only [List.foldl_cons, List.foldl_nil]
  rw [flagTurn_calm s .red (h .red), flagTurn_calm _ .blue hBlue, hFollow]
  simp only [setFlag]
  congr 1
  funext team
  cases team <;> simp

theorem flagTurns_due (s : Sim) (team : Team) (h : s.DropDue team) :
    s.games < ([Team.red, Team.blue].foldl flagTurn s).games := by
  simp only [List.foldl_cons, List.foldl_nil]
  have hBlue := (Frame.touches (flagTurn_changes (s.flagTurn .red) .blue)).publisher.games_le
  by_cases hRed : s.DropDue .red
  · exact Nat.lt_of_lt_of_le (flagTurn_due s .red hRed) hBlue
  · obtain rfl : team = .blue := by
      cases team
      · exact absurd h hRed
      · rfl
    rw [flagTurn_calm s .red hRed]
    have hDue : (s.setFlag .red (s.followed .red)).DropDue .blue := by simpa [DropDue, setFlag] using h
    exact flagTurn_due _ .blue hDue

def RespawnDue (s : Sim) (id : Fin kMaxPlayers) : Prop :=
  (s.players id).active = true ∧ (s.players id).alive = false ∧ (s.players id).respawnTimer ≤ 1

theorem respawnTurn_calm (s : Sim) (id : Fin kMaxPlayers) (h : ¬ s.RespawnDue id) :
    s.respawnTurn id = s.setPlayer id (respawned (s.players id)) := by
  simp only [respawnTurn, respawned]
  split
  · simp [setPlayer]
  · rename_i hDead
    simp only [Bool.or_eq_true, Bool.not_eq_true', not_or, Bool.not_eq_false, Bool.not_eq_true] at hDead
    have hTimer : ¬ (s.players id).respawnTimer - 1 ≤ 0 := fun hDue => h ⟨hDead.1, hDead.2, by omega⟩
    simp only [hTimer, if_false]

theorem respawnTurn_due (s : Sim) (id : Fin kMaxPlayers) (h : s.RespawnDue id) :
    s.games < (s.respawnTurn id).games := by
  have hTimer : (s.players id).respawnTimer - 1 ≤ 0 := by
    have := h.2.2
    omega
  simp only [respawnTurn, h.1, h.2.1, hTimer, Bool.not_true, Bool.or_self, Bool.false_eq_true, if_false, if_true]
  rw [games_push _ _ rfl]
  exact Nat.lt_succ_self _

theorem respawnDue_setPlayer (s : Sim) (i id : Fin kMaxPlayers) (p : Player) (hne : id ≠ i) :
    (s.setPlayer i p).RespawnDue id ↔ s.RespawnDue id := by
  simp [RespawnDue, setPlayer, hne]

theorem foldl_respawnTurn_calm (is : List (Fin kMaxPlayers)) (hNodup : is.Nodup) (s : Sim)
    (h : ∀ id ∈ is, ¬ s.RespawnDue id) :
    is.foldl respawnTurn s =
      { s with players := fun i => if i ∈ is then respawned (s.players i) else s.players i } := by
  induction is generalizing s with
  | nil => simp
  | cons i is ih =>
    obtain ⟨hNotMem, hNodup⟩ := List.nodup_cons.mp hNodup
    rw [List.foldl_cons, respawnTurn_calm s i (h i List.mem_cons_self), ih hNodup]
    · simp only [setPlayer]
      congr 1
      funext j
      by_cases hj : j = i <;> simp_all
    · intro id hMem
      rw [respawnDue_setPlayer s i id _ (fun hEq => hNotMem (hEq ▸ hMem))]
      exact h id (List.mem_cons_of_mem _ hMem)

theorem foldl_respawnTurn_due (is : List (Fin kMaxPlayers)) (hNodup : is.Nodup) (s : Sim) (id : Fin kMaxPlayers)
    (hMem : id ∈ is) (hDue : s.RespawnDue id) : s.games < (is.foldl respawnTurn s).games := by
  induction is generalizing s with
  | nil => cases hMem
  | cons i is ih =>
    obtain ⟨hNotMem, hNodup⟩ := List.nodup_cons.mp hNodup
    rw [List.foldl_cons]
    by_cases hFirst : s.RespawnDue i
    · exact Nat.lt_of_lt_of_le (respawnTurn_due s i hFirst)
        (Frame.respawns (Chain.foldl respawnTurn_changes is _)).publisher.games_le
    · have hne : id ≠ i := fun hEq => hFirst (hEq ▸ hDue)
      rw [respawnTurn_calm s i hFirst]
      exact ih hNodup _ ((List.mem_cons.mp hMem).resolve_left hne) ((respawnDue_setPlayer s i id _ hne).mpr hDue)

/-- Everybody lives, so the respawn loop does nothing. -/
theorem respawnPhase_living {s : Sim} (h : ∀ id, (s.players id).active = true → (s.players id).alive = true) :
    s.respawnPhase = s := by
  have hDue : ∀ id ∈ List.finRange kMaxPlayers, ¬ s.RespawnDue id := by
    rintro id - ⟨hActive, hDead, -⟩
    rw [h id hActive] at hDead
    cases hDead
  have hSame : (fun i => respawned (s.players i)) = s.players := by
    funext i
    cases hActive : (s.players i).active with
    | false => simp [respawned, hActive]
    | true => simp [respawned, h i hActive]
  rw [respawnPhase, foldl_respawnTurn_calm _ (List.nodup_finRange _) s hDue]
  simp only [List.mem_finRange, if_true, hSame]

structure Calm (s : Sim) : Prop where
  fire : ∀ id, ¬ s.Fires id
  drop : ∀ team, ¬ s.DropDue team
  touch : ∀ id, ¬ s.Touches id
  respawn : ∀ id, ¬ s.RespawnDue id

/-- Timers run down, carried flags follow, nothing else. -/
def calmed (s : Sim) : Sim :=
  { s with players := fun i => respawned (cooled (s.players i)), flags := s.followed }

theorem cooled_fields (p : Player) :
    (cooled p).active = p.active ∧ (cooled p).alive = p.alive ∧ (cooled p).team = p.team ∧
      (cooled p).position = p.position ∧ (cooled p).carryingFlag = p.carryingFlag ∧
      (cooled p).respawnTimer = p.respawnTimer := by
  simp only [cooled]
  split <;> exact ⟨rfl, rfl, rfl, rfl, rfl, rfl⟩

theorem cooled_fireCooldown {p : Player} (hActive : p.active = true) (hAlive : p.alive = true) :
    (cooled p).fireCooldown = if p.fireCooldown > 0 then p.fireCooldown - 1 else p.fireCooldown := by
  by_cases hCooldown : p.fireCooldown > 0 <;> simp [cooled, hActive, hAlive, hCooldown]

/-- The state after the first loop of the flags phase, on a calm tick. -/
def followAll (s : Sim) : Sim := { s.coolAll with flags := s.followed }

theorem followed_coolAll (s : Sim) : s.coolAll.followed = s.followed := by
  funext team
  have hFind : ∀ id, s.coolAll.findPlayer id = s.findPlayer id := by
    intro id
    simp only [findPlayer, coolAll, (cooled_fields _).1]
  simp only [followed, hFind]
  simp only [coolAll, (cooled_fields _).2.2.2.1]

theorem flagTurns_coolAll (s : Sim) (h : ∀ team, ¬ s.DropDue team) :
    [Team.red, Team.blue].foldl flagTurn s.coolAll = s.followAll := by
  rw [flagTurns_calm s.coolAll h, followed_coolAll, followAll]

theorem touches_followAll (s : Sim) (id : Fin kMaxPlayers) : s.followAll.Touches id ↔ s.Touches id := by
  rw [← touches_followed s id]
  obtain ⟨hActive, hAlive, hTeam, hPosition, hCarrying, -⟩ := cooled_fields (s.players id)
  simp only [Touches, Living, followAll, coolAll, hActive, hAlive, hTeam, hPosition, hCarrying]

theorem respawnDue_followAll (s : Sim) (id : Fin kMaxPlayers) : s.followAll.RespawnDue id ↔ s.RespawnDue id := by
  obtain ⟨hActive, hAlive, -, -, -, hTimer⟩ := cooled_fields (s.players id)
  simp only [RespawnDue, followAll, coolAll, hActive, hAlive, hTimer]

theorem touchTurns_followAll (s : Sim) (h : ∀ id, ¬ s.Touches id) :
    (List.finRange kMaxPlayers).foldl touchTurn s.followAll = s.followAll :=
  foldl_touchTurn_calm _ _ (fun id _ => (touches_followAll s id).not.mpr (h id))

theorem Calm.phases {s : Sim} (h : s.Calm) (rayDir : RayDir) : (s.combat rayDir).flagsPhase = s.calmed := by
  rw [flagsPhase_eq, combat_calm rayDir s h.fire, touchPhase, flagTurns_coolAll s h.drop,
    touchTurns_followAll s h.touch, respawnPhase, foldl_respawnTurn_calm _ (List.nodup_finRange _) s.followAll
      (fun id _ => (respawnDue_followAll s id).not.mpr (h.respawn id))]
  simp [calmed, followAll, coolAll]

theorem games_lt_of_not_calm (rayDir : RayDir) (s : Sim) (h : ¬ s.Calm) :
    s.games < ((s.combat rayDir).flagsPhase).games := by
  rw [flagsPhase_eq, touchPhase]
  have hCombat := (Frame.combats (combat_changes rayDir s)).publisher.games_le
  have hFlags := (Frame.touches (Chain.foldl flagTurn_changes [.red, .blue] (s.combat rayDir))).publisher.games_le
  have hTouch := (Frame.touches (Chain.foldl touchTurn_changes (List.finRange kMaxPlayers)
    ([Team.red, Team.blue].foldl flagTurn (s.combat rayDir)))).publisher.games_le
  have hRespawn := (Frame.respawns (respawnPhase_changes ((List.finRange kMaxPlayers).foldl touchTurn
    ([Team.red, Team.blue].foldl flagTurn (s.combat rayDir))))).publisher.games_le
  by_cases hFire : ∀ id, ¬ s.Fires id
  · rw [combat_calm rayDir s hFire] at hCombat hFlags hTouch hRespawn ⊢
    by_cases hDrop : ∀ team, ¬ s.DropDue team
    · rw [flagTurns_coolAll s hDrop] at hFlags hTouch hRespawn ⊢
      by_cases hTouches : ∀ id, ¬ s.Touches id
      · rw [touchTurns_followAll s hTouches]
        have hDue : ∃ id, s.RespawnDue id := by
          by_contra hNone
          exact h ⟨hFire, hDrop, hTouches, fun id hDue => hNone ⟨id, hDue⟩⟩
        obtain ⟨id, hDue⟩ := hDue
        exact foldl_respawnTurn_due _ (List.nodup_finRange _) s.followAll id (List.mem_finRange id)
          ((respawnDue_followAll s id).mpr hDue)
      · simp only [not_forall, not_not] at hTouches
        obtain ⟨id, hId⟩ := hTouches
        exact Nat.lt_of_lt_of_le (foldl_touchTurn_touches _ s.followAll id (List.mem_finRange id)
          ((touches_followAll s id).mpr hId)) hRespawn
    · simp only [not_forall, not_not] at hDrop
      obtain ⟨team, hTeam⟩ := hDrop
      exact Nat.lt_of_lt_of_le (flagTurns_due s.coolAll team hTeam) (hTouch.trans hRespawn)
  · simp only [not_forall, not_not] at hFire
    obtain ⟨id, hId⟩ := hFire
    exact Nat.lt_of_lt_of_le (combat_fires rayDir s id hId) (hFlags.trans (hTouch.trans hRespawn))

def movedBy (s : Sim) (cmds : List InboundCommand) : Sim := (s.drainInbound cmds).popInputs.movePlayers

theorem Calm.tick {s : Sim} {cmds : List InboundCommand} (h : (s.movedBy cmds).Calm) (rayDir : RayDir) :
    s.tick rayDir cmds =
      { (s.movedBy cmds).calmed.winCheck.publish with
        currentTick := (s.movedBy cmds).calmed.winCheck.publish.currentTick + 1 } := by
  rw [tick_eq_finish, finish, ← movedBy, h.phases rayDir]

end Sim
end CaptureTheFlag
