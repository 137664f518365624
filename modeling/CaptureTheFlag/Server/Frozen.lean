import CaptureTheFlag.Server.Calm
import CaptureTheFlag.Server.InputRing

/-! # After the match

`match_over_` stops commands and the win check; the other phases still run. The world is frozen exactly when
nothing is left for them to do: `Quiet` says so of the state in which the match has ended.
-/
namespace CaptureTheFlag
set_option autoImplicit false

namespace Sim

/-- What has to stay: scores, flag states and carriers, the players, and the list of game events. -/
structure Frozen (s s' : Sim) : Prop where
  score : s'.score = s.score
  state : ∀ team, (s'.flags team).state = (s.flags team).state
  carrier : ∀ team, (s'.flags team).carrierId = (s.flags team).carrierId
  position : ∀ id, (s'.players id).position = (s.players id).position
  health : ∀ id, (s'.players id).health = (s.players id).health
  alive : ∀ id, (s'.players id).alive = (s.players id).alive
  carryingFlag : ∀ id, (s'.players id).carryingFlag = (s.players id).carryingFlag
  events : s'.outbound.filter (fun ev => !ev.isSnapshot) = s.outbound.filter (fun ev => !ev.isSnapshot)

theorem Frozen.refl (s : Sim) : Frozen s s :=
  ⟨rfl, fun _ => rfl, fun _ => rfl, fun _ => rfl, fun _ => rfl, fun _ => rfl, fun _ => rfl, rfl⟩

theorem Frozen.trans {s s' s'' : Sim} (h : Frozen s s') (h' : Frozen s' s'') : Frozen s s'' where
  score := h'.score.trans h.score
  state team := (h'.state team).trans (h.state team)
  carrier team := (h'.carrier team).trans (h.carrier team)
  position id := (h'.position id).trans (h.position id)
  health id := (h'.health id).trans (h.health id)
  alive id := (h'.alive id).trans (h.alive id)
  carryingFlag id := (h'.carryingFlag id).trans (h.carryingFlag id)
  events := h'.events.trans h.events

theorem Frozen.symm {s s' : Sim} (h : Frozen s s') : Frozen s' s where
  score := h.score.symm
  state team := (h.state team).symm
  carrier team := (h.carrier team).symm
  position id := (h.position id).symm
  health id := (h.health id).symm
  alive id := (h.alive id).symm
  carryingFlag id := (h.carryingFlag id).symm
  events := h.events.symm

theorem Frozen.games {s s' : Sim} (h : Frozen s s') : s'.games = s.games := by rw [Sim.games, Sim.games, h.events]

/-- Nothing is left to happen: everyone lives, no flag lies about or can be taken or scored, and every buffered
input leaves its player where it is and does not get to fire before the cooldown has run out. -/
structure Quiet (s : Sim) : Prop where
  alive : ∀ id, (s.players id).active = true → (s.players id).alive = true
  flags : ∀ team, (s.flags team).state ≠ .dropped
  touch : ∀ id, ¬ s.Touches id
  inputs : ∀ id, (s.players id).active = true → ∀ (k : Nat) (e : SeqInput), (s.players id).queued[k]? = some e →
    (movementStep { position := (s.players id).position } e.2 Map.arena).position = (s.players id).position ∧
      (e.2.pressed kInputFire = true → (k : Int) < (s.players id).fireCooldown)

/-- The state after movement, when commands are ignored. -/
def stepped (s : Sim) : Sim := s.popInputs.movePlayers

theorem stepped_players (s : Sim) (id : Fin kMaxPlayers) :
    s.stepped.players id =
      if (s.players id).active ∧ (s.players id).alive then (s.players id).popped.moved (s.players id).nextInput
      else s.players id := by
  have hAlive : ∀ p : Player, p.popped.active = p.active ∧ p.popped.alive = p.alive := by
    intro p
    simp only [Player.popped]
    split <;> exact ⟨rfl, rfl⟩
  simp only [stepped, movePlayers_eq, popInputs_eq]
  cases hA : (s.players id).active with
  | false => simp [hA]
  | true =>
    cases hL : (s.players id).alive with
    | false => simp [hA, hL, (Player.popped_idle (p := s.players id) (by simp [hL])).1]
    | true => simp [hA, hAlive, hL]

theorem drainInbound_over (s : Sim) (cmds : List InboundCommand) (h : s.matchOver = true) :
    s.drainInbound cmds = s := by
  induction cmds with
  | nil => rfl
  | cons cmd cmds ih =>
    have hIgnored : s.applyCommand cmd = s := by simp [applyCommand, h]
    rw [drainInbound, List.foldl_cons, hIgnored]
    exact ih

theorem phases_matchOver (rayDir : RayDir) (s : Sim) : (s.combat rayDir).flagsPhase.matchOver = s.matchOver := by
  have hCombat : (s.combat rayDir).matchOver = s.matchOver :=
    Chain.invariant (I := fun s' => s'.matchOver = s.matchOver) (fun _ _ hChange h => by cases hChange <;> exact h)
      (combat_changes rayDir s) rfl
  have hTouch := Chain.invariant (I := fun s' => s'.matchOver = s.matchOver)
    (fun _ _ hChange h => by cases hChange <;> exact h) (touchPhase_changes _) hCombat
  exact Chain.invariant (I := fun s' => s'.matchOver = s.matchOver)
    (fun _ _ hChange h => by cases hChange <;> exact h) (respawnPhase_changes _) hTouch

theorem publish_events (s : Sim) :
    s.publish.outbound.filter (fun ev => !ev.isSnapshot) = s.outbound.filter (fun ev => !ev.isSnapshot) := by
  simp only [publish]
  split
  · simp only [push, List.filter_append, snapshotEvent]
    split <;> simp [OutboundEvent.isSnapshot]
  · rfl

theorem tick_over (rayDir : RayDir) (s : Sim) (cmds : List InboundCommand) (h : s.matchOver = true) :
    s.tick rayDir cmds =
      { ((s.stepped.combat rayDir).flagsPhase).publish with
        currentTick := ((s.stepped.combat rayDir).flagsPhase).publish.currentTick + 1 } := by
  have hOver : ((s.stepped.combat rayDir).flagsPhase).matchOver = true := by
    rw [phases_matchOver, stepped, movePlayers_eq, popInputs_eq]
    exact h
  have hWin : ((s.stepped.combat rayDir).flagsPhase).winCheck = (s.stepped.combat rayDir).flagsPhase := by
    simp only [winCheck, hOver, if_true]
  rw [tick_eq_finish, drainInbound_over s cmds h, finish, ← stepped, hWin]

theorem tick_stays_over (rayDir : RayDir) (s : Sim) (cmds : List InboundCommand) (h : s.matchOver = true) :
    (s.tick rayDir cmds).matchOver = true := by
  have hOver : ((s.stepped.combat rayDir).flagsPhase).matchOver = true := by
    rw [phases_matchOver, stepped, movePlayers_eq, popInputs_eq]
    exact h
  have hPublish := (publish_world ((s.stepped.combat rayDir).flagsPhase)).2.2.2
  rw [tick_over rayDir s cmds h]
  simp only [hPublish, hOver]

/-- The world after a calm tick of a finished match. -/
structure CalmTick (s s' : Sim) : Prop where
  players : ∀ id, s'.players id = respawned (cooled (s.stepped.players id))
  flags : s'.flags = s.stepped.followed
  score : s'.score = s.score
  dropTick : s'.dropTick = s.dropTick
  matchOver : s'.matchOver = true
  currentTick : s'.currentTick = s.currentTick + 1
  events : s'.outbound.filter (fun ev => !ev.isSnapshot) = s.outbound.filter (fun ev => !ev.isSnapshot)

theorem stepped_frame (s : Sim) :
    s.stepped.flags = s.flags ∧ s.stepped.score = s.score ∧ s.stepped.dropTick = s.dropTick ∧
      s.stepped.matchOver = s.matchOver ∧ s.stepped.currentTick = s.currentTick ∧ s.stepped.outbound = s.outbound := by
  simp only [stepped, movePlayers_eq, popInputs_eq, and_self]

theorem calmTick_of_calm (rayDir : RayDir) (s : Sim) (cmds : List InboundCommand) (hOver : s.matchOver = true)
    (hCalm : s.stepped.Calm) : CalmTick s (s.tick rayDir cmds) := by
  obtain ⟨hFlags, hScore, hDrop, hMatch, hTick, hOut⟩ := stepped_frame s
  obtain ⟨hpFlags, hpScore, hpDrop, hpMatch⟩ := publish_world s.stepped.calmed
  rw [tick_over rayDir s cmds hOver, hCalm.phases rayDir]
  constructor
  · intro id
    simp only [publish_players]
    rfl
  · exact hpFlags
  · exact hpScore.trans hScore
  · exact hpDrop.trans hDrop
  · exact hpMatch.trans (hMatch.trans hOver)
  · simp only [publish_currentTick]
    rw [← hTick]
    rfl
  · simp only [publish_events]
    rw [← hOut]
    rfl

theorem calm_of_games (rayDir : RayDir) (s : Sim) (cmds : List InboundCommand) (hOver : s.matchOver = true)
    (hGames : (s.tick rayDir cmds).games = s.games) : s.stepped.Calm := by
  by_contra hNot
  have hGrow := games_lt_of_not_calm rayDir s.stepped hNot
  have hSame : (s.tick rayDir cmds).games = ((s.stepped.combat rayDir).flagsPhase).games := by
    rw [tick_over rayDir s cmds hOver]
    simp only [games, publish_events]
  have hStart : s.stepped.games = s.games := by rw [games, (stepped_frame s).2.2.2.2.2, ← games]
  omega

end Sim
end CaptureTheFlag
