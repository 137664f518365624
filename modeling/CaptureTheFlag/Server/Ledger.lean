import CaptureTheFlag.Library.Sums
import CaptureTheFlag.Server.Lifecycle
import Mathlib.Algebra.Order.BigOperators.Group.Finset

/-! # What a kill costs

A living player carries the wounds it took since it was last at full health. A shot inflicts at most one wound, and the
third one kills: every kill that was announced is paid for with three shots that were announced.
-/
namespace CaptureTheFlag
set_option autoImplicit false
open Protocol Relation

namespace Sim

def wounds (p : Player) : Int := if p.active ∧ p.alive then (kMaxHealth - p.health) / kDamagePerShot else 0

def openWounds (s : Sim) : Int := ∑ v, wounds (s.players v)

/-- How often the message has been announced. -/
def tally (message : MessageType) (s : Sim) : Nat := s.outbound.countP fun ev => ev.message = some message

theorem openWounds_update {s s' : Sim} {v : Fin kMaxPlayers} {p : Player}
    (hPlayers : s'.players = Function.update s.players v p) :
    s'.openWounds = s.openWounds - wounds (s.players v) + wounds p := by
  rw [openWounds, hPlayers]
  exact Sums.sum_update wounds s.players v p

theorem openWounds_congr {s s' : Sim} (h : ∀ v, wounds (s'.players v) = wounds (s.players v)) :
    s'.openWounds = s.openWounds := Finset.sum_congr rfl fun v _ => h v

theorem wounds_nonneg {p : Player} (h : p.active = true → Life p) : 0 ≤ wounds p := by
  rw [wounds]
  split
  · rename_i hLiving
    obtain ⟨-, hHealth | hHealth | hHealth⟩ | ⟨hDead, -⟩ := h hLiving.1
    · rw [hHealth]
      decide
    · rw [hHealth]
      decide
    · rw [hHealth]
      decide
    · rw [hLiving.2] at hDead
      cases hDead
  · decide

theorem wounds_same {p q : Player} (h : SameLife p q) : wounds q = wounds p := by
  simp only [wounds, h.active, h.alive, h.health]

theorem wounds_dead {p : Player} (h : p.alive = false) : wounds p = 0 := by
  simp [wounds, h]

theorem wounds_gone {p : Player} (h : p.active = false) : wounds p = 0 := by
  simp [wounds, h]

theorem wounds_full {p : Player} (h : p.health = kMaxHealth) : wounds p = 0 := by
  rw [wounds, h]
  split
  · decide
  · rfl

theorem tally_push (message : MessageType) (s : Sim) (ev : OutboundEvent) :
    (s.push ev).tally message = s.tally message + if ev.message = some message then 1 else 0 := by
  simp only [tally, push, List.countP_append, List.countP_singleton, decide_eq_true_eq]

theorem tally_other {message : MessageType} (s : Sim) {ev : OutboundEvent} (h : ev.message ≠ some message) :
    (s.push ev).tally message = s.tally message := by
  rw [tally_push, if_neg h]
  rfl

/-- The tallies stand, and no wound is added. -/
structure Unhurt (s s' : Sim) : Prop where
  shots : s'.tally .shotFired = s.tally .shotFired
  kills : s'.tally .playerKilled = s.tally .playerKilled
  healed : s'.openWounds ≤ s.openWounds

theorem Unhurt.refl (s : Sim) : Unhurt s s := ⟨rfl, rfl, Int.le_refl _⟩

theorem Unhurt.trans {s s' s'' : Sim} (h : Unhurt s s') (h' : Unhurt s' s'') : Unhurt s s'' :=
  ⟨h'.shots.trans h.shots, h'.kills.trans h.kills, h'.healed.trans h.healed⟩

theorem Unhurt.push {s s' : Sim} (h : Unhurt s s') {ev : OutboundEvent} {message : MessageType}
    (hMessage : ev.message = some message) (hOther : message ≠ .shotFired ∧ message ≠ .playerKilled) :
    Unhurt s (s'.push ev) := by
  constructor
  · rw [tally_other s' (by rw [hMessage]; exact fun hSame => hOther.1 (Option.some.inj hSame))]
    exact h.shots
  · rw [tally_other s' (by rw [hMessage]; exact fun hSame => hOther.2 (Option.some.inj hSame))]
    exact h.kills
  · exact h.healed

theorem Unhurt.player {s s' : Sim} {v : Fin kMaxPlayers} {p : Player} (hOutbound : s'.outbound = s.outbound)
    (hPlayers : s'.players = Function.update s.players v p) (hWounds : wounds p ≤ wounds (s.players v)) :
    Unhurt s s' := by
  constructor
  · rw [tally, tally, hOutbound]
  · rw [tally, tally, hOutbound]
  · rw [openWounds_update hPlayers]
    omega

theorem Unhurt.congr {s s' : Sim} (hOutbound : s'.outbound = s.outbound) (hPlayers : s'.players = s.players) :
    Unhurt s s' := by
  constructor
  · rw [tally, tally, hOutbound]
  · rw [tally, tally, hOutbound]
  · rw [openWounds, hPlayers]
    exact Int.le_refl _

theorem applied_unhurt {s s' : Sim} {cmd : InboundCommand} (hLife : AllLife s) (h : Applied s cmd s') : Unhurt s s' := by
  cases h with
  | ignored => exact Unhurt.refl s
  | join id team spawnIndex hGoing hFree =>
    refine Unhurt.player rfl rfl ?_
    rw [wounds_full rfl, wounds_gone hFree]
  | leave id hGoing hActive =>
    refine Unhurt.player ?_ rfl ?_
    · simp only [leaveDrop]
      split <;> rfl
    · rw [wounds_gone rfl]
      exact wounds_nonneg (hLife id)
  | input id seq input =>
    refine Unhurt.player rfl rfl ?_
    rw [wounds_same (acceptInput_sameLife _ seq input)]

theorem drainInbound_unhurt (cmds : List InboundCommand) {s : Sim} (hLife : AllLife s) :
    Unhurt s (s.drainInbound cmds) := by
  have hKeeps : ∀ s₁ cmd s₂, Applied s₁ cmd s₂ → AllLife s₁ ∧ Unhurt s s₁ → AllLife s₂ ∧ Unhurt s s₂ := by
    rintro s₁ cmd s₂ hApplied ⟨hLife, h⟩
    exact ⟨AllLife.command hApplied hLife, h.trans (applied_unhurt hLife hApplied)⟩
  exact (drainInbound_invariant hKeeps s cmds ⟨hLife, Unhurt.refl s⟩).2

theorem popInputs_unhurt (s : Sim) : Unhurt s s.popInputs := by
  have hWounds : ∀ v, wounds (s.popInputs.players v) = wounds (s.players v) := by
    intro v
    rw [popInputs_eq]
    simp only
    split
    · exact wounds_same (popped_sameLife _)
    · rfl
  constructor
  · rw [popInputs_eq]
    rfl
  · rw [popInputs_eq]
    rfl
  · rw [openWounds_congr hWounds]

theorem movePlayers_unhurt (s : Sim) : Unhurt s s.movePlayers := by
  have hWounds : ∀ v, wounds (s.movePlayers.players v) = wounds (s.players v) := by
    intro v
    rw [movePlayers_eq]
    simp only
    split <;> rfl
  constructor
  · rw [movePlayers_eq]
    rfl
  · rw [movePlayers_eq]
    rfl
  · rw [openWounds_congr hWounds]

theorem movedBy_unhurt (cmds : List InboundCommand) {s : Sim} (hLife : AllLife s) : Unhurt s (s.movedBy cmds) :=
  ((drainInbound_unhurt cmds hLife).trans (popInputs_unhurt _)).trans (movePlayers_unhurt _)

theorem flagChange_unhurt {s s' : Sim} (h : FlagChange s s') : Unhurt s s' := by
  cases h with
  | follow team position hCarried => exact Unhurt.congr rfl rfl
  | flagReturn team playerId hDropped =>
    refine Unhurt.push ?_ (OutboundEvent.message_serEvent _ (Or.inl rfl) _ _) ⟨by decide, by decide⟩
    exact Unhurt.congr rfl rfl
  | pickUp id hLive hFree hState hTouch =>
    refine Unhurt.push ?_ (OutboundEvent.message_serEvent _ (Or.inl rfl) _ _) ⟨by decide, by decide⟩
    exact Unhurt.player rfl rfl (Int.le_refl _)
  | capture id hLive hCarries =>
    refine Unhurt.push ?_ (OutboundEvent.message_serEvent _ (Or.inl rfl) _ _) ⟨by decide, by decide⟩
    exact Unhurt.player rfl rfl (Int.le_refl _)

theorem respawnChange_unhurt {s s' : Sim} (h : RespawnChange s s') : Unhurt s s' := by
  cases h with
  | countDown id hDead => exact Unhurt.player rfl rfl (Int.le_refl _)
  | respawn id msg hActive hDead hDue =>
    refine Unhurt.push ?_ (message_playerRespawned msg) ⟨by decide, by decide⟩
    refine Unhurt.player rfl rfl ?_
    rw [wounds_full rfl, wounds_dead hDead]

theorem winCheck_unhurt (s : Sim) : Unhurt s s.winCheck := by
  simp only [winCheck]
  split
  · exact Unhurt.refl s
  · split
    · refine Unhurt.push ?_ (OutboundEvent.message_serEvent _ (Or.inl rfl) _ _) ⟨by decide, by decide⟩
      exact Unhurt.congr rfl rfl
    · exact Unhurt.refl s

theorem publish_unhurt (s : Sim) : Unhurt s s.publish := by
  cases hDue : s.publishDue with
  | true =>
    have hOther : ∀ message, s.publish.tally message = s.tally message := by
      intro message
      rw [publish_due s hDue]
      apply tally_other s.acked
      rw [OutboundEvent.message_of_snapshot (toPublish_isSnapshot s)]
      intro hSnapshot
      cases hSnapshot
    constructor
    · exact hOther .shotFired
    · exact hOther .playerKilled
    · rw [openWounds, publish_players]
      exact Int.le_refl _
  | false =>
    rw [publish_not_due s hDue]
    exact Unhurt.congr rfl rfl

/-- The announced shots that neither an open wound nor an announced kill has used up. -/
def balance (s : Sim) : Int := s.tally .shotFired - 3 * s.tally .playerKilled - s.openWounds

theorem Unhurt.balance {s s' : Sim} (h : Unhurt s s') : s.balance ≤ s'.balance := by
  have hHealed := h.healed
  simp only [Sim.balance, h.shots, h.kills]
  omega

theorem wounds_wounded {p : Player} (hLive : p.active = true ∧ p.alive = true) (hSound : Sound p.health)
    (hMore : p.health > kDamagePerShot) :
    wounds { p with health := p.health - kDamagePerShot } = wounds p + 1 := by
  simp only [wounds, hLive, and_self, if_true]
  obtain hHealth | hHealth | hHealth := hSound
  · rw [hHealth]
    decide
  · rw [hHealth]
    decide
  · rw [hHealth] at hMore
    exact absurd hMore (by decide)

theorem wounds_last {p : Player} (hLive : p.active = true ∧ p.alive = true) (hSound : Sound p.health)
    (hLast : ¬ p.health > kDamagePerShot) : wounds p = 2 := by
  simp only [wounds, hLive, and_self, if_true]
  obtain hHealth | hHealth | hHealth := hSound
  · rw [hHealth] at hLast
    exact absurd (by decide) hLast
  · rw [hHealth] at hLast
    exact absurd (by decide) hLast
  · rw [hHealth]
    decide

theorem handleDeath_players (s : Sim) (victim : Fin kMaxPlayers) :
    ∃ q : Player, q.alive = false ∧ (s.handleDeath victim).players = Function.update s.players victim q := by
  simp only [handleDeath]
  split
  · refine ⟨{ dead (s.players victim) with carryingFlag := false }, rfl, ?_⟩
    simp only [setPlayer, setFlag, push, dead, Function.update_idem]
  · exact ⟨dead (s.players victim), rfl, rfl⟩

theorem handleDeath_tally {message : MessageType} (hOther : message ≠ .flagDropped) (s : Sim)
    (victim : Fin kMaxPlayers) : (s.handleDeath victim).tally message = s.tally message := by
  simp only [handleDeath]
  split
  · refine tally_other _ ?_
    rw [OutboundEvent.flagDropped, OutboundEvent.message_serEvent _ (Or.inl rfl)]
    exact fun hSame => hOther (Option.some.inj hSame).symm
  · rfl

/-- A hit uses up one shot: it opens a wound, or closes two and kills. -/
theorem hurt_balance (s : Sim) (shooter : Fin kMaxPlayers) {enemy : Fin kMaxPlayers} (hLive : s.Living enemy)
    (hSound : Sound (s.players enemy).health) : s.balance - 1 ≤ (s.hurt shooter enemy).balance := by
  by_cases hMore : (s.players enemy).health > kDamagePerShot
  · have hHurt : s.hurt shooter enemy =
        s.setPlayer enemy { s.players enemy with health := (s.players enemy).health - kDamagePerShot } := by
      have hLeft : ¬ (s.players enemy).health - kDamagePerShot = 0 := by
        simp only [kDamagePerShot] at hMore ⊢
        omega
      simp only [hurt, hMore, if_true, hLeft, if_false]
    have hWounds : (s.hurt shooter enemy).openWounds = s.openWounds + 1 := by
      rw [hHurt, openWounds_update rfl, wounds_wounded hLive hSound hMore]
      omega
    have hTally : ∀ message, (s.hurt shooter enemy).tally message = s.tally message := by
      intro message
      rw [hHurt]
      rfl
    simp only [balance, hTally, hWounds]
    omega
  · obtain ⟨q, hDead, hPlayers⟩ :=
      handleDeath_players (s.setPlayer enemy { s.players enemy with health := 0 }) enemy
    have hHurt : s.hurt shooter enemy =
        ((s.setPlayer enemy { s.players enemy with health := 0 }).handleDeath enemy).push (.playerKilled
          { victimId := idByte enemy, killerId := idByte shooter, tick := s.currentTick }) := by
      simp only [hurt, hMore, if_false, if_true]
      rfl
    have hWounds : (s.hurt shooter enemy).openWounds = s.openWounds - 2 := by
      rw [openWounds_update (s := s) (p := q), wounds_last hLive hSound hMore, wounds_dead hDead, Int.add_zero]
      rw [hHurt, push, hPlayers, setPlayer, Function.update_idem]
    have hShots : (s.hurt shooter enemy).tally .shotFired = s.tally .shotFired := by
      rw [hHurt, tally_other _ (by rw [message_playerKilled]; decide), handleDeath_tally (by decide)]
      rfl
    have hKills : (s.hurt shooter enemy).tally .playerKilled = s.tally .playerKilled + 1 := by
      rw [hHurt, tally_push, if_pos (message_playerKilled _), handleDeath_tally (by decide)]
      rfl
    simp only [balance, hShots, hKills, hWounds]
    omega

theorem shot_balance (s : Sim) (id : Fin kMaxPlayers) (msg : MsgShotFired) (fireCooldown : Int) :
    ((s.push (.shotFired msg)).setPlayer id { s.players id with fireCooldown }).balance = s.balance + 1 := by
  have hMessage : (OutboundEvent.shotFired msg).message = some .shotFired :=
    OutboundEvent.message_serEvent _ (Or.inr rfl) _ _
  have hShots : ((s.push (.shotFired msg)).setPlayer id { s.players id with fireCooldown }).tally .shotFired =
      s.tally .shotFired + 1 := by
    refine (tally_push .shotFired s (.shotFired msg)).trans ?_
    rw [if_pos hMessage]
  have hKills : ((s.push (.shotFired msg)).setPlayer id { s.players id with fireCooldown }).tally .playerKilled =
      s.tally .playerKilled := tally_other s (by rw [hMessage]; decide)
  have hWounds : ((s.push (.shotFired msg)).setPlayer id { s.players id with fireCooldown }).openWounds =
      s.openWounds := by
    rw [openWounds_update (s := s) rfl]
    exact Int.sub_add_cancel _ _
  simp only [balance, hShots, hKills, hWounds]
  omega

/-- Every player that lives has a health it can have. -/
def AllSound (s : Sim) : Prop := ∀ v, s.Living v → Sound (s.players v).health

theorem AllLife.allSound {s : Sim} (h : AllLife s) : AllSound s := by
  rintro v ⟨hActive, hAlive⟩
  obtain ⟨-, hSound⟩ | ⟨hDead, -⟩ := h v hActive
  · exact hSound
  · rw [hAlive] at hDead
    cases hDead

theorem AllSound.combat {s s' : Sim} (h : AllSound s) (hChange : CombatChange True s s') : AllSound s' := by
  intro v hLive
  rcases combatChange_slot hChange v with ⟨hPlayer, -⟩ | ⟨hLiving, hShot | hWound | hKilled⟩
  · rw [Living, hPlayer] at hLive
    rw [hPlayer]
    exact h v hLive
  · obtain ⟨fireCooldown, -, hPlayer, -⟩ := hShot
    rw [hPlayer]
    exact h v hLiving
  · obtain ⟨hMore, hPlayer, -⟩ := hWound
    rw [hPlayer]
    exact (h v hLiving).wound hMore
  · obtain ⟨carryingFlag, -, hPlayer, -⟩ := hKilled
    rw [Living, hPlayer] at hLive
    cases hLive.2

theorem combatTurn_balance (rayDir : RayDir) {s : Sim} (h : AllSound s) (id : Fin kMaxPlayers) :
    s.balance ≤ (s.combatTurn rayDir id).balance := by
  simp only [combatTurn]
  split
  · exact Int.le_refl _
  · split
    · apply Unhurt.balance
      exact Unhurt.player (v := id) rfl rfl (Int.le_refl _)
    · split
      · exact Int.le_refl _
      · split
        · rw [shot_balance]
          omega
        · rename_i enemy hEnemy
          obtain ⟨hActive, hAlive, hTeam⟩ := castRay_some hEnemy
          have hOther : enemy ≠ id := fun hSame => hTeam (by rw [hSame])
          refine Int.le_trans ?_ (hurt_balance _ id ?_ ?_)
          · rw [shot_balance]
            omega
          · simpa [Living, setPlayer, push, hOther] using And.intro hActive hAlive
          · simpa [setPlayer, push, hOther] using h enemy ⟨hActive, hAlive⟩

theorem combat_balance (rayDir : RayDir) {s : Sim} (h : AllSound s) : s.balance ≤ (s.combat rayDir).balance := by
  have hTurn : ∀ s₁ id, AllSound s₁ ∧ s.balance ≤ s₁.balance →
      AllSound (s₁.combatTurn rayDir id) ∧ s.balance ≤ (s₁.combatTurn rayDir id).balance := by
    rintro s₁ id ⟨hSound, hBalance⟩
    refine ⟨?_, hBalance.trans (combatTurn_balance rayDir hSound id)⟩
    exact Chain.invariant (fun _ _ hChange hSound => hSound.combat hChange)
      (combatTurn_changes rayDir s₁ id (fun _ => trivial)) hSound
  exact (Chain.foldl_invariant hTurn _ s ⟨h, Int.le_refl _⟩).2

theorem flagsPhase_unhurt (s : Sim) : Unhurt s s.flagsPhase := by
  have hTouch : Unhurt s s.touchPhase :=
    Chain.invariant (I := Unhurt s) (fun _ _ hChange h => h.trans (flagChange_unhurt hChange)) (touchPhase_changes s)
      (Unhurt.refl s)
  rw [flagsPhase_eq]
  exact Chain.invariant (I := Unhurt s) (fun _ _ hChange h => h.trans (respawnChange_unhurt hChange))
    (respawnPhase_changes _) hTouch

theorem clock_unhurt (s : Sim) (now : U32) : Unhurt s { s with currentTick := now } := Unhurt.congr rfl rfl

theorem tick_balance (rayDir : RayDir) {s : Sim} (hLife : AllLife s) (cmds : List InboundCommand) :
    s.balance ≤ (s.tick rayDir cmds).balance := by
  have hCombat := combat_balance rayDir (hLife.movedBy cmds).allSound
  have hRest := ((flagsPhase_unhurt ((s.movedBy cmds).combat rayDir)).trans (winCheck_unhurt _)).trans
    (publish_unhurt _)
  rw [tick_eq_finish, finish]
  exact ((movedBy_unhurt cmds hLife).balance.trans hCombat).trans (hRest.trans (clock_unhurt _ _)).balance

theorem run_balance (rayDir : RayDir) (ticks : List (List InboundCommand)) {s : Sim} (hLife : AllLife s) :
    s.balance ≤ (s.run rayDir ticks).balance := by
  have hTick : ∀ s₁ cmds, AllLife s₁ ∧ s.balance ≤ s₁.balance →
      AllLife (s₁.tick rayDir cmds) ∧ s.balance ≤ (s₁.tick rayDir cmds).balance := by
    rintro s₁ cmds ⟨hLife, hBalance⟩
    exact ⟨hLife.tick rayDir cmds, hBalance.trans (tick_balance rayDir hLife cmds)⟩
  exact (Chain.foldl_invariant hTick ticks s ⟨hLife, Int.le_refl _⟩).2

theorem openWounds_nonneg {s : Sim} (h : AllLife s) : 0 ≤ s.openWounds :=
  Finset.sum_nonneg fun v _ => wounds_nonneg (h v)

theorem configured_balance (tickHz snapshotHz : Int) (delta : Bool) :
    (configured tickHz snapshotHz delta).balance = 0 := by
  have hWounds : (configured tickHz snapshotHz delta).openWounds = 0 := Finset.sum_eq_zero fun v _ => wounds_gone rfl
  have hTally : ∀ message, (configured tickHz snapshotHz delta).tally message = 0 := fun _ => rfl
  simp only [balance, hTally, hWounds]
  decide

/-- Every announced kill is paid for with three announced shots, and over any stretch of a match the shots of the
stretch and the wounds that were open at its start pay for its kills and for the wounds that are open at its end. -/
theorem kills_paid (rayDir : RayDir) (tickHz snapshotHz : Int) (delta : Bool)
    (earlier later : List (List InboundCommand)) :
    let s := (configured tickHz snapshotHz delta).run rayDir earlier
    let s' := s.run rayDir later
    3 * s'.tally .playerKilled ≤ s'.tally .shotFired ∧
      3 * ((s'.tally .playerKilled : Int) - s.tally .playerKilled) + s'.openWounds ≤
        s'.tally .shotFired - s.tally .shotFired + s.openWounds := by
  intro s s'
  have hLife : AllLife s := allLife_run rayDir tickHz snapshotHz delta earlier
  have hOpen : 0 ≤ s'.openWounds := openWounds_nonneg (hLife.run rayDir later)
  have hBefore : 0 ≤ s.balance := by
    rw [← configured_balance tickHz snapshotHz delta]
    exact run_balance rayDir earlier (allLife_run rayDir tickHz snapshotHz delta [])
  have hAfter : s.balance ≤ s'.balance := run_balance rayDir later hLife
  simp only [balance] at hBefore hAfter
  constructor
  · omega
  · omega

end Sim
end CaptureTheFlag
