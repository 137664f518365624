import CaptureTheFlag.Server.FlagInvariant
import CaptureTheFlag.Server.MatchClock
import CaptureTheFlag.Server.PublishHistory

/-! # Points and the end of the match

The bases lie too far apart for a flag to be picked up at one and captured at the other in one turn, so the touch loop
scores at most once in a tick.
-/
namespace CaptureTheFlag
set_option autoImplicit false
open Protocol

namespace Sim

theorem bases_apart {p : Vec2Fixed} {team : Team} (h : aabbOverlap p (baseOf team) = true)
    (h' : aabbOverlap p (baseOf team.other) = true) : False := by
  simp only [aabbOverlap, decide_eq_true_eq, kPlayerSizePx, kFixedScale] at h h'
  have hRed : (baseOf .red).x = 16384 := rfl
  have hBlue : (baseOf .blue).x = 303104 := rfl
  cases team with
  | red =>
    have hOther : (baseOf Team.red.other).x = 303104 := rfl
    omega
  | blue =>
    have hOther : (baseOf Team.blue.other).x = 16384 := rfl
    omega

def Scored (s s' : Sim) : Prop :=
  s'.score = s.score ∨ ∃ team, s'.score = Function.update s.score team (s.score team + 1)

/-- Flags lie at their bases or are carried, but by none of the players still to come. -/
structure Settled (s : Sim) (coming : List (Fin kMaxPlayers)) : Prop where
  notDropped : ∀ team, (s.flags team).state ≠ .dropped
  atBase : ∀ team, (s.flags team).state = .atBase → (s.flags team).position = baseOf team
  idle : ∀ id ∈ coming, s.Living id → (s.players id).carryingFlag = false

theorem Settled.skip {s : Sim} {id : Fin kMaxPlayers} {coming : List (Fin kMaxPlayers)} (h : Settled s (id :: coming)) :
    Settled s coming :=
  ⟨h.notDropped, h.atBase, fun i hMem => h.idle i (List.mem_cons_of_mem _ hMem)⟩

theorem Settled.touchTurn {s : Sim} {id : Fin kMaxPlayers} {coming : List (Fin kMaxPlayers)}
    (h : Settled s (id :: coming)) (hNew : id ∉ coming) :
    Settled (s.touchTurn id) coming ∧ (s.touchTurn id).score = s.score := by
  simp only [Sim.touchTurn]
  split
  · exact ⟨h.skip, rfl⟩
  · rename_i hSkip
    simp only [Bool.or_eq_true, Bool.not_eq_true', not_or, Bool.not_eq_false] at hSkip
    have hIdle := h.idle id List.mem_cons_self hSkip
    have hReturn : s.touchReturn id = s := if_neg fun hDropped => h.notDropped _ hDropped.1
    rw [hReturn]
    by_cases hPick : !(s.players id).carryingFlag ∧ (s.flags (s.players id).team.other).state ≠ .carried ∧
        aabbOverlap (s.players id).position (s.flags (s.players id).team.other).position
    · -- The flag lay at the enemy's base, so the player does not stand on its own.
      have hAt : (s.flags (s.players id).team.other).state = .atBase := by
        have hNot := h.notDropped (s.players id).team.other
        have hFree := hPick.2.1
        cases hState : (s.flags (s.players id).team.other).state with
        | atBase => rfl
        | carried => exact absurd hState hFree
        | dropped => exact absurd hState hNot
      have hTouch : aabbOverlap (s.players id).position (baseOf (s.players id).team.other) = true := by
        rw [← h.atBase _ hAt]
        exact hPick.2.2
      have hTeam : (s.players id).team ≠ (s.players id).team.other := by
        cases (s.players id).team <;> decide
      have hCapture : (s.pickUp id).capture id = s.pickUp id := by
        refine if_neg fun hScores => ?_
        have hOwn : ((s.pickUp id).players id).position = (s.players id).position ∧
            ((s.pickUp id).players id).team = (s.players id).team := by
          simp only [pickUp, if_pos hPick, push, setPlayer, Function.update_self, and_self]
        rw [hOwn.1, hOwn.2] at hScores
        exact bases_apart hScores.2.2 hTouch
      rw [hCapture]
      simp only [pickUp, if_pos hPick]
      refine ⟨⟨fun team => ?_, fun team hState => ?_, fun i hMem hLive => ?_⟩, rfl⟩
      · by_cases hFlag : team = (s.players id).team.other
        · subst hFlag
          simp [push, setPlayer, setFlag]
        · simpa [push, setPlayer, setFlag, hFlag] using h.notDropped team
      · by_cases hFlag : team = (s.players id).team.other
        · subst hFlag
          simp [push, setPlayer, setFlag] at hState
        · simp only [push, setPlayer, setFlag, Function.update_of_ne hFlag] at hState ⊢
          exact h.atBase team hState
      · have hi : i ≠ id := fun hEq => hNew (hEq ▸ hMem)
        simp only [Living, push, setPlayer, setFlag, Function.update_of_ne hi] at hLive ⊢
        exact h.idle i (List.mem_cons_of_mem _ hMem) hLive
    · have hNoPick : s.pickUp id = s := if_neg hPick
      have hNoCapture : s.capture id = s := by
        refine if_neg fun hScores => ?_
        rw [hIdle] at hScores
        exact absurd hScores.1 (by decide)
      rw [hNoPick, hNoCapture]
      exact ⟨h.skip, rfl⟩

theorem Settled.fold {coming : List (Fin kMaxPlayers)} (hNodup : coming.Nodup) {s : Sim} (h : Settled s coming) :
    (coming.foldl Sim.touchTurn s).score = s.score := by
  induction coming generalizing s with
  | nil => rfl
  | cons id coming ih =>
    obtain ⟨hNew, hNodup⟩ := List.nodup_cons.mp hNodup
    obtain ⟨hSettled, hScore⟩ := h.touchTurn hNew
    rw [List.foldl_cons, ih hNodup hSettled, hScore]

theorem FlagInv.touchTurn {s : Sim} (h : FlagInv s) (id : Fin kMaxPlayers) : FlagInv (s.touchTurn id) :=
  Chain.invariant (I := FlagInv) (fun _ _ hChange h => FlagInv.flags hChange h) (touchTurn_changes s id) h

/-- A turn scores nothing, or leaves both flags at their bases and nobody with a flag. -/
theorem touchTurn_scored {s : Sim} (h : FlagInv s) (id : Fin kMaxPlayers) :
    (s.touchTurn id).score = s.score ∨
      (∃ team, (s.touchTurn id).score = Function.update s.score team (s.score team + 1)) ∧
        ∀ coming, Settled (s.touchTurn id) coming := by
  have hAfter := h.touchTurn id
  by_cases hSkip : (!(s.players id).active || !(s.players id).alive) = true
  · left
    simp only [Sim.touchTurn, hSkip, if_true]
  · have hTurn : s.touchTurn id = ((s.touchReturn id).pickUp id).capture id := if_neg hSkip
    have hBefore : ((s.touchReturn id).pickUp id).score = s.score := by
      have hReturn : (s.touchReturn id).score = s.score := by
        simp only [touchReturn]
        split <;> rfl
      rw [← hReturn]
      generalize s.touchReturn id = s₁
      simp only [pickUp]
      split <;> rfl
    rw [hTurn] at hAfter ⊢
    generalize (s.touchReturn id).pickUp id = s₂ at hAfter hBefore ⊢
    by_cases hScores : (s₂.players id).carryingFlag ∧ (s₂.flags (s₂.players id).team).state = .atBase ∧
        aabbOverlap (s₂.players id).position (baseOf (s₂.players id).team)
    · right
      have hCapture : (s₂.capture id).score = Function.update s₂.score (s₂.players id).team
          (s₂.score (s₂.players id).team + 1) := by
        simp only [capture, if_pos hScores, push, setFlag, setPlayer]
      have hBases : ∀ team, ((s₂.capture id).flags team).state = .atBase := by
        intro team
        simp only [capture, if_pos hScores, push, setFlag, setPlayer]
        by_cases hFlag : team = (s₂.players id).team.other
        · rw [hFlag, Function.update_self]
        · rw [Function.update_of_ne hFlag]
          have hTeam : team = (s₂.players id).team := by
            by_contra hOther
            exact hFlag ((Team.eq_other_iff _ _).mpr hOther)
          rw [hTeam]
          exact hScores.2.1
      refine ⟨⟨(s₂.players id).team, by rw [hCapture, hBefore]⟩, fun coming => ⟨fun team => ?_, hAfter.atBase, ?_⟩⟩
      · rw [hBases team]
        decide
      · intro i _ hLive
        by_contra hCarries
        have hCarried := (hAfter.carrying i hLive.1 (by simpa using hCarries)).2.1
        rw [hBases] at hCarried
        cases hCarried
    · left
      have hNone : s₂.capture id = s₂ := if_neg hScores
      rw [hNone, hBefore]

theorem foldl_touchTurn_scored {coming : List (Fin kMaxPlayers)} (hNodup : coming.Nodup) {s : Sim} (h : FlagInv s) :
    Scored s (coming.foldl touchTurn s) := by
  induction coming generalizing s with
  | nil => exact Or.inl rfl
  | cons id coming ih =>
    have hRest := (List.nodup_cons.mp hNodup).2
    rw [List.foldl_cons]
    rcases touchTurn_scored h id with hSame | ⟨⟨team, hPoint⟩, hSettled⟩
    · have hThen := ih hRest (h.touchTurn id)
      rw [Scored, hSame] at hThen
      exact hThen
    · right
      exact ⟨team, by rw [(hSettled coming).fold hRest, hPoint]⟩

/-- The state that `win_check` sees. -/
def judged (rayDir : RayDir) (s : Sim) (cmds : List InboundCommand) : Sim :=
  ((s.drainInbound cmds).popInputs.movePlayers.combat rayDir).flagsPhase

theorem published_eq (rayDir : RayDir) (s : Sim) (cmds : List InboundCommand) :
    s.published rayDir cmds = (s.judged rayDir cmds).winCheck := rfl

theorem judged_matchOver (rayDir : RayDir) (s : Sim) (cmds : List InboundCommand) :
    (s.judged rayDir cmds).matchOver = s.matchOver :=
  (phases_matchOver rayDir (s.movedBy cmds)).trans (movedBy_frame s cmds).2

theorem judged_scored (rayDir : RayDir) {s : Sim} (h : FlagInv s) (cmds : List InboundCommand) :
    Scored s (s.judged rayDir cmds) := by
  have hMoved : ((s.drainInbound cmds).popInputs.movePlayers).score = s.score := by
    rw [movePlayers_eq, popInputs_eq]
    refine drainInbound_invariant (I := fun s' => s'.score = s.score) ?_ s cmds rfl
    intro s₁ cmd s₂ hApplied hScore
    cases hApplied with
    | ignored => exact hScore
    | join => exact hScore
    | leave id =>
      simp only [leaveDrop]
      split <;> exact hScore
    | input => exact hScore
  have hInv := flagInv_preserved.moved s cmds h
  have hCombat := Chain.invariant (I := fun s' : Sim => s'.score = s.score ∧ FlagInv s')
    (fun _ _ hChange h => ⟨by cases hChange <;> exact h.1, h.2.combat hChange⟩)
    (combat_changes rayDir (s.drainInbound cmds).popInputs.movePlayers) ⟨hMoved, hInv⟩
  rw [judged]
  generalize (s.drainInbound cmds).popInputs.movePlayers.combat rayDir = fought at hCombat ⊢
  have hFlags : ([Team.red, Team.blue].foldl flagTurn fought).score = s.score ∧
      FlagInv ([Team.red, Team.blue].foldl flagTurn fought) := by
    refine Chain.foldl_invariant (I := fun s' : Sim => s'.score = s.score ∧ FlagInv s') ?_ _ fought hCombat
    intro s₁ team h₁
    refine ⟨?_, Chain.invariant (I := FlagInv) (fun _ _ hChange h => h.flags hChange) (flagTurn_changes s₁ team) h₁.2⟩
    rw [← h₁.1]
    simp only [flagTurn]
    split
    · split <;> rfl
    · split <;> rfl
    · rfl
  have hTouch := foldl_touchTurn_scored (List.nodup_finRange kMaxPlayers) hFlags.2
  have hRespawn : fought.flagsPhase.score = fought.touchPhase.score := by
    rw [flagsPhase_eq]
    exact Chain.invariant (I := fun s' : Sim => s'.score = fought.touchPhase.score)
      (fun _ _ hChange h => by cases hChange <;> exact h) (respawnPhase_changes _) rfl
  rw [Scored, hRespawn, ← hFlags.1]
  exact hTouch

def EndsNow (s : Sim) : Prop :=
  (s.score .red).toNat ≥ kScoreToWin.toNat ∨ (s.score .blue).toNat ≥ kScoreToWin.toNat ∨
    (s.currentTick.toNat : Int) ≥ kMatchTimeLimitSec * kTickRateHz

def verdict (s : Sim) : MsgMatchEnd :=
  { winningTeam := if (s.score .red).toNat ≥ (s.score .blue).toNat then .red else .blue
    scoreRed := s.score .red
    scoreBlue := s.score .blue }

theorem winCheck_ends {s : Sim} (hGoing : s.matchOver = false) (h : s.EndsNow) :
    s.winCheck = { s with matchOver := true }.push (.matchEnd s.verdict) := by
  simp only [winCheck, hGoing, Bool.false_eq_true, if_false]
  exact if_pos h

theorem winCheck_goesOn {s : Sim} (hGoing : s.matchOver = false) (h : ¬ s.EndsNow) : s.winCheck = s := by
  simp only [winCheck, hGoing, Bool.false_eq_true, if_false]
  exact if_neg h

/-- The tick ends the match, unless it is over already. -/
def Due (rayDir : RayDir) (s : Sim) (cmds : List InboundCommand) : Prop := (s.judged rayDir cmds).EndsNow

def matchEnds (s : Sim) : List OutboundEvent := s.outbound.filter (·.isMatchEnd)

theorem EndedOnce.length {s : Sim} (h : EndedOnce s) : s.matchEnds.length = if s.matchOver then 1 else 0 := by
  rw [matchEnds, ← List.countP_eq_length_filter]
  exact h

theorem EndedOnce.matchEnds_eq_nil {s : Sim} (h : EndedOnce s) : s.matchEnds = [] ↔ s.matchOver = false := by
  rw [← List.length_eq_zero_iff, h.length]
  cases s.matchOver <;> simp

theorem matchEnd_isMatchEnd (msg : MsgMatchEnd) : (OutboundEvent.matchEnd msg).isMatchEnd = true := rfl

theorem publish_matchEnds (s : Sim) : s.publish.matchEnds = s.matchEnds := by
  cases hDue : s.publishDue with
  | true =>
    have hSnapshot := OutboundEvent.isMatchEnd_of_snapshot (toPublish_isSnapshot s)
    have hOut : s.publish.outbound = s.outbound ++ [s.toPublish.event] := by
      rw [publish_due s hDue]
      rfl
    rw [matchEnds, matchEnds, hOut, List.filter_append, List.filter_cons_of_neg (by rw [hSnapshot]; decide),
      List.filter_nil, List.append_nil]
  | false =>
    rw [publish_not_due s hDue]
    rfl

theorem tick_result (rayDir : RayDir) (s : Sim) (cmds : List InboundCommand) :
    (s.tick rayDir cmds).score = (s.judged rayDir cmds).score ∧
      (s.tick rayDir cmds).matchOver = (s.judged rayDir cmds).winCheck.matchOver ∧
      (s.tick rayDir cmds).matchEnds = (s.judged rayDir cmds).winCheck.matchEnds ∧
      (s.tick rayDir cmds).snapshot = (s.judged rayDir cmds).winCheck.worldSnapshot := by
  rw [tick_eq_publish, published_eq]
  generalize s.judged rayDir cmds = judged
  have hScore : judged.winCheck.score = judged.score := by
    simp only [winCheck]
    split
    · rfl
    · split <;> rfl
  obtain ⟨-, hKept, -, hOver⟩ := publish_world judged.winCheck
  refine ⟨hKept.trans hScore, hOver, publish_matchEnds judged.winCheck, ?_⟩
  simp only [publish]
  split <;> rfl

theorem tick_undecided (rayDir : RayDir) {s : Sim} (hEnded : EndedOnce s) (hGoing : s.matchOver = false)
    (cmds : List InboundCommand) :
    (s.Due rayDir cmds → (s.tick rayDir cmds).matchOver = true ∧
      (s.tick rayDir cmds).matchEnds = [.matchEnd (s.judged rayDir cmds).verdict]) ∧
    (¬ s.Due rayDir cmds → (s.tick rayDir cmds).matchOver = false ∧ (s.tick rayDir cmds).matchEnds = []) := by
  obtain ⟨-, hOver, hEnds, -⟩ := tick_result rayDir s cmds
  have hJudged : EndedOnce (s.judged rayDir cmds) := endedOnce_preserved.phases rayDir s cmds hEnded
  have hStill : (s.judged rayDir cmds).matchOver = false := (judged_matchOver rayDir s cmds).trans hGoing
  have hNone := hJudged.matchEnds_eq_nil.mpr hStill
  rw [hOver, hEnds, Due]
  constructor
  · intro hDue
    rw [winCheck_ends hStill hDue]
    refine ⟨rfl, ?_⟩
    have hOut : ({ s.judged rayDir cmds with matchOver := true }.push (.matchEnd (s.judged rayDir cmds).verdict)).matchEnds =
        (s.judged rayDir cmds).matchEnds ++ [.matchEnd (s.judged rayDir cmds).verdict] := by
      rw [matchEnds, push, List.filter_append, List.filter_cons_of_pos (matchEnd_isMatchEnd _), List.filter_nil, matchEnds]
    rw [hOut, hNone, List.nil_append]
  · intro hNotDue
    rw [winCheck_goesOn hStill hNotDue]
    exact ⟨hStill, hNone⟩

def Undecided (s : Sim) : Prop :=
  s.matchOver = false → (s.score .red).toNat < kScoreToWin.toNat ∧ (s.score .blue).toNat < kScoreToWin.toNat

theorem Undecided.tick (rayDir : RayDir) {s : Sim} (hEnded : EndedOnce s) (cmds : List InboundCommand) :
    Undecided (s.tick rayDir cmds) := by
  intro hGoing
  cases hBefore : s.matchOver with
  | true =>
    rw [tick_stays_over rayDir s cmds hBefore] at hGoing
    cases hGoing
  | false =>
    obtain ⟨hDue, -⟩ := tick_undecided rayDir hEnded hBefore cmds
    have hNot : ¬ s.Due rayDir cmds := by
      intro h
      rw [(hDue h).1] at hGoing
      cases hGoing
    rw [(tick_result rayDir s cmds).1]
    simp only [Due, EndsNow, not_or, not_le] at hNot
    exact ⟨by omega, by omega⟩

theorem Scored.bounds {s s' : Sim} (h : Scored s s') (hRed : (s.score .red).toNat < kScoreToWin.toNat)
    (hBlue : (s.score .blue).toNat < kScoreToWin.toNat) :
    (s'.score .red).toNat + (s'.score .blue).toNat ≤ (s.score .red).toNat + (s.score .blue).toNat + 1 ∧
      (s'.score .red).toNat ≤ kScoreToWin.toNat ∧ (s'.score .blue).toNat ≤ kScoreToWin.toNat ∧
      ¬ (s'.score .red = kScoreToWin ∧ s'.score .blue = kScoreToWin) := by
  have hThree : kScoreToWin.toNat = 3 := rfl
  rw [hThree] at hRed hBlue ⊢
  have hNotWon : ∀ {a : U8}, a.toNat < 3 → a ≠ kScoreToWin := by
    rintro a hLess rfl
    exact absurd hLess (by decide)
  have hStep : ∀ {a : U8}, a.toNat < 3 → (a + 1).toNat = a.toNat + 1 := by
    intro a hLess
    rw [BitVec.toNat_add]
    exact Nat.mod_eq_of_lt (by simp only [BitVec.ofNat_eq_ofNat, BitVec.toNat_ofNat]; omega)
  rcases h with hSame | ⟨team, hPoint⟩
  · rw [hSame]
    exact ⟨by omega, by omega, by omega, fun hBoth => hNotWon hRed hBoth.1⟩
  · rw [hPoint]
    cases team with
    | red =>
      have hOther : Function.update s.score .red (s.score .red + 1) .blue = s.score .blue :=
        Function.update_of_ne (by decide) _ _
      rw [Function.update_self, hOther, hStep hRed]
      exact ⟨by omega, by omega, by omega, fun hBoth => hNotWon hBlue hBoth.2⟩
    | blue =>
      have hOther : Function.update s.score .blue (s.score .blue + 1) .red = s.score .red :=
        Function.update_of_ne (by decide) _ _
      rw [Function.update_self, hOther, hStep hBlue]
      exact ⟨by omega, by omega, by omega, fun hBoth => hNotWon hRed hBoth.1⟩

theorem undecided_run (rayDir : RayDir) (tickHz snapshotHz : Int) (delta : Bool) (ticks : List (List InboundCommand)) :
    Undecided ((configured tickHz snapshotHz delta).run rayDir ticks) := by
  cases ticks using List.reverseRecOn with
  | nil =>
    have hZero : (0 : U8).toNat < kScoreToWin.toNat := by decide
    exact fun _ => ⟨hZero, hZero⟩
  | append_singleton ticks cmds =>
    rw [run_snoc]
    exact Undecided.tick rayDir (endedOnce_run rayDir tickHz snapshotHz delta ticks) cmds

theorem over_iff_due (rayDir : RayDir) (tickHz snapshotHz : Int) (delta : Bool) (ticks : List (List InboundCommand)) :
    ((configured tickHz snapshotHz delta).run rayDir ticks).matchOver = true ↔
      ∃ before cmds later, ticks = before ++ cmds :: later ∧
        ((configured tickHz snapshotHz delta).run rayDir before).Due rayDir cmds := by
  induction ticks using List.reverseRecOn with
  | nil =>
    constructor
    · intro hOver
      cases hOver
    · rintro ⟨before, cmds, later, hSplit, -⟩
      rw [eq_comm, List.append_eq_nil_iff] at hSplit
      cases hSplit.2
  | append_singleton ticks last ih =>
    have hEnded := endedOnce_run rayDir tickHz snapshotHz delta ticks
    rw [run_snoc]
    cases hBefore : ((configured tickHz snapshotHz delta).run rayDir ticks).matchOver with
    | true =>
      obtain ⟨before, cmds, later, hSplit, hDue⟩ := ih.mp hBefore
      refine ⟨fun _ => ⟨before, cmds, later ++ [last], by rw [hSplit]; simp, hDue⟩, fun _ => ?_⟩
      exact tick_stays_over rayDir _ last hBefore
    | false =>
      obtain ⟨hEnds, hGoesOn⟩ := tick_undecided rayDir hEnded hBefore last
      constructor
      · intro hOver
        by_cases hDue : ((configured tickHz snapshotHz delta).run rayDir ticks).Due rayDir last
        · exact ⟨ticks, last, [], rfl, hDue⟩
        · rw [(hGoesOn hDue).1] at hOver
          cases hOver
      · rintro ⟨before, cmds, later, hSplit, hDue⟩
        rcases List.eq_nil_or_concat later with rfl | ⟨later, c, rfl⟩
        · obtain ⟨rfl, hLast⟩ := List.append_inj' hSplit rfl
          cases hLast
          exact (hEnds hDue).1
        · -- An earlier tick was due, against `hBefore`.
          have hInit : ticks = before ++ cmds :: later := by
            rw [List.concat_eq_append, ← List.cons_append, ← List.append_assoc] at hSplit
            exact (List.append_inj' hSplit rfl).1
          rw [ih.mpr ⟨before, cmds, later, hInit, hDue⟩] at hBefore
          cases hBefore

def pointsOf (msg : MsgMatchEnd) : Team → U8
  | .red => msg.scoreRed
  | .blue => msg.scoreBlue

theorem verdict_wins (s : Sim) :
    (pointsOf s.verdict s.verdict.winningTeam).toNat ≥ (pointsOf s.verdict s.verdict.winningTeam.other).toNat := by
  simp only [verdict]
  split
  · assumption
  · exact Nat.le_of_not_le ‹_›

theorem tick_over_matchEnds (rayDir : RayDir) {s : Sim} (hEnded : EndedOnce s) (hOver : s.matchOver = true)
    (cmds : List InboundCommand) : (s.tick rayDir cmds).matchEnds = s.matchEnds := by
  obtain ⟨events, hOut, -⟩ := tick_outbound rayDir s cmds
  have hLater := (endedOnce_preserved.tick rayDir s cmds hEnded).length
  have hLength := hEnded.length
  rw [hOver, if_pos rfl] at hLength
  rw [tick_stays_over rayDir s cmds hOver, if_pos rfl] at hLater
  have hSplit : (s.tick rayDir cmds).matchEnds = s.matchEnds ++ events.filter (·.isMatchEnd) := by
    rw [matchEnds, hOut, List.filter_append, matchEnds]
  rw [hSplit, List.length_append, hLength] at hLater
  rw [hSplit, List.length_eq_zero_iff.mp (show (events.filter (·.isMatchEnd)).length = 0 by omega), List.append_nil]

theorem tick_points (rayDir : RayDir) {s : Sim} (hInv : FlagInv s) (hRed : (s.score .red).toNat < kScoreToWin.toNat)
    (hBlue : (s.score .blue).toNat < kScoreToWin.toNat) (cmds : List InboundCommand) :
    ((s.tick rayDir cmds).score .red).toNat + ((s.tick rayDir cmds).score .blue).toNat ≤
        (s.score .red).toNat + (s.score .blue).toNat + 1 ∧
      ((s.judged rayDir cmds).score .red).toNat ≤ kScoreToWin.toNat ∧
      ((s.judged rayDir cmds).score .blue).toNat ≤ kScoreToWin.toNat ∧
      ¬ ((s.judged rayDir cmds).score .red = kScoreToWin ∧ (s.judged rayDir cmds).score .blue = kScoreToWin) := by
  rw [(tick_result rayDir s cmds).1]
  exact (judged_scored rayDir hInv cmds).bounds hRed hBlue

theorem tick_verdict (rayDir : RayDir) {s : Sim} (hEnded : EndedOnce s) (hInv : FlagInv s) (hGoing : s.matchOver = false)
    (hRed : (s.score .red).toNat < kScoreToWin.toNat) (hBlue : (s.score .blue).toNat < kScoreToWin.toNat)
    (cmds : List InboundCommand) :
    ∀ ev ∈ (s.tick rayDir cmds).matchEnds, ∃ msg, ev = .matchEnd msg ∧
      (msg.scoreRed = (s.tick rayDir cmds).snapshot.scoreRed ∧ msg.scoreBlue = (s.tick rayDir cmds).snapshot.scoreBlue) ∧
      (∀ p ∈ s.tickPublishes rayDir cmds,
        msg.scoreRed = p.snapshot.scoreRed ∧ msg.scoreBlue = p.snapshot.scoreBlue) ∧
      (∀ team, (pointsOf msg team).toNat ≤ kScoreToWin.toNat) ∧
      ¬ (msg.scoreRed = kScoreToWin ∧ msg.scoreBlue = kScoreToWin) ∧
      (pointsOf msg msg.winningTeam).toNat ≥ (pointsOf msg msg.winningTeam.other).toNat := by
  intro ev hMem
  obtain ⟨hEnds, hGoesOn⟩ := tick_undecided rayDir hEnded hGoing cmds
  obtain ⟨-, -, -, hSnapshot⟩ := tick_result rayDir s cmds
  obtain ⟨-, hRedMax, hBlueMax, hNotBoth⟩ := tick_points rayDir hInv hRed hBlue cmds
  by_cases hDue : s.Due rayDir cmds
  · rw [(hEnds hDue).2] at hMem
    have hStill := (judged_matchOver rayDir s cmds).trans hGoing
    have hPublished : s.published rayDir cmds =
        { s.judged rayDir cmds with matchOver := true }.push (.matchEnd (s.judged rayDir cmds).verdict) := by
      rw [published_eq, winCheck_ends hStill hDue]
    rw [hSnapshot, tickPublishes, ← published_eq, hPublished]
    rw [Due] at hDue
    generalize s.judged rayDir cmds = judged at *
    refine ⟨judged.verdict, List.mem_singleton.mp hMem, ⟨rfl, rfl⟩, fun p hp => ?_, fun team => ?_, hNotBoth,
      verdict_wins judged⟩
    · split at hp
      · rw [List.mem_singleton.mp hp]
        exact ⟨rfl, rfl⟩
      · cases hp
    · cases team with
      | red => exact hRedMax
      | blue => exact hBlueMax
  · rw [(hGoesOn hDue).2] at hMem
    cases hMem

/-- MATCH_END comes once, on the first tick that is due, with the scores of that tick's snapshot, and until then a tick
brings at most one point. -/
theorem scoring (rayDir : RayDir) (tickHz snapshotHz : Int) (delta : Bool) (ticks : List (List InboundCommand))
    (cmds : List InboundCommand) :
    let run := (configured tickHz snapshotHz delta).run rayDir
    let s := run ticks
    let s' := s.tick rayDir cmds
    s.matchEnds.length ≤ 1 ∧
    (s'.matchEnds ≠ s.matchEnds ↔
      s.Due rayDir cmds ∧ ∀ before c later, ticks = before ++ c :: later → ¬ (run before).Due rayDir c) ∧
    (s.matchEnds = [] →
      (s'.score .red).toNat + (s'.score .blue).toNat ≤ (s.score .red).toNat + (s.score .blue).toNat + 1 ∧
      ∀ ev ∈ s'.matchEnds, ∃ msg, ev = .matchEnd msg ∧
        (msg.scoreRed = s'.snapshot.scoreRed ∧ msg.scoreBlue = s'.snapshot.scoreBlue) ∧
        (∀ p ∈ s.tickPublishes rayDir cmds,
          msg.scoreRed = p.snapshot.scoreRed ∧ msg.scoreBlue = p.snapshot.scoreBlue) ∧
        (∀ team, (pointsOf msg team).toNat ≤ kScoreToWin.toNat) ∧
        ¬ (msg.scoreRed = kScoreToWin ∧ msg.scoreBlue = kScoreToWin) ∧
        (pointsOf msg msg.winningTeam).toNat ≥ (pointsOf msg msg.winningTeam.other).toNat) := by
  intro run s s'
  have hEnded : EndedOnce s := endedOnce_run rayDir tickHz snapshotHz delta ticks
  have hInv : FlagInv s := flagInv_preserved.run rayDir _ ticks (flagInv_init tickHz snapshotHz delta)
  have hOver : s.matchOver = true ↔ ∃ before c later, ticks = before ++ c :: later ∧ (run before).Due rayDir c :=
    over_iff_due rayDir tickHz snapshotHz delta ticks
  refine ⟨?_, ?_, fun hNone => ?_⟩
  · rw [hEnded.length]
    split <;> decide
  · cases hGoing : s.matchOver with
    | true =>
      obtain ⟨before, c, later, hSplit, hDue⟩ := hOver.mp hGoing
      refine ⟨fun hMore => absurd (tick_over_matchEnds rayDir hEnded hGoing cmds) hMore, fun hFirst => ?_⟩
      exact absurd hDue (hFirst.2 before c later hSplit)
    | false =>
      obtain ⟨hEnds, hGoesOn⟩ := tick_undecided rayDir hEnded hGoing cmds
      have hNone := hEnded.matchEnds_eq_nil.mpr hGoing
      rw [hNone]
      constructor
      · intro hMore
        by_cases hDue : s.Due rayDir cmds
        · refine ⟨hDue, fun before c later hSplit hEarlier => ?_⟩
          rw [hOver.mpr ⟨before, c, later, hSplit, hEarlier⟩] at hGoing
          cases hGoing
        · exact absurd (hGoesOn hDue).2 hMore
      · rintro ⟨hDue, -⟩
        rw [(hEnds hDue).2]
        exact List.cons_ne_nil _ _
  · have hGoing := hEnded.matchEnds_eq_nil.mp hNone
    obtain ⟨hRed, hBlue⟩ := undecided_run rayDir tickHz snapshotHz delta ticks hGoing
    exact ⟨(tick_points rayDir hInv hRed hBlue cmds).1, tick_verdict rayDir hEnded hInv hGoing hRed hBlue cmds⟩

end Sim
end CaptureTheFlag
