import Mathlib.Tactic.FinCases
import CaptureTheFlag.Server.Idle

/-! # Losing a carrier: departure and death

`apply_leave` and `handle_death` each spell out how a carried flag is dropped. What they do to the flags is the
same; what they tell the clients is not. A departure announces nothing, a death announces the wrong flag. The carrier
of the example is a red player who walks from its spawn point to the blue base, where three blue players wait.
-/
namespace CaptureTheFlag
set_option autoImplicit false

namespace Sim

/-- The flag `p` carried lies where `p` stood, and the other flag is as it was. -/
structure DropsFlag (s : Sim) (p : Player) (s' : Sim) : Prop where
  flag : s'.flags p.team.other = { state := .dropped, position := p.position, carrierId := kNoCarrier }
  dropTick : s'.dropTick p.team.other = s.currentTick
  otherFlag : s'.flags p.team = s.flags p.team
  otherDropTick : s'.dropTick p.team = s.dropTick p.team

/-- The one event pushed is a FLAG_DROPPED for the flag `p` carried. -/
def AnnouncesDrop (s : Sim) (p : Player) (s' : Sim) : Prop :=
  ∃ msg, s'.outbound = s.outbound ++ [.flagDropped msg] ∧ msg.flagTeam = p.team.other ∧ msg.position = p.position

/-- The player's departure and its death drop the flag the same way. -/
structure DropsAlike (s : Sim) (id : Fin kMaxPlayers) : Prop where
  leave : DropsFlag s (s.players id) (s.applyLeave (idByte id))
  death : DropsFlag s (s.players id) (s.handleDeath id)
  leaveAnnounced : AnnouncesDrop s (s.players id) (s.applyLeave (idByte id))
  deathAnnounced : AnnouncesDrop s (s.players id) (s.handleDeath id)

theorem dropsFlag_of_update {s s' : Sim} {p : Player}
    (hFlags : s'.flags = Function.update s.flags p.team.other
      { state := .dropped, position := p.position, carrierId := kNoCarrier })
    (hTicks : s'.dropTick = Function.update s.dropTick p.team.other s.currentTick) : DropsFlag s p s' := by
  have hOther : p.team ≠ p.team.other := Team.ne_other p.team
  constructor
  · rw [hFlags, Function.update_self]
  · rw [hTicks, Function.update_self]
  · rw [hFlags, Function.update_of_ne hOther]
  · rw [hTicks, Function.update_of_ne hOther]

theorem flagDropped_team {sent msg : Protocol.MsgFlagDropped}
    (h : OutboundEvent.flagDropped sent = OutboundEvent.flagDropped msg) : sent.flagTeam = msg.flagTeam := by
  have hPayload := congrArg OutboundEvent.payload h
  rw [OutboundEvent.flagDropped_payload, OutboundEvent.flagDropped_payload] at hPayload
  have hBytes := (List.cons.inj hPayload).2
  simp only [Protocol.flagDroppedBytes, List.cons_append] at hBytes
  have hTeam := (List.cons.inj hBytes).1
  revert hTeam
  cases sent.flagTeam <;> cases msg.flagTeam <;> decide

section Carrier

variable {s : Sim} {id : Fin kMaxPlayers} (hActive : (s.players id).active = true)
  (hCarries : (s.players id).carryingFlag = true)

include hActive hCarries in
theorem applyLeave_dropsFlag : DropsFlag s (s.players id) (s.applyLeave (idByte id)) := by
  apply dropsFlag_of_update
  · simp only [applyLeave, findPlayer_idByte, hActive, hCarries, if_true, setPlayer, setFlag]
  · simp only [applyLeave, findPlayer_idByte, hActive, hCarries, if_true, setPlayer, setFlag]

include hCarries in
theorem handleDeath_dropsFlag : DropsFlag s (s.players id) (s.handleDeath id) := by
  apply dropsFlag_of_update
  · simp only [handleDeath, hCarries, if_true, setPlayer, setFlag, push]
  · simp only [handleDeath, hCarries, if_true, setPlayer, setFlag, push]

theorem applyLeave_outbound (s : Sim) (id : Fin kMaxPlayers) :
    (s.applyLeave (idByte id)).outbound = s.outbound := by
  simp only [applyLeave, findPlayer_idByte]
  by_cases hActive : (s.players id).active = true
  · by_cases hCarries : (s.players id).carryingFlag = true
    · simp only [hActive, hCarries, if_true, setPlayer, setFlag]
    · simp only [hActive, hCarries, if_true, setPlayer]
      rfl
  · simp only [hActive]
    rfl

theorem applyLeave_silent (p : Player) : ¬ AnnouncesDrop s p (s.applyLeave (idByte id)) := by
  rintro ⟨msg, hPushed, -⟩
  rw [applyLeave_outbound] at hPushed
  simp at hPushed

include hCarries in
theorem handleDeath_outbound : ∃ msg : Protocol.MsgFlagDropped,
    (s.handleDeath id).outbound = s.outbound ++ [.flagDropped msg] ∧ msg.flagTeam = (s.players id).team := by
  refine ⟨{ flagTeam := (s.players id).team, position := (s.players id).position, tick := s.currentTick }, ?_, rfl⟩
  have hTeam : (if (s.players id).team = .blue then Team.blue else .red) = (s.players id).team := by
    cases (s.players id).team
    · rfl
    · rfl
  simp only [handleDeath, hCarries, if_true, setPlayer, setFlag, push, hTeam]

include hCarries in
theorem handleDeath_misnamed : ¬ AnnouncesDrop s (s.players id) (s.handleDeath id) := by
  rintro ⟨msg, hPushed, hTeam, -⟩
  obtain ⟨sent, hSent, hNamed⟩ := handleDeath_outbound hCarries
  rw [hSent] at hPushed
  have hSame := flagDropped_team (List.singleton_inj.mp (List.append_cancel_left hPushed))
  rw [← hSame, hNamed] at hTeam
  exact Team.ne_other _ hTeam

end Carrier

theorem drop_never_alike (s : Sim) (id : Fin kMaxPlayers) (hActive : (s.players id).active = true)
    (hCarries : (s.players id).carryingFlag = true) :
    DropsFlag s (s.players id) (s.applyLeave (idByte id)) ∧ DropsFlag s (s.players id) (s.handleDeath id) ∧
      ¬ AnnouncesDrop s (s.players id) (s.applyLeave (idByte id)) ∧
      ¬ AnnouncesDrop s (s.players id) (s.handleDeath id) ∧ ¬ s.DropsAlike id := by
  refine ⟨applyLeave_dropsFlag hActive hCarries, handleDeath_dropsFlag hCarries, applyLeave_silent _,
    handleDeath_misnamed hCarries, ?_⟩
  intro hAlike
  exact applyLeave_silent _ hAlike.leaveAnnounced

def lineUp (w g : Player) : Fin kMaxPlayers → Player := fun i => if i = 0 then w else if i.val ≤ 3 then g else {}

def guardPlayer : Player := joined {} .blue 3

structure Walker (p : Player) (pos : Vec2Fixed) (n : Nat) : Prop where
  active : p.active = true
  alive : p.alive = true
  team : p.team = .red
  position : p.position = pos
  health : p.health = 100
  carryingFlag : p.carryingFlag = false
  fireCooldown : p.fireCooldown = 0
  ringCount : p.ringCount = 0
  newestSeq : p.newestSeq = BitVec.ofNat 32 n

theorem Walker.queued {p : Player} {pos : Vec2Fixed} {n : Nat} (h : Walker p pos n) : p.queued = [] := by
  rw [Player.queued, h.ringCount]
  rfl

theorem Walker.cooled {p : Player} {pos : Vec2Fixed} {n : Nat} (h : Walker p pos n) : respawned (cooled p) = p := by
  have hCooled : Sim.cooled p = p := by simp [Sim.cooled, h.fireCooldown]
  rw [hCooled]
  simp [respawned, h.alive]

theorem Walker.accepts {p : Player} {pos : Vec2Fixed} {n : Nat} (h : Walker p pos n) (hn : n + 1 < 2 ^ 32) :
    p.Accepts (BitVec.ofNat 32 (n + 1)) := by
  refine ⟨h.alive, ?_⟩
  rw [h.newestSeq, BitVec.toNat_ofNat, BitVec.toNat_ofNat]
  omega

theorem Walker.step {p : Player} {pos : Vec2Fixed} {n : Nat} (h : Walker p pos n) (hn : n + 1 < 2 ^ 32)
    (cmd : InputCmd) :
    (p.acceptInput (BitVec.ofNat 32 (n + 1)) cmd).active = true ∧
      (p.acceptInput (BitVec.ofNat 32 (n + 1)) cmd).alive = true ∧
      (p.acceptInput (BitVec.ofNat 32 (n + 1)) cmd).nextInput = cmd ∧
      Walker ((p.acceptInput (BitVec.ofNat 32 (n + 1)) cmd).popped.moved cmd)
        (movementStep { position := pos } cmd Map.arena).position (n + 1) := by
  obtain ⟨hNext, hCount, hNewest⟩ := Player.acceptInput_only cmd (h.accepts hn) h.ringCount
  have hRecord := Player.acceptInput_accepted cmd (h.accepts hn)
  simp only [h.ringCount, show ¬ (0 = kInputRingSize) by decide, if_false] at hRecord
  obtain ⟨hA, hL, hT, hH, hC, hP, hF⟩ := popped_fields (p.acceptInput (BitVec.ofNat 32 (n + 1)) cmd)
  have hActive : (p.acceptInput (BitVec.ofNat 32 (n + 1)) cmd).active = true := by rw [hRecord]; exact h.active
  have hAlive : (p.acceptInput (BitVec.ofNat 32 (n + 1)) cmd).alive = true := by rw [hRecord]; exact h.alive
  refine ⟨hActive, hAlive, hNext, ?_⟩
  constructor
  · exact hA.trans hActive
  · exact hL.trans hAlive
  · exact hT.trans (by rw [hRecord]; exact h.team)
  · have hPos : (p.acceptInput (BitVec.ofNat 32 (n + 1)) cmd).popped.position = pos :=
      hP.trans (by rw [hRecord]; exact h.position)
    simp only [Player.moved, hPos]
  · exact hH.trans (by rw [hRecord]; exact h.health)
  · exact hC.trans (by rw [hRecord]; exact h.carryingFlag)
  · exact hF.trans (by rw [hRecord]; exact h.fireCooldown)
  · exact hCount
  · exact hNewest

/-- What the scene looks like while the walker is on its way. -/
structure Scene (s : Sim) (w g : Player) (t : Nat) : Prop where
  players : s.players = lineUp w g
  flags : s.flags = init.flags
  score : s.score = init.score
  matchOver : s.matchOver = false
  currentTick : s.currentTick = BitVec.ofNat 32 t

theorem guardPlayer_idle :
    guardPlayer.popped = guardPlayer ∧ guardPlayer.nextInput = {} ∧ guardPlayer.moved {} = guardPlayer ∧
      respawned (cooled guardPlayer) = guardPlayer := by
  have hIdle := Player.popped_idle (p := guardPlayer) (by decide)
  refine ⟨hIdle.1, hIdle.2, ?_, rfl⟩
  simp only [Player.moved, movementStep_still _ ({} : InputCmd) _ rfl]
  rfl

theorem Scene.stepped {s : Sim} {w : Player} {t : Nat} (h : Scene s w guardPlayer t) (hActive : w.active = true)
    (hAlive : w.alive = true) :
    Scene s.stepped (w.popped.moved w.nextInput) guardPlayer t ∧ s.stepped.appliedCmds 0 = w.nextInput ∧
      (∀ i : Fin kMaxPlayers, i ≠ 0 → i.val ≤ 3 → s.stepped.appliedCmds i = {}) := by
  obtain ⟨hPop, hNone, hMove, -⟩ := guardPlayer_idle
  obtain ⟨hA, hL, -⟩ := popped_fields w
  have hGuard : guardPlayer.active = true ∧ guardPlayer.alive = true := ⟨rfl, rfl⟩
  simp only [Sim.stepped, movePlayers_eq, popInputs_eq, h.players]
  refine ⟨⟨?_, h.flags, h.score, h.matchOver, h.currentTick⟩, ?_, ?_⟩
  · funext i
    by_cases hi : i = 0
    · subst hi
      simp [lineUp, hActive, hAlive, hA, hL]
    · by_cases hLe : i.val ≤ 3
      · simp only [lineUp, hi, hLe, if_true, if_false, hPop, hNone, hGuard, and_self, hMove]
      · simp [lineUp, hi, hLe]
  · simp [lineUp, hActive]
  · intro i hi hLe
    simp [lineUp, hi, hLe, hGuard, hNone]

theorem Scene.input {s : Sim} {w : Player} {pos : Vec2Fixed} {n t : Nat} (h : Scene s w guardPlayer t)
    (hw : Walker w pos n) (hn : n + 1 < 2 ^ 32) (cmd : InputCmd) :
    let m := s.movedBy [.playerInput (idByte 0) (BitVec.ofNat 32 (n + 1)) cmd]
    Scene m ((w.acceptInput (BitVec.ofNat 32 (n + 1)) cmd).popped.moved cmd) guardPlayer t ∧
      m.appliedCmds 0 = cmd ∧ (∀ i : Fin kMaxPlayers, i ≠ 0 → i.val ≤ 3 → m.appliedCmds i = {}) := by
  intro m
  obtain ⟨hActive, hAlive, hNext, -⟩ := hw.step hn cmd
  have hSlot : s.players 0 = w := by rw [h.players]; rfl
  have hDrain : s.drainInbound [.playerInput (idByte 0) (BitVec.ofNat 32 (n + 1)) cmd] =
      s.setPlayer 0 (w.acceptInput (BitVec.ofNat 32 (n + 1)) cmd) := by
    rw [drainInbound_cons, applyCommand_input s 0 _ _ h.matchOver (by rw [hSlot]; exact hw.active), hSlot]
    rfl
  have hScene : Scene (s.setPlayer 0 (w.acceptInput (BitVec.ofNat 32 (n + 1)) cmd))
      (w.acceptInput (BitVec.ofNat 32 (n + 1)) cmd) guardPlayer t := by
    refine ⟨?_, h.flags, h.score, h.matchOver, h.currentTick⟩
    simp only [setPlayer, h.players]
    funext i
    by_cases hi : i = 0
    · subst hi
      simp [lineUp]
    · simp [lineUp, hi]
  have hStepped := hScene.stepped hActive hAlive
  rw [hNext] at hStepped
  simp only [m, Sim.movedBy, hDrain]
  exact hStepped

/-- The guards have nothing to touch: their own flag is not dropped and the other base is far away. -/
theorem guard_touches_nothing {s : Sim} {i : Fin kMaxPlayers} (hPlayer : s.players i = guardPlayer)
    (hRed : s.flags .red = init.flags .red) (hBlue : (s.flags .blue).state ≠ .dropped) : ¬ s.Touches i := by
  rintro ⟨-, hTouch⟩
  have hFacts : guardPlayer.team = .blue ∧ guardPlayer.carryingFlag = false ∧
      aabbOverlap guardPlayer.position (init.flags .red).position = false := by decide +kernel
  rw [hPlayer, hFacts.1] at hTouch
  simp only [Team.other, hRed, hFacts.2.1, hFacts.2.2] at hTouch
  simp [hBlue] at hTouch

theorem lineUp_active {w g : Player} {i : Fin kMaxPlayers} (h : (lineUp w g i).active = true) : i = 0 ∨ i.val ≤ 3 := by
  by_contra hOut
  simp only [not_or] at hOut
  simp [lineUp, hOut.1, hOut.2] at h

theorem Scene.slot {s : Sim} {w g : Player} {t : Nat} (h : Scene s w g t) : s.players 0 = w := by
  rw [h.players]
  rfl

theorem lineUp_guard (w g : Player) {i : Fin kMaxPlayers} (hi : i ≠ 0) (hLe : i.val ≤ 3) : lineUp w g i = g := by
  simp only [lineUp, hi, hLe, if_false, if_true]

theorem Scene.peaceful {s : Sim} {w : Player} {pos : Vec2Fixed} {n t : Nat} (h : Scene s w guardPlayer t)
    (hw : Walker w pos n) (hHold : (s.appliedCmds 0).pressed kInputFire = false)
    (hGuards : ∀ i : Fin kMaxPlayers, i ≠ 0 → i.val ≤ 3 → s.appliedCmds i = {}) :
    (∀ id, ¬ s.Fires id) ∧ (∀ team, ¬ s.DropDue team) ∧ (∀ id, (s.players id).active = true →
      (s.players id).alive = true) := by
  refine ⟨?_, ?_, ?_⟩
  · rintro i ⟨⟨hActive, -⟩, -, hPressed⟩
    rw [h.players] at hActive
    by_cases hi : i = 0
    · subst hi
      rw [hHold] at hPressed
      cases hPressed
    · rw [hGuards i hi ((lineUp_active hActive).resolve_left hi)] at hPressed
      revert hPressed
      decide
  · intro team hDue
    have := hDue.1
    simp [h.flags, init] at this
  · intro i hActive
    rw [h.players] at hActive ⊢
    by_cases hi : i = 0
    · subst hi
      exact hw.alive
    · rw [lineUp_guard w _ hi ((lineUp_active hActive).resolve_left hi)]
      rfl

theorem Scene.calm {s : Sim} {w : Player} {pos : Vec2Fixed} {n t : Nat} (h : Scene s w guardPlayer t)
    (hw : Walker w pos n) (hFar : aabbOverlap pos (baseOf .blue) = false)
    (hHold : (s.appliedCmds 0).pressed kInputFire = false)
    (hGuards : ∀ i : Fin kMaxPlayers, i ≠ 0 → i.val ≤ 3 → s.appliedCmds i = {}) : s.Calm := by
  obtain ⟨hFire, hDrop, hAlive⟩ := h.peaceful hw hHold hGuards
  refine ⟨hFire, hDrop, ?_, ?_⟩
  · intro i hTouch
    by_cases hi : i = 0
    · subst hi
      have := hTouch.2
      rw [h.slot, hw.team, h.flags, hw.position, hw.carryingFlag] at this
      simp [Team.other, hFar, init] at this
    · have hActive := hTouch.1.1
      rw [h.players] at hActive
      have hGuard : s.players i = guardPlayer := by
        rw [h.players, lineUp_guard w _ hi ((lineUp_active hActive).resolve_left hi)]
      exact guard_touches_nothing hGuard (by rw [h.flags]) (by rw [h.flags]; decide) hTouch
  · rintro i ⟨hActive, hDead, -⟩
    rw [hAlive i hActive] at hDead
    cases hDead

theorem lineUp_calmed (w : Player) (hw : respawned (cooled w) = w) :
    (fun i => respawned (cooled (lineUp w guardPlayer i))) = lineUp w guardPlayer := by
  funext i
  by_cases hi : i = 0
  · simp [lineUp, hi, hw]
  · by_cases hLe : i.val ≤ 3
    · simp only [lineUp, hi, hLe, if_false, if_true, guardPlayer_idle.2.2.2]
    · simp only [lineUp, hi, hLe, if_false]
      rfl

theorem Scene.resting {s : Sim} {w g : Player} {t : Nat} (h : Scene s w g t) : s.followed = s.flags :=
  followed_resting fun team hCarried => by
    rw [h.flags] at hCarried
    cases hCarried

theorem Scene.finish {s : Sim} {cmds : List InboundCommand} {w : Player} {pos : Vec2Fixed} {n t : Nat}
    (h : Scene (s.movedBy cmds) w guardPlayer t) (hw : Walker w pos n) (hCalm : (s.movedBy cmds).Calm)
    (ht : t < 18000) (rayDir : RayDir) : Scene (s.tick rayDir cmds) w guardPlayer (t + 1) := by
  have hSame : (s.movedBy cmds).calmed = s.movedBy cmds := by
    rw [Sim.calmed, h.resting, h.players, lineUp_calmed _ hw.cooled, ← h.players]
  obtain ⟨hFlags, hScore, -, hMatch⟩ := publish_world (s.movedBy cmds)
  rw [hCalm.tick rayDir, hSame, winCheck_early h.matchOver h.score h.currentTick ht]
  constructor
  · simp only [publish_players]
    exact h.players
  · exact hFlags.trans h.flags
  · exact hScore.trans h.score
  · exact hMatch.trans h.matchOver
  · simp only [publish_currentTick]
    rw [h.currentTick, BitVec.ofNat_add]
    rfl

theorem Scene.tick {s : Sim} {w : Player} {pos pos' : Vec2Fixed} {n t : Nat} (h : Scene s w guardPlayer t)
    (hw : Walker w pos n) (hn : n + 1 < 2 ^ 32) (ht : t < 18000) (cmd : InputCmd)
    (hCmd : cmd.pressed kInputFire = false)
    (hMove : (movementStep { position := pos } cmd Map.arena).position = pos')
    (hFar : aabbOverlap pos' (baseOf .blue) = false) (rayDir : RayDir) :
    ∃ w', Walker w' pos' (n + 1) ∧
      Scene (s.tick rayDir [.playerInput (idByte 0) (BitVec.ofNat 32 (n + 1)) cmd]) w' guardPlayer (t + 1) := by
  subst hMove
  obtain ⟨hMoved, hApplied, hGuards⟩ := h.input hw hn cmd
  obtain ⟨-, -, -, hw'⟩ := hw.step hn cmd
  exact ⟨_, hw', hMoved.finish hw' (hMoved.calm hw' hFar (by rw [hApplied]; exact hCmd) hGuards) ht rayDir⟩

def marchRight : InputCmd := { buttons := kInputRight }
def marchDown : InputCmd := { buttons := kInputDown }

theorem row_free (x : Int) (hLo : 8192 ≤ x) (hHi : x + 6143 < 319488) :
    Map.arena.aabbCollides ⟨x, 81920⟩ = false := by
  rw [Map.aabbCollides_eq_false]
  intro ty hTy hTy' tx hTx hTx'
  have hRow : ∀ tx : Fin 38, Map.arena.isWall (tx.val + 1) 10 = false := by decide +kernel
  simp only [Map.tdiv_tile] at hTy hTy' hTx hTx'
  obtain rfl : ty = 10 := by omega
  rw [if_pos (by omega)] at hTx hTx'
  have := hRow ⟨(tx - 1).toNat, by omega⟩
  rwa [show (((tx - 1).toNat : Nat) : Int) + 1 = tx by omega] at this

theorem movementStep_right (x : Int) (hLo : 8192 ≤ x + 1365) (hHi : x + 1365 + 6143 < 319488) :
    (movementStep { position := ⟨x, 81920⟩ } marchRight Map.arena).position = ⟨x + 1365, 81920⟩ := by
  have hVel : velocityOf marchRight = ⟨1365, 0⟩ := by decide
  simp [movementStep, hVel, row_free _ hLo hHi]

def arrivalX : Int := 303036

theorem column_free (y : Int) (hLo : 81920 ≤ y) (hHi : y + 6143 < 106496) :
    Map.arena.aabbCollides ⟨arrivalX, y⟩ = false := by
  rw [Map.aabbCollides_eq_false]
  intro ty hTy hTy' tx hTx hTx'
  have hTiles : ∀ (r : Fin 3) (c : Fin 2), Map.arena.isWall (c.val + 36) (r.val + 10) = false := by decide +kernel
  simp only [Map.tdiv_tile, arrivalX] at hTy hTy' hTx hTx'
  rw [if_pos (by omega)] at hTy hTy'
  have := hTiles ⟨(ty - 10).toNat, by omega⟩ ⟨(tx - 36).toNat, by omega⟩
  rwa [show (((tx - 36).toNat : Nat) : Int) + 36 = tx by omega,
    show (((ty - 10).toNat : Nat) : Int) + 10 = ty by omega] at this

theorem movementStep_down (y : Int) (hLo : 81920 ≤ y) (hHi : y + 1365 + 6143 < 106496) :
    (movementStep { position := ⟨arrivalX, y⟩ } marchDown Map.arena).position = ⟨arrivalX, y + 1365⟩ := by
  have hVel : velocityOf marchDown = ⟨0, 1365⟩ := by decide
  simp [movementStep, hVel, column_free (y + 1365) (by omega) hHi]

theorem far_on_row (x : Int) : aabbOverlap ⟨x, 81920⟩ (baseOf .blue) = false := by
  simp [aabbOverlap, baseOf, kBlueBasePosition, tileToFp, kTileSizePx, kFixedScale, kPlayerSizePx]

theorem far_in_column (y : Int) (hHi : y ≤ 92160) : aabbOverlap ⟨arrivalX, y⟩ (baseOf .blue) = false := by
  simp [aabbOverlap, baseOf, kBlueBasePosition, tileToFp, kTileSizePx, kFixedScale, kPlayerSizePx]
  omega

def joinCommands : List InboundCommand :=
  [.playerJoined (idByte 0) .red 6, .playerJoined (idByte 1) .blue 3, .playerJoined (idByte 2) .blue 3,
   .playerJoined (idByte 3) .blue 3]

/-- Joins, 204 steps to the right, `k` steps down. -/
def rightTicks (k : Nat) : List (List InboundCommand) :=
  (List.range k).map fun i => [.playerInput (idByte 0) (BitVec.ofNat 32 (i + 1)) marchRight]

def downTicks (k : Nat) : List (List InboundCommand) :=
  (List.range k).map fun j => [.playerInput (idByte 0) (BitVec.ofNat 32 (204 + j + 1)) marchDown]

theorem drain_joins :
    Scene ((configured 30 30 true).drainInbound joinCommands) (joined {} .red 6) guardPlayer 0 := by
  refine ⟨?_, rfl, rfl, rfl, rfl⟩
  funext i
  fin_cases i <;> rfl

theorem march_start (rayDir : RayDir) :
    ∃ w, Walker w ⟨24576, 81920⟩ 0 ∧ Scene ((configured 30 30 true).run rayDir [joinCommands]) w guardPlayer 1 := by
  obtain ⟨hMoved, hApplied, hGuards⟩ := drain_joins.stepped rfl rfl
  have hNext : (joined {} .red 6).nextInput = {} := by decide
  rw [hNext] at hMoved hApplied
  have hw : Walker ((joined {} .red 6).popped.moved {}) ⟨24576, 81920⟩ 0 := by
    refine ⟨rfl, rfl, rfl, ?_, rfl, rfl, rfl, rfl, rfl⟩
    exact movementStep_still _ _ _ rfl
  have hCalm := hMoved.calm hw (far_on_row _) (by rw [hApplied]; decide) hGuards
  refine ⟨_, hw, ?_⟩
  rw [run_cons]
  exact @Scene.finish (configured 30 30 true) joinCommands _ _ _ _ hMoved hw hCalm (by decide) rayDir

theorem march_right (rayDir : RayDir) (k : Nat) (hk : k ≤ 204) :
    ∃ w, Walker w ⟨24576 + 1365 * k, 81920⟩ k ∧
      Scene ((configured 30 30 true).run rayDir (joinCommands :: rightTicks k)) w guardPlayer (k + 1) := by
  induction k with
  | zero => exact march_start rayDir
  | succ k ih =>
    obtain ⟨w, hw, hScene⟩ := ih (by omega)
    have hMove := movementStep_right (24576 + 1365 * k) (by omega) (by omega)
    rw [show (24576 + 1365 * (k : Int)) + 1365 = 24576 + 1365 * ((k + 1 : Nat) : Int) by omega] at hMove
    have hStep := hScene.tick hw (by omega) (by omega) marchRight (by decide) hMove (far_on_row _) rayDir
    rw [rightTicks, List.range_succ, List.map_append, ← List.cons_append, run_append]
    exact hStep

theorem march_down (rayDir : RayDir) (k : Nat) (hk : k ≤ 7) :
    ∃ w, Walker w ⟨arrivalX, 81920 + 1365 * k⟩ (204 + k) ∧
      Scene ((configured 30 30 true).run rayDir (joinCommands :: rightTicks 204 ++ downTicks k)) w guardPlayer
        (205 + k) := by
  induction k with
  | zero =>
    have h := march_right rayDir 204 le_rfl
    rw [downTicks, List.range_zero, List.map_nil, List.append_nil]
    exact h
  | succ k ih =>
    obtain ⟨w, hw, hScene⟩ := ih (by omega)
    have hMove := movementStep_down (81920 + 1365 * k) (by omega) (by omega)
    rw [show (81920 + 1365 * (k : Int)) + 1365 = 81920 + 1365 * ((k + 1 : Nat) : Int) by omega] at hMove
    have hStep := hScene.tick hw (by omega) (by omega) marchDown (by decide) hMove
      (far_in_column _ (by omega)) rayDir
    rw [downTicks, List.range_succ, List.map_append, ← List.append_assoc, run_append]
    exact hStep

/-- The state after the walker, and nobody else, has touched a flag. -/
def pickedUp (m : Sim) (w : Player) : Sim :=
  ((m.setFlag .blue { m.flags .blue with state := .carried, carrierId := idByte 0 }).setPlayer 0
    { w with carryingFlag := true }).push
    (.flagPickedUp { flagTeam := .blue, playerId := idByte 0, tick := m.currentTick })

theorem Scene.touch_walker {m : Sim} {w : Player} {pos : Vec2Fixed} {n t : Nat} (h : Scene m w guardPlayer t)
    (hw : Walker w pos n) (hTouch : aabbOverlap pos (baseOf .blue) = true)
    (hAway : aabbOverlap pos (baseOf .red) = false) : m.touchTurn 0 = m.pickedUp w := by
  have hRed : (m.flags .red).state = .atBase := by rw [h.flags]; rfl
  have hBlue : (m.flags .blue).state = .atBase ∧ (m.flags .blue).position = baseOf .blue := by
    rw [h.flags]
    exact ⟨rfl, rfl⟩
  have hReturn : m.touchReturn 0 = m := by
    simp only [touchReturn, h.slot, hw.team]
    rw [if_neg (by simp [hRed])]
  have hPick : m.pickUp 0 = m.pickedUp w := by
    have hOther : w.team.other = .blue := by rw [hw.team]; rfl
    simp only [Sim.pickUp, h.slot, enemy_eq_other, hOther]
    rw [if_pos]
    · rfl
    · simp [hw.carryingFlag, hw.position, hBlue, hTouch]
  have hCapture : (m.pickedUp w).capture 0 = m.pickedUp w := by
    simp only [capture, pickedUp, Sim.push, setPlayer, setFlag, Function.update_self, hw.team, hw.position, hAway]
    rw [if_neg (by simp)]
  simp only [touchTurn, h.slot, hw.active, hw.alive, hReturn, hPick, hCapture, Bool.not_true, Bool.or_self,
    Bool.false_eq_true, if_false]

theorem pickedUp_players {m : Sim} {w : Player} {t : Nat} (h : Scene m w guardPlayer t) :
    (m.pickedUp w).players = lineUp { w with carryingFlag := true } guardPlayer := by
  simp only [pickedUp, Sim.push, setPlayer, setFlag, h.players]
  funext i
  by_cases hi : i = 0
  · subst hi
    simp [lineUp]
  · simp [lineUp, hi]

theorem Scene.touchPhase {m : Sim} {w : Player} {pos : Vec2Fixed} {n t : Nat} (h : Scene m w guardPlayer t)
    (hw : Walker w pos n) (hDrop : ∀ team, ¬ m.DropDue team) (hTouch : aabbOverlap pos (baseOf .blue) = true)
    (hAway : aabbOverlap pos (baseOf .red) = false) : m.touchPhase = m.pickedUp w := by
  rw [Sim.touchPhase, flagTurns_calm m hDrop, h.resting, List.finRange_succ, List.foldl_cons,
    h.touch_walker hw hTouch hAway]
  apply foldl_touchTurn_calm
  intro i hMem hTouches
  obtain ⟨j, -, rfl⟩ := List.mem_map.mp hMem
  have hActive := hTouches.1.1
  rw [pickedUp_players h] at hActive
  have hGuard : (m.pickedUp w).players j.succ = guardPlayer := by
    rw [pickedUp_players h, lineUp_guard _ _ (Fin.succ_ne_zero j)
      ((lineUp_active hActive).resolve_left (Fin.succ_ne_zero j))]
  refine guard_touches_nothing hGuard ?_ ?_ hTouches
  · simp [pickedUp, Sim.push, setPlayer, setFlag, h.flags]
  · simp [pickedUp, Sim.push, setPlayer, setFlag]

theorem Scene.combat_calm {m : Sim} {w : Player} {pos : Vec2Fixed} {n t : Nat} (h : Scene m w guardPlayer t)
    (hw : Walker w pos n) (hFire : ∀ id, ¬ m.Fires id) (rayDir : RayDir) : m.combat rayDir = m := by
  have hCooled : (fun i => cooled (lineUp w guardPlayer i)) = lineUp w guardPlayer := by
    funext i
    by_cases hi : i = 0
    · subst hi
      simp [lineUp, cooled, hw.fireCooldown]
    · by_cases hLe : i.val ≤ 3
      · rw [lineUp_guard w _ hi hLe]
        rfl
      · simp only [lineUp, hi, hLe, if_false]
        rfl
  rw [Sim.combat_calm rayDir m hFire, coolAll, h.players, hCooled, ← h.players]

/-- The walker has the blue flag. -/
structure Carrying (s : Sim) (w : Player) : Prop where
  players : s.players = lineUp { w with carryingFlag := true } guardPlayer
  red : s.flags .red = init.flags .red
  blue : (s.flags .blue).state = .carried ∧ (s.flags .blue).carrierId = idByte 0
  score : s.score = init.score
  matchOver : s.matchOver = false

theorem Scene.pickUp_finish {m : Sim} {w : Player} {pos : Vec2Fixed} {n t : Nat} (h : Scene m w guardPlayer t)
    (hw : Walker w pos n) (hFire : ∀ id, ¬ m.Fires id) (hDrop : ∀ team, ¬ m.DropDue team)
    (hTouch : aabbOverlap pos (baseOf .blue) = true) (hAway : aabbOverlap pos (baseOf .red) = false)
    (ht : t < 18000) (rayDir : RayDir) : Carrying (m.finish rayDir) w := by
  have hLiving : ∀ id, ((m.pickedUp w).players id).active = true → ((m.pickedUp w).players id).alive = true := by
    intro i hActive
    rw [pickedUp_players h] at hActive ⊢
    by_cases hi : i = 0
    · subst hi
      exact hw.alive
    · rw [lineUp_guard _ _ hi ((lineUp_active hActive).resolve_left hi)]
      rfl
  have hWin : (m.pickedUp w).winCheck = m.pickedUp w :=
    winCheck_early (s := m.pickedUp w) h.matchOver h.score h.currentTick ht
  obtain ⟨hFlags, hScore, -, hMatch⟩ := publish_world (m.pickedUp w)
  rw [Sim.finish, flagsPhase_eq, h.combat_calm hw hFire, h.touchPhase hw hDrop hTouch hAway,
    respawnPhase_living hLiving, hWin]
  refine ⟨?_, ?_, ?_, hScore.trans h.score, hMatch.trans h.matchOver⟩
  · simp only [publish_players]
    exact pickedUp_players h
  · simp only [hFlags]
    simp [pickedUp, Sim.push, setPlayer, setFlag, h.flags]
  · simp only [hFlags]
    simp [pickedUp, Sim.push, setPlayer, setFlag]

theorem Scene.pickUp {s : Sim} {w : Player} {pos pos' : Vec2Fixed} {n t : Nat} (h : Scene s w guardPlayer t)
    (hw : Walker w pos n) (hn : n + 1 < 2 ^ 32) (ht : t < 18000) (cmd : InputCmd)
    (hCmd : cmd.pressed kInputFire = false)
    (hMove : (movementStep { position := pos } cmd Map.arena).position = pos')
    (hTouch : aabbOverlap pos' (baseOf .blue) = true) (hAway : aabbOverlap pos' (baseOf .red) = false)
    (rayDir : RayDir) :
    ∃ w', Walker w' pos' (n + 1) ∧
      Carrying (s.tick rayDir [.playerInput (idByte 0) (BitVec.ofNat 32 (n + 1)) cmd]) w' := by
  subst hMove
  obtain ⟨hMoved, hApplied, hGuards⟩ := h.input hw hn cmd
  obtain ⟨-, -, -, hw'⟩ := hw.step hn cmd
  refine ⟨_, hw', ?_⟩
  have hTick := tick_eq_finish rayDir s [.playerInput (idByte 0) (BitVec.ofNat 32 (n + 1)) cmd]
  rw [← movedBy] at hTick
  generalize s.movedBy [.playerInput (idByte 0) (BitVec.ofNat 32 (n + 1)) cmd] = m at hMoved hApplied hGuards hTick
  generalize (w.acceptInput (BitVec.ofNat 32 (n + 1)) cmd).popped.moved cmd = w' at hMoved hw'
  obtain ⟨hFire, hDrop, hAlive⟩ := hMoved.peaceful hw' (by rw [hApplied]; exact hCmd) hGuards
  have hFinish := hMoved.pickUp_finish hw' hFire hDrop hTouch hAway ht rayDir
  rw [hTick]
  exact hFinish

/-- Straight to the right, whatever the angle: the cosine and sine of angle 0. -/
def eastward : RayDir := fun _ => (1024, 0)

def dropPosition : Vec2Fixed := ⟨arrivalX, 92840⟩

def carryTicks : List (List InboundCommand) :=
  joinCommands :: rightTicks 204 ++ downTicks 7 ++ [[.playerInput (idByte 0) (BitVec.ofNat 32 (204 + 7 + 1)) marchDown]]

theorem carryTicks_carrying :
    ∃ w, Walker w dropPosition 212 ∧ Carrying ((configured 30 30 true).run eastward carryTicks) w := by
  obtain ⟨w, hw, hScene⟩ := march_down eastward 7 le_rfl
  have hMove := movementStep_down (81920 + 1365 * (7 : Nat)) (by decide) (by decide)
  have hPickedUp := hScene.pickUp hw (by decide) (by decide) marchDown (by decide) hMove (by decide +kernel)
    (by decide +kernel) eastward
  have hTicks : carryTicks = joinCommands :: rightTicks 204 ++ downTicks 7 ++
      [[.playerInput (idByte 0) (BitVec.ofNat 32 (204 + 7 + 1)) marchDown]] := rfl
  rw [hTicks, run_snoc]
  exact hPickedUp

theorem carryTicks_carrier :
    (((configured 30 30 true).run eastward carryTicks).players 0).active = true ∧
      (((configured 30 30 true).run eastward carryTicks).players 0).alive = true ∧
      (((configured 30 30 true).run eastward carryTicks).players 0).carryingFlag = true := by
  obtain ⟨w, hw, hCarrying⟩ := carryTicks_carrying
  generalize (configured 30 30 true).run eastward carryTicks = s at hCarrying ⊢
  have hPlayer : s.players 0 = { w with carryingFlag := true } := by
    rw [hCarrying.players]
    rfl
  rw [hPlayer]
  exact ⟨hw.active, hw.alive, rfl⟩

theorem drop_unlike_after_pickUp :
    (((configured 30 30 true).run eastward carryTicks).players 0).active = true ∧
      (((configured 30 30 true).run eastward carryTicks).players 0).alive = true ∧
      (((configured 30 30 true).run eastward carryTicks).players 0).carryingFlag = true ∧
      ¬ ((configured 30 30 true).run eastward carryTicks).DropsAlike 0 := by
  obtain ⟨hActive, hAlive, hCarries⟩ := carryTicks_carrier
  refine ⟨hActive, hAlive, hCarries, ?_⟩
  intro hAlike
  exact handleDeath_misnamed hCarries hAlike.deathAnnounced

theorem drop_never_alike_after_pickUp :
    DropsFlag ((configured 30 30 true).run eastward carryTicks)
        (((configured 30 30 true).run eastward carryTicks).players 0)
        (((configured 30 30 true).run eastward carryTicks).handleDeath 0) ∧
      ¬ ((configured 30 30 true).run eastward carryTicks).DropsAlike 0 := by
  obtain ⟨hActive, -, hCarries⟩ := carryTicks_carrier
  have hBoth := drop_never_alike _ 0 hActive hCarries
  exact ⟨hBoth.2.1, hBoth.2.2.2.2⟩

end Sim
end CaptureTheFlag
