import CaptureTheFlag.Server.CheckedSim
import CaptureTheFlag.Server.FireRate
import CaptureTheFlag.Shared.WallTable

/-! # Where players stand, and what of it goes over the wire

Every active player stands clear of the walls, so inside the border, so within the range of `write_vec2`. So do the
points from which shots are fired, where flags are dropped and where players respawn. A shot ends at most one step
inside a wall.
-/
namespace CaptureTheFlag
set_option autoImplicit false
open Protocol ByteWriter

/-- The player's box lies inside the ring of walls around the map. -/
structure InsideBorder (p : Vec2Fixed) : Prop where
  left : kTileSizePx * kFixedScale ≤ p.x
  right : p.x + kPlayerSizePx * kFixedScale ≤ (kMapWidthPx - kTileSizePx) * kFixedScale
  top : kTileSizePx * kFixedScale ≤ p.y
  bottom : p.y + kPlayerSizePx * kFixedScale ≤ (kMapHeightPx - kTileSizePx) * kFixedScale

/-- `write_vec2` loses the low four bits and nothing else. -/
structure FitsWire (p : Vec2Fixed) : Prop where
  x : -32768 ≤ p.x >>> kWireFixedShift ∧ p.x >>> kWireFixedShift < 32768
  y : -32768 ≤ p.y >>> kWireFixedShift ∧ p.y >>> kWireFixedShift < 32768
  readBack : ∀ cap, 4 ≤ cap → (readVec2 ⟨(writeVec2 { cap } p).buf, false⟩).1 = floorVec2 p

theorem fitsWire_of_onWire {p : Vec2Fixed} (h : p.OnWire) : FitsWire p := by
  have hx : p.x >>> kWireFixedShift = p.x / 16 := Int.shiftRight_eq_div_pow p.x 4
  have hy : p.y >>> kWireFixedShift = p.y / 16 := Int.shiftRight_eq_div_pow p.y 4
  obtain ⟨hLeft, hRight, hTop, hBottom⟩ := h
  refine ⟨by rw [hx]; omega, by rw [hy]; omega, fun cap hCap => ?_⟩
  have hBytes := (emits_writeVec2 p).fresh cap (by rw [length_vec2Bytes]; exact hCap)
  have hRead := readVec2_run p []
  rw [List.append_nil] at hRead
  rw [hBytes, hRead]
  exact wireVec2_eq_floor ⟨hLeft, hRight, hTop, hBottom⟩

namespace Map

theorem insideBorder_of_free {p : Vec2Fixed} (h : arena.aabbCollides p = false) : InsideBorder p := by
  rw [aabbCollides_eq_false] at h
  have hInner : ∀ ty, p.y.tdiv 8192 ≤ ty → ty ≤ (p.y + 6143).tdiv 8192 →
      ∀ tx, p.x.tdiv 8192 ≤ tx → tx ≤ (p.x + 6143).tdiv 8192 → 0 < tx ∧ tx < 39 ∧ 0 < ty ∧ ty < 24 := by
    intro ty hLo hHi tx hLo' hHi'
    by_contra hOut
    have hWall := isWall_border tx ty (by omega)
    rw [h ty hLo hHi tx hLo' hHi'] at hWall
    cases hWall
  obtain ⟨hx, -, hy, -⟩ := hInner (p.y.tdiv 8192) le_rfl (tdiv_tile_le _) (p.x.tdiv 8192) le_rfl (tdiv_tile_le _)
  obtain ⟨-, hx', -, hy'⟩ := hInner ((p.y + 6143).tdiv 8192) (tdiv_tile_le _) le_rfl
    ((p.x + 6143).tdiv 8192) (tdiv_tile_le _) le_rfl
  rw [tdiv_tile] at hx hy hx' hy'
  constructor
  all_goals simp only [kTileSizePx, kFixedScale, kPlayerSizePx, kMapWidthPx, kMapHeightPx]
  all_goals omega

end Map

theorem fitsWire_center {p : Vec2Fixed} (h : InsideBorder p) : FitsWire (Sim.centerOf p) := by
  obtain ⟨hLeft, hRight, hTop, hBottom⟩ := h
  have hHalf : (kPlayerSizePx * kFixedScale).tdiv 2 = 3072 := by decide
  simp only [kTileSizePx, kFixedScale, kPlayerSizePx, kMapWidthPx, kMapHeightPx] at hLeft hRight hTop hBottom
  refine fitsWire_of_onWire ?_
  simp only [Sim.centerOf, hHalf]
  constructor <;> simp only <;> omega

theorem fitsWire_free {p : Vec2Fixed} (h : Map.arena.aabbCollides p = false) : FitsWire p :=
  fitsWire_of_onWire (Map.onWire_of_not_collides _ _ h)

/-- The positions that go through `write_vec2` when the body is encoded, but for the end of a shot. -/
def EventBody.positions (body : EventBody) : List Vec2Fixed :=
  match body with
  | shotFired msg => [msg.origin]
  | flagDropped msg => [msg.position]
  | playerRespawned msg => [msg.position]
  | keyframe snap => (firstSlots snap.playerCount.toNat).map fun n => (snap.players n).motion.position
  | delta snap prevPublished => (firstSlots (deltaSlots snap prevPublished)).map fun n => (snap.players n).motion.position
  | _ => []

namespace Sim

/-- The events that the simulation builds: every position handed to `write_vec2` fits the wire. -/
inductive Placed : OutboundEvent → Prop
  | shot (msg : MsgShotFired) (hShooter : ∃ v, msg.shooterId = idByte v) (hOrigin : FitsWire msg.origin) :
      Placed (.shotFired msg)
  | dropped (msg : MsgFlagDropped) (hPosition : FitsWire msg.position) : Placed (.flagDropped msg)
  | respawned (msg : MsgPlayerRespawned) (hPosition : FitsWire msg.position) : Placed (.playerRespawned msg)
  | killed (msg : MsgPlayerKilled) : Placed (.playerKilled msg)
  | pickedUp (msg : MsgFlagPickedUp) : Placed (.flagPickedUp msg)
  | returned (msg : MsgFlagReturned) : Placed (.flagReturned msg)
  | captured (msg : MsgFlagCaptured) : Placed (.flagCaptured msg)
  | ended (msg : MsgMatchEnd) : Placed (.matchEnd msg)
  | snapshot (ev : OutboundEvent) (snap : WorldSnapshot)
      (hBody : ev.body = .keyframe snap ∨ ∃ prevPublished, ev.body = .delta snap prevPublished)
      (hPayload : ev.payload = (ev.body.write { cap := kPayloadDataBytes }).buf)
      (hPositions : ∀ n, FitsWire (snap.players n).motion.position) : Placed ev

/-- The slots behind the last player are empty records, and one that has just become so is sent in the next delta. -/
theorem worldSnapshot_fits (s : Sim) (h : s.InArena) (n : Fin kMaxPlayers) :
    FitsWire (s.worldSnapshot.players n).motion.position := by
  have hNowhere : FitsWire {} := fitsWire_of_onWire ⟨by decide, by decide, by decide, by decide⟩
  simp only [worldSnapshot]
  cases hSlot : s.activeIds[n.val]? with
  | none => exact hNowhere
  | some id =>
    have hActive : (s.players id).active = true := (List.mem_filter.mp (List.mem_of_getElem? hSlot)).2
    exact fitsWire_free (h id hActive)

theorem placed_toPublish (s : Sim) (h : s.InArena) : Placed s.toPublish.event := by
  refine .snapshot _ s.worldSnapshot ?_ ?_ (worldSnapshot_fits s h)
  all_goals
    simp only [toPublish, snapshotEvent]
    cases s.acked.keyframeDue
  · exact Or.inr ⟨_, rfl⟩
  · exact Or.inl rfl
  · rfl
  · rfl

theorem Placed.positions {ev : OutboundEvent} (h : Placed ev) : ∀ p ∈ ev.body.positions, FitsWire p := by
  cases h with
  | shot msg hShooter hOrigin => exact List.forall_mem_singleton.mpr hOrigin
  | dropped msg hPosition => exact List.forall_mem_singleton.mpr hPosition
  | respawned msg hPosition => exact List.forall_mem_singleton.mpr hPosition
  | snapshot ev snap hBody hPayload hPositions =>
    have hSlots : ∀ slots : List (Fin kMaxPlayers),
        ∀ p ∈ slots.map fun n => (snap.players n).motion.position, FitsWire p := by
      intro slots p hMem
      obtain ⟨n, -, rfl⟩ := List.mem_map.mp hMem
      exact hPositions n
    rcases hBody with hBody | ⟨prevPublished, hBody⟩
    · rw [hBody]
      exact hSlots _
    · rw [hBody]
      exact hSlots _
  | _ => exact List.forall_mem_nil _

structure AllPlaced (s : Sim) : Prop where
  arena : s.InArena
  events : ∀ ev ∈ s.outbound, Placed ev

theorem AllPlaced.congr {s s' : Sim} (h : AllPlaced s) (hArena : s'.InArena) (hOut : s'.outbound = s.outbound) :
    AllPlaced s' :=
  ⟨hArena, by rw [hOut]; exact h.events⟩

theorem AllPlaced.push {s s' : Sim} (h : AllPlaced s) (hArena : s'.InArena) {ev : OutboundEvent} (hEv : Placed ev)
    (hOut : s'.outbound = s.outbound ++ [ev]) : AllPlaced s' := by
  refine ⟨hArena, ?_⟩
  rw [hOut]
  intro ev' hMem
  rcases List.mem_append.mp hMem with hOld | hNew
  · exact h.events ev' hOld
  · rw [List.mem_singleton.mp hNew]
    exact hEv

theorem allPlaced_preserved : Preserved AllPlaced where
  command s cmd s' hApplied h := by
    refine h.congr (inArena_preserved.command s cmd s' hApplied h.arena) ?_
    cases hApplied with
    | ignored => rfl
    | join => rfl
    | leave id =>
      simp only [leaveDrop]
      split <;> rfl
    | input => rfl
  pop s h := h.congr (inArena_preserved.pop s h.arena) (by rw [popInputs_eq])
  move s h := h.congr (inArena_preserved.move s h.arena) (by rw [movePlayers_eq])
  combat s s' hChange h := by
    have hArena := inArena_preserved.combat s s' hChange h.arena
    cases hChange with
    | cool => exact h.congr hArena rfl
    | shoot id msg hLive hMsg =>
      refine h.push hArena (.shot msg ⟨id, hMsg.1⟩ ?_) rfl
      rw [hMsg.2]
      exact fitsWire_center (Map.insideBorder_of_free (h.arena id hLive.1))
    | wound => exact h.congr hArena rfl
    | kill id msg => exact h.push hArena (.killed msg) rfl
    | killCarrier id drop msg hDrops hLive hCarries hMsg hDrop =>
      have hDropped : AllPlaced (s.push (.flagDropped drop)) := by
        refine h.push (h.arena.congr rfl) (.dropped drop ?_) rfl
        rw [hDrop]
        exact fitsWire_free (h.arena id hLive.1)
      exact hDropped.push hArena (.killed msg) rfl
  flags s s' hChange h := by
    have hArena := inArena_preserved.flags s s' hChange h.arena
    cases hChange with
    | follow => exact h.congr hArena rfl
    | flagReturn => exact h.push hArena (.returned _) rfl
    | pickUp => exact h.push hArena (.pickedUp _) rfl
    | capture => exact h.push hArena (.captured _) rfl
  respawn s s' hChange h := by
    have hArena := inArena_preserved.respawn s s' hChange h.arena
    cases hChange with
    | countDown => exact h.congr hArena rfl
    | respawn id msg hActive hDead hDue hMsg =>
      refine h.push hArena (.respawned msg ?_) rfl
      rw [hMsg]
      exact fitsWire_free (spawnPoint_free _ _)
  win s h := by
    have hArena := inArena_preserved.win s h.arena
    simp only [winCheck] at hArena ⊢
    split
    · exact h
    · split
      · exact h.push (h.arena.congr rfl) (.ended _) rfl
      · exact h
  publish s h := by
    have hArena := inArena_preserved.publish s h.arena
    cases hDue : s.publishDue with
    | true =>
      rw [publish_due s hDue] at hArena ⊢
      exact h.push hArena (placed_toPublish s h.arena) rfl
    | false =>
      rw [publish_not_due s hDue] at hArena ⊢
      exact h.congr hArena rfl
  clock s t h := h.congr (h.arena.congr rfl) rfl

theorem allPlaced_run (rayDir : RayDir) (tickHz snapshotHz : Int) (delta : Bool) (ticks : List (List InboundCommand)) :
    AllPlaced ((configured tickHz snapshotHz delta).run rayDir ticks) := by
  refine allPlaced_preserved.run rayDir _ ticks ⟨configured_inArena tickHz snapshotHz delta, ?_⟩
  intro ev hMem
  cases hMem

section Shot

variable {rayDir : RayDir}
  (hDir : ∀ aim, (-1024 ≤ (rayDir aim).1 ∧ (rayDir aim).1 ≤ 1024) ∧ -1024 ≤ (rayDir aim).2 ∧ (rayDir aim).2 ≤ 1024)

theorem Ray.OnCourse.onWire {r : Ray} (h : r.OnCourse) : (⟨r.px, r.py⟩ : Vec2Fixed).OnWire := by
  obtain ⟨hX, hY, -, -⟩ := h
  constructor
  all_goals simp only
  all_goals omega

/-- A march ends where its last step was made from the open, so at most a step beyond it. -/
theorem march_onWire {players : Fin kMaxPlayers → Player} {stepX stepY : Int} (team : Team)
    (hX : -8192 ≤ stepX ∧ stepX ≤ 8192) (hY : -8192 ≤ stepY ∧ stepY ≤ 8192) (steps : Nat) {r : Ray} (h : r.OnCourse)
    (hIn : (0 ≤ r.px ∧ r.px < 320000) ∧ 0 ≤ r.py ∧ r.py < 320000) :
    (march players team stepX stepY steps r).1.OnWire := by
  induction steps generalizing r with
  | zero => exact h.onWire
  | succ steps ih =>
    have hNext := Ray.advance_onCourse h hIn hX hY
    simp only [march]
    split
    · exact hNext.onWire
    · rename_i hOpen
      cases enemyAt players team (r.advance stepX stepY) with
      | some id => exact hNext.onWire
      | none =>
        have hOut : (r.advance stepX stepY).inWall = false := by simpa using hOpen
        have hInner := @inner_of_open (r.advance stepX stepY).point hOut
        simp only [Ray.point] at hInner
        exact ih hNext (by omega)

include hDir in
theorem castRay_fits (players : Fin kMaxPlayers → Player) {origin : Vec2Fixed} (hOrigin : wallAt origin = false)
    (aim : U16) (team : Team) : FitsWire (castRay rayDir players origin aim team).1 := by
  obtain ⟨hX, hY⟩ := hDir aim
  have hInner := inner_of_open hOrigin
  apply fitsWire_of_onWire
  apply march_onWire
  · simp only [kRayStepFp]
    omega
  · simp only [kRayStepFp]
    omega
  · exact ⟨by simp only; omega, by simp only; omega, by simp, by simp⟩
  · simp only
    omega

def ShotsFit (s : Sim) : Prop := ∀ v, ∀ ev ∈ s.shotsOf v, ∀ msg, ev.body = .shotFired msg → FitsWire msg.hitPoint

theorem ShotsFit.idles {s s' : Sim} (h : ShotsFit s) (hIdles : ∀ v, Idles v s s') : ShotsFit s' := by
  intro v ev hMem
  rw [(hIdles v).shots] at hMem
  exact h v ev hMem

include hDir in
theorem ShotsFit.combatTurn {s : Sim} (hArena : s.InArena) (h : ShotsFit s) (id : Fin kMaxPlayers) :
    ShotsFit (s.combatTurn rayDir id) := by
  rcases combatTurn_cases rayDir s id with hEq | hEq | ⟨hActive, -, msg, ⟨-, hHit⟩, fired, hFired, hTurn⟩
  · rw [hEq]
    exact h
  · rw [hEq]
    exact h
  · have hFits : FitsWire msg.hitPoint := by
      rw [hHit]
      exact castRay_fits hDir s.players (center_open (hArena id hActive)) _ _
    have hShot : ShotsFit fired := by
      intro v ev hMem msg' hBody
      rw [hFired] at hMem
      obtain ⟨hIn, hOwn⟩ := List.mem_filter.mp hMem
      rcases List.mem_append.mp hIn with hOld | hNew
      · exact h v ev (List.mem_filter.mpr ⟨hOld, hOwn⟩) msg' hBody
      · rw [List.mem_singleton.mp hNew] at hBody
        rw [← EventBody.shotFired.inj hBody]
        exact hFits
    rcases hTurn with hEq | ⟨enemy, hEq⟩
    · rw [hEq]
      exact hShot
    · rw [hEq]
      exact hShot.idles fun v => idles_hurt fired id enemy v

include hDir in
theorem ShotsFit.tick {s : Sim} (hArena : s.InArena) (h : ShotsFit s) (cmds : List InboundCommand) :
    ShotsFit (s.tick rayDir cmds) := by
  have hMoved : (s.movedBy cmds).InArena := inArena_preserved.moved s cmds hArena
  have hBefore : ShotsFit (s.movedBy cmds) := by
    intro v ev hMem
    rw [shotsOf, movedBy_outbound] at hMem
    exact h v ev hMem
  have hTurn : ∀ (s : Sim) (id : Fin kMaxPlayers), s.InArena ∧ ShotsFit s →
      (s.combatTurn rayDir id).InArena ∧ ShotsFit (s.combatTurn rayDir id) := by
    rintro s id ⟨hArena, h⟩
    have hChanges := combatTurn_changes rayDir s id fun _ => trivial
    exact ⟨Chain.invariant inArena_preserved.combat hChanges hArena, h.combatTurn hDir hArena id⟩
  have hCombat : ShotsFit ((s.movedBy cmds).combat rayDir) :=
    (Chain.foldl_invariant hTurn (List.finRange kMaxPlayers) _ ⟨hMoved, hBefore⟩).2
  have hPublished := ((hCombat.idles (idles_flagsPhase _)).idles (idles_winCheck _)).idles (idles_publish _)
  rw [tick_eq_finish, Sim.finish]
  exact hPublished.idles (idles_clock _ _)

include hDir in
theorem shotsFit_run (tickHz snapshotHz : Int) (delta : Bool) (ticks : List (List InboundCommand)) :
    ShotsFit ((configured tickHz snapshotHz delta).run rayDir ticks) := by
  induction ticks using List.reverseRecOn with
  | nil => exact fun _ _ hMem => nomatch hMem
  | append_singleton ticks cmds ih =>
    rw [run_snoc]
    exact ih.tick hDir (allPlaced_run rayDir tickHz snapshotHz delta ticks).arena cmds

end Shot

/-- Every shot in the outbound queue is the shot of some slot. -/
theorem Placed.shotOf {s : Sim} {ev : OutboundEvent} (h : Placed ev) (hMem : ev ∈ s.outbound) {msg : MsgShotFired}
    (hBody : ev.body = .shotFired msg) : ∃ v, ev ∈ s.shotsOf v := by
  cases h with
  | shot sent hShooter hOrigin =>
    obtain ⟨v, hv⟩ := hShooter
    refine ⟨v, List.mem_filter.mpr ⟨hMem, ?_⟩⟩
    rw [OutboundEvent.isShotBy, OutboundEvent.subject_shotFired, hv, decide_eq_true_eq]
    exact ⟨OutboundEvent.message_serEvent _ (Or.inr rfl) _ _, rfl⟩
  | snapshot ev snap hSnap hPayload hPositions =>
    rcases hSnap with hSnap | ⟨prevPublished, hSnap⟩
    · cases hSnap.symm.trans hBody
    · cases hSnap.symm.trans hBody
  | _ => cases hBody

/-- In every state of a run the active players stand clear of the walls and inside the border, and no position from which
an event was encoded has wrapped; nor has the end of a shot, if no component of a direction exceeds the scale. -/
theorem players_clear (rayDir : RayDir) (tickHz snapshotHz : Int) (delta : Bool) (ticks : List (List InboundCommand)) :
    let s := (configured tickHz snapshotHz delta).run rayDir ticks
    (∀ id, (s.players id).active = true →
      Map.arena.aabbCollides (s.players id).position = false ∧ InsideBorder (s.players id).position ∧
        FitsWire (s.players id).position) ∧
    (∀ ev ∈ s.outbound, ∀ p ∈ ev.body.positions, FitsWire p) ∧
    ((∀ aim, (-1024 ≤ (rayDir aim).1 ∧ (rayDir aim).1 ≤ 1024) ∧ -1024 ≤ (rayDir aim).2 ∧ (rayDir aim).2 ≤ 1024) →
      ∀ ev ∈ s.outbound, ∀ msg, ev.body = .shotFired msg → FitsWire msg.hitPoint) := by
  intro s
  have h : AllPlaced s := allPlaced_run rayDir tickHz snapshotHz delta ticks
  refine ⟨fun id hActive => ?_, fun ev hMem => (h.events ev hMem).positions, fun hDir ev hMem msg hBody => ?_⟩
  · have hFree := h.arena id hActive
    exact ⟨hFree, Map.insideBorder_of_free hFree, fitsWire_free hFree⟩
  · obtain ⟨v, hShot⟩ := (h.events ev hMem).shotOf hMem hBody
    exact shotsFit_run hDir tickHz snapshotHz delta ticks v ev hShot msg hBody

end Sim
end CaptureTheFlag
