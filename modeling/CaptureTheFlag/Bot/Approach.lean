import CaptureTheFlag.Bot.Greedy
import CaptureTheFlag.Library.Rounding
import CaptureTheFlag.Server.SimFlags

/-! # The bot reaches the base it heads for

Down the field to within two tiles of the base, then greedily to within 4 px of it, where the bot stays.
-/
namespace CaptureTheFlag
set_option autoImplicit false

namespace BotAI

open FlowField (Free IsOpen cardinals tileOf tableDist distance free_iff_open)

variable {R : Type} {N : Numerics R}

def baseColumn : Team → Nat
  | .red => 2
  | .blue => 37

theorem baseOf_eq (team : Team) : baseOf team = ⟨baseColumn team * 8192, 12 * 8192⟩ := by cases team <;> rfl

/-- How many tiles `(tx, ty)` is off the base tile. -/
def tilesOff (team : Team) (tx ty : Nat) : Nat :=
  (tx - baseColumn team) + (baseColumn team - tx) + ((ty - 12) + (12 - ty))

theorem table_near (team : Team) : ∀ tx < 40, ∀ ty < 25, wallBit tx ty = true ∨
    (tableDist team tx ty ≤ 2 ↔ tilesOff team tx ty ≤ 2) := by
  cases team <;> decide +kernel

theorem table_yard (team : Team) : ∀ tx < 40, ∀ ty < 25, 1 ≤ tx ∧ tx ≤ 38 ∧
    tx ≤ baseColumn team + 3 ∧ baseColumn team ≤ tx + 3 ∧ ty ≤ 15 ∧ 9 ≤ ty → wallBit tx ty = false := by
  cases team <;> decide +kernel

/-- Within two tiles of the base. -/
def InZone (team : Team) (pos : Vec2Fixed) : Prop :=
  ((pos.x - (baseOf team).x) / 8192).natAbs + ((pos.y - (baseOf team).y) / 8192).natAbs ≤ 2

section Yard

variable {team : Team} {p : Vec2Fixed} (h : Free p)
include h

theorem distAt_le_two :
    ((FlowField.build Map.arena (baseOf team)).distAt (tileOf p)).toNat ≤ 2 ↔ InZone team p := by
  obtain ⟨hTile, hOpen, hX, hY⟩ := h.corner
  have hInner := hOpen.inner
  simp only at hInner
  rw [hTile, (FlowField.distAt_build team hOpen).2, distance, InZone, baseOf_eq]
  have hWall : wallBit (p.x / 8192).toNat (p.y / 8192).toNat = false := by
    rw [← Map.isWall_eq_wallBit (by omega) (by omega)]
    exact hOpen
  rcases table_near team (p.x / 8192).toNat (by omega) (p.y / 8192).toNat (by omega) with hSolid | hNear
  · rw [hWall] at hSolid
    cases hSolid
  · rw [hNear, tilesOff]
    simp only
    omega

/-- The whole box is off the outer wall. -/
theorem within_walls : 8192 ≤ p.x ∧ p.x + 6143 < 319488 := by
  obtain ⟨-, hOpen, hX, hY⟩ := h.corner
  have hLeft := hOpen.inner
  have hRight := (free_iff_open.mp h ((p.x + 6143) / 8192) (p.y / 8192)
    ⟨(FlowField.meets_iff hX).mpr (by omega), (FlowField.meets_iff hY).mpr (by omega)⟩).inner
  simp only at hLeft hRight
  omega

/-- In the zone the box is free wherever it goes between where it is and 341 beyond the base. -/
theorem free_toward (hZone : InZone team p) {q : Vec2Fixed}
    (hX : min p.x ((baseOf team).x - 341) ≤ q.x ∧ q.x ≤ max p.x ((baseOf team).x + 341))
    (hY : min p.y ((baseOf team).y - 341) ≤ q.y ∧ q.y ≤ max p.y ((baseOf team).y + 341)) : Free q := by
  have hYard := table_yard team
  have hInner := within_walls h
  have hColumn : 2 ≤ baseColumn team ∧ baseColumn team ≤ 37 := by cases team <;> decide
  rw [InZone, baseOf_eq] at hZone
  rw [baseOf_eq] at hX hY
  simp only at hZone hX hY
  generalize baseColumn team = column at *
  have hSide : column * 8192 - 16384 ≤ q.x ∧ q.x < column * 8192 + 24576 := by omega
  have hLevel : 81920 ≤ q.y ∧ q.y < 122880 := by omega
  have hWalls : 8192 ≤ q.x ∧ q.x + 6143 < 319488 := by omega
  clear hZone hX hY hInner
  rw [free_iff_open]
  rintro tx ty ⟨hTx, hTy⟩
  rw [FlowField.meets_iff (by omega)] at hTx hTy
  rw [FlowField.IsOpen, Map.isWall_eq_wallBit (by simp only; omega) (by simp only; omega)]
  exact hYard tx.toNat (by omega) ty.toNat (by omega) (by omega)

end Yard

theorem movementStep_clear {motion : PlayerMotion} {cmd : InputCmd}
    (hX : Free ⟨motion.position.x + (velocityOf cmd).x, motion.position.y⟩)
    (hXY : Free ⟨motion.position.x + (velocityOf cmd).x, motion.position.y + (velocityOf cmd).y⟩) :
    (movementStep motion cmd Map.arena).position =
      ⟨motion.position.x + (velocityOf cmd).x, motion.position.y + (velocityOf cmd).y⟩ := by
  rw [Free] at hX hXY
  simp only [movementStep, hX, hXY, Bool.false_eq_true, if_false]

/-- From the offset `u` towards 0 to `u'`, by 965 to 1365. -/
def Nears (u u' : Int) : Prop :=
  (0 < u ∧ u - 1365 ≤ u' ∧ u' ≤ u - 965) ∨ (u < 0 ∧ u + 965 ≤ u' ∧ u' ≤ u + 1365)

/-- How a greedy step moves the box off `base`: on each axis that is more than 4 px off, or on the one axis that is. -/
def Steps (base p q : Vec2Fixed) : Prop :=
  (1024 < |base.x - p.x| ∧ 1024 < |base.y - p.y| ∧ |q.x - p.x| ≤ 966 ∧ |q.y - p.y| ≤ 966 ∧
    Nears (p.x - base.x) (q.x - base.x) ∧ Nears (p.y - base.y) (q.y - base.y)) ∨
  (1024 < |base.x - p.x| ∧ |base.y - p.y| ≤ 1024 ∧ Nears (p.x - base.x) (q.x - base.x) ∧ q.y = p.y) ∨
  (|base.x - p.x| ≤ 1024 ∧ 1024 < |base.y - p.y| ∧ q.x = p.x ∧ Nears (p.y - base.y) (q.y - base.y))

theorem velocityOf_diagonal (dx dy : Int) : velocityOf { buttons := (diagonal dx dy).bit } =
    ⟨if dx > 0 then 965 else -966, if dy > 0 then 965 else -966⟩ := by
  rw [diagonal]
  split <;> split <;> decide

theorem velocityOf_cardinal {c : FlowField.Cardinal} (h : c ∈ cardinals) :
    velocityOf { buttons := c.bit } = ⟨c.dx * 1365, c.dy * 1365⟩ := by
  simp only [cardinals, List.mem_cons, List.not_mem_nil, or_false] at h
  rcases h with rfl | rfl | rfl | rfl <;> decide

section Step

variable (hRounds : N.Rounds) {team : Team} {motion : PlayerMotion} (h : Free motion.position)
  (hZone : InZone team motion.position)
include h hZone

omit h in
theorem inReach_of_zone : InReach (baseOf team) motion.position := by
  simp only [InZone, InReach, abs_le] at hZone ⊢
  omega

include hRounds

/-- One tick of greedy stepping towards a base. -/
def greedyStep (N : Numerics R) (team : Team) (motion : PlayerMotion) : PlayerMotion :=
  movementStep motion { buttons := greedyButtons N Map.arena motion.position (baseOf team) } Map.arena

theorem diagonal_steps (hX : 1024 < |(baseOf team).x - motion.position.x|)
    (hY : 1024 < |(baseOf team).y - motion.position.y|) :
    Steps (baseOf team) motion.position (greedyStep N team motion).position := by
  have hFree := @free_toward team motion.position h hZone
  have hX' := lt_abs.mp hX
  have hY' := lt_abs.mp hY
  have hProbe : Free (stepped motion.position
      (diagonal ((baseOf team).x - motion.position.x) ((baseOf team).y - motion.position.y))) := by
    simp only [stepped, diagonal]
    apply hFree
    · simp only
      split <;> omega
    · simp only
      split <;> omega
  rw [greedyStep, greedyButtons_diagonal hRounds (inReach_of_zone hZone) hX hY hProbe, movementStep_clear,
    velocityOf_diagonal]
  · refine Or.inl ⟨hX, hY, ?_⟩
    simp only [Nears, abs_le]
    split <;> split <;> omega
  · rw [velocityOf_diagonal]
    apply hFree
    · simp only
      split <;> omega
    · simp only
      omega
  · rw [velocityOf_diagonal]
    apply hFree
    · simp only
      split <;> omega
    · simp only
      split <;> omega

/-- On the axis that is off alone the box makes a full step. -/
theorem straight_steps (hOne : ¬ (1024 < |(baseOf team).x - motion.position.x| ∧
      1024 < |(baseOf team).y - motion.position.y|)) (hOff : ¬ Arrived (baseOf team) motion.position)
    {c : FlowField.Cardinal}
    (hMem : c ∈ cardinals) (hAhead : 1024 < progress (baseOf team) motion.position c) :
    Steps (baseOf team) motion.position (greedyStep N team motion).position := by
  have hFree := @free_toward team motion.position h hZone
  have hTurn := hOne
  simp only [lt_abs] at hTurn
  have hProbe : Free (stepped motion.position c) := by
    simp only [cardinals, List.mem_cons, List.not_mem_nil, or_false] at hMem
    simp only [progress] at hAhead
    rcases hMem with rfl | rfl | rfl | rfl <;> simp only at hAhead <;> (apply hFree <;> simp only [stepped] <;> omega)
  have hMost : ∀ c' ∈ cardinals, c' ≠ c →
      progress (baseOf team) motion.position c' < progress (baseOf team) motion.position c := by
    intro c' hMem' hNe
    simp only [cardinals, List.mem_cons, List.not_mem_nil, or_false] at hMem hMem'
    simp only [progress] at hAhead ⊢
    rcases hMem with rfl | rfl | rfl | rfl <;> simp only at hAhead ⊢ <;>
      rcases hMem' with rfl | rfl | rfl | rfl <;> first | exact absurd rfl hNe | (simp only; omega)
  have hHalf : Free ⟨motion.position.x + c.dx * 1365, motion.position.y⟩ := by
    simp only [cardinals, List.mem_cons, List.not_mem_nil, or_false] at hMem
    rcases hMem with rfl | rfl | rfl | rfl
    · simpa [stepped] using hProbe
    · simpa [stepped] using hProbe
    · simpa using h
    · simpa using h
  rw [greedyStep, greedyButtons_straight hRounds (inReach_of_zone hZone) hOne hOff hMem hProbe hMost, movementStep_clear]
  · rw [velocityOf_cardinal hMem]
    simp only [cardinals, List.mem_cons, List.not_mem_nil, or_false] at hMem
    simp only [progress] at hAhead
    simp only [Steps, Nears, lt_abs, abs_le]
    rcases hMem with rfl | rfl | rfl | rfl <;> simp only at hAhead ⊢ <;> omega
  · rw [velocityOf_cardinal hMem]
    exact hHalf
  · rw [velocityOf_cardinal hMem]
    exact hProbe

theorem greedyStep_steps (hOff : ¬ Arrived (baseOf team) motion.position) :
    Steps (baseOf team) motion.position (greedyStep N team motion).position := by
  by_cases hBoth : 1024 < |(baseOf team).x - motion.position.x| ∧ 1024 < |(baseOf team).y - motion.position.y|
  · exact diagonal_steps hRounds h hZone hBoth.1 hBoth.2
  · have hAxis : ∃ c ∈ cardinals, 1024 < progress (baseOf team) motion.position c := by
      simp only [cardinals, List.mem_cons, List.not_mem_nil, or_false, exists_eq_or_imp, exists_eq_left, progress]
      simp only [Arrived, abs_le] at hOff
      omega
    obtain ⟨c, hMem, hAhead⟩ := hAxis
    exact straight_steps hRounds h hZone hBoth hOff hMem hAhead

end Step

/-- What is left to the base, the sum of the two axes. -/
def off (team : Team) (pos : Vec2Fixed) : Nat :=
  (pos.x - (baseOf team).x).natAbs + (pos.y - (baseOf team).y).natAbs

theorem Nears.less {u u' : Int} (h : Nears u u') (hOff : 1024 < u ∨ 1024 < -u) : u'.natAbs < u.natAbs := by
  rcases h with ⟨hPos, hLow, hHigh⟩ | ⟨hNeg, hLow, hHigh⟩ <;> omega

theorem Nears.tiles {u u' : Int} (h : Nears u u') :
    (u' / 8192).natAbs ≤ max 1 (u / 8192).natAbs := by
  rcases h with ⟨hPos, hLow, hHigh⟩ | ⟨hNeg, hLow, hHigh⟩ <;> omega

/-- A diagonal step is too short to pass the base. -/
theorem Nears.short {u u' : Int} (h : Nears u u') (hOff : 1024 < u ∨ 1024 < -u)
    (hShort : -966 ≤ u' - u ∧ u' - u ≤ 966) :
    (u' / 8192).natAbs ≤ (u / 8192).natAbs := by
  rcases h with ⟨hPos, hLow, hHigh⟩ | ⟨hNeg, hLow, hHigh⟩ <;> omega

theorem tiles_of_near {u : Int} (h : -1024 ≤ u ∧ u ≤ 1024) : (u / 8192).natAbs ≤ 1 := by omega

/-- A greedy step comes nearer and stays in the zone: it passes the base only on one axis, by less than a tile, and
then the other axis is done. -/
theorem Steps.closer {team : Team} {p q : Vec2Fixed} (h : Steps (baseOf team) p q) (hZone : InZone team p) :
    InZone team q ∧ off team q < off team p := by
  rw [InZone] at hZone ⊢
  rw [off, off]
  rcases h with ⟨hX, hY, hShortX, hShortY, hNearX, hNearY⟩ | ⟨hX, hY, hNear, hSame⟩ | ⟨hX, hY, hSame, hNear⟩
  · rw [lt_abs] at hX hY
    rw [abs_le] at hShortX hShortY
    constructor
    · exact (Nat.add_le_add (hNearX.short (by omega) (by omega)) (hNearY.short (by omega) (by omega))).trans hZone
    · exact Nat.add_lt_add (hNearX.less (by omega)) (hNearY.less (by omega))
  · rw [lt_abs] at hX
    rw [abs_le] at hY
    have hDone := @tiles_of_near (p.y - (baseOf team).y) (by omega)
    have hTiles := hNear.tiles
    rw [hSame]
    constructor
    · generalize (p.y - (baseOf team).y) / 8192 = v at *
      omega
    · exact Nat.add_lt_add_right (hNear.less (by omega)) _
  · rw [abs_le] at hX
    rw [lt_abs] at hY
    have hDone := @tiles_of_near (p.x - (baseOf team).x) (by omega)
    have hTiles := hNear.tiles
    rw [hSame]
    constructor
    · generalize (p.x - (baseOf team).x) / 8192 = v at *
      omega
    · exact Nat.add_lt_add_left (hNear.less (by omega)) _

/-- One tick of a bot that heads for a base. -/
def navStep (N : Numerics R) (ai : BotAI R) (team : Team) (motion : PlayerMotion) : PlayerMotion :=
  movementStep motion { buttons := ai.navButtons N motion.position (.toBase team) } Map.arena

instance (team : Team) (pos : Vec2Fixed) : Decidable (InZone team pos) := inferInstanceAs (Decidable (_ ≤ _))

/-- In the zone what is left to the base, outside the rank of the walk down the field. -/
def rank (team : Team) (motion : PlayerMotion) : ℕ ×ₗ ℕ :=
  if InZone team motion.position then toLex (0, off team motion.position)
  else (FlowField.build Map.arena (baseOf team)).rank motion

section Way

variable {ai : BotAI R} {team : Team} (hField : ai.fieldTo team = FlowField.build Map.arena (baseOf team))
  {motion : PlayerMotion} (h : Free motion.position)
include hField h

theorem navStep_zone (hZone : InZone team motion.position) : ai.navStep N team motion = greedyStep N team motion := by
  have hNear := (distAt_le_two h).mpr hZone
  simp only [navStep, navButtons, hField, hNear, true_or, if_true]
  rfl

theorem navStep_far (hZone : ¬ InZone team motion.position) :
    ai.navStep N team motion = (FlowField.build Map.arena (baseOf team)).walkStep Map.arena motion := by
  have hFar := mt (distAt_le_two h).mp hZone
  have hAway : (FlowField.build Map.arena (baseOf team)).distAt (tileOf motion.position) ≠ 0 := by
    intro hZero
    rw [hZero] at hFar
    exact hFar (Nat.zero_le 2)
  obtain ⟨dx, dy, hSteer, hMoves, hHeadsX, hHeadsY⟩ := h.steer_heads (FlowField.guides_build team) hAway
  have hPressed : (FlowField.build Map.arena (baseOf team)).steer Map.arena motion.position ≠ 0 := by
    rw [hSteer]
    rcases hHeadsX.1.sign with rfl | rfl | rfl <;> rcases hHeadsY.1.sign with rfl | rfl | rfl <;>
      first | exact absurd hMoves (by decide) | decide
  simp only [navStep, navButtons, hField, hFar, hPressed, or_self, if_false]
  rfl

include N in
theorem navStep_lowers (hRounds : N.Rounds) (hOff : ¬ Arrived (baseOf team) motion.position) :
    rank team (ai.navStep N team motion) < rank team motion := by
  by_cases hZone : InZone team motion.position
  · obtain ⟨hStays, hLess⟩ := (greedyStep_steps hRounds h hZone hOff).closer hZone
    rw [navStep_zone hField h hZone, rank, rank, if_pos hZone, if_pos hStays, Prod.Lex.toLex_lt_toLex]
    exact Or.inr ⟨rfl, hLess⟩
  · have hFar := mt (distAt_le_two h).mp hZone
    have hLower : (FlowField.build Map.arena (baseOf team)).rank
        ((FlowField.build Map.arena (baseOf team)).walkStep Map.arena motion) <
        (FlowField.build Map.arena (baseOf team)).rank motion := by
      apply (FlowField.guides_build team).walkStep_rank h
      intro hZero
      rw [hZero] at hFar
      exact hFar (Nat.zero_le 2)
    rw [navStep_far hField h hZone, rank, rank, if_neg hZone]
    split
    · rw [FlowField.rank, Prod.Lex.toLex_lt_toLex]
      exact Or.inl (Nat.lt_of_lt_of_le (Nat.zero_lt_two) (Nat.le_of_lt (Nat.lt_of_not_le hFar)))
    · exact hLower

end Way

theorem zone_of_arrived {team : Team} {pos : Vec2Fixed} (h : Arrived (baseOf team) pos) : InZone team pos := by
  obtain ⟨hX, hY⟩ := h
  rw [abs_le] at hX hY
  exact Nat.add_le_add (tiles_of_near (by omega)) (tiles_of_near (by omega))

/-- Once arrived the bot presses no movement button. -/
theorem navButtons_arrived {ai : BotAI R} {team : Team} (hField : ai.fieldTo team = FlowField.build Map.arena (baseOf team))
    {pos : Vec2Fixed} (h : Free pos) (hArrived : Arrived (baseOf team) pos) :
    ai.navButtons N pos (.toBase team) = 0 := by
  have hNear := (distAt_le_two h).mpr (zone_of_arrived hArrived)
  simp only [navButtons, hField, hNear, true_or, if_true]
  exact greedyButtons_arrived hArrived

/-- So near the box of the player overlaps the box of a flag at its base. -/
theorem overlap_of_arrived {team : Team} {pos : Vec2Fixed} (h : Arrived (baseOf team) pos) :
    Sim.aabbOverlap pos (baseOf team) = true := by
  obtain ⟨hX, hY⟩ := h
  rw [abs_le] at hX hY
  have hBox : kPlayerSizePx * kFixedScale = 6144 := rfl
  simp only [Sim.aabbOverlap, hBox, decide_eq_true_eq]
  omega

/-- Combat draws from the generator and adds no movement button. -/
theorem combat_spec (ai : BotAI R) (enemy : Sighting) (buttons : U8) :
    (∃ rng, (ai.combat N enemy buttons).1 = { ai with rng }) ∧
      velocityOf (ai.combat N enemy buttons).2 = velocityOf { buttons } := by
  have hFire : ∀ b : U8, velocityOf { buttons := b ||| kInputFire } = velocityOf { buttons := b } := by
    decide +kernel
  rw [combat]
  split
  · refine ⟨⟨_, rfl⟩, ?_⟩
    simp only
    split
    · exact hFire buttons
    · rfl
  · split
    · exact ⟨⟨ai.rng, rfl⟩, rfl⟩
    · exact ⟨⟨ai.rng, rfl⟩, rfl⟩

variable (N) (ai : BotAI R) (snaps : ℕ → WorldSnapshot)

/-- The bot before each tick of a run over the snapshots. -/
def botAt : ℕ → BotAI R
  | 0 => ai
  | t + 1 => ((botAt t).tick N (snaps t)).1

def inputAt (t : ℕ) : InputCmd := ((botAt N ai snaps t).tick N (snaps t)).2

/-- The snapshots show the bot where its inputs have put it, and the match keeps sending it to one base. -/
structure Drives (team : Team) (motions : ℕ → PlayerMotion) : Prop where
  shown : ∀ t, ∃ self, Prediction.findSelf (snaps t) ai.myId = some self ∧
    self.motion.position = (motions t).position ∧ ai.course self (snaps t) = .toBase team
  moved : ∀ t, motions (t + 1) = movementStep (motions t) (inputAt N ai snaps t) Map.arena

variable {N ai snaps}

theorem botAt_same (t : ℕ) : ∃ rng, botAt N ai snaps t = { ai with rng } := by
  induction t with
  | zero => exact ⟨ai.rng, rfl⟩
  | succ t ih =>
    obtain ⟨rng, hBot⟩ := ih
    rw [botAt, hBot, tick]
    split
    · exact ⟨rng, rfl⟩
    · exact (combat_spec _ _ _).1

/-- Only the movement buttons move the player. -/
theorem movementStep_inputAt {t : ℕ} {self : PlayerState} (hSelf : Prediction.findSelf (snaps t) ai.myId = some self)
    {motion : PlayerMotion} (hPos : self.motion.position = motion.position) {team : Team}
    (hCourse : ai.course self (snaps t) = .toBase team) :
    movementStep motion (inputAt N ai snaps t) Map.arena = ai.navStep N team motion := by
  obtain ⟨rng, hBot⟩ := @botAt_same R N ai snaps t
  have hVelocity : velocityOf (inputAt N ai snaps t) =
      velocityOf { buttons := ai.navButtons N motion.position (.toBase team) } := by
    rw [inputAt, hBot, tick, hSelf, ← hCourse, ← hPos]
    exact (combat_spec _ _ _).2
  rw [navStep]
  simp only [movementStep, hVelocity]

theorem Drives.step {team : Team} {motions : ℕ → PlayerMotion} (h : Drives N ai snaps team motions) (t : ℕ) :
    motions (t + 1) = ai.navStep N team (motions t) := by
  obtain ⟨self, hSelf, hPos, hCourse⟩ := h.shown t
  rw [h.moved, movementStep_inputAt hSelf hPos hCourse]

theorem Drives.iterate {team : Team} {motions : ℕ → PlayerMotion} (h : Drives N ai snaps team motions) (t : ℕ) :
    motions t = (ai.navStep N team)^[t] (motions 0) := by
  induction t with
  | zero => rfl
  | succ t ih => rw [h.step, Function.iterate_succ_apply', ih]

theorem Drives.stays {team : Team} (hField : ai.fieldTo team = FlowField.build Map.arena (baseOf team))
    {motions : ℕ → PlayerMotion} (h : Drives N ai snaps team motions) {n : ℕ} (hFree : Free (motions n).position)
    (hArrived : Arrived (baseOf team) (motions n).position) {m : ℕ} (hm : n ≤ m) :
    (motions m).position = (motions n).position := by
  induction hm with
  | refl => rfl
  | @step m _ ih =>
    rw [h.step, navStep, ih, navButtons_arrived hField hFree hArrived]
    exact (movementStep_still (motions m) { buttons := 0 } Map.arena (by decide)).trans ih

theorem fieldTo_init (seed : R) (playerId : U8) (myTeam team : Team) :
    (init seed playerId myTeam).fieldTo team = FlowField.build Map.arena (baseOf team) := by
  rw [fieldTo]
  split
  · rename_i hOwn
    rw [hOwn]
    rfl
  · rename_i hOther
    rw [(Team.eq_other_iff team _).mpr hOther]
    rfl

/-- However its sums of squares are rounded and whatever it shoots at, a bot that is sent to a base from a free place
comes to within 4 px of it on both axes, where it touches the flag, and stays there. -/
theorem drive_arrives (hRounds : N.Rounds) (seed : R) (playerId : U8) (myTeam team : Team) (motions : ℕ → PlayerMotion)
    (hDrives : Drives N (init seed playerId myTeam) snaps team motions)
    (hFree : Map.arena.aabbCollides (motions 0).position = false) :
    ∃ n, ∀ m, n ≤ m → (motions m).position = (motions n).position ∧ Arrived (baseOf team) (motions m).position ∧
      Sim.aabbOverlap (motions m).position (baseOf team) = true := by
  have hField := fieldTo_init seed playerId myTeam team
  have hLowers : Ranking.Lowers ((init seed playerId myTeam).navStep N team)
      (fun motion => Arrived (baseOf team) motion.position) (fun motion => Free motion.position) (rank team) :=
    fun motion h hOff => ⟨movementStep_free motion _ _ h, navStep_lowers hField h hRounds hOff⟩
  obtain ⟨n, hGoal, hOff, -⟩ := hLowers.reaches hFree
  have hThere := hLowers.inv_iterate hFree hOff
  rw [← hDrives.iterate] at hGoal hThere
  refine ⟨n, fun m hm => ?_⟩
  have hSame := hDrives.stays hField hThere hGoal hm
  rw [hSame]
  exact ⟨rfl, hGoal, overlap_of_arrived hGoal⟩

/-- Each operation rounded to 24 bits, and a generator that never fires. The bearings are those of the eight ways a
bot can move. -/
def singlePrecision : Numerics Unit where
  squares dx dy := Rounding.round 24 (Rounding.round 24 (dx * dx).toNat + Rounding.round 24 (dy * dy).toNat)
  root n := n.sqrt / 256
  spread rng := (0, rng)
  fires rng := (false, rng)
  bearing dy dx _ :=
    if dy = 0 then (if 0 ≤ dx then 0 else 32768)
    else if 0 < dy then (if 0 < dx then 8192 else if dx = 0 then 16384 else 24576)
    else if 0 < dx then 57344 else if dx = 0 then 49152 else 40960

theorem rounds_singlePrecision : singlePrecision.Rounds := by
  intro dx dy
  have hX := Rounding.abs_round_sub 24 (dx * dx).toNat
  have hY := Rounding.abs_round_sub 24 (dy * dy).toNat
  have hSum := Rounding.abs_round_sub 24 (Rounding.round 24 (dx * dx).toNat + Rounding.round 24 (dy * dy).toNat)
  have hPosX := mul_self_nonneg dx
  have hPosY := mul_self_nonneg dy
  rw [Int.toNat_of_nonneg hPosX] at hX
  rw [Int.toNat_of_nonneg hPosY] at hY
  have hSquares : (singlePrecision.squares dx dy : Int) =
    Rounding.round 24 (Rounding.round 24 (dx * dx).toNat + Rounding.round 24 (dy * dy).toNat) := rfl
  rw [hSquares]
  push_cast at hSum
  generalize (Rounding.round 24 (Rounding.round 24 (dx * dx).toNat + Rounding.round 24 (dy * dy).toNat) : Int) = s at *
  generalize (Rounding.round 24 (dx * dx).toNat : Int) = x at *
  generalize (Rounding.round 24 (dy * dy).toNat : Int) = y at *
  have hTriangle : |s - (dx * dx + dy * dy)| ≤ |s - (x + y)| + (|x - dx * dx| + |y - dy * dy|) := by
    have hSplit : s - (dx * dx + dy * dy) = (s - (x + y)) + ((x - dx * dx) + (y - dy * dy)) := by omega
    rw [hSplit]
    exact (abs_add_le _ _).trans (Int.add_le_add_left (abs_add_le _ _) _)
  have hUpX := le_abs_self (x - dx * dx)
  have hUpY := le_abs_self (y - dy * dy)
  omega

/-- One player, both flags at base. -/
def soloSnap (id : U8) (team : Team) (position : Vec2Fixed) : WorldSnapshot where
  playerCount := 1
  players := fun _ => { id, team, motion := { position } }

theorem soloSnap_self (id : U8) (team : Team) (position : Vec2Fixed) :
    Prediction.findSelf (soloSnap id team position) id = some { id, team, motion := { position } } := by
  simp [Prediction.findSelf, soloSnap, Protocol.firstSlots, List.finRange_succ]

/-- From the red spawn in the corner to the blue base. -/
def raid : ℕ → PlayerMotion
  | 0 => { position := kRedSpawnPoints.getD 0 {} }
  | t + 1 => (init () 1 .red).navStep singlePrecision .blue (raid t)

def raidSnaps (t : ℕ) : WorldSnapshot := soloSnap 1 .red (raid t).position

theorem course_solo (ai : BotAI R) (id : U8) (team : Team) (position : Vec2Fixed) :
    ai.course { id, team, motion := { position } } (soloSnap id team position) = .toBase ai.myTeam.other := by
  cases hTeam : ai.myTeam <;> simp [course, soloSnap, hTeam]

theorem raid_drives : Drives singlePrecision (init () 1 .red) raidSnaps .blue raid := by
  have hSelf := fun t => soloSnap_self 1 .red (raid t).position
  have hCourse := fun t => course_solo (init () 1 .red) 1 .red (raid t).position
  constructor
  · exact fun t => ⟨_, hSelf t, rfl, hCourse t⟩
  · intro t
    rw [raid]
    symm
    apply movementStep_inputAt (hSelf t)
    · rfl
    · exact hCourse t

theorem drive_arrives_raid :
    ∃ n, ∀ m, n ≤ m → (raid m).position = (raid n).position ∧ Arrived (baseOf .blue) (raid m).position ∧
      Sim.aabbOverlap (raid m).position (baseOf .blue) = true :=
  drive_arrives rounds_singlePrecision () 1 .red .blue raid raid_drives (by decide +kernel)

end BotAI
end CaptureTheFlag
