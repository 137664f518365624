import CaptureTheFlag.Bot.FieldTable

/-! # Where the bot heads

A free box that looks for its way stands on up to four tiles, while the field is read at its top left corner. What the
probes of `steer` answer is decided by how far the corner is from the edges of its tile: a step to the right or to the
left fails only when the box reaches into the row below, a step up or down only when it reaches into the next column.
-/
namespace CaptureTheFlag
set_option autoImplicit false

namespace FlowField

def Free (p : Vec2Fixed) : Prop := Map.arena.aabbCollides p = false

theorem free_iff_open {p : Vec2Fixed} : Free p ↔ ∀ tx ty, Map.Covers p tx ty → IsOpen ⟨tx, ty⟩ := Map.free_iff _ p

theorem Free.corner {p : Vec2Fixed} (h : Free p) :
    tileOf p = ⟨p.x / 8192, p.y / 8192⟩ ∧ IsOpen ⟨p.x / 8192, p.y / 8192⟩ ∧ 0 ≤ p.x ∧ 0 ≤ p.y := by
  have hOpen := free_iff_open.mp h (p.x.tdiv 8192) (p.y.tdiv 8192)
    ⟨⟨le_rfl, Map.tdiv_tile_le _⟩, le_rfl, Map.tdiv_tile_le _⟩
  obtain ⟨hx, hy⟩ := hOpen.inner
  simp only [Map.tdiv_tile] at hx hy hOpen
  have hX : 0 ≤ p.x := by omega
  have hY : 0 ≤ p.y := by omega
  rw [if_pos hX] at hx hOpen
  rw [if_pos hY] at hy hOpen
  refine ⟨?_, hOpen, hX, hY⟩
  have hFp : kTileFp = 8192 := rfl
  simp only [tileOf, hFp, Map.tdiv_tile, if_pos hX, if_pos hY, kMapWidthTiles, kMapHeightTiles, Tile.mk.injEq]
  omega

theorem meets_iff {a t : Int} (h : 0 ≤ a) : Map.Meets a t ↔ a / 8192 ≤ t ∧ t ≤ (a + 6143) / 8192 := by
  rw [Map.Meets, Map.tdiv_tile, Map.tdiv_tile, if_pos h, if_pos (by omega)]

section Probes

variable {p : Vec2Fixed} (h : Free p)
include h

theorem Free.right (hRoom : 2048 < p.x % 8192 ∨ (p.y % 8192 ≤ 2048 ∧ IsOpen ⟨p.x / 8192 + 1, p.y / 8192⟩)) :
    Free ⟨p.x + 1365, p.y⟩ := by
  obtain ⟨-, -, hX, hY⟩ := h.corner
  rw [free_iff_open] at h ⊢
  rintro tx ty ⟨hTx, hTy⟩
  by_cases hOld : Map.Meets p.x tx
  · exact h tx ty ⟨hOld, hTy⟩
  simp only [meets_iff hX, meets_iff hY, meets_iff (show 0 ≤ p.x + 1365 by omega)] at hOld hTx hTy
  rcases hRoom with hInside | ⟨hRow, hOpen⟩
  · omega
  · obtain rfl : tx = p.x / 8192 + 1 := by omega
    obtain rfl : ty = p.y / 8192 := by omega
    exact hOpen

theorem Free.left (hRoom : 1365 ≤ p.x % 8192 ∨ (p.y % 8192 ≤ 2048 ∧ IsOpen ⟨p.x / 8192 - 1, p.y / 8192⟩)) :
    Free ⟨p.x - 1365, p.y⟩ := by
  obtain ⟨-, hHere, hX, hY⟩ := h.corner
  have hInner := hHere.inner
  simp only at hInner
  rw [free_iff_open] at h ⊢
  rintro tx ty ⟨hTx, hTy⟩
  by_cases hOld : Map.Meets p.x tx
  · exact h tx ty ⟨hOld, hTy⟩
  simp only [meets_iff hX, meets_iff hY, meets_iff (show 0 ≤ p.x - 1365 by omega)] at hOld hTx hTy
  rcases hRoom with hInside | ⟨hRow, hOpen⟩
  · omega
  · obtain rfl : tx = p.x / 8192 - 1 := by omega
    obtain rfl : ty = p.y / 8192 := by omega
    exact hOpen

theorem Free.down (hRoom : 2048 < p.y % 8192 ∨ (IsOpen ⟨p.x / 8192, p.y / 8192 + 1⟩ ∧
    (p.x % 8192 ≤ 2048 ∨ IsOpen ⟨p.x / 8192 + 1, p.y / 8192 + 1⟩))) : Free ⟨p.x, p.y + 1365⟩ := by
  obtain ⟨-, -, hX, hY⟩ := h.corner
  rw [free_iff_open] at h ⊢
  rintro tx ty ⟨hTx, hTy⟩
  by_cases hOld : Map.Meets p.y ty
  · exact h tx ty ⟨hTx, hOld⟩
  simp only [meets_iff hX, meets_iff hY, meets_iff (show 0 ≤ p.y + 1365 by omega)] at hOld hTx hTy
  rcases hRoom with hInside | ⟨hOpen, hColumn⟩
  · omega
  · obtain rfl : ty = p.y / 8192 + 1 := by omega
    by_cases hFirst : tx = p.x / 8192
    · rw [hFirst]
      exact hOpen
    · obtain rfl : tx = p.x / 8192 + 1 := by omega
      exact hColumn.resolve_left (by omega)

theorem Free.up (hRoom : 1365 ≤ p.y % 8192 ∨ (p.x % 8192 ≤ 2048 ∧ IsOpen ⟨p.x / 8192, p.y / 8192 - 1⟩)) :
    Free ⟨p.x, p.y - 1365⟩ := by
  obtain ⟨-, hHere, hX, hY⟩ := h.corner
  have hInner := hHere.inner
  simp only at hInner
  rw [free_iff_open] at h ⊢
  rintro tx ty ⟨hTx, hTy⟩
  by_cases hOld : Map.Meets p.y ty
  · exact h tx ty ⟨hTx, hOld⟩
  simp only [meets_iff hX, meets_iff hY, meets_iff (show 0 ≤ p.y - 1365 by omega)] at hOld hTx hTy
  rcases hRoom with hInside | ⟨hColumn, hOpen⟩
  · omega
  · obtain rfl : ty = p.y / 8192 - 1 := by omega
    obtain rfl : tx = p.x / 8192 := by omega
    exact hOpen

end Probes

def Takes (field : FlowField) (p : Vec2Fixed) (dx dy : Int) : Prop :=
  field.Descends (tileOf p) dx dy ∧ Free ⟨p.x + dx * 1365, p.y + dy * 1365⟩

theorem axisFeasible_eq_true {p : Vec2Fixed} {dx dy : Int} :
    axisFeasible Map.arena p dx dy = true ↔ Free ⟨p.x + dx * 1365, p.y + dy * 1365⟩ := by
  rw [axisFeasible, Free, Bool.not_eq_true']

section Loop

variable {field : FlowField} {p : Vec2Fixed} {d : Descent}

theorem consider_skip {c : Cardinal} (h : ¬ field.Takes p c.dx c.dy) : consider field Map.arena p d c = d := by
  simp only [consider, tilePassable_eq, Bool.not_not, ge_iff_le, Bool.not_eq_true']
  split
  · rfl
  · rename_i hOpen
    split
    · rfl
    · rename_i hLess
      split
      · rfl
      · rename_i hFree
        refine absurd ⟨⟨?_, Nat.lt_of_not_le hLess⟩, axisFeasible_eq_true.mp (by simpa using hFree)⟩ h
        simpa [IsOpen] using hOpen

theorem consider_takes {c : Cardinal} (h : field.Takes p c.dx c.dy) :
    consider field Map.arena p d c =
      let nd := field.distAt ⟨(tileOf p).x + c.dx, (tileOf p).y + c.dy⟩
      if c.dy = 0 then
        if nd.toNat < d.bestX.toNat then { d with bestX := nd, btnX := c.bit, haveX := true }
        else { d with haveX := true }
      else
        if nd.toNat < d.bestY.toNat then { d with bestY := nd, btnY := c.bit, haveY := true }
        else { d with haveY := true } := by
  obtain ⟨⟨hOpen, hLess⟩, hFree⟩ := h
  have hWall : Map.arena.isWall ((tileOf p).x + c.dx) ((tileOf p).y + c.dy) = false := hOpen
  simp only [consider, tilePassable_eq, hWall, Nat.not_le_of_lt hLess, axisFeasible_eq_true.mpr hFree, Bool.not_false,
    Bool.not_true, Bool.false_eq_true, if_false]

theorem Takes.improves {dx dy : Int} (h : field.Takes p dx dy) :
    (field.distAt ⟨(tileOf p).x + dx, (tileOf p).y + dy⟩).toNat < (kUnreachable : U16).toNat := by
  have hLess := h.1.2
  have hHere := (field.distAt (tileOf p)).isLt
  have hMax : (kUnreachable : U16).toNat = 65535 := by decide
  omega

theorem sides_eq (hSide : field.Takes p 1 0 → ¬ field.Takes p (-1) 0) :
    ∃ d, [(⟨1, 0, kInputRight⟩ : Cardinal), ⟨-1, 0, kInputLeft⟩].foldl (consider field Map.arena p) {} = d ∧
      (d.haveX = true ↔ field.Takes p 1 0 ∨ field.Takes p (-1) 0) ∧
      (field.Takes p 1 0 → d.btnX = kInputRight) ∧ (field.Takes p (-1) 0 → d.btnX = kInputLeft) ∧
      d.haveY = false ∧ d.bestY = kUnreachable := by
  simp only [List.foldl_cons, List.foldl_nil]
  by_cases hR : field.Takes p 1 0
  · have hL := hSide hR
    rw [consider_skip (c := ⟨-1, 0, kInputLeft⟩) hL, consider_takes (c := ⟨1, 0, kInputRight⟩) hR]
    refine ⟨_, rfl, ?_⟩
    simp only [if_true, hR.improves, hR, hL, true_or, false_implies, true_implies, and_self]
  · rw [consider_skip (c := ⟨1, 0, kInputRight⟩) hR]
    by_cases hL : field.Takes p (-1) 0
    · rw [consider_takes (c := ⟨-1, 0, kInputLeft⟩) hL]
      refine ⟨_, rfl, ?_⟩
      simp only [if_true, hL.improves, hR, hL, or_true, false_implies, true_implies, and_self]
    · rw [consider_skip (c := ⟨-1, 0, kInputLeft⟩) hL]
      refine ⟨_, rfl, ?_⟩
      simp only [hR, hL, or_self, false_implies, Bool.false_eq_true, and_self]

theorem levels_eq (hNone : d.haveY = false) (hBest : d.bestY = kUnreachable)
    (hDown : field.Takes p 0 1 → field.Takes p 0 (-1) →
      (field.distAt ⟨(tileOf p).x + 0, (tileOf p).y + 1⟩).toNat ≤
        (field.distAt ⟨(tileOf p).x + 0, (tileOf p).y + -1⟩).toNat) :
    ∃ d', [(⟨0, 1, kInputDown⟩ : Cardinal), ⟨0, -1, kInputUp⟩].foldl (consider field Map.arena p) d = d' ∧
      d'.haveX = d.haveX ∧ d'.btnX = d.btnX ∧ (d'.haveY = true ↔ field.Takes p 0 1 ∨ field.Takes p 0 (-1)) ∧
      (field.Takes p 0 1 → d'.btnY = kInputDown) ∧
      (field.Takes p 0 (-1) → ¬ field.Takes p 0 1 → d'.btnY = kInputUp) := by
  have hOne : ¬ (1 : Int) = 0 := by decide
  have hMinus : ¬ (-1 : Int) = 0 := by decide
  simp only [List.foldl_cons, List.foldl_nil]
  by_cases hD : field.Takes p 0 1
  · rw [consider_takes (c := ⟨0, 1, kInputDown⟩) hD]
    simp only [hOne, hBest, hD.improves, if_true, if_false]
    by_cases hU : field.Takes p 0 (-1)
    · rw [consider_takes (c := ⟨0, -1, kInputUp⟩) hU]
      refine ⟨_, rfl, ?_⟩
      simp only [hMinus, Nat.not_lt_of_le (hDown hD hU), hD, hU, if_false, or_self, not_true, false_implies,
        true_implies, and_self]
    · rw [consider_skip (c := ⟨0, -1, kInputUp⟩) hU]
      refine ⟨_, rfl, ?_⟩
      simp only [hD, hU, true_or, not_true, false_implies, true_implies, and_self]
  · rw [consider_skip (c := ⟨0, 1, kInputDown⟩) hD]
    by_cases hU : field.Takes p 0 (-1)
    · rw [consider_takes (c := ⟨0, -1, kInputUp⟩) hU]
      refine ⟨_, rfl, ?_⟩
      simp only [hMinus, hBest, hU.improves, hD, hU, if_true, if_false, or_true, not_false_eq_true, false_implies,
        true_implies, and_self]
    · rw [consider_skip (c := ⟨0, -1, kInputUp⟩) hU]
      refine ⟨_, rfl, ?_⟩
      simp only [hNone, hD, hU, or_self, Bool.false_eq_true, false_implies, and_self]

end Loop

section Takes

variable {field : FlowField} {p : Vec2Fixed} (h : Free p)
include h

theorem Free.takes_right (hDescends : field.Descends (tileOf p) 1 0) (hRoom : 2048 < p.x % 8192 ∨ p.y % 8192 ≤ 2048) :
    field.Takes p 1 0 := by
  have hOpen := hDescends.1
  simp only [h.corner.1, add_zero] at hOpen
  have hFree := h.right (hRoom.imp_right (fun hRow => ⟨hRow, hOpen⟩))
  refine ⟨hDescends, ?_⟩
  simpa only [Int.one_mul, Int.zero_mul, Int.add_zero] using hFree

theorem Free.takes_left (hDescends : field.Descends (tileOf p) (-1) 0)
    (hRoom : 1365 ≤ p.x % 8192 ∨ p.y % 8192 ≤ 2048) : field.Takes p (-1) 0 := by
  have hOpen := hDescends.1
  simp only [h.corner.1, add_zero] at hOpen
  have hFree := h.left (hRoom.imp_right (fun hRow => ⟨hRow, hOpen⟩))
  refine ⟨hDescends, ?_⟩
  simpa only [Int.neg_mul, Int.one_mul, Int.zero_mul, Int.add_zero, Int.sub_eq_add_neg] using hFree

theorem Free.takes_down (hDescends : field.Descends (tileOf p) 0 1)
    (hRoom : 2048 < p.y % 8192 ∨ p.x % 8192 ≤ 2048 ∨ IsOpen ⟨p.x / 8192 + 1, p.y / 8192 + 1⟩) :
    field.Takes p 0 1 := by
  have hOpen := hDescends.1
  simp only [h.corner.1, add_zero] at hOpen
  have hFree := h.down (hRoom.imp_right (fun hColumn => ⟨hOpen, hColumn⟩))
  refine ⟨hDescends, ?_⟩
  simpa only [Int.one_mul, Int.zero_mul, Int.add_zero] using hFree

theorem Free.takes_up (hDescends : field.Descends (tileOf p) 0 (-1))
    (hRoom : 1365 ≤ p.y % 8192 ∨ p.x % 8192 ≤ 2048) : field.Takes p 0 (-1) := by
  have hOpen := hDescends.1
  simp only [h.corner.1, add_zero] at hOpen
  have hFree := h.up (hRoom.imp_right (fun hColumn => ⟨hColumn, hOpen⟩))
  refine ⟨hDescends, ?_⟩
  simpa only [Int.neg_mul, Int.one_mul, Int.zero_mul, Int.add_zero, Int.sub_eq_add_neg] using hFree

theorem Free.takes_down_first {source : Tile} (hGuides : field.Guides source)
    (hDown : field.Descends (tileOf p) 0 1) (hUp : field.Descends (tileOf p) 0 (-1)) : field.Takes p 0 1 := by
  obtain ⟨hTile, hHere, hX, hY⟩ := h.corner
  have hWide := (hGuides.downFirst _ (by rw [hTile]; exact hHere) hDown hUp).2
  rw [hTile] at hWide
  apply h.takes_down hDown
  by_cases hColumn : p.x % 8192 ≤ 2048
  · exact Or.inr (Or.inl hColumn)
  · apply Or.inr
    apply Or.inr
    apply hWide
    -- the box reaches into the column on the right
    apply free_iff_open.mp h
    refine ⟨(meets_iff hX).mpr ?_, (meets_iff hY).mpr ?_⟩
    · simp only
      omega
    · simp only
      omega

/-- The box is never above the middle of its tile by more than the tolerance. -/
theorem Free.pressTowardCenterY_eq :
    pressTowardCenterY Map.arena p = if 2048 < p.y % 8192 then kInputUp else 0 := by
  obtain ⟨hTile, -, hX, hY⟩ := h.corner
  have hMargin : kCenterMarginFp = 1024 := by decide
  have hTol : kAlignTol = 1024 := by decide
  simp only [pressTowardCenterY, hTile, hMargin, hTol, kTileFp, kTileSizePx, kFixedScale]
  rw [if_neg (by omega)]
  by_cases hLow : 2048 < p.y % 8192
  · have hFree : axisFeasible Map.arena p 0 (-1) = true := by
      rw [axisFeasible_eq_true]
      simpa only [Int.neg_mul, Int.one_mul, Int.zero_mul, Int.add_zero, Int.sub_eq_add_neg] using h.up (Or.inl (by omega))
    rw [if_pos hLow, if_pos ⟨by omega, hFree⟩]
  · rw [if_neg hLow, if_neg (fun hPress => hLow (by omega))]

theorem Free.pressTowardCenterX_eq :
    pressTowardCenterX Map.arena p = if 2048 < p.x % 8192 then kInputLeft else 0 := by
  obtain ⟨hTile, -, hX, hY⟩ := h.corner
  have hMargin : kCenterMarginFp = 1024 := by decide
  have hTol : kAlignTol = 1024 := by decide
  simp only [pressTowardCenterX, hTile, hMargin, hTol, kTileFp, kTileSizePx, kFixedScale]
  rw [if_neg (by omega)]
  by_cases hFar : 2048 < p.x % 8192
  · have hFree : axisFeasible Map.arena p (-1) 0 = true := by
      rw [axisFeasible_eq_true]
      simpa only [Int.neg_mul, Int.one_mul, Int.zero_mul, Int.add_zero, Int.sub_eq_add_neg] using h.left (Or.inl (by omega))
    rw [if_pos hFar, if_pos ⟨by omega, hFree⟩]
  · rw [if_neg hFar, if_neg (fun hPress => hFar (by omega))]

end Takes

/-- One axis of a heading, with the corner at `o` in its tile: ahead only where the tile ahead is nearer to the source,
back only where it is not, and then out of the tile only where the tile behind is nearer. -/
def Leads (ahead behind : Prop) (o d : Int) : Prop := d = 0 ∨ (d = 1 ∧ ahead) ∨ (d = -1 ∧ ¬ ahead ∧ (behind ∨ 2048 < o))

def HeadsX (field : FlowField) (p : Vec2Fixed) (dx : Int) : Prop :=
  Leads (field.Descends (tileOf p) 1 0) (field.Descends (tileOf p) (-1) 0) (p.x % 8192) dx ∧
    Free ⟨p.x + dx * 1365, p.y⟩

def HeadsY (field : FlowField) (p : Vec2Fixed) (dy : Int) : Prop :=
  Leads (field.Descends (tileOf p) 0 1) (field.Descends (tileOf p) 0 (-1)) (p.y % 8192) dy ∧
    Free ⟨p.x, p.y + dy * 1365⟩

def sideButton (dx : Int) : U8 := if dx = 1 then kInputRight else if dx = -1 then kInputLeft else 0

def levelButton (dy : Int) : U8 := if dy = 1 then kInputDown else if dy = -1 then kInputUp else 0

section Heading

variable {field : FlowField} {source : Tile} {p : Vec2Fixed} {d : Descent}

theorem Takes.headsX {dx : Int} (hTakes : field.Takes p dx 0)
    (hLeads : Leads (field.Descends (tileOf p) 1 0) (field.Descends (tileOf p) (-1) 0) (p.x % 8192) dx) :
    field.HeadsX p dx := by
  have hFree := hTakes.2
  rw [Int.zero_mul, Int.add_zero] at hFree
  exact ⟨hLeads, hFree⟩

theorem Takes.headsY {dy : Int} (hTakes : field.Takes p 0 dy)
    (hLeads : Leads (field.Descends (tileOf p) 0 1) (field.Descends (tileOf p) 0 (-1)) (p.y % 8192) dy) :
    field.HeadsY p dy := by
  have hFree := hTakes.2
  rw [Int.zero_mul, Int.add_zero] at hFree
  exact ⟨hLeads, hFree⟩

section Free

variable (h : Free p)
include h

theorem Free.headsX_zero : field.HeadsX p 0 := by
  refine ⟨Or.inl rfl, ?_⟩
  rw [Int.zero_mul, Int.add_zero]
  exact h

theorem Free.headsY_zero : field.HeadsY p 0 := by
  refine ⟨Or.inl rfl, ?_⟩
  rw [Int.zero_mul, Int.add_zero]
  exact h

theorem Free.side_taken (hGuides : field.Guides source) (hTaken : field.Takes p 1 0 ∨ field.Takes p (-1) 0)
    (hRight : field.Takes p 1 0 → d.btnX = kInputRight) (hLeft : field.Takes p (-1) 0 → d.btnX = kInputLeft) :
    ∃ dx, dx ≠ 0 ∧ d.btnX = sideButton dx ∧ field.HeadsX p dx := by
  rcases hTaken with hR | hL
  · exact ⟨1, by decide, hRight hR, hR.headsX (Or.inr (Or.inl ⟨rfl, hR.1⟩))⟩
  · refine ⟨-1, by decide, (hLeft hL).trans rfl, hL.headsX (Or.inr (Or.inr ⟨rfl, ?_, Or.inl hL.1⟩))⟩
    intro hR
    exact hGuides.oneSide _ (by rw [h.corner.1]; exact h.corner.2.1) hR hL.1

theorem Free.level_taken (hGuides : field.Guides source) (hTaken : field.Takes p 0 1 ∨ field.Takes p 0 (-1))
    (hDown : field.Takes p 0 1 → d.btnY = kInputDown)
    (hUp : field.Takes p 0 (-1) → ¬ field.Takes p 0 1 → d.btnY = kInputUp) :
    ∃ dy, dy ≠ 0 ∧ d.btnY = levelButton dy ∧ field.HeadsY p dy := by
  by_cases hD : field.Takes p 0 1
  · exact ⟨1, by decide, hDown hD, hD.headsY (Or.inr (Or.inl ⟨rfl, hD.1⟩))⟩
  · have hU := hTaken.resolve_left hD
    refine ⟨-1, by decide, (hUp hU hD).trans rfl, hU.headsY (Or.inr (Or.inr ⟨rfl, ?_, Or.inl hU.1⟩))⟩
    intro hBelow
    exact hD (h.takes_down_first hGuides hBelow hU.1)

theorem Free.recenter_level (hNone : ¬ field.Takes p 0 1) :
    ∃ dy, pressTowardCenterY Map.arena p = levelButton dy ∧ field.HeadsY p dy ∧ (dy ≠ 0 ↔ 2048 < p.y % 8192) := by
  rw [h.pressTowardCenterY_eq]
  by_cases hLow : 2048 < p.y % 8192
  · rw [if_pos hLow]
    refine ⟨-1, rfl, ⟨Or.inr (Or.inr ⟨rfl, fun hBelow => hNone (h.takes_down hBelow (Or.inl hLow)), Or.inr hLow⟩), ?_⟩,
      by omega⟩
    exact h.up (Or.inl (by omega))
  · rw [if_neg hLow]
    exact ⟨0, rfl, h.headsY_zero, by omega⟩

theorem Free.recenter_side (hNone : ¬ field.Takes p 1 0) :
    ∃ dx, pressTowardCenterX Map.arena p = sideButton dx ∧ field.HeadsX p dx ∧ (dx ≠ 0 ↔ 2048 < p.x % 8192) := by
  rw [h.pressTowardCenterX_eq]
  by_cases hFar : 2048 < p.x % 8192
  · rw [if_pos hFar]
    refine ⟨-1, rfl, ⟨Or.inr (Or.inr ⟨rfl, fun hAhead => hNone (h.takes_right hAhead (Or.inl hFar)), Or.inr hFar⟩), ?_⟩,
      by omega⟩
    exact h.left (Or.inl (by omega))
  · rw [if_neg hFar]
    exact ⟨0, rfl, h.headsX_zero, by omega⟩

/-- A box that takes no step down the field reaches over the right or the lower edge of its tile. -/
theorem Free.wedged (hGuides : field.Guides source) (hAway : field.distAt (tileOf p) ≠ 0)
    (hX : ¬ (field.Takes p 1 0 ∨ field.Takes p (-1) 0)) (hY : ¬ (field.Takes p 0 1 ∨ field.Takes p 0 (-1))) :
    2048 < p.y % 8192 ∨ 2048 < p.x % 8192 := by
  by_contra hCentered
  rw [not_or] at hX hY
  have hHere : IsOpen (tileOf p) := by
    rw [h.corner.1]
    exact h.corner.2.1
  rcases hGuides.descends _ hHere hAway with hR | hL | hD | hU
  · exact hX.1 (h.takes_right hR (by omega))
  · exact hX.2 (h.takes_left hL (by omega))
  · exact hY.1 (h.takes_down hD (by omega))
  · exact hY.2 (h.takes_up hU (by omega))

/-- Away from the source some direction is pressed, and each axis that is pressed leads down the field or away from
the edge the box reaches over. -/
theorem Free.steer_heads (hGuides : field.Guides source) (hAway : field.distAt (tileOf p) ≠ 0) :
    ∃ dx dy, field.steer Map.arena p = sideButton dx ||| levelButton dy ∧ (dx ≠ 0 ∨ dy ≠ 0) ∧ field.HeadsX p dx ∧
      field.HeadsY p dy := by
  have hHere : IsOpen (tileOf p) := by
    rw [h.corner.1]
    exact h.corner.2.1
  obtain ⟨dSides, hSides, hHaveX, hRight, hLeft, hHaveY, hBest⟩ :=
    @sides_eq field p (fun hR hL => hGuides.oneSide _ hHere hR.1 hL.1)
  obtain ⟨d, hLevels, hHaveX', hBtnX, hHave, hDown, hUp⟩ := @levels_eq field p dSides hHaveY hBest (by
    intro hD hU
    simpa only [Int.add_zero, Int.sub_eq_add_neg] using (hGuides.downFirst _ hHere hD.1 hU.1).1)
  rw [← hHaveX'] at hHaveX
  rw [← hBtnX] at hRight hLeft
  have hLoop : cardinals.foldl (consider field Map.arena p) {} = d := by
    rw [← hLevels, ← hSides]
    rfl
  simp only [steer, hAway, hGuides.reachable _ hHere, hLoop, false_or, if_false]
  by_cases hX : field.Takes p 1 0 ∨ field.Takes p (-1) 0
  · obtain ⟨dx, hMoves, hBtn, hHeads⟩ := h.side_taken hGuides hX hRight hLeft
    by_cases hY : field.Takes p 0 1 ∨ field.Takes p 0 (-1)
    · obtain ⟨dy, -, hBtnY, hHeadsY⟩ := h.level_taken hGuides hY hDown hUp
      refine ⟨dx, dy, ?_, Or.inl hMoves, hHeads, hHeadsY⟩
      rw [if_pos ⟨hHaveX.mpr hX, hHave.mpr hY⟩, hBtn, hBtnY]
    · obtain ⟨dy, hPress, hHeadsY, -⟩ := h.recenter_level (fun hD => hY (Or.inl hD))
      refine ⟨dx, dy, ?_, Or.inl hMoves, hHeads, hHeadsY⟩
      rw [if_neg (fun hBoth => hY (hHave.mp hBoth.2)), if_pos (hHaveX.mpr hX), hBtn, hPress]
      by_cases hNone : levelButton dy = 0
      · rw [if_neg (not_not.mpr hNone), hNone]
        exact (BitVec.or_zero).symm
      · rw [if_pos hNone]
  · rw [if_neg (fun hBoth => hX (hHaveX.mp hBoth.1)), if_neg (fun hHave' => hX (hHaveX.mp hHave'))]
    obtain ⟨dx, hPressX, hHeads, hFar⟩ := h.recenter_side (fun hR => hX (Or.inl hR))
    by_cases hY : field.Takes p 0 1 ∨ field.Takes p 0 (-1)
    · obtain ⟨dy, hMoves, hBtnY, hHeadsY⟩ := h.level_taken hGuides hY hDown hUp
      refine ⟨dx, dy, ?_, Or.inr hMoves, hHeads, hHeadsY⟩
      rw [if_pos (hHave.mpr hY), hBtnY, hPressX]
      by_cases hNone : sideButton dx = 0
      · rw [if_neg (not_not.mpr hNone), hNone]
        exact (BitVec.zero_or).symm
      · rw [if_pos hNone, BitVec.or_comm]
    · rw [if_neg (fun hHave' => hY (hHave.mp hHave'))]
      by_cases hLow : 2048 < p.y % 8192
      · obtain ⟨dy, hPress, hHeadsY, hOff⟩ := h.recenter_level (fun hD => hY (Or.inl hD))
        have hUpward : pressTowardCenterY Map.arena p = kInputUp := by rw [h.pressTowardCenterY_eq, if_pos hLow]
        refine ⟨0, dy, ?_, Or.inr (hOff.mpr hLow), h.headsX_zero, hHeadsY⟩
        rw [if_pos (by rw [hUpward]; decide), hPress]
        exact (BitVec.zero_or).symm
      · have hOver := (h.wedged hGuides hAway hX hY).resolve_left hLow
        have hLeftward : pressTowardCenterX Map.arena p = kInputLeft := by rw [h.pressTowardCenterX_eq, if_pos hOver]
        have hLevel : pressTowardCenterY Map.arena p = 0 := by rw [h.pressTowardCenterY_eq, if_neg hLow]
        refine ⟨dx, 0, ?_, Or.inl (hFar.mpr hOver), hHeads, h.headsY_zero⟩
        rw [if_neg (by rw [hLevel]; decide), if_pos (by rw [hLeftward]; decide), hPressX]
        exact (BitVec.or_zero).symm

end Free

end Heading

end FlowField
end CaptureTheFlag
