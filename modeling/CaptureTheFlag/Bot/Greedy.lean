import Mathlib.Algebra.Order.Ring.Abs
import Mathlib.Tactic.Linarith
import CaptureTheFlag.Bot.Arrival
import CaptureTheFlag.Bot.BotAI

/-! # The last two tiles

Around a base the arena is open, so nothing hinders a greedy step. The rounding of the squared distances is far below
what one candidate is better than the next.
-/
namespace CaptureTheFlag
set_option autoImplicit false

/-- The sum of two squares is off by less than one part in 2^21, however it is rounded on the way. -/
def Numerics.Rounds {R : Type} (N : Numerics R) : Prop :=
  ∀ dx dy : Int, |(N.squares dx dy : Int) - (dx * dx + dy * dy)| * 2 ^ 21 ≤ dx * dx + dy * dy

namespace BotAI

open FlowField (Free IsOpen cardinals tileOf)

variable {R : Type} {N : Numerics R}

section Rounding

variable (hRounds : N.Rounds) {a b c d : Int} (hFar : c * c + d * d ≤ 1400000000)
include hRounds hFar

/-- Sums of squares that are 2730 apart compare as they should. -/
theorem closer (hGap : a * a + b * b + 2730 ≤ c * c + d * d) : N.squares a b < N.squares c d := by
  have hNear := hRounds a b
  have hOther := hRounds c d
  have hAbove := le_abs_self ((N.squares a b : Int) - (a * a + b * b))
  have hBelow := neg_abs_le ((N.squares c d : Int) - (c * c + d * d))
  generalize a * a + b * b = u at *
  generalize c * c + d * d = v at *
  omega

theorem below_start : N.squares c d < ({} : Candidate).dist := by
  have hSum := hRounds c d
  have hAbove := le_abs_self ((N.squares c d : Int) - (c * c + d * d))
  have hStart : ({} : Candidate).dist = 65536000000000 := rfl
  generalize c * c + d * d = v at *
  omega

end Rounding

section Loop

variable (N) (pos target : Vec2Fixed)

def stepped (c : FlowField.Cardinal) : Vec2Fixed := ⟨pos.x + c.dx * 1365, pos.y + c.dy * 1365⟩

def rated (c : FlowField.Cardinal) : Nat := N.squares (target.x - (stepped pos c).x) (target.y - (stepped pos c).y)

variable {N pos target}

theorem probe_free {best : Candidate} {c : FlowField.Cardinal} (h : Free (stepped pos c)) :
    probe N Map.arena pos target best c =
      if rated N pos target c < best.dist then { btn := c.bit, dist := rated N pos target c, ok := true } else best := by
  have hFree :
      Map.arena.aabbCollides ⟨pos.x + c.dx * kMoveSpeedFpPerTick, pos.y + c.dy * kMoveSpeedFpPerTick⟩ = false :=
    h
  simp only [probe, hFree, Bool.false_eq_true, if_false]
  rfl

theorem probe_cases (best : Candidate) (c : FlowField.Cardinal) :
    probe N Map.arena pos target best c = best ∨
      (Free (stepped pos c) ∧ (probe N Map.arena pos target best c).dist = rated N pos target c) := by
  cases hWall : Map.arena.aabbCollides (stepped pos c) with
  | true =>
    apply Or.inl
    have hBlocked :
        Map.arena.aabbCollides ⟨pos.x + c.dx * kMoveSpeedFpPerTick, pos.y + c.dy * kMoveSpeedFpPerTick⟩ = true := hWall
    simp only [probe, hBlocked, if_true]
  | false =>
    rw [probe_free hWall]
    split
    · exact Or.inr ⟨hWall, rfl⟩
    · exact Or.inl rfl

/-- What is nearer than every free candidate is nearer than the best of them. -/
theorem lt_foldl_probe {k : Nat} (cs : List FlowField.Cardinal) (best : Candidate) (hBest : k < best.dist)
    (hAll : ∀ c ∈ cs, Free (stepped pos c) → k < rated N pos target c) :
    k < (cs.foldl (probe N Map.arena pos target) best).dist := by
  induction cs generalizing best with
  | nil => exact hBest
  | cons c cs ih =>
    apply ih
    · rcases probe_cases best c with hSame | ⟨hFree, hDist⟩
      · rw [hSame]
        exact hBest
      · rw [hDist]
        exact hAll c (List.mem_cons_self ..) hFree
    · exact fun c' hc' => hAll c' (List.mem_cons_of_mem _ hc')

theorem foldl_probe_keeps (cs : List FlowField.Cardinal) (best : Candidate)
    (hAll : ∀ c ∈ cs, Free (stepped pos c) → best.dist ≤ rated N pos target c) :
    cs.foldl (probe N Map.arena pos target) best = best := by
  induction cs with
  | nil => rfl
  | cons c cs ih =>
    have hSame : probe N Map.arena pos target best c = best := by
      rcases probe_cases best c with hSame | ⟨hFree, -⟩
      · exact hSame
      · rw [probe_free hFree, if_neg (Nat.not_lt.mpr (hAll c (List.mem_cons_self ..) hFree))]
    rw [List.foldl_cons, hSame]
    exact ih (fun c' hc' => hAll c' (List.mem_cons_of_mem _ hc'))

/-- A free candidate that is nearer than every other free one is the best. -/
theorem foldl_probe_best {c : FlowField.Cardinal} (hFree : Free (stepped pos c)) (cs : List FlowField.Cardinal)
    (best : Candidate)
    (hMem : c ∈ cs) (hBest : rated N pos target c < best.dist)
    (hAll : ∀ c' ∈ cs, c' ≠ c → Free (stepped pos c') → rated N pos target c < rated N pos target c') :
    cs.foldl (probe N Map.arena pos target) best =
      { btn := c.bit, dist := rated N pos target c, ok := true } := by
  induction cs generalizing best with
  | nil => cases hMem
  | cons c' cs ih =>
    have hRest : ∀ c'' ∈ cs, c'' ≠ c → Free (stepped pos c'') → rated N pos target c < rated N pos target c'' :=
      fun c'' hc'' => hAll c'' (List.mem_cons_of_mem _ hc'')
    rw [List.foldl_cons]
    by_cases hSame : c' = c
    · subst hSame
      rw [probe_free hFree, if_pos hBest]
      apply foldl_probe_keeps
      intro c'' hc'' hFree''
      by_cases hAgain : c'' = c'
      · exact hAgain ▸ le_rfl
      · exact (hRest c'' hc'' hAgain hFree'').le
    · apply ih _ ((List.mem_cons.mp hMem).resolve_left (fun hEq => hSame hEq.symm)) _ hRest
      rcases probe_cases best c' with hStill | ⟨hFree', hDist⟩
      · rw [hStill]
        exact hBest
      · rw [hDist]
        exact hAll c' (List.mem_cons_self ..) hSame hFree'

end Loop

section Buttons

variable (target pos : Vec2Fixed)

/-- Within 4 px on both axes `greedy_buttons` stops. -/
def Arrived : Prop := |target.x - pos.x| ≤ 1024 ∧ |target.y - pos.y| ≤ 1024

/-- So near that no rounded sum comes into question. -/
def InReach : Prop := |target.x - pos.x| ≤ 25000 ∧ |target.y - pos.y| ≤ 25000

/-- The way a step leads in the direction of the target. -/
def progress (c : FlowField.Cardinal) : Int := c.dx * (target.x - pos.x) + c.dy * (target.y - pos.y)

variable {target pos}

theorem greedyButtons_arrived (h : Arrived target pos) : greedyButtons N Map.arena pos target = 0 := if_pos h

theorem greedyButtons_off (h : ¬ Arrived target pos) :
    greedyButtons N Map.arena pos target =
      let best := cardinals.foldl (probe N Map.arena pos target) {}
      let last :=
        if 1024 < |target.x - pos.x| ∧ 1024 < |target.y - pos.y| then
          probe N Map.arena pos target best (diagonal (target.x - pos.x) (target.y - pos.y))
        else best
      if last.ok then last.btn else 0 := if_neg h

theorem far_sum (h : InReach target pos) {c : FlowField.Cardinal} (hX : |c.dx| ≤ 1) (hY : |c.dy| ≤ 1) :
    (target.x - (stepped pos c).x) * (target.x - (stepped pos c).x) +
      (target.y - (stepped pos c).y) * (target.y - (stepped pos c).y) ≤ 1400000000 := by
  obtain ⟨hSide, hLevel⟩ := h
  have hSquare : ∀ u : Int, |u| ≤ 26365 → u * u ≤ 695113225 := fun u hu =>
    abs_le_iff_mul_self_le.mp (hu.trans (le_abs_self 26365))
  have hA := hSquare (target.x - (stepped pos c).x) (by rw [abs_le, stepped] at *; simp only; omega)
  have hB := hSquare (target.y - (stepped pos c).y) (by rw [abs_le, stepped] at *; simp only; omega)
  omega

/-- A step that leads so much further that it outweighs the longer diagonal is rated nearer. -/
theorem rated_lt (hRounds : N.Rounds) (h : InReach target pos) {c c' : FlowField.Cardinal}
    (hX : |c'.dx| ≤ 1) (hY : |c'.dy| ≤ 1)
    (hMore : 2730 * progress target pos c' + 1863225 * (c.dx * c.dx + c.dy * c.dy) + 2730 ≤
      2730 * progress target pos c + 1863225 * (c'.dx * c'.dx + c'.dy * c'.dy)) :
    rated N pos target c < rated N pos target c' := by
  apply closer hRounds (far_sum h hX hY)
  simp only [progress, stepped] at *
  linarith

theorem unit_of_mem {c : FlowField.Cardinal} (h : c ∈ cardinals) :
    |c.dx| ≤ 1 ∧ |c.dy| ≤ 1 ∧ c.dx * c.dx + c.dy * c.dy = 1 := by
  simp only [cardinals, List.mem_cons, List.not_mem_nil, or_false] at h
  rcases h with rfl | rfl | rfl | rfl <;> decide

/-- The straight step that leads furthest is pressed when one axis is done. -/
theorem greedyButtons_straight (hRounds : N.Rounds) (h : InReach target pos)
    (hOne : ¬ (1024 < |target.x - pos.x| ∧ 1024 < |target.y - pos.y|)) (hOff : ¬ Arrived target pos)
    {c : FlowField.Cardinal}
    (hMem : c ∈ cardinals) (hFree : Free (stepped pos c))
    (hMost : ∀ c' ∈ cardinals, c' ≠ c → progress target pos c' < progress target pos c) :
    greedyButtons N Map.arena pos target = c.bit := by
  obtain ⟨hX, hY, hUnit⟩ := unit_of_mem hMem
  have hBest : cardinals.foldl (probe N Map.arena pos target) {} =
      { btn := c.bit, dist := rated N pos target c, ok := true } := by
    apply foldl_probe_best hFree _ _ hMem (below_start hRounds (far_sum h hX hY))
    intro c' hc' hNe _
    obtain ⟨hX', hY', hUnit'⟩ := unit_of_mem hc'
    apply rated_lt hRounds h hX' hY'
    have hLess := hMost c' hc' hNe
    rw [hUnit, hUnit']
    omega
  rw [greedyButtons_off hOff]
  simp only [if_neg hOne, hBest, if_true]

/-- The diagonal is pressed when both axes are off. -/
theorem greedyButtons_diagonal (hRounds : N.Rounds) (h : InReach target pos) (hX : 1024 < |target.x - pos.x|)
    (hY : 1024 < |target.y - pos.y|)
    (hFree : Free (stepped pos (diagonal (target.x - pos.x) (target.y - pos.y)))) :
    greedyButtons N Map.arena pos target = (diagonal (target.x - pos.x) (target.y - pos.y)).bit := by
  generalize hDiagonal : diagonal (target.x - pos.x) (target.y - pos.y) = d at *
  have hUnit : |d.dx| ≤ 1 ∧ |d.dy| ≤ 1 ∧ d.dx * d.dx + d.dy * d.dy = 2 := by
    rw [← hDiagonal, diagonal]
    split <;> split <;> decide
  have hNearest : rated N pos target d < (cardinals.foldl (probe N Map.arena pos target) {}).dist := by
    apply lt_foldl_probe _ _ (below_start hRounds (far_sum h hUnit.1 hUnit.2.1))
    intro c hc _
    obtain ⟨hX', hY', hUnit'⟩ := unit_of_mem hc
    apply rated_lt hRounds h hX' hY'
    have hLess : progress target pos c + 684 ≤ progress target pos d := by
      rw [lt_abs] at hX hY
      rw [← hDiagonal]
      simp only [cardinals, List.mem_cons, List.not_mem_nil, or_false] at hc
      simp only [progress, diagonal]
      rcases hc with rfl | rfl | rfl | rfl <;> split <;> split <;> simp only <;> omega
    rw [hUnit.2.2, hUnit']
    omega
  rw [greedyButtons_off (fun hArrived => not_lt.mpr hArrived.1 hX)]
  simp only [if_pos (And.intro hX hY), hDiagonal, probe_free hFree, if_pos hNearest, if_true]

end Buttons

end BotAI
end CaptureTheFlag
