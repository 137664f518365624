import CaptureTheFlag.Bot.FieldSearch

/-! # Distances are lengths of shortest paths

Over any grid and from any source position.
-/
namespace CaptureTheFlag
set_option autoImplicit false
open BreadthFirst

namespace FlowField

/-- A path of so many steps between tiles that are no walls, each step to one of the four neighbours. -/
inductive Path (map : Map) : Nat → Tile → Tile → Prop where
  | nil {t : Tile} (hOpen : map.isWall t.x t.y = false) : Path map 0 t t
  | cons {n : Nat} {a b c : Tile} (hOpen : map.isWall a.x a.y = false) (hNear : b ∈ neighbors a)
      (hRest : Path map n b c) : Path map (n + 1) a c

theorem neighbors_symm {a b : Tile} (h : a ∈ neighbors b) : b ∈ neighbors a := by
  cases a
  cases b
  simp only [neighbors, List.mem_cons, Tile.mk.injEq, List.not_mem_nil, or_false] at h ⊢
  omega

section Grid

variable {map : Map} {n : Nat} {t source : Tile}

theorem Path.walk (h : Path map n t source) : Walk (openNeighbors (tilePassable map)) source n t := by
  induction h with
  | nil => exact .nil
  | cons hOpen hNear _ ih => exact .snoc ih (mem_openNeighbors.mpr ⟨neighbors_symm hNear, hOpen⟩)

theorem Path.of_walk (hOpen : map.isWall source.x source.y = false)
    (h : Walk (openNeighbors (tilePassable map)) source n t) : Path map n t source := by
  induction h with
  | nil => exact .nil hOpen
  | snoc _ hStep ih =>
    obtain ⟨hNear, hNext⟩ := mem_openNeighbors.mp hStep
    exact .cons hNext (neighbors_symm hNear) ih

end Grid

theorem known_eq_none {field : FlowField} {t : Tile} : field.known t = none ↔ field.distAt t = kUnreachable := by
  rw [known]
  split
  · simp only [*]
  · simp only [*, reduceCtorEq]

theorem known_of_ne {field : FlowField} {t : Tile} (h : field.distAt t ≠ kUnreachable) :
    field.known t = some (field.distAt t).toNat := by
  rw [known, if_neg h]

section Build

variable {map : Map} {source : Vec2Fixed} (hOpen : map.isWall (tileOf source).x (tileOf source).y = false)
include hOpen

theorem passable_source : tilePassable map (tileOf source) = true := by
  rw [tilePassable_eq, hOpen]
  rfl

theorem known_build_eq_some {t : Tile} {k : Nat} :
    (build map source).known t = some k ↔ Path map k t (tileOf source) ∧ ∀ n, Path map n t (tileOf source) → k ≤ n := by
  rw [(isField_build (passable_source hOpen)).dist_eq_some]
  constructor
  · rintro ⟨hWalk, hLeast⟩
    exact ⟨.of_walk hOpen hWalk, fun n hPath => hLeast n hPath.walk⟩
  · rintro ⟨hPath, hLeast⟩
    exact ⟨hPath.walk, fun n hWalk => hLeast n (.of_walk hOpen hWalk)⟩

theorem known_build_eq_none {t : Tile} :
    (build map source).known t = none ↔ ∀ n, ¬ Path map n t (tileOf source) := by
  rw [(isField_build (passable_source hOpen)).dist_eq_none]
  constructor
  · intro hNone n hPath
    exact hNone n hPath.walk
  · intro hNone n hWalk
    exact hNone n (.of_walk hOpen hWalk)

/-- The first step of a shortest path leads to a tile that is exactly one nearer. -/
theorem known_build_step {t : Tile} {k : Nat} (hk : (build map source).known t = some k) (hAway : t ≠ tileOf source) :
    ∃ n ∈ neighbors t, map.isWall n.x n.y = false ∧ ∃ j, (build map source).known n = some j ∧ j + 1 = k := by
  obtain ⟨hPath, hLeast⟩ := (known_build_eq_some hOpen).mp hk
  cases hPath with
  | nil => exact absurd rfl hAway
  | @cons j _ next _ hHere hNear hRest =>
    have hNext : map.isWall next.x next.y = false := by
      cases hRest with
      | nil hOpen => exact hOpen
      | cons hOpen _ _ => exact hOpen
    refine ⟨next, hNear, hNext, j, ?_, rfl⟩
    rw [known_build_eq_some hOpen]
    refine ⟨hRest, ?_⟩
    intro m hOther
    have hLonger := hLeast (m + 1) (.cons hHere hNear hOther)
    omega

end Build

/-- On every grid and from every source, the field holds the length of a shortest path over tiles that are no walls,
and the mark where there is none. -/
theorem build_shortest (map : Map) (source : Vec2Fixed) (t : Tile) :
    ((build map source).distAt t = kUnreachable ↔
      map.isWall (tileOf source).x (tileOf source).y = true ∨ ∀ n, ¬ Path map n t (tileOf source)) ∧
    ((build map source).distAt t ≠ kUnreachable →
      Path map ((build map source).distAt t).toNat t (tileOf source) ∧
      (∀ n, Path map n t (tileOf source) → ((build map source).distAt t).toNat ≤ n) ∧
      ((build map source).distAt t).toNat ≤ kTiles ∧
      (t ≠ tileOf source → ∃ n ∈ neighbors t, map.isWall n.x n.y = false ∧
        (build map source).distAt n ≠ kUnreachable ∧
        ((build map source).distAt n).toNat + 1 = ((build map source).distAt t).toNat)) := by
  cases hWall : map.isWall (tileOf source).x (tileOf source).y with
  | true =>
    have hShut : tilePassable map (tileOf source) = false := by
      rw [tilePassable_eq, hWall]
      rfl
    have hMark : (build map source).distAt t = kUnreachable := by
      rw [build, hShut]
      exact distAt_unreachable t
    exact ⟨⟨fun _ => Or.inl rfl, fun _ => hMark⟩, fun hNe => absurd hMark hNe⟩
  | false =>
    constructor
    · rw [← known_eq_none, known_build_eq_none hWall]
      simp only [Bool.false_eq_true, false_or]
    · intro hNe
      have hKnown := known_of_ne hNe
      obtain ⟨hPath, hLeast⟩ := (known_build_eq_some hWall).mp hKnown
      refine ⟨hPath, hLeast, distAt_build_le (passable_source hWall) hKnown, ?_⟩
      intro hAway
      obtain ⟨n, hNear, hOpen, j, hj, hStep⟩ := known_build_step hWall hKnown hAway
      have hReached : (build map source).distAt n ≠ kUnreachable := by
        rw [ne_eq, ← known_eq_none, hj]
        exact Option.some_ne_none j
      rw [known_of_ne hReached, Option.some.injEq] at hj
      exact ⟨n, hNear, hOpen, hReached, by rw [hj, hStep]⟩

end FlowField
end CaptureTheFlag
