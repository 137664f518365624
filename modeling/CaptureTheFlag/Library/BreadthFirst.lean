import Mathlib.Data.Finset.Card
import Mathlib.Logic.Function.Iterate
import Mathlib.Tactic.Common

/-! # Breadth-first search

The queue loop over a graph given by its adjacency lists. The distances it leaves are the lengths of shortest walks
from the source, and with a finite set of nodes it ends.
-/
namespace CaptureTheFlag.BreadthFirst
set_option autoImplicit false

variable {α : Type}

inductive Walk (adj : α → List α) (a : α) : Nat → α → Prop where
  | nil : Walk adj a 0 a
  | snoc {n : Nat} {b c : α} (h : Walk adj a n b) (hStep : c ∈ adj b) : Walk adj a (n + 1) c

/-- `dist` gives the length of a walk for every node it knows, and no step leads from a known node to one that is not
known or more than one further away. -/
structure IsField (adj : α → List α) (source : α) (dist : α → Option Nat) : Prop where
  zero : dist source = some 0
  walk : ∀ b k, dist b = some k → Walk adj source k b
  step : ∀ b k, dist b = some k → ∀ c ∈ adj b, ∃ k' ≤ k + 1, dist c = some k'

namespace IsField

variable {adj : α → List α} {source : α} {dist : α → Option Nat}

theorem le_of_walk (h : IsField adj source dist) {n : Nat} {b : α} (hWalk : Walk adj source n b) :
    ∃ k ≤ n, dist b = some k := by
  induction hWalk with
  | nil => exact ⟨0, le_rfl, h.zero⟩
  | snoc hWalk hStep ih =>
    obtain ⟨k, hk, hDist⟩ := ih
    obtain ⟨k', hk', hDist'⟩ := h.step _ k hDist _ hStep
    exact ⟨k', by omega, hDist'⟩

theorem dist_eq_some (h : IsField adj source dist) {b : α} {k : Nat} :
    dist b = some k ↔ Walk adj source k b ∧ ∀ n, Walk adj source n b → k ≤ n := by
  constructor
  · intro hDist
    refine ⟨h.walk b k hDist, ?_⟩
    intro n hWalk
    obtain ⟨k', hk', hDist'⟩ := h.le_of_walk hWalk
    obtain rfl : k = k' := Option.some.inj (hDist.symm.trans hDist')
    exact hk'
  · rintro ⟨hWalk, hLeast⟩
    obtain ⟨k', hk', hDist⟩ := h.le_of_walk hWalk
    obtain rfl : k = k' := le_antisymm (hLeast k' (h.walk b k' hDist)) hk'
    exact hDist

theorem dist_eq_none (h : IsField adj source dist) {b : α} : dist b = none ↔ ∀ n, ¬ Walk adj source n b := by
  constructor
  · intro hNone n hWalk
    obtain ⟨k, -, hDist⟩ := h.le_of_walk hWalk
    cases hNone.symm.trans hDist
  · intro hNot
    cases hDist : dist b with
    | none => rfl
    | some k => exact absurd (h.walk b k hDist) (hNot k)

theorem unique (h : IsField adj source dist) {dist' : α → Option Nat} (h' : IsField adj source dist') :
    dist = dist' := by
  funext b
  cases hDist : dist b with
  | none => exact (h'.dist_eq_none.mpr (h.dist_eq_none.mp hDist)).symm
  | some k => exact (h'.dist_eq_some.mpr (h.dist_eq_some.mp hDist)).symm

end IsField

structure State (α : Type) where
  dist : α → Option Nat
  queue : List α

variable [DecidableEq α]

def visit (n : Nat) (s : State α) (b : α) : State α :=
  if s.dist b = none then { dist := Function.update s.dist b (some n), queue := s.queue ++ [b] } else s

def turn (adj : α → List α) (s : State α) : State α :=
  match s.queue with
  | [] => s
  | a :: queue => (adj a).foldl (visit ((s.dist a).getD 0 + 1)) { s with queue }

def start (source : α) : State α := { dist := Function.update (fun _ => none) source (some 0), queue := [source] }

/-- What the visits of one turn have done so far: `fresh` are the nodes they found. -/
structure Visited (n : Nat) (s : State α) (bs : List α) (s' : State α) (fresh : List α) : Prop where
  queue : s'.queue = s.queue ++ fresh
  new : ∀ b ∈ fresh, s.dist b = none ∧ s'.dist b = some n ∧ b ∈ bs
  old : ∀ b, b ∉ fresh → s'.dist b = s.dist b
  found : ∀ b ∈ bs, s'.dist b ≠ none

omit [DecidableEq α] in
theorem visited_nil (n : Nat) (s : State α) : Visited n s [] s [] :=
  ⟨(List.append_nil _).symm, nofun, fun _ _ => rfl, nofun⟩

omit [DecidableEq α] in
theorem Visited.keeps {n k : Nat} {s s' : State α} {bs fresh : List α} (h : Visited n s bs s' fresh) {b : α}
    (hDist : s.dist b = some k) : s'.dist b = some k := by
  rw [h.old b (fun hb => nomatch hDist.symm.trans (h.new b hb).1)]
  exact hDist

omit [DecidableEq α] in
theorem Visited.known {n k : Nat} {s s' : State α} {bs fresh : List α} (h : Visited n s bs s' fresh) {b : α}
    (hDist : s'.dist b = some k) : s.dist b = some k ∨ (b ∈ fresh ∧ k = n) := by
  by_cases hb : b ∈ fresh
  · exact Or.inr ⟨hb, Option.some.inj (hDist.symm.trans (h.new b hb).2.1)⟩
  · exact Or.inl ((h.old b hb).symm.trans hDist)

theorem Visited.snoc {n : Nat} {s s' : State α} {bs fresh : List α} (h : Visited n s bs s' fresh) (b : α) :
    ∃ fresh', Visited n s (bs ++ [b]) (visit n s' b) fresh' := by
  by_cases hNew : s'.dist b = none
  · have hNot : b ∉ fresh := by
      intro hb
      cases hNew.symm.trans (h.new b hb).2.1
    have hVisit : visit n s' b = { dist := Function.update s'.dist b (some n), queue := s'.queue ++ [b] } :=
      if_pos hNew
    refine ⟨fresh ++ [b], ?_, ?_, ?_, ?_⟩
    · rw [hVisit, h.queue, List.append_assoc]
    · intro c hc
      rw [hVisit, List.mem_append]
      by_cases hEq : c = b
      · subst hEq
        refine ⟨(h.old c hNot).symm.trans hNew, Function.update_self .., Or.inr (List.mem_singleton_self c)⟩
      · have hOld : c ∈ fresh := (List.mem_append.mp hc).resolve_right (fun hIn => hEq (List.mem_singleton.mp hIn))
        obtain ⟨hNone, hSome, hIn⟩ := h.new c hOld
        exact ⟨hNone, (Function.update_of_ne hEq _ _).trans hSome, Or.inl hIn⟩
    · intro c hc
      rw [List.mem_append, not_or, List.mem_singleton] at hc
      rw [hVisit]
      exact (Function.update_of_ne hc.2 _ _).trans (h.old c hc.1)
    · intro c hc
      rw [hVisit]
      by_cases hEq : c = b
      · subst hEq
        simp only [Function.update_self]
        exact nofun
      · simp only [Function.update_of_ne hEq]
        exact h.found c ((List.mem_append.mp hc).resolve_right (fun hIn => hEq (List.mem_singleton.mp hIn)))
  · have hVisit : visit n s' b = s' := if_neg hNew
    rw [hVisit]
    refine ⟨fresh, h.queue, ?_, h.old, ?_⟩
    · intro c hc
      obtain ⟨hNone, hSome, hIn⟩ := h.new c hc
      exact ⟨hNone, hSome, List.mem_append_left _ hIn⟩
    · intro c hc
      rcases List.mem_append.mp hc with hOld | hLast
      · exact h.found c hOld
      · rw [List.mem_singleton.mp hLast]
        exact hNew

theorem visited_foldl (n : Nat) (s : State α) (bs : List α) :
    ∃ fresh, Visited n s bs (bs.foldl (visit n) s) fresh := by
  induction bs using List.reverseRecOn with
  | nil => exact ⟨[], visited_nil n s⟩
  | append_singleton bs b ih =>
    obtain ⟨fresh, h⟩ := ih
    rw [List.foldl_append]
    exact h.snoc b

theorem turn_cons (adj : α → List α) {s : State α} {a : α} {queue : List α} (hQueue : s.queue = a :: queue) :
    ∃ fresh, Visited ((s.dist a).getD 0 + 1) { s with queue } (adj a) (turn adj s) fresh := by
  have hTurn : turn adj s = (adj a).foldl (visit ((s.dist a).getD 0 + 1)) { s with queue } := by
    unfold turn
    rw [hQueue]
  rw [hTurn]
  exact visited_foldl _ _ _

theorem turn_nil (adj : α → List α) {s : State α} (hQueue : s.queue = []) : turn adj s = s := by
  unfold turn
  rw [hQueue]

structure Inv (adj : α → List α) (source : α) (s : State α) : Prop where
  zero : s.dist source = some 0
  walk : ∀ b k, s.dist b = some k → Walk adj source k b
  queued : ∀ b ∈ s.queue, s.dist b ≠ none
  expanded : ∀ b k, s.dist b = some k → b ∉ s.queue → ∀ c ∈ adj b, ∃ k' ≤ k + 1, s.dist c = some k'
  sorted : s.queue.Pairwise fun b c => ∀ j k, s.dist b = some j → s.dist c = some k → j ≤ k
  /-- Nothing is more than one further away than the node whose turn it is. -/
  near : ∀ a ∈ s.queue.head?, ∀ j b k, s.dist a = some j → s.dist b = some k → k ≤ j + 1

theorem inv_start (adj : α → List α) (source : α) : Inv adj source (start source) := by
  have hKnown : ∀ b k, (start source).dist b = some k → b = source ∧ k = 0 := by
    intro b k hDist
    by_cases hEq : b = source
    · subst hEq
      simp only [start, Function.update_self, Option.some.injEq] at hDist
      exact ⟨rfl, hDist.symm⟩
    · simp only [start, Function.update_of_ne hEq] at hDist
      cases hDist
  have hZero : (start source).dist source = some 0 := by simp only [start, Function.update_self]
  refine ⟨hZero, ?_, ?_, ?_, List.pairwise_singleton _ _, ?_⟩
  · intro b k hDist
    obtain ⟨rfl, rfl⟩ := hKnown b k hDist
    exact .nil
  · intro b hb
    rw [List.mem_singleton.mp hb, hZero]
    exact nofun
  · intro b k hDist hNot
    exact absurd (List.mem_singleton.mpr (hKnown b k hDist).1) hNot
  · intro a _ j b k _ hDist
    rw [(hKnown b k hDist).2]
    exact Nat.zero_le _

section Turn

variable {adj : α → List α} {source a : α} {j : Nat} {queue fresh : List α} {s s' : State α}

omit [DecidableEq α]

theorem Inv.turn_far (h : Inv adj source s) (hQueue : s.queue = a :: queue) (hj : s.dist a = some j)
    (hTurn : Visited (j + 1) { s with queue } (adj a) s' fresh) {b : α} {k : Nat} (hDist : s'.dist b = some k) :
    k ≤ j + 1 := by
  rcases hTurn.known hDist with hOld | ⟨-, rfl⟩
  · exact h.near a (by rw [hQueue]; rfl) j b k hj hOld
  · exact le_rfl

theorem Inv.turn_expanded (h : Inv adj source s) (hQueue : s.queue = a :: queue) (hj : s.dist a = some j)
    (hTurn : Visited (j + 1) { s with queue } (adj a) s' fresh) {b : α} {k : Nat} (hDist : s'.dist b = some k)
    (hNot : b ∉ s'.queue) : ∀ c ∈ adj b, ∃ k' ≤ k + 1, s'.dist c = some k' := by
  intro c hc
  rw [hTurn.queue, List.mem_append, not_or] at hNot
  have hOld : s.dist b = some k := (hTurn.known hDist).resolve_right (fun hNew => hNot.2 hNew.1)
  by_cases hEq : b = a
  · subst hEq
    obtain rfl : j = k := Option.some.inj (hj.symm.trans hOld)
    obtain ⟨k', hk'⟩ := Option.ne_none_iff_exists'.mp (hTurn.found c hc)
    exact ⟨k', h.turn_far hQueue hj hTurn hk', hk'⟩
  · have hDone : b ∉ s.queue := by
      rw [hQueue, List.mem_cons, not_or]
      exact ⟨hEq, hNot.1⟩
    obtain ⟨k', hk', hDist'⟩ := h.expanded b k hOld hDone c hc
    exact ⟨k', hk', hTurn.keeps hDist'⟩

/-- What waits behind the node has its distance already. -/
theorem Inv.turn_waiting (h : Inv adj source s) (hQueue : s.queue = a :: queue)
    (hTurn : Visited (j + 1) { s with queue } (adj a) s' fresh) {b : α} (hb : b ∈ queue) : s'.dist b = s.dist b := by
  obtain ⟨k, hk⟩ := Option.ne_none_iff_exists'.mp (h.queued b (by rw [hQueue]; exact List.mem_cons_of_mem _ hb))
  rw [hTurn.keeps hk, hk]

theorem Inv.turn_sorted (h : Inv adj source s) (hQueue : s.queue = a :: queue) (hj : s.dist a = some j)
    (hTurn : Visited (j + 1) { s with queue } (adj a) s' fresh) :
    s'.queue.Pairwise fun b c => ∀ m k, s'.dist b = some m → s'.dist c = some k → m ≤ k := by
  have hSorted := h.sorted
  rw [hQueue, List.pairwise_cons] at hSorted
  rw [hTurn.queue, List.pairwise_append]
  refine ⟨?_, ?_, ?_⟩
  · refine hSorted.2.imp_of_mem ?_
    intro b c hb hc hLe m k hm hk
    rw [h.turn_waiting hQueue hTurn hb] at hm
    rw [h.turn_waiting hQueue hTurn hc] at hk
    exact hLe m k hm hk
  · refine List.pairwise_of_forall_mem_list ?_
    intro b hb c hc m k hm hk
    have hm' := Option.some.inj (hm.symm.trans (hTurn.new b hb).2.1)
    have hk' := Option.some.inj (hk.symm.trans (hTurn.new c hc).2.1)
    omega
  · intro b hb c hc m k hm hk
    have hk' := Option.some.inj (hk.symm.trans (hTurn.new c hc).2.1)
    have hm' := h.turn_far hQueue hj hTurn hm
    omega

theorem Inv.turn_near (h : Inv adj source s) (hQueue : s.queue = a :: queue) (hj : s.dist a = some j)
    (hTurn : Visited (j + 1) { s with queue } (adj a) s' fresh) {b c : α} {m k : Nat} (hb : b ∈ s'.queue)
    (hm : s'.dist b = some m) (hk : s'.dist c = some k) : k ≤ m + 1 := by
  have hSorted := h.sorted
  rw [hQueue, List.pairwise_cons] at hSorted
  have hAfter : j ≤ m := by
    rw [hTurn.queue, List.mem_append] at hb
    rcases hb with hOld | hNew
    · rw [h.turn_waiting hQueue hTurn hOld] at hm
      exact hSorted.1 b hOld j m hj hm
    · have hm' := Option.some.inj (hm.symm.trans (hTurn.new b hNew).2.1)
      omega
  have hk' := h.turn_far hQueue hj hTurn hk
  omega

end Turn

theorem Inv.turn {adj : α → List α} {source : α} {s : State α} (h : Inv adj source s) :
    Inv adj source (turn adj s) := by
  cases hQueue : s.queue with
  | nil =>
    rw [turn_nil adj hQueue]
    exact h
  | cons a queue =>
    obtain ⟨fresh, hTurn⟩ := turn_cons adj hQueue
    obtain ⟨j, hj⟩ : ∃ j, s.dist a = some j :=
      Option.ne_none_iff_exists'.mp (h.queued a (by rw [hQueue]; exact List.mem_cons_self))
    rw [hj, Option.getD_some] at hTurn
    generalize BreadthFirst.turn adj s = s' at hTurn ⊢
    refine ⟨hTurn.keeps h.zero, ?_, ?_, ?_, h.turn_sorted hQueue hj hTurn, ?_⟩
    · intro b k hDist
      rcases hTurn.known hDist with hOld | ⟨hb, rfl⟩
      · exact h.walk b k hOld
      · exact (h.walk a j hj).snoc (hTurn.new b hb).2.2
    · intro b hb
      rw [hTurn.queue, List.mem_append] at hb
      rcases hb with hOld | hNew
      · rw [h.turn_waiting hQueue hTurn hOld]
        exact h.queued b (by rw [hQueue]; exact List.mem_cons_of_mem _ hOld)
      · rw [(hTurn.new b hNew).2.1]
        exact nofun
    · intro b k hDist hNot
      exact h.turn_expanded hQueue hj hTurn hDist hNot
    · intro b hb m c k hm hk
      exact h.turn_near hQueue hj hTurn (List.mem_of_mem_head? hb) hm hk

omit [DecidableEq α] in
/-- When the queue is empty every known node has been expanded. -/
theorem Inv.isField {adj : α → List α} {source : α} {s : State α} (h : Inv adj source s) (hEmpty : s.queue = []) :
    IsField adj source s.dist := by
  refine ⟨h.zero, h.walk, ?_⟩
  intro b k hDist
  exact h.expanded b k hDist (by rw [hEmpty]; exact nofun)

/-- The nodes of `nodes` that are still unknown, and the nodes that wait. -/
def pending (nodes : Finset α) (s : State α) : Nat := (nodes.filter fun b => s.dist b = none).card + s.queue.length

theorem pending_visit {nodes : Finset α} (n : Nat) (s : State α) {b : α} (hb : b ∈ nodes) :
    pending nodes (visit n s b) = pending nodes s := by
  by_cases hNew : s.dist b = none
  · have hVisit : visit n s b = { dist := Function.update s.dist b (some n), queue := s.queue ++ [b] } :=
      if_pos hNew
    have hErase : (nodes.filter fun c => Function.update s.dist b (some n) c = none) =
        (nodes.filter fun c => s.dist c = none).erase b := by
      ext c
      by_cases hEq : c = b
      · subst hEq
        simp
      · simp [hEq]
    have hMem : b ∈ nodes.filter fun c => s.dist c = none := Finset.mem_filter.mpr ⟨hb, hNew⟩
    have hCard := Finset.card_erase_add_one hMem
    rw [hVisit, pending, pending, hErase, List.length_append, List.length_singleton]
    omega
  · rw [visit, if_neg hNew]

theorem pending_turn {adj : α → List α} {nodes : Finset α} (hAdj : ∀ a, ∀ b ∈ adj a, b ∈ nodes) {s : State α}
    (hQueue : s.queue ≠ []) : pending nodes (turn adj s) + 1 = pending nodes s := by
  obtain ⟨a, queue, hCons⟩ := List.exists_cons_of_ne_nil hQueue
  have hVisits : ∀ bs : List α, (∀ b ∈ bs, b ∈ nodes) → ∀ (n : Nat) (s : State α),
      pending nodes (bs.foldl (visit n) s) = pending nodes s := by
    intro bs
    induction bs with
    | nil => exact fun _ _ _ => rfl
    | cons b bs ih =>
      intro hIn n s
      rw [List.foldl_cons, ih (fun c hc => hIn c (List.mem_cons_of_mem _ hc))]
      exact pending_visit n s (hIn b List.mem_cons_self)
  have hTurn : turn adj s = (adj a).foldl (visit ((s.dist a).getD 0 + 1)) { s with queue } := by
    unfold turn
    rw [hCons]
  rw [hTurn, hVisits _ (hAdj a), pending, pending, hCons, List.length_cons]
  rfl

theorem queue_empty {adj : α → List α} {nodes : Finset α} (hAdj : ∀ a, ∀ b ∈ adj a, b ∈ nodes) (turns : Nat)
    {s : State α} (hTurns : pending nodes s ≤ turns) : ((turn adj)^[turns] s).queue = [] := by
  induction turns generalizing s with
  | zero =>
    rw [← List.length_eq_zero_iff]
    simp only [pending] at hTurns
    simp only [Function.iterate_zero, id_eq]
    omega
  | succ turns ih =>
    rw [Function.iterate_succ_apply]
    by_cases hQueue : s.queue = []
    · rw [turn_nil adj hQueue]
      have hFixed : ∀ m, (turn adj)^[m] s = s := fun m => Function.iterate_fixed (turn_nil adj hQueue) m
      rw [hFixed]
      exact hQueue
    · have hLess := pending_turn hAdj hQueue
      exact ih (by omega)

/-- With as many turns as there are nodes, the search ends with the distances from the source. -/
theorem isField_search {adj : α → List α} {source : α} {nodes : Finset α} (hAdj : ∀ a, ∀ b ∈ adj a, b ∈ nodes)
    (hSource : source ∈ nodes) {turns : Nat} (hTurns : nodes.card ≤ turns) :
    ((turn adj)^[turns] (start source)).queue = [] ∧
      IsField adj source ((turn adj)^[turns] (start source)).dist := by
  have hStart : pending nodes (start source) ≤ turns := by
    have hErase : (nodes.filter fun c => (start source).dist c = none) = nodes.erase source := by
      ext c
      rw [Finset.mem_filter, Finset.mem_erase]
      by_cases hEq : c = source
      · subst hEq
        simp [start]
      · simp [start, hEq]
    have hCard := Finset.card_erase_add_one hSource
    rw [pending, hErase]
    simp only [start, List.length_singleton]
    omega
  have hEmpty := queue_empty hAdj turns hStart
  have hInv : ∀ n, Inv adj source ((turn adj)^[n] (start source)) := by
    intro n
    induction n with
    | zero => exact inv_start adj source
    | succ n ih =>
      rw [Function.iterate_succ_apply']
      exact ih.turn
  exact ⟨hEmpty, (hInv turns).isField hEmpty⟩

end CaptureTheFlag.BreadthFirst
