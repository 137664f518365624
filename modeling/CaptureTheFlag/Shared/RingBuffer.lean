import CaptureTheFlag.Library.Circular

/-! # Fixed-capacity ring buffer

`toList` is the content, oldest first. Every operation is the expected list operation on it.
-/
namespace CaptureTheFlag
set_option autoImplicit false
open Circular

structure RingBuffer (α : Type) (capacity : Nat) where
  data : Fin capacity → α
  head : Nat
  tail : Nat
  size : Nat
  size_le : size ≤ capacity
  tail_eq : tail = (head + size) % capacity

namespace RingBuffer

variable {α σ : Type} {n : Nat} [NeZero n]

def empty (item : α) : RingBuffer α n where
  data := fun _ => item
  head := 0
  tail := 0
  size := 0
  size_le := Nat.zero_le n
  tail_eq := rfl

def toList (b : RingBuffer α n) : List α := window b.data b.head b.size

@[simp] theorem length_toList (b : RingBuffer α n) : b.toList.length = b.size := length_window _ _ _

@[simp] theorem toList_empty (item : α) : (empty item : RingBuffer α n).toList = [] := rfl

theorem slot_tail (b : RingBuffer α n) : slot n b.tail = slot n (b.head + b.size) := by
  rw [b.tail_eq]
  exact slot_add_mod (b.head + b.size) 0

/-- A full buffer overwrites its oldest item. -/
def pushBack (b : RingBuffer α n) (item : α) : RingBuffer α n :=
  if h : b.size < n then
    { data := Function.update b.data (slot n b.tail) item
      head := b.head
      tail := (b.tail + 1) % n
      size := b.size + 1
      size_le := h
      tail_eq := by rw [b.tail_eq, Nat.mod_add_mod, Nat.add_assoc] }
  else
    { data := Function.update b.data (slot n b.tail) item
      head := (b.head + 1) % n
      tail := (b.tail + 1) % n
      size := b.size
      size_le := b.size_le
      tail_eq := by rw [b.tail_eq, Nat.mod_add_mod, Nat.mod_add_mod, Nat.add_right_comm] }

theorem toList_pushBack (b : RingBuffer α n) (item : α) :
    (b.pushBack item).toList = (b.toList ++ [item]).drop (b.size + 1 - n) := by
  by_cases h : b.size < n
  · have hKeep : b.size + 1 - n = 0 := by omega
    simp only [pushBack, h, dif_pos, toList, slot_tail, window_push _ _ _ _ h, hKeep, List.drop_zero]
  · have hFull : b.size = n := by
      have := b.size_le
      omega
    obtain ⟨m, hm⟩ : ∃ m, n = m + 1 := ⟨n - 1, by have := Nat.pos_of_neZero n; omega⟩
    have hSlot : slot n b.tail = slot n (b.head + 1 + m) := by
      rw [slot_tail, hFull]
      congr 1
      omega
    have hDrop : b.size + 1 - n = 1 := by omega
    have hPush := window_push b.data (b.head + 1) m item (by omega)
    have hSucc := window_succ b.data b.head m
    simp only [pushBack, h, dif_neg, not_false_eq_true, toList, window_mod, hSlot, hDrop]
    rw [show b.size = m + 1 by omega, hPush, hSucc, List.cons_append, List.drop_one, List.tail_cons]

/-- Nothing happens on an empty buffer. -/
def popFront (b : RingBuffer α n) : RingBuffer α n :=
  if h : b.size = 0 then b
  else
    { data := b.data
      head := (b.head + 1) % n
      tail := b.tail
      size := b.size - 1
      size_le := (Nat.sub_le _ _).trans b.size_le
      tail_eq := by
        rw [b.tail_eq, Nat.mod_add_mod]
        congr 1
        omega }

theorem toList_popFront (b : RingBuffer α n) : b.popFront.toList = b.toList.tail := by
  by_cases h : b.size = 0
  · simp [popFront, toList, h]
  · simp only [popFront, h, dif_neg, not_false_eq_true, toList]
    exact window_tail b.data b.head b.size

def get (b : RingBuffer α n) (i : Nat) : α := b.data (slot n (b.head + i))

def front (b : RingBuffer α n) : α := b.data (slot n b.head)

def back (b : RingBuffer α n) : α := b.data (slot n (b.tail + n - 1))

theorem getElem?_toList (b : RingBuffer α n) {i : Nat} (hi : i < b.size) : b.toList[i]? = some (b.get i) := by
  rw [toList, window, List.getElem?_map, List.getElem?_range hi]
  rfl

theorem getLast?_toList (b : RingBuffer α n) (hSize : 0 < b.size) : b.toList.getLast? = some b.back := by
  have hn := Nat.pos_of_neZero n
  have hSlot : slot n (b.tail + n - 1) = slot n (b.head + (b.size - 1)) := by
    have hSum : b.head + b.size + (n - 1) = b.head + (b.size - 1) + n := by omega
    rw [Nat.add_sub_assoc hn, b.tail_eq, slot_add_mod, hSum]
    exact Fin.ext (Nat.add_mod_right _ _)
  rw [List.getLast?_eq_getElem?, length_toList, getElem?_toList b (by omega), back, hSlot, get]

theorem head?_toList (b : RingBuffer α n) (hSize : 0 < b.size) : b.toList.head? = some b.front := by
  rw [List.head?_eq_getElem?, getElem?_toList b hSize]
  rfl

/-- A range-for that collects what it sees: it goes on until its position is the one of `end()`. -/
def iterate (b : RingBuffer α n) : Nat → Nat → Option (List α)
  | 0, _ => none
  | fuel + 1, pos => if pos = b.size then some [] else (b.iterate fuel (pos + 1)).map fun items => b.get pos :: items

theorem iterate_eq (b : RingBuffer α n) (fuel pos : Nat) (hPos : pos ≤ b.size) (hFuel : b.size < pos + fuel) :
    b.iterate fuel pos = some (b.toList.drop pos) := by
  induction fuel generalizing pos with
  | zero => omega
  | succ fuel ih =>
    by_cases hEnd : pos = b.size
    · rw [iterate, if_pos hEnd, List.drop_of_length_le (by rw [length_toList]; omega)]
    · have hIn : pos < b.toList.length := by rw [length_toList]; omega
      have hGet := getElem?_toList b (i := pos) (by omega)
      rw [List.getElem?_eq_getElem hIn, Option.some.injEq] at hGet
      rw [iterate, if_neg hEnd, ih (pos + 1) (by omega) (by omega), List.drop_eq_getElem_cons hIn, hGet]
      rfl

/-- One iteration of `remove_if`: the items kept so far fill the front of the window. -/
def removeStep (pred : α → Bool) (head : Nat) (acc : (Fin n → α) × Nat) (i : Nat) : (Fin n → α) × Nat :=
  let item := acc.1 (slot n (head + i))
  if pred item then acc else (Function.update acc.1 (slot n (head + acc.2)) item, acc.2 + 1)

theorem foldl_removeStep (pred : α → Bool) (data : Fin n → α) (head k : Nat) (hk : k ≤ n) :
    let acc := (List.range k).foldl (removeStep pred head) (data, 0)
    acc.2 ≤ k ∧ window acc.1 head acc.2 = (window data head k).filter (fun item => !pred item) ∧
      ∀ j, k ≤ j → j < n → acc.1 (slot n (head + j)) = data (slot n (head + j)) := by
  induction k with
  | zero => exact ⟨le_rfl, rfl, fun _ _ _ => rfl⟩
  | succ k ih =>
    obtain ⟨hLe, hWindow, hRest⟩ := ih (by omega)
    simp only [List.range_succ, List.foldl_append, List.foldl_cons, List.foldl_nil]
    generalize (List.range k).foldl (removeStep pred head) (data, 0) = acc at hLe hWindow hRest
    have hItem : acc.1 (slot n (head + k)) = data (slot n (head + k)) := hRest k le_rfl (by omega)
    rw [window_snoc, List.filter_append, ← hWindow]
    cases hPred : pred (data (slot n (head + k))) with
    | true =>
      simp only [removeStep, hItem, hPred, if_true]
      refine ⟨by omega, by simp [hPred], fun j hj hjn => hRest j (by omega) hjn⟩
    | false =>
      simp only [removeStep, hItem, hPred, Bool.false_eq_true, if_false]
      refine ⟨by omega, ?_, ?_⟩
      · rw [window_push _ _ _ _ (by omega)]
        simp [hPred]
      · intro j hj hjn
        rw [Function.update_of_ne (slot_ne (by omega) (by omega)).symm]
        exact hRest j (by omega) hjn

def removeIf (b : RingBuffer α n) (pred : α → Bool) : RingBuffer α n :=
  let acc := (List.range b.size).foldl (removeStep pred b.head) (b.data, 0)
  { data := acc.1
    head := b.head
    tail := (b.head + acc.2) % n
    size := acc.2
    size_le := (foldl_removeStep pred b.data b.head b.size b.size_le).1.trans b.size_le
    tail_eq := rfl }

theorem toList_removeIf (b : RingBuffer α n) (pred : α → Bool) :
    (b.removeIf pred).toList = b.toList.filter (fun item => !pred item) :=
  (foldl_removeStep pred b.data b.head b.size b.size_le).2.1

inductive Op (α : Type)
  | pushBack (item : α)
  | popFront
  | removeIf (pred : α → Bool)

def apply (b : RingBuffer α n) : Op α → RingBuffer α n
  | .pushBack item => b.pushBack item
  | .popFront => b.popFront
  | .removeIf pred => b.removeIf pred

/-- The list model knows no head and no tail: it appends, and forgets its first item once it is longer than the capacity. -/
def Op.onList (capacity : Nat) (items : List α) : Op α → List α
  | .pushBack item => if capacity < items.length + 1 then (items ++ [item]).tail else items ++ [item]
  | .popFront => items.tail
  | .removeIf pred => items.filter fun item => !pred item

theorem toList_apply (b : RingBuffer α n) (op : Op α) : (b.apply op).toList = op.onList n b.toList := by
  cases op with
  | pushBack item =>
    have hSize := b.size_le
    rw [apply, toList_pushBack, Op.onList, length_toList]
    split
    · rw [show b.size + 1 - n = 1 by omega, List.drop_one]
    · rw [show b.size + 1 - n = 0 by omega, List.drop_zero]
  | popFront => exact toList_popFront b
  | removeIf pred => exact toList_removeIf b pred

theorem toList_run (b : RingBuffer α n) (ops : List (Op α)) :
    (ops.foldl apply b).toList = ops.foldl (Op.onList n) b.toList := by
  induction ops generalizing b with
  | nil => rfl
  | cons op ops ih => rw [List.foldl_cons, ih, toList_apply, List.foldl_cons]

theorem head_lt_apply (b : RingBuffer α n) (op : Op α) (hHead : b.head < n) : (b.apply op).head < n := by
  have hMod : ∀ k, k % n < n := fun k => Nat.mod_lt _ (Nat.pos_of_neZero n)
  cases op with
  | pushBack item =>
    rw [apply, pushBack]
    split
    · exact hHead
    · exact hMod _
  | popFront =>
    rw [apply, popFront]
    split
    · exact hHead
    · exact hMod _
  | removeIf pred => exact hHead

theorem head_lt_run (b : RingBuffer α n) (ops : List (Op α)) (hHead : b.head < n) : (ops.foldl apply b).head < n := by
  induction ops generalizing b with
  | nil => exact hHead
  | cons op ops ih => exact ih _ (head_lt_apply b op hHead)

/-- Everything a caller can read from the buffer is `items`, and the indices stay together. -/
structure Shows (b : RingBuffer α n) (items : List α) : Prop where
  size : b.size = items.length
  get : ∀ i (hi : i < items.length), b.get i = items.get ⟨i, hi⟩
  front : ∀ item ∈ items.head?, b.front = item
  back : ∀ item ∈ items.getLast?, b.back = item
  iterate : ∀ fuel, items.length < fuel → b.iterate fuel 0 = some items
  head : b.head < n
  tail : b.tail = (b.head + b.size) % n
  bounded : b.size ≤ n

theorem shows_toList (b : RingBuffer α n) (hHead : b.head < n) : b.Shows b.toList where
  size := (length_toList b).symm
  get i hi := by
    have hGet := getElem?_toList b (i := i) (by rwa [length_toList] at hi)
    rw [List.getElem?_eq_getElem hi, Option.some.injEq] at hGet
    exact hGet.symm
  front item hItem := by
    have hSize : 0 < b.size := by
      rw [← length_toList]
      exact List.length_pos_of_mem (List.mem_of_mem_head? hItem)
    rw [head?_toList b hSize] at hItem
    exact Option.mem_some_iff.mp hItem
  back item hItem := by
    have hSize : 0 < b.size := by
      rw [← length_toList]
      exact List.length_pos_of_mem (List.mem_of_mem_getLast? hItem)
    rw [getLast?_toList b hSize] at hItem
    exact Option.mem_some_iff.mp hItem
  iterate fuel hFuel := by
    rw [length_toList] at hFuel
    rw [iterate_eq b fuel 0 (Nat.zero_le _) (by omega), List.drop_zero]
  head := hHead
  tail := b.tail_eq
  bounded := b.size_le

/-- The ring is the bounded list, for every capacity and along every run. -/
theorem run_shows (item : α) (ops : List (Op α)) :
    (ops.foldl apply (empty item : RingBuffer α n)).Shows (ops.foldl (Op.onList n) []) := by
  have hShows := shows_toList (ops.foldl apply (empty item : RingBuffer α n))
    (head_lt_run _ ops (Nat.pos_of_neZero n))
  rwa [toList_run, toList_empty] at hShows

/-- Two overwriting pushes, a removal across the wrap point and a push after it. -/
theorem run_shows_wrapped :
    ([Op.pushBack 1, .pushBack 2, .pushBack 3, .pushBack 4, .pushBack 5, .removeIf (· = 4), .pushBack 6, .popFront].foldl
      apply (empty 0 : RingBuffer Nat 3)).Shows [5, 6] :=
  run_shows 0 _

/-- The list version of a range-for over references with a running state. -/
def scanItems (f : σ → α → σ × α) : σ → List α → σ × List α
  | s, [] => (s, [])
  | s, item :: items =>
    let (s, item) := f s item
    let (s, items) := scanItems f s items
    (s, item :: items)

theorem scanItems_snoc (f : σ → α → σ × α) (s : σ) (items : List α) (item : α) :
    scanItems f s (items ++ [item]) =
      ((f (scanItems f s items).1 item).1,
        (scanItems f s items).2 ++ [(f (scanItems f s items).1 item).2]) := by
  induction items generalizing s with
  | nil => rfl
  | cons first items ih => simp only [List.cons_append, scanItems, ih]

/-- One iteration: read the item, run the body, write it back. -/
def visitStep (f : σ → α → σ × α) (head : Nat) (acc : σ × (Fin n → α)) (i : Nat) : σ × (Fin n → α) :=
  let (s, item) := f acc.1 (acc.2 (slot n (head + i)))
  (s, Function.update acc.2 (slot n (head + i)) item)

theorem foldl_visitStep (f : σ → α → σ × α) (s : σ) (data : Fin n → α) (head k : Nat) (hk : k ≤ n) :
    let acc := (List.range k).foldl (visitStep f head) (s, data)
    (acc.1, window acc.2 head k) = scanItems f s (window data head k) ∧
      ∀ j, k ≤ j → j < n → acc.2 (slot n (head + j)) = data (slot n (head + j)) := by
  induction k with
  | zero => exact ⟨rfl, fun _ _ _ => rfl⟩
  | succ k ih =>
    obtain ⟨hScan, hRest⟩ := ih (by omega)
    simp only [List.range_succ, List.foldl_append, List.foldl_cons, List.foldl_nil]
    generalize (List.range k).foldl (visitStep f head) (s, data) = acc at hScan hRest
    have hItem : acc.2 (slot n (head + k)) = data (slot n (head + k)) := hRest k le_rfl (by omega)
    rw [window_snoc data, scanItems_snoc, ← hScan]
    simp only [visitStep, hItem]
    refine ⟨by rw [window_push _ _ _ _ (by omega)], ?_⟩
    intro j hj hjn
    rw [Function.update_of_ne (slot_ne (by omega) (by omega)).symm]
    exact hRest j (by omega) hjn

def visit (b : RingBuffer α n) (f : σ → α → σ × α) (s : σ) : σ × RingBuffer α n :=
  let acc := (List.range b.size).foldl (visitStep f b.head) (s, b.data)
  (acc.1, { b with data := acc.2 })

theorem toList_visit (b : RingBuffer α n) (f : σ → α → σ × α) (s : σ) :
    ((b.visit f s).1, (b.visit f s).2.toList) = scanItems f s b.toList :=
  (foldl_visitStep f s b.data b.head b.size b.size_le).1

end RingBuffer
end CaptureTheFlag
