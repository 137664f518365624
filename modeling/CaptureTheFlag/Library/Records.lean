import Mathlib.Data.List.DropRight
import Mathlib.Order.Lattice
import Mathlib.Tactic.Common

/-! # Records of a sequence

An item is a record if its key exceeds the keys of all items before it. Only the newest record has to be kept to
recognise the next one.
-/
namespace CaptureTheFlag.Records
set_option autoImplicit false

variable {α κ : Type} [LinearOrder κ] (key : α → κ)

/-- The records among `items`, when `earlier` came before. -/
def recordsAfter (earlier : List α) : List α → List α
  | [] => []
  | item :: items =>
    if ∀ e ∈ earlier, key e < key item then item :: recordsAfter (earlier ++ [item]) items
    else recordsAfter (earlier ++ [item]) items

def records (items : List α) : List α := recordsAfter key [] items

theorem recordsAfter_append (earlier items more : List α) :
    recordsAfter key earlier (items ++ more) =
      recordsAfter key earlier items ++ recordsAfter key (earlier ++ items) more := by
  induction items generalizing earlier with
  | nil => rw [List.nil_append, List.append_nil, recordsAfter, List.nil_append]
  | cons item items ih =>
    rw [List.cons_append, recordsAfter, recordsAfter, ih, List.append_assoc, List.singleton_append]
    split
    · rfl
    · rfl

theorem records_snoc (items : List α) (item : α) :
    records key (items ++ [item]) =
      if ∀ e ∈ items, key e < key item then records key items ++ [item] else records key items := by
  rw [records, recordsAfter_append, List.nil_append, recordsAfter, recordsAfter]
  split
  · rfl
  · exact List.append_nil _

variable {key}

theorem mem_of_mem_records {items : List α} {item : α} (h : item ∈ records key items) : item ∈ items := by
  induction items using List.reverseRecOn with
  | nil => exact h
  | append_singleton items last ih =>
    rw [records_snoc] at h
    rw [List.mem_append]
    split at h
    · exact (List.mem_append.mp h).imp ih id
    · exact Or.inl (ih h)

theorem records_ascending (items : List α) : (records key items).Pairwise fun a b => key a < key b := by
  induction items using List.reverseRecOn with
  | nil => exact List.Pairwise.nil
  | append_singleton items last ih =>
    rw [records_snoc]
    split
    · rename_i hRecord
      rw [List.pairwise_append]
      refine ⟨ih, List.pairwise_singleton _ _, ?_⟩
      intro a ha b hb
      rw [List.mem_singleton.mp hb]
      exact hRecord a (mem_of_mem_records ha)
    · exact ih

theorem length_records_le (items : List α) : (records key items).length ≤ items.length := by
  induction items using List.reverseRecOn with
  | nil => exact le_rfl
  | append_singleton items last ih =>
    rw [records_snoc, List.length_append, List.length_singleton]
    split
    · rw [List.length_append, List.length_singleton]
      exact Nat.succ_le_succ ih
    · exact Nat.le_succ_of_le ih

theorem newest_record (items : List α) :
    (items = [] ∧ records key items = []) ∨
      ∃ record, (records key items).getLast? = some record ∧ record ∈ items ∧ ∀ e ∈ items, key e ≤ key record := by
  induction items using List.reverseRecOn with
  | nil => exact Or.inl ⟨rfl, rfl⟩
  | append_singleton items last ih =>
    right
    rw [records_snoc]
    split
    · rename_i hRecord
      refine ⟨last, List.getLast?_concat, List.mem_append_right _ (List.mem_singleton_self _), ?_⟩
      intro e he
      rcases List.mem_append.mp he with hOld | hLast
      · exact le_of_lt (hRecord e hOld)
      · rw [List.mem_singleton.mp hLast]
    · rename_i hRecord
      rcases ih with ⟨rfl, -⟩ | ⟨record, hNewest, hMem, hBound⟩
      · exact absurd (fun e he => nomatch he) hRecord
      · refine ⟨record, hNewest, List.mem_append_left _ hMem, ?_⟩
        intro e he
        rcases List.mem_append.mp he with hOld | hLast
        · exact hBound e hOld
        · rw [List.mem_singleton.mp hLast]
          simp only [not_forall, not_lt] at hRecord
          obtain ⟨old, hOld, hLe⟩ := hRecord
          exact hLe.trans (hBound old hOld)

theorem exceeds_iff {items : List α} {record : α} (hNewest : (records key items).getLast? = some record) (item : α) :
    (∀ e ∈ items, key e < key item) ↔ key record < key item := by
  rcases @newest_record _ _ _ key items with ⟨-, hNone⟩ | ⟨newest, hLast, hMem, hBound⟩
  · rw [hNone] at hNewest
    cases hNewest
  · obtain rfl : newest = record := Option.some.inj (hLast.symm.trans hNewest)
    exact ⟨fun h => h newest hMem, fun h e he => (hBound e he).trans_lt h⟩

/-- A full window drops its oldest item when it takes a new one. -/
theorem drop_rtake_snoc (items : List α) (item : α) (n : Nat) :
    (items.rtake n ++ [item]).drop ((items.rtake n).length + 1 - n) = (items ++ [item]).rtake n := by
  rw [List.rtake, List.rtake, List.length_drop, List.length_append, List.length_singleton]
  by_cases hRoom : items.length < n
  · have hAll : items.length - n = 0 := by omega
    have hNone : items.length + 1 - n = 0 := by omega
    rw [hAll, hNone, List.drop_zero, List.drop_zero]
    rw [show items.length - 0 + 1 - n = 0 by omega, List.drop_zero]
  · rw [← List.drop_append_of_le_length (by omega), List.drop_drop]
    congr 1
    omega

end CaptureTheFlag.Records
