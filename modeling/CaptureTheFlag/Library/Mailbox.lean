import Mathlib.Data.List.Basic
import Mathlib.Tactic.Common

/-! # A queue with a wake counter

One thread produces items in rounds, pushes them one by one and notifies at the end of the round. The other sleeps until
the counter is positive, reads it down to zero and pops until the queue is empty. An operation on the queue or on the
counter is atomic; between any two of them the other thread may run.
-/
namespace CaptureTheFlag
set_option autoImplicit false

/-- Where the consumer stands. -/
inductive Consumer where
  | asleep
  | reading
  | popping
deriving DecidableEq, Repr

/-- Whose step it is; a notification is the producer's, but counts on its own. -/
inductive Turn where
  | work
  | notify
  | serve
deriving DecidableEq, Repr

structure Mailbox (α : Type) where
  queue : List α := []
  count : Nat := 0
  /-- The producer is in a round and has not notified yet. -/
  busy : Bool := false
  /-- What the round has produced and not pushed yet. -/
  todo : List α := []
  consumer : Consumer := .asleep
  made : List α := []
  taken : List α := []

namespace Mailbox

variable {α : Type} {cap : Nat} {m m' : Mailbox α}

def produce (m : Mailbox α) (items : List α) : Mailbox α := { m with made := m.made ++ items, todo := items }

def push (m : Mailbox α) : Mailbox α :=
  match m.todo with
  | [] => m
  | item :: todo => { m with queue := m.queue ++ [item], todo }

/-- A full counter stays as it is. -/
def notify (cap : Nat) (m : Mailbox α) : Mailbox α :=
  { m with busy := false, count := if m.count < cap then m.count + 1 else m.count }

/-- One read of the counter; the first that finds it zero ends the loop. -/
def read (m : Mailbox α) : Mailbox α :=
  if 0 < m.count then { m with count := 0 } else { m with consumer := .popping }

/-- One pop of the queue; the first that finds it empty ends the loop. -/
def pop (m : Mailbox α) : Mailbox α :=
  match m.queue with
  | [] => { m with consumer := .asleep }
  | item :: queue => { m with queue, taken := m.taken ++ [item] }

inductive Step (cap : Nat) (m : Mailbox α) : Turn → Mailbox α → Prop where
  | start (hFree : m.busy = false) : Step cap m .work { m with busy := true }
  | produce (items : List α) (hBusy : m.busy = true) (hTodo : m.todo = []) : Step cap m .work (m.produce items)
  | push (hTodo : m.todo ≠ []) : Step cap m .work m.push
  | notify (hBusy : m.busy = true) (hTodo : m.todo = []) : Step cap m .notify (m.notify cap)
  | wake (hAsleep : m.consumer = .asleep) (hCount : 0 < m.count) :
      Step cap m .serve { m with consumer := .reading }
  | read (hReading : m.consumer = .reading) : Step cap m .serve m.read
  | pop (hPopping : m.consumer = .popping) : Step cap m .serve m.pop

/-- Nothing is lost, doubled or reordered, and nobody sleeps on a queue that no notification is to come for. -/
structure Sound (m : Mailbox α) : Prop where
  fifo : m.made = m.taken ++ m.queue ++ m.todo
  owed : m.todo ≠ [] → m.busy = true
  armed : m.queue ≠ [] → m.busy = true ∨ 0 < m.count ∨ m.consumer ≠ .asleep

theorem Sound.empty : Sound ({} : Mailbox α) where
  fifo := rfl
  owed h := absurd rfl h
  armed h := absurd rfl h

theorem Sound.push (h : Sound m) (hTodo : m.todo ≠ []) : Sound m.push := by
  have hBusy := h.owed hTodo
  have hFifo := h.fifo
  rw [Mailbox.push]
  cases hList : m.todo with
  | nil => exact absurd hList hTodo
  | cons item todo =>
    rw [hList] at hFifo
    refine ⟨?_, fun _ => hBusy, fun _ => Or.inl hBusy⟩
    rw [hFifo]
    simp only [List.append_assoc, List.singleton_append]

theorem Sound.read (h : Sound m) (hReading : m.consumer = .reading) : Sound m.read := by
  have hAwake : m.consumer ≠ .asleep := by
    rw [hReading]
    rintro ⟨⟩
  rw [Mailbox.read]
  split
  · exact ⟨h.fifo, h.owed, fun _ => Or.inr (Or.inr hAwake)⟩
  · refine ⟨h.fifo, h.owed, fun _ => Or.inr (Or.inr ?_)⟩
    rintro ⟨⟩

theorem Sound.pop (h : Sound m) (hPopping : m.consumer = .popping) : Sound m.pop := by
  have hFifo := h.fifo
  rw [Mailbox.pop]
  cases hQueue : m.queue with
  | nil =>
    refine ⟨?_, h.owed, fun hItems => absurd rfl hItems⟩
    rw [hFifo, hQueue]
  | cons item queue =>
    rw [hQueue] at hFifo
    refine ⟨?_, h.owed, fun _ => Or.inr (Or.inr ?_)⟩
    · rw [hFifo]
      simp only [List.append_assoc, List.singleton_append]
    · simp only [hPopping]
      rintro ⟨⟩

theorem Sound.step (hCap : 0 < cap) {turn : Turn} (hStep : Step cap m turn m') (h : Sound m) : Sound m' := by
  cases hStep with
  | start hFree => exact ⟨h.fifo, fun _ => rfl, fun _ => Or.inl rfl⟩
  | produce items hBusy hTodo =>
    refine ⟨?_, fun _ => hBusy, fun _ => Or.inl hBusy⟩
    have hFifo := h.fifo
    rw [hTodo, List.append_nil] at hFifo
    simp only [Mailbox.produce, hFifo]
  | push hTodo => exact h.push hTodo
  | notify hBusy hTodo =>
    refine ⟨h.fifo, fun hItems => absurd hTodo hItems, fun _ => Or.inr (Or.inl ?_)⟩
    simp only [Mailbox.notify]
    split
    · exact Nat.succ_pos _
    · omega
  | wake hAsleep hCount => exact ⟨h.fifo, h.owed, fun _ => Or.inr (Or.inl hCount)⟩
  | read hReading => exact h.read hReading
  | pop hPopping => exact h.pop hPopping

theorem Sound.todo_nil (h : Sound m) (hFree : m.busy = false) : m.todo = [] := by
  by_contra hTodo
  rw [h.owed hTodo] at hFree
  cases hFree

/-- A consumer that sleeps on a zero counter has taken all there is, unless a notification is still to come. -/
theorem Sound.all_taken (h : Sound m) (hFree : m.busy = false) (hAsleep : m.consumer = .asleep) (hCount : m.count = 0) :
    m.taken = m.made := by
  have hQueue : m.queue = [] := by
    by_contra hItems
    rcases h.armed hItems with hBusy | hPos | hAwake
    · rw [hFree] at hBusy
      cases hBusy
    · exact Nat.lt_irrefl 0 (hCount ▸ hPos)
    · exact hAwake hAsleep
  rw [h.fifo, hQueue, h.todo_nil hFree, List.append_nil, List.append_nil]

/-- Between two rounds the consumer is never stuck in front of something it has not taken. -/
theorem Sound.can_serve (h : Sound m) (hFree : m.busy = false) (hOpen : m.taken ≠ m.made) :
    ∃ m', Step cap m .serve m' := by
  cases hConsumer : m.consumer with
  | asleep =>
    have hCount : 0 < m.count := by
      by_contra hZero
      exact hOpen (h.all_taken hFree hConsumer (Nat.eq_zero_of_not_pos hZero))
    exact ⟨_, .wake hConsumer hCount⟩
  | reading => exact ⟨_, .read hConsumer⟩
  | popping => exact ⟨_, .pop hConsumer⟩

/-- An interleaving, with the number of the consumer's steps and of notifications in it. -/
inductive Run (cap : Nat) (m : Mailbox α) : Nat → Nat → Mailbox α → Prop where
  | refl : Run cap m 0 0 m
  | work {serves notifies : Nat} {m' m'' : Mailbox α} (h : Run cap m serves notifies m')
      (hStep : Step cap m' .work m'') : Run cap m serves notifies m''
  | notify {serves notifies : Nat} {m' m'' : Mailbox α} (h : Run cap m serves notifies m')
      (hStep : Step cap m' .notify m'') : Run cap m serves (notifies + 1) m''
  | serve {serves notifies : Nat} {m' m'' : Mailbox α} (h : Run cap m serves notifies m')
      (hStep : Step cap m' .serve m'') : Run cap m (serves + 1) notifies m''

theorem Sound.run (hCap : 0 < cap) {serves notifies : Nat} (hRun : Run cap m serves notifies m') (h : Sound m) :
    Sound m' := by
  induction hRun with
  | refl => exact h
  | work _ hStep ih => exact ih.step hCap hStep
  | notify _ hStep ih => exact ih.step hCap hStep
  | serve _ hStep ih => exact ih.step hCap hStep

theorem push_pushed (m : Mailbox α) : m.push.taken = m.taken ∧ m.queue.length ≤ m.push.queue.length ∧
    m.push.made = m.made ∧ m.push.consumer = m.consumer ∧ m.push.count = m.count := by
  rw [push]
  split <;> simp

/-- What a step does to the two ends: nothing is taken back. -/
structure Grows (m m' : Mailbox α) : Prop where
  taken : m.taken.length ≤ m'.taken.length
  pushed : m.taken.length + m.queue.length ≤ m'.taken.length + m'.queue.length
  made : m.made <+: m'.made

theorem Grows.refl (m : Mailbox α) : Grows m m := ⟨Nat.le_refl _, Nat.le_refl _, List.prefix_rfl⟩

theorem Grows.trans {m'' : Mailbox α} (h : Grows m m') (h' : Grows m' m'') : Grows m m'' :=
  ⟨Nat.le_trans h.taken h'.taken, Nat.le_trans h.pushed h'.pushed, h.made.trans h'.made⟩

theorem Step.grows {turn : Turn} (hStep : Step cap m turn m') : Grows m m' := by
  cases hStep with
  | start => exact ⟨Nat.le_refl _, Nat.le_refl _, List.prefix_rfl⟩
  | produce items => exact ⟨Nat.le_refl _, Nat.le_refl _, List.prefix_append _ _⟩
  | push =>
    obtain ⟨hTaken, hQueue, hMade, -, -⟩ := m.push_pushed
    refine ⟨Nat.le_of_eq (congrArg List.length hTaken.symm), ?_, ?_⟩
    · rw [hTaken]
      exact Nat.add_le_add_left hQueue _
    · exact hMade ▸ List.prefix_rfl
  | notify => exact ⟨Nat.le_refl _, Nat.le_refl _, List.prefix_rfl⟩
  | wake => exact ⟨Nat.le_refl _, Nat.le_refl _, List.prefix_rfl⟩
  | read =>
    rw [Mailbox.read]
    split <;> exact ⟨Nat.le_refl _, Nat.le_refl _, List.prefix_rfl⟩
  | pop =>
    rw [Mailbox.pop]
    split
    · exact ⟨Nat.le_refl _, Nat.le_refl _, List.prefix_rfl⟩
    · rename_i item queue hQueue
      refine ⟨?_, ?_, List.prefix_rfl⟩
      · simp
      · simp only [hQueue, List.length_append, List.length_cons, List.length_nil]
        omega

theorem Run.grows {serves notifies : Nat} (hRun : Run cap m serves notifies m') : Grows m m' := by
  induction hRun with
  | refl => exact .refl m
  | work _ hStep ih => exact ih.trans hStep.grows
  | notify _ hStep ih => exact ih.trans hStep.grows
  | serve _ hStep ih => exact ih.trans hStep.grows

/-- Reads until one finds the counter at zero. -/
def toRead (count : Nat) : Nat := if 0 < count then 2 else 1

theorem le_toRead (count : Nat) : 1 ≤ toRead count := by
  rw [toRead]
  split <;> omega

theorem toRead_le (count : Nat) : toRead count ≤ 2 := by
  rw [toRead]
  split <;> omega

/-- How far the consumer is from its next pop. -/
def stage (m : Mailbox α) : Nat :=
  match m.consumer with
  | .asleep => 3
  | .reading => toRead m.count
  | .popping => 0

theorem stage_le (m : Mailbox α) : m.stage ≤ 3 := by
  rw [stage]
  split
  · exact Nat.le_refl 3
  · exact Nat.le_succ_of_le (toRead_le _)
  · exact Nat.zero_le 3

/-- Steps of the consumer until it has taken `goal` items. -/
def due (goal : Nat) (m : Mailbox α) : Nat := (goal - m.taken.length) + m.stage

theorem Step.due_work (goal : Nat) (hStep : Step cap m .work m') : m'.due goal = m.due goal := by
  cases hStep with
  | start => rfl
  | produce => rfl
  | push =>
    obtain ⟨hTaken, -, -, hConsumer, hCount⟩ := m.push_pushed
    rw [due, due, stage, stage, hTaken, hConsumer, hCount]

theorem Step.due_notify (goal : Nat) (hStep : Step cap m .notify m') : m'.due goal ≤ m.due goal + 1 := by
  cases hStep with
  | notify =>
    have hStage : (m.notify cap).stage ≤ m.stage + 1 := by
      simp only [stage, Mailbox.notify]
      cases m.consumer with
      | asleep => exact Nat.le_succ 3
      | popping => exact Nat.zero_le _
      | reading =>
        exact Nat.le_trans (toRead_le _) (Nat.succ_le_succ (le_toRead _))
    simp only [due, Mailbox.notify] at hStage ⊢
    omega

/-- A step of the consumer brings it nearer as long as what it is to take has been pushed. -/
theorem Step.due_serve {goal : Nat} (hStep : Step cap m .serve m') (hOpen : m.taken.length < goal)
    (hPushed : goal ≤ m.taken.length + m.queue.length) : m'.due goal + 1 ≤ m.due goal := by
  cases hStep with
  | wake hAsleep hCount => simp [due, stage, hAsleep, toRead, hCount]
  | read hReading =>
    rw [Mailbox.read]
    split
    · rename_i hCount
      simp [due, stage, hReading, toRead, hCount]
    · rename_i hCount
      simp [due, stage, hReading, toRead, hCount]
  | pop hPopping =>
    rw [Mailbox.pop]
    cases hQueue : m.queue with
    | nil =>
      rw [hQueue, List.length_nil] at hPushed
      omega
    | cons item queue =>
      simp only [due, stage, hPopping, List.length_append, List.length_cons, List.length_nil]
      omega

theorem Run.due {serves notifies goal : Nat} (hRun : Run cap m serves notifies m')
    (hPushed : goal ≤ m.taken.length + m.queue.length) :
    goal ≤ m'.taken.length ∨ serves + m'.due goal ≤ m.due goal + notifies := by
  induction hRun with
  | refl => exact Or.inr (by omega)
  | work hBefore hStep ih =>
    have hTaken := hStep.grows.taken
    have hDue := hStep.due_work goal
    omega
  | notify hBefore hStep ih =>
    have hTaken := hStep.grows.taken
    have hDue := hStep.due_notify goal
    omega
  | @serve serves notifies m' m'' hBefore hStep ih =>
    have hTaken := hStep.grows.taken
    have hStill := hBefore.grows.pushed
    by_cases hDone : goal ≤ m'.taken.length
    · exact Or.inl (Nat.le_trans hDone hTaken)
    · have hDue := hStep.due_serve (Nat.lt_of_not_le hDone) (Nat.le_trans hPushed hStill)
      omega

/-- However the producer runs on, everything pushed by now has been taken after a bounded number of the consumer's
steps. -/
theorem Sound.served (hCap : 0 < cap) (h : Sound m) (hTodo : m.todo = []) {serves notifies : Nat}
    (hRun : Run cap m serves notifies m') (hEnough : m.queue.length + 3 + notifies ≤ serves) : m.made <+: m'.taken := by
  have hFifo := (h.run hCap hRun).fifo
  have hMade : m.made.length = m.taken.length + m.queue.length := by
    rw [h.fifo, hTodo, List.append_nil, List.length_append]
  have hTaken : m.made.length ≤ m'.taken.length := by
    rcases hRun.due (Nat.le_of_eq hMade) with hDone | hDue
    · exact hDone
    · have hStage := m.stage_le
      simp only [Mailbox.due] at hDue
      omega
  have hPrefix : m'.taken <+: m'.made := by
    rw [hFifo, List.append_assoc]
    exact List.prefix_append _ _
  exact List.prefix_of_prefix_length_le hRun.grows.made hPrefix hTaken

end Mailbox
end CaptureTheFlag
