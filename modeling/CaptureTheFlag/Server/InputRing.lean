import CaptureTheFlag.Server.TickFrame

/-! # The per-player input ring

`queued` reads the ring oldest first. A session is what happens to a slot between two joins; its record keeps
the inputs that passed the checks of `drain_inbound` and the inputs that `pop_inputs` took out.
-/
namespace CaptureTheFlag
set_option autoImplicit false
open Circular

abbrev SeqInput := U32 × InputCmd

namespace Player

def queued (p : Player) : List SeqInput := window (fun k => (p.seqs k, p.ring k)) p.ringHead p.ringCount

/-- The checks of the PlayerInput case. -/
def Accepts (p : Player) (seq : U32) : Prop := p.alive = true ∧ p.newestSeq.toNat < seq.toNat

instance (p : Player) (seq : U32) : Decidable (p.Accepts seq) := inferInstanceAs (Decidable (_ ∧ _))

theorem acceptInput_rejected {p : Player} {seq : U32} (input : InputCmd) (h : ¬ p.Accepts seq) :
    p.acceptInput seq input = p := by
  simp only [acceptInput]
  split
  · rfl
  · rename_i hAlive
    rw [if_pos]
    by_contra hSeq
    exact h ⟨by simpa using hAlive, by omega⟩

theorem acceptInput_accepted {p : Player} {seq : U32} (input : InputCmd) (h : p.Accepts seq) :
    p.acceptInput seq input =
      let p := { p with newestSeq := seq }
      let p := if p.ringCount = kInputRingSize
        then { p with ringHead := (p.ringHead + 1) % kInputRingSize, ringCount := p.ringCount - 1 } else p
      { p with
        ring := Function.update p.ring (slot kInputRingSize (p.ringHead + p.ringCount)) input
        seqs := Function.update p.seqs (slot kInputRingSize (p.ringHead + p.ringCount)) seq
        ringCount := p.ringCount + 1 } := by
  have hNot : ¬ seq.toNat ≤ p.newestSeq.toNat := by
    have := h.2
    omega
  simp only [acceptInput, h.1, hNot, Bool.not_true, Bool.false_eq_true, if_false]

theorem update_pair (seqs : Fin kInputRingSize → U32) (ring : Fin kInputRingSize → InputCmd)
    (k : Fin kInputRingSize) (seq : U32) (input : InputCmd) :
    (fun i => (Function.update seqs k seq i, Function.update ring k input i)) =
      Function.update (fun i => (seqs i, ring i)) k (seq, input) := by
  funext i
  by_cases hi : i = k
  · subst hi
    simp
  · simp [hi]

/-- A full ring loses its oldest entry. -/
theorem queued_acceptInput {p : Player} {seq : U32} (input : InputCmd) (h : p.Accepts seq)
    (hCount : p.ringCount ≤ kInputRingSize) :
    (p.acceptInput seq input).queued =
        (if p.ringCount = kInputRingSize then p.queued.tail else p.queued) ++ [(seq, input)] ∧
      (p.acceptInput seq input).ringCount ≤ kInputRingSize := by
  rw [acceptInput_accepted input h]
  by_cases hFull : p.ringCount = 8
  · simp only [hFull, if_true, queued, update_pair]
    rw [window_push _ _ _ _ (by decide), window_tail]
    exact ⟨rfl, by decide⟩
  · simp only [hFull, if_false, queued, update_pair]
    have hRoom : p.ringCount < 8 := by
      simp only [kInputRingSize] at hCount
      omega
    rw [window_push _ _ _ _ hRoom]
    exact ⟨rfl, hRoom⟩

theorem popped_idle {p : Player} (h : ¬ (p.alive = true ∧ p.queued ≠ [])) : p.popped = p ∧ p.nextInput = {} := by
  have hNot : ¬ (p.alive = true ∧ p.ringCount > 0) := by
    rintro ⟨hAlive, hCount⟩
    refine h ⟨hAlive, fun hNil => ?_⟩
    have := congrArg List.length hNil
    simp only [queued, length_window, List.length_nil] at this
    omega
  simp only [popped, nextInput, hNot, if_false, and_self]

/-- The oldest entry is the input applied and its seq the new ack. -/
theorem popped_cons {p : Player} {e : SeqInput} {rest : List SeqInput} (hAlive : p.alive = true)
    (h : p.queued = e :: rest) :
    p.popped.queued = rest ∧ p.popped.lastInputSeq = e.1 ∧ p.nextInput = e.2 ∧
      p.popped.ringCount ≤ p.ringCount := by
  obtain ⟨n, hCount⟩ : ∃ n, p.ringCount = n + 1 := by
    have hLen := congrArg List.length h
    simp only [queued, length_window, List.length_cons] at hLen
    exact ⟨_, hLen⟩
  have hPos : p.alive = true ∧ p.ringCount > 0 := ⟨hAlive, by omega⟩
  have hTail : p.popped.queued = p.queued.tail := by
    simp only [popped, hPos, and_self, if_true, queued, window_tail]
  have hHead : (p.seqs (slot kInputRingSize p.ringHead), p.ring (slot kInputRingSize p.ringHead)) = e := by
    have hCons := window_succ (fun k => (p.seqs k, p.ring k)) p.ringHead n
    rw [queued, hCount, hCons] at h
    exact (List.cons.inj h).1
  refine ⟨by rw [hTail, h, List.tail_cons], ?_, ?_, ?_⟩
  · simp only [popped, hPos, and_self, if_true, ← hHead]
  · simp only [nextInput, hPos, and_self, if_true, ← hHead]
  · simp only [popped, hPos, and_self, if_true]
    omega

/-- An input accepted by an empty ring is the next one taken, and the ring is empty again. -/
theorem acceptInput_only {p : Player} {seq : U32} (input : InputCmd) (h : p.Accepts seq) (hEmpty : p.ringCount = 0) :
    (p.acceptInput seq input).nextInput = input ∧ (p.acceptInput seq input).popped.ringCount = 0 ∧
      (p.acceptInput seq input).popped.newestSeq = seq := by
  have hRecord := acceptInput_accepted input h
  simp only [hEmpty, show ¬ (0 = kInputRingSize) by decide, if_false] at hRecord
  have hAlive : (p.acceptInput seq input).alive = true := by rw [hRecord]; exact h.1
  have hNone : p.queued = [] := by
    rw [queued, hEmpty]
    rfl
  have hQueued := (queued_acceptInput input h (by rw [hEmpty]; decide)).1
  rw [hEmpty, if_neg (by decide), hNone, List.nil_append] at hQueued
  have hPopped := popped_cons hAlive hQueued
  have hLength := congrArg List.length hPopped.1
  have hNewest : (p.acceptInput seq input).popped.newestSeq = (p.acceptInput seq input).newestSeq := by
    simp only [popped]
    split <;> rfl
  exact ⟨hPopped.2.2.1, by simpa [queued] using hLength, hNewest.trans (by rw [hRecord])⟩

theorem queued_popped {p : Player} (hAlive : p.alive = true) : p.popped.queued = p.queued.tail := by
  cases hQueued : p.queued with
  | nil => rw [(popped_idle (p := p) (by simp [hQueued])).1, hQueued]; rfl
  | cons e rest => exact (popped_cons hAlive hQueued).1

theorem nextInput_eq {p : Player} (hAlive : p.alive = true) :
    p.nextInput = (p.queued.head?.map Prod.snd).getD {} := by
  cases hQueued : p.queued with
  | nil => exact (popped_idle (p := p) (by simp [hQueued])).2
  | cons e rest => exact (popped_cons hAlive hQueued).2.2.1

end Player

/-- What has happened to one slot since its last join. -/
structure Session where
  joins : Nat := 0
  accepted : List SeqInput := []
  consumed : List SeqInput := []

namespace Session

def ack (g : Session) : U32 := (g.consumed.getLast?.map Prod.fst).getD 0

def onCommand (id : Fin kMaxPlayers) (s : Sim) (g : Session) : InboundCommand → Session
  | .playerJoined i _ _ =>
    if i = Sim.idByte id ∧ s.matchOver = false ∧ (s.players id).active = false then { joins := g.joins + 1 } else g
  | .playerLeft _ => g
  | .playerInput i seq input =>
    if i = Sim.idByte id ∧ s.matchOver = false ∧ (s.players id).active = true ∧ (s.players id).Accepts seq
    then { g with accepted := g.accepted ++ [(seq, input)] } else g

def onPop (id : Fin kMaxPlayers) (s : Sim) (g : Session) : Session :=
  let p := s.players id
  if p.active ∧ p.alive then { g with consumed := g.consumed ++ p.queued.take 1 } else g

end Session

/-- What ties the ring to the record of the session. -/
structure SessionInv (p : Player) (g : Session) : Prop where
  count : p.ringCount ≤ kInputRingSize
  sublist : (g.consumed ++ p.queued).Sublist g.accepted
  sorted : g.accepted.Pairwise (fun a b => a.1.toNat < b.1.toNat)
  bounded : ∀ a ∈ g.accepted, 0 < a.1.toNat ∧ a.1.toNat ≤ p.newestSeq.toNat
  ack : p.lastInputSeq = g.ack

namespace SessionInv

variable {p : Player} {g : Session}

theorem inputs_sorted (h : SessionInv p g) : (g.consumed ++ p.queued).Pairwise (fun a b => a.1.toNat < b.1.toNat) :=
  h.sorted.sublist h.sublist

theorem ack_lt_queued (h : SessionInv p g) : ∀ a ∈ p.queued, p.lastInputSeq.toNat < a.1.toNat := by
  intro a ha
  rw [h.ack, Session.ack]
  cases hLast : g.consumed.getLast? with
  | none => exact (h.bounded a (h.sublist.subset (List.mem_append_right _ ha))).1
  | some c =>
    have hMem : c ∈ g.consumed := List.mem_of_getLast? hLast
    exact (List.pairwise_append.mp h.inputs_sorted).2.2 c hMem a ha

theorem accept (h : SessionInv p g) {seq : U32} (input : InputCmd) (hAccepts : p.Accepts seq) :
    SessionInv (p.acceptInput seq input) { g with accepted := g.accepted ++ [(seq, input)] } := by
  obtain ⟨hQueued, hCount⟩ := Player.queued_acceptInput input hAccepts h.count
  have hNewest : (p.acceptInput seq input).newestSeq = seq := by
    rw [Player.acceptInput_accepted input hAccepts]
    simp only
    split <;> rfl
  have hAck : (p.acceptInput seq input).lastInputSeq = p.lastInputSeq := by
    rw [Player.acceptInput_accepted input hAccepts]
    simp only
    split <;> rfl
  refine ⟨hCount, ?_, ?_, ?_, hAck.trans h.ack⟩
  · rw [hQueued, ← List.append_assoc]
    refine List.Sublist.append ?_ (List.Sublist.refl _)
    split
    · exact ((List.Sublist.refl _).append (List.tail_sublist _)).trans h.sublist
    · exact h.sublist
  · refine List.pairwise_append.mpr ⟨h.sorted, List.pairwise_singleton _ _, ?_⟩
    intro a ha b hb
    rw [List.mem_singleton] at hb
    subst hb
    exact Nat.lt_of_le_of_lt (h.bounded a ha).2 hAccepts.2
  · intro a ha
    rw [hNewest]
    rcases List.mem_append.mp ha with ha | ha
    · have := hAccepts.2
      exact ⟨(h.bounded a ha).1, by have := (h.bounded a ha).2; omega⟩
    · rw [List.mem_singleton] at ha
      subst ha
      exact ⟨Nat.lt_of_le_of_lt (Nat.zero_le _) hAccepts.2, le_rfl⟩

theorem pop (h : SessionInv p g) (hAlive : p.alive = true) :
    SessionInv p.popped { g with consumed := g.consumed ++ p.queued.take 1 } := by
  have hNewest : p.popped.newestSeq = p.newestSeq := by
    simp only [Player.popped]
    split <;> rfl
  cases hQueued : p.queued with
  | nil =>
    obtain ⟨hSame, -⟩ := Player.popped_idle (p := p) (by simp [hQueued])
    rw [hSame, List.take_nil, List.append_nil]
    exact h
  | cons e rest =>
    obtain ⟨hRest, hLast, -, hCount⟩ := Player.popped_cons hAlive hQueued
    refine ⟨hCount.trans h.count, ?_, h.sorted, ?_, ?_⟩
    · have hSub := h.sublist
      rw [hQueued] at hSub
      simpa [hRest] using hSub
    · rw [hNewest]
      exact h.bounded
    · simp [hLast, Session.ack]

/-- The invariant reads only the input side of the player. -/
theorem congr (h : SessionInv p g) {q : Player} (hSame : Sim.SameInputs p q) : SessionInv q g := by
  have hQueued : q.queued = p.queued := by
    simp only [Player.queued, hSame.ring, hSame.seqs, hSame.ringHead, hSame.ringCount]
  exact ⟨by rw [hSame.ringCount]; exact h.count, by rw [hQueued]; exact h.sublist, h.sorted,
    by rw [hSame.newestSeq]; exact h.bounded, by rw [hSame.lastInputSeq]; exact h.ack⟩

end SessionInv
end CaptureTheFlag
