import CaptureTheFlag.Library.Deadlines
import CaptureTheFlag.Server.SimTick

/-! # The pace of the simulation

`Sim::run` sleeps until a deadline before each tick. The readings of the clock are inputs of each lap.
-/
namespace CaptureTheFlag
set_option autoImplicit false

abbrev kNsPerSec : Int := 1000000000

structure Timespec where
  sec : Int
  nsec : Int
deriving DecidableEq, Repr

namespace Timespec

def ns (t : Timespec) : Int := t.sec * kNsPerSec + t.nsec

def Normal (t : Timespec) : Prop := 0 ≤ t.nsec ∧ t.nsec < kNsPerSec

/-- The loop that carries whole seconds. -/
def carry (t : Timespec) : Timespec :=
  if kNsPerSec ≤ t.nsec then carry { sec := t.sec + 1, nsec := t.nsec - kNsPerSec } else t
termination_by t.nsec.toNat
decreasing_by simp only [kNsPerSec] at *; omega

theorem carry_ns (t : Timespec) : t.carry.ns = t.ns := by
  induction t using carry.induct with
  | case1 t hLarge ih =>
    rw [carry, if_pos hLarge, ih]
    simp only [ns, kNsPerSec]
    ring
  | case2 t hSmall => rw [carry, if_neg hSmall]

theorem carry_normal (t : Timespec) (h : 0 ≤ t.nsec) : t.carry.Normal := by
  induction t using carry.induct with
  | case1 t hLarge ih =>
    rw [carry, if_pos hLarge]
    exact ih (Int.sub_nonneg_of_le hLarge)
  | case2 t hSmall =>
    rw [carry, if_neg hSmall]
    exact ⟨h, Int.not_le.mp hSmall⟩

end Timespec

def tickNs (hz : Int) : Int := kNsPerSec.tdiv hz

theorem tickNs_nonneg {hz : Int} (h : 0 < hz) : 0 ≤ tickNs hz := Int.tdiv_nonneg (by decide) h.le

/-- The deadline of a tick: one step behind the last, or the present when that is more than three steps ago. -/
def nextDeadline (step : Int) (next now : Timespec) : Timespec :=
  let next := Timespec.carry { next with nsec := next.nsec + step }
  let behindNs := (next.sec - now.sec) * kNsPerSec + (next.nsec - now.nsec)
  if -behindNs > 3 * step then now else next

/-- Everything one lap of the loop reads: whether to go on, the clock, when the sleep ends, and what the tick drains. -/
structure Lap where
  running : Bool
  now : Timespec
  woken : Timespec
  cmds : List InboundCommand

/-- The clock before a tick, when the tick was due and when it began. -/
structure Beat where
  now : Timespec
  due : Timespec
  woken : Timespec

namespace Sim

def runLoop (rayDir : RayDir) (maxTicks : U32) (step : Int) : Sim → Timespec → U32 → List Lap → Sim × List Beat
  | s, _, _, [] => (s, [])
  | s, next, executed, lap :: laps =>
    if lap.running ∧ (maxTicks = 0 ∨ executed < maxTicks) then
      let due := nextDeadline step next lap.now
      let (s, beats) := runLoop rayDir maxTicks step (s.tick rayDir lap.cmds) due (executed + 1) laps
      (s, ⟨lap.now, due, lap.woken⟩ :: beats)
    else (s, [])

/-- `Sim::run`; `start` is the clock before the first lap. -/
def runPaced (rayDir : RayDir) (s : Sim) (maxTicks : U32) (start : Timespec) (laps : List Lap) : Sim × List Beat :=
  runLoop rayDir maxTicks (tickNs s.tickHz) s start 0 laps

/-- The clock does not run backwards, and a sleep does not end before its deadline. -/
def Clocked (step : Int) : Timespec → Int → List Lap → Prop
  | _, _, [] => True
  | next, last, lap :: laps =>
    let due := nextDeadline step next lap.now
    lap.now.Normal ∧ last ≤ lap.now.ns ∧ lap.now.ns ≤ lap.woken.ns ∧ due.ns ≤ lap.woken.ns ∧
      Clocked step due lap.woken.ns laps

/-- A deadline is one step behind the last, or the present when the clock is more than three steps past that. -/
theorem nextDeadline_cases {step : Int} (hStep : 0 ≤ step) {next now : Timespec} (hNext : next.Normal) (hNow : now.Normal) :
    (nextDeadline step next now).Normal ∧
    ((nextDeadline step next now).ns = next.ns + step ∧ now.ns ≤ next.ns + 4 * step ∨
      nextDeadline step next now = now ∧ next.ns + 4 * step < now.ns) := by
  have hNs : (Timespec.carry { next with nsec := next.nsec + step }).ns = next.ns + step := by
    rw [Timespec.carry_ns]
    simp only [Timespec.ns]
    ring
  have hNormal := Timespec.carry_normal { next with nsec := next.nsec + step } (Int.add_nonneg hNext.1 hStep)
  rw [nextDeadline]
  generalize Timespec.carry { next with nsec := next.nsec + step } = later at hNs hNormal
  have hBehind : (later.sec - now.sec) * kNsPerSec + (later.nsec - now.nsec) = later.ns - now.ns := by
    simp only [Timespec.ns]
    ring
  rw [hBehind, hNs]
  split
  · rename_i hLate
    exact ⟨hNow, Or.inr ⟨rfl, by omega⟩⟩
  · rename_i hTimely
    exact ⟨hNormal, Or.inl ⟨hNs, by omega⟩⟩

/-- The beat `b` comes right after a beat due at `due`, which ended at `last`: one step later, unless the clock is more than
three steps past that and the pace starts afresh. -/
structure Next (step due last : Int) (b : Beat) : Prop where
  after : last ≤ b.now.ns
  due : b.due.ns = due + step ∧ b.now.ns ≤ due + 4 * step ∨ b.due = b.now ∧ due + 4 * step < b.now.ns

theorem Next.follows {step : Int} (hStep : 0 ≤ step) {a b : Beat} (h : Next step a.due.ns a.woken.ns b) :
    Deadlines.Follows (·.due.ns) (·.woken.ns) step (3 * step) a b := by
  have hAfter := h.after
  rcases h.due with ⟨hDue, hNow⟩ | ⟨hDue, hNow⟩
  · exact ⟨by omega, by omega⟩
  · rw [← hDue] at hNow hAfter
    exact ⟨by omega, by omega⟩

theorem runLoop_beats (rayDir : RayDir) (maxTicks : U32) {step : Int} (hStep : 0 ≤ step) (laps : List Lap) (s : Sim)
    {next : Timespec} (hNext : next.Normal) {last : Int} (executed : U32) (hClock : Clocked step next last laps) :
    (∀ b ∈ (runLoop rayDir maxTicks step s next executed laps).2.head?, Next step next.ns last b) ∧
    (runLoop rayDir maxTicks step s next executed laps).2.IsChain (fun a b => Next step a.due.ns a.woken.ns b) ∧
    ∀ b ∈ (runLoop rayDir maxTicks step s next executed laps).2, b.due.Normal ∧ b.due.ns ≤ b.woken.ns := by
  induction laps generalizing s next last executed with
  | nil => exact ⟨fun b hMem => (by cases hMem), .nil, fun b hMem => (by cases hMem)⟩
  | cons lap laps ih =>
    obtain ⟨hNow, hLast, -, hWoken, hRest⟩ := hClock
    obtain ⟨hDueNormal, hDue⟩ := nextDeadline_cases hStep hNext hNow
    rw [runLoop]
    split
    · obtain ⟨hHead, hChain, hAll⟩ := ih (s.tick rayDir lap.cmds) hDueNormal (executed + 1) hRest
      refine ⟨?_, ?_, ?_⟩
      · intro b hMem
        cases hMem
        exact ⟨hLast, hDue⟩
      · exact hChain.cons hHead
      · intro b hMem
        rcases List.mem_cons.mp hMem with rfl | hMem
        · exact ⟨hDueNormal, hWoken⟩
        · exact hAll b hMem
    · exact ⟨fun b hMem => (by cases hMem), .nil, fun b hMem => (by cases hMem)⟩

theorem runLoop_sim (rayDir : RayDir) (maxTicks : U32) (step : Int) (laps : List Lap) (s : Sim) (next : Timespec)
    (executed : U32) :
    (runLoop rayDir maxTicks step s next executed laps).1 =
      s.run rayDir ((laps.take (runLoop rayDir maxTicks step s next executed laps).2.length).map (·.cmds)) := by
  induction laps generalizing s next executed with
  | nil => rfl
  | cons lap laps ih =>
    rw [runLoop]
    split
    · simp only [List.length_cons, List.take_succ_cons, List.map_cons, run_cons]
      exact ih _ _ _
    · rfl

/-- How many ticks are run when nobody stops the loop. -/
def ticksOf (maxTicks executed : U32) (laps : List Lap) : Nat :=
  if maxTicks = 0 then laps.length else min laps.length (maxTicks.toNat - executed.toNat)

theorem ticksOf_cons {maxTicks executed : U32} (h : maxTicks = 0 ∨ executed < maxTicks) (lap : Lap) (laps : List Lap) :
    ticksOf maxTicks executed (lap :: laps) = ticksOf maxTicks (executed + 1) laps + 1 := by
  rw [ticksOf, ticksOf]
  split
  · rfl
  · rename_i hBounded
    have hLess : executed.toNat < maxTicks.toNat := (h.resolve_left hBounded)
    have hNext : (executed + 1).toNat = executed.toNat + 1 := by
      have hMax := maxTicks.isLt
      rw [BitVec.toNat_add]
      exact Nat.mod_eq_of_lt (by simp; omega)
    rw [hNext, List.length_cons]
    omega

theorem runLoop_length (rayDir : RayDir) (maxTicks : U32) (step : Int) (laps : List Lap) (s : Sim) (next : Timespec)
    (executed : U32) :
    (runLoop rayDir maxTicks step s next executed laps).2.length ≤ ticksOf maxTicks executed laps ∧
    ((∀ lap ∈ laps, lap.running = true) →
      (runLoop rayDir maxTicks step s next executed laps).2.length = ticksOf maxTicks executed laps) := by
  induction laps generalizing s next executed with
  | nil => simp [runLoop, ticksOf]
  | cons lap laps ih =>
    rw [runLoop]
    split
    · rename_i hGoes
      obtain ⟨hMost, hAll⟩ := ih (s.tick rayDir lap.cmds) (nextDeadline step next lap.now) (executed + 1)
      rw [ticksOf_cons hGoes.2]
      refine ⟨Nat.succ_le_succ hMost, fun hRunning => ?_⟩
      exact congrArg Nat.succ (hAll fun lap' hMem => hRunning lap' (List.mem_cons_of_mem _ hMem))
    · rename_i hEnds
      refine ⟨Nat.zero_le _, fun hRunning => ?_⟩
      have hDone : ¬ (maxTicks = 0 ∨ executed < maxTicks) := fun hGoes => hEnds ⟨hRunning lap List.mem_cons_self, hGoes⟩
      have hBounded : ¬ maxTicks = 0 := fun hZero => hDone (Or.inl hZero)
      have hLess : ¬ executed.toNat < maxTicks.toNat := fun hLess => hDone (Or.inr hLess)
      rw [ticksOf, if_neg hBounded, Nat.sub_eq_zero_of_le (Nat.le_of_not_lt hLess), Nat.min_zero]
      rfl

/-- The loop runs the ticks of the simulation one by one, each at or after its deadline. Deadlines are evenly spaced as long
as the loop is at most three ticks behind; beyond that it starts afresh instead of catching up, so that however late a tick
comes, no later ones come in a burst. -/
theorem run_paced (rayDir : RayDir) (s : Sim) (hHz : 0 < s.tickHz) (maxTicks : U32) (start : Timespec)
    (hStart : start.Normal) (laps : List Lap) (hClock : Clocked (tickNs s.tickHz) start start.ns laps) :
    let beats := (s.runPaced rayDir maxTicks start laps).2
    (s.runPaced rayDir maxTicks start laps).1 = s.run rayDir ((laps.take beats.length).map (·.cmds)) ∧
    (beats.length ≤ ticksOf maxTicks 0 laps ∧
      ((∀ lap ∈ laps, lap.running = true) → beats.length = ticksOf maxTicks 0 laps)) ∧
    (∀ b ∈ beats, b.due.Normal ∧ b.due.ns ≤ b.woken.ns) ∧
    (∀ b ∈ beats.head?, Next (tickNs s.tickHz) start.ns start.ns b) ∧
    (∀ i (h : i + 1 < beats.length), Next (tickNs s.tickHz) beats[i].due.ns beats[i].woken.ns beats[i + 1]) ∧
    ∀ i k (h : i + 1 + k < beats.length), beats[i].woken.ns + (k - 3) * tickNs s.tickHz ≤ beats[i + 1 + k].woken.ns := by
  intro beats
  have hStep := tickNs_nonneg hHz
  obtain ⟨hHead, hChain, hAll⟩ := runLoop_beats rayDir maxTicks hStep laps s hStart 0 hClock
  refine ⟨runLoop_sim .., runLoop_length .., hAll, hHead, fun i h => hChain.getElem i h, fun i k h => ?_⟩
  have hFollows := hChain.imp fun a b hNext => Next.follows hStep hNext
  have hSpread := Deadlines.woke_le hFollows (fun b hMem => (hAll b hMem).2) i k h
  calc beats[i].woken.ns + (k - 3) * tickNs s.tickHz
      = beats[i].woken.ns - 3 * tickNs s.tickHz + k * tickNs s.tickHz := by ring
    _ ≤ beats[i + 1 + k].woken.ns := hSpread

/-- Two ticks, the second after a stall of almost a second. -/
def stalled : List Lap :=
  [{ running := true, now := ⟨0, 1⟩, woken := ⟨0, 40000000⟩, cmds := [] },
    { running := true, now := ⟨1, 0⟩, woken := ⟨1, 5⟩, cmds := [] }]

theorem carry_small {t : Timespec} (h : t.nsec < kNsPerSec) : t.carry = t := by
  rw [Timespec.carry, if_neg (Int.not_le.mpr h)]

theorem clocked_stalled : Clocked (tickNs 30) ⟨0, 0⟩ 0 stalled := by
  have hFirst : nextDeadline (tickNs 30) ⟨0, 0⟩ ⟨0, 1⟩ = ⟨0, 33333333⟩ := by
    rw [nextDeadline, carry_small (by decide)]
    decide
  have hSecond : nextDeadline (tickNs 30) ⟨0, 33333333⟩ ⟨1, 0⟩ = ⟨1, 0⟩ := by
    rw [nextDeadline, carry_small (by decide)]
    decide
  rw [stalled, Clocked, hFirst, Clocked, hSecond]
  exact ⟨⟨by decide, by decide⟩, by decide, by decide, by decide, ⟨by decide, by decide⟩, by decide, by decide, by decide,
    trivial⟩

theorem run_paced_stalled :
    let beats := ((configured 30 30 true).runPaced (fun _ => (0, 0)) 0 ⟨0, 0⟩ stalled).2
    beats.length = 2 ∧ ∀ b ∈ beats, b.due.Normal ∧ b.due.ns ≤ b.woken.ns := by
  intro beats
  have hPaced := run_paced (fun _ => (0, 0)) (configured 30 30 true) (by decide) 0 ⟨0, 0⟩ ⟨by decide, by decide⟩ stalled
    clocked_stalled
  have hRunning : ∀ lap ∈ stalled, lap.running = true := by decide +kernel
  exact ⟨hPaced.2.1.2 hRunning, hPaced.2.2.1⟩

end Sim
end CaptureTheFlag
