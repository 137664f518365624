import Mathlib.Data.List.Nodup
import Mathlib.Data.List.Perm.Subperm
import Mathlib.Logic.Function.Basic
import Mathlib.Order.Lattice
import Mathlib.Tactic.Common

/-! # The two pollers

`poll` goes through a vector of descriptors, `epoll` keeps them in a set inside the kernel. Both are one table of what is
watched, and report from it.
-/
namespace CaptureTheFlag
set_option autoImplicit false

/-- The bits of one descriptor, asked for or reported. -/
structure PollBits where
  pollin : Bool := false
  pollout : Bool := false
  pollerr : Bool := false
  pollhup : Bool := false
  pollnval : Bool := false
deriving DecidableEq, Repr

structure PollResult where
  fd : Int
  readable : Bool
  writable : Bool
deriving DecidableEq, Repr

/-- The calls that change what is watched. -/
inductive PollerCall where
  | add (fd : Int) (watchWrite : Bool)
  | remove (fd : Int)
  | setWatchWrite (fd : Int) (watchWrite : Bool)
deriving DecidableEq, Repr

/-- For each watched descriptor, whether it is watched for writing too. -/
abbrev Interest := Int → Option Bool

namespace Interest

def add (interest : Interest) (fd : Int) (watchWrite : Bool) : Interest := Function.update interest fd (some watchWrite)

def remove (interest : Interest) (fd : Int) : Interest := Function.update interest fd none

def setWatchWrite (interest : Interest) (fd : Int) (watchWrite : Bool) : Interest :=
  Function.update interest fd ((interest fd).map fun _ => watchWrite)

def call (interest : Interest) : PollerCall → Interest
  | .add fd watchWrite => interest.add fd watchWrite
  | .remove fd => interest.remove fd
  | .setWatchWrite fd watchWrite => interest.setWatchWrite fd watchWrite

/-- What is to be said about a descriptor: errors and hangups count as readable. -/
def report (interest : Interest) (ready : Int → PollBits) (fd : Int) : Option PollResult :=
  (interest fd).bind fun watchWrite =>
    let bits := ready fd
    let readable := bits.pollin || bits.pollerr || bits.pollhup || bits.pollnval
    let writable := bits.pollout && watchWrite
    if readable || writable then some { fd, readable, writable } else none

/-- Every ready descriptor once, in any order, unless there is no room for all. -/
structure Reports (interest : Interest) (ready : Int → PollBits) (room : Nat) (results : List PollResult) : Prop where
  distinct : (results.map (·.fd)).Nodup
  fits : results.length ≤ room
  sound : ∀ r ∈ results, interest.report ready r.fd = some r
  complete : results.length < room → ∀ fd r, interest.report ready fd = some r → r ∈ results

theorem report_fd {interest : Interest} {ready : Int → PollBits} {fd : Int} {r : PollResult}
    (h : interest.report ready fd = some r) : r.fd = fd := by
  obtain ⟨watchWrite, -, hSome⟩ := Option.bind_eq_some_iff.mp h
  simp only at hSome
  split at hSome
  · cases hSome
    rfl
  · cases hSome

/-- Where one of the two has room for all, both say the same. -/
theorem Reports.perm {interest : Interest} {ready : Int → PollBits} {room : Nat} {results results' : List PollResult}
    (h : Reports interest ready room results) (h' : Reports interest ready room results') (hRoom : results.length < room) :
    results.Perm results' := by
  have hNodup : results.Nodup := h.distinct.of_map _
  have hNodup' : results'.Nodup := h'.distinct.of_map _
  have hSub : results' ⊆ results := fun r hMem => h.complete hRoom _ r (h'.sound r hMem)
  have hLength : results'.length ≤ results.length := (hNodup'.subperm hSub).length_le
  have hSub' : results ⊆ results' := fun r hMem => h'.complete (hLength.trans_lt hRoom) _ r (h.sound r hMem)
  exact (List.perm_ext_iff_of_nodup hNodup hNodup').mpr fun r => ⟨fun hMem => hSub' hMem, fun hMem => hSub hMem⟩

end Interest

/-- `pollfd`. -/
structure PollFd where
  fd : Int
  events : PollBits
deriving DecidableEq, Repr

/-- What the kernel writes into `revents`; errors are reported unasked. -/
def PollFd.revents (ready : Int → PollBits) (p : PollFd) : PollBits :=
  let bits := ready p.fd
  { bits with pollin := bits.pollin && p.events.pollin, pollout := bits.pollout && p.events.pollout }

def PollFd.result (ready : Int → PollBits) (p : PollFd) : Option PollResult :=
  let revents := p.revents ready
  if revents = {} then none
  else
    some
      { fd := p.fd
        readable := revents.pollin || revents.pollerr || revents.pollhup || revents.pollnval
        writable := revents.pollout }

/-- The loop of `wait` that writes results until the array is full. -/
def collect {α : Type} (result : α → Option PollResult) (maxResults : Nat) : List α → Nat → List PollResult
  | [], _ => []
  | a :: rest, count =>
    match result a with
    | none => collect result maxResults rest count
    | some r => if count + 1 = maxResults then [r] else r :: collect result maxResults rest (count + 1)

theorem collect_eq {α : Type} (result : α → Option PollResult) (maxResults : Nat) (as : List α) (count : Nat)
    (hRoom : count < maxResults) :
    collect result maxResults as count = (as.filterMap result).take (maxResults - count) := by
  induction as generalizing count with
  | nil => exact List.take_nil.symm
  | cons a as ih =>
    rw [collect, List.filterMap_cons]
    cases result a with
    | none => exact ih count hRoom
    | some r =>
      obtain ⟨left, hLeft⟩ : ∃ left, maxResults - count = left + 1 := ⟨maxResults - count - 1, by omega⟩
      simp only [hLeft, List.take_succ_cons]
      split
      · have hNone : left = 0 := by omega
        rw [hNone, List.take_zero]
      · rw [ih (count + 1) (by omega)]
        have hLater : maxResults - (count + 1) = left := by omega
        rw [hLater]

structure PollPoller where
  fds : List PollFd := []

namespace PollPoller

def remove (poller : PollPoller) (fd : Int) : PollPoller := { fds := poller.fds.filter (·.fd != fd) }

def add (poller : PollPoller) (fd : Int) (watchWrite : Bool) : PollPoller :=
  { fds := (poller.remove fd).fds ++ [{ fd, events := { pollin := true, pollout := watchWrite } }] }

def setWatchWrite (poller : PollPoller) (fd : Int) (watchWrite : Bool) : PollPoller :=
  { fds := poller.fds.map fun p =>
      if p.fd = fd then { p with events := { p.events with pollout := watchWrite } } else p }

def call (poller : PollPoller) : PollerCall → PollPoller
  | .add fd watchWrite => poller.add fd watchWrite
  | .remove fd => poller.remove fd
  | .setWatchWrite fd watchWrite => poller.setWatchWrite fd watchWrite

/-- `interrupted`: `poll` came back with an error. -/
def wait (poller : PollPoller) (interrupted : Bool) (ready : Int → PollBits) (maxResults : Nat) : List PollResult :=
  if interrupted then [] else collect (PollFd.result ready) maxResults poller.fds 0

/-- The table behind the vector. -/
def interest (poller : PollPoller) : Interest := fun fd =>
  (poller.fds.find? (·.fd == fd)).map fun p => p.events.pollout

/-- No descriptor stands twice in the vector, and each is watched for reading. -/
structure Ok (poller : PollPoller) : Prop where
  distinct : (poller.fds.map (·.fd)).Nodup
  reads : ∀ p ∈ poller.fds, p.events = { pollin := true, pollout := p.events.pollout }

variable {poller : PollPoller}

theorem find_fd {fds : List PollFd} {fd : Int} {p : PollFd} (h : fds.find? (·.fd == fd) = some p) : p.fd = fd := by
  simpa using List.find?_some h

theorem interest_eq_some (h : Ok poller) {fd : Int} {watchWrite : Bool} :
    poller.interest fd = some watchWrite ↔ ⟨fd, { pollin := true, pollout := watchWrite }⟩ ∈ poller.fds := by
  constructor
  · intro hSome
    obtain ⟨p, hFind, rfl⟩ := Option.map_eq_some_iff.mp hSome
    have hFd : p.fd = fd := find_fd hFind
    have hMem := List.mem_of_find?_eq_some hFind
    rw [← h.reads p hMem, ← hFd]
    exact hMem
  · intro hMem
    obtain ⟨p, hFind⟩ : ∃ p, poller.fds.find? (·.fd == fd) = some p := by
      rw [← Option.isSome_iff_exists, List.find?_isSome]
      exact ⟨_, hMem, beq_self_eq_true fd⟩
    have hFd : p.fd = fd := find_fd hFind
    have hSame := List.inj_on_of_nodup_map h.distinct (List.mem_of_find?_eq_some hFind) hMem hFd
    rw [interest, hFind, hSame]
    rfl

theorem Ok.empty : Ok {} where
  distinct := List.nodup_nil
  reads _ hMem := absurd hMem List.not_mem_nil

theorem Ok.remove (h : Ok poller) (fd : Int) : Ok (poller.remove fd) where
  distinct := h.distinct.sublist (List.filter_sublist.map _)
  reads p hMem := h.reads p (List.mem_filter.mp hMem).1

theorem Ok.add (h : Ok poller) (fd : Int) (watchWrite : Bool) : Ok (poller.add fd watchWrite) := by
  have hRest := h.remove fd
  refine ⟨?_, ?_⟩
  · rw [PollPoller.add, List.map_append]
    refine hRest.distinct.append (List.nodup_singleton fd) ?_
    intro other hOther hNew
    obtain ⟨p, hMem, rfl⟩ := List.mem_map.mp hOther
    have hne := (List.mem_filter.mp hMem).2
    rw [List.mem_singleton.mp hNew] at hne
    simp at hne
  · intro p hMem
    rcases List.mem_append.mp hMem with hOld | hNew
    · exact hRest.reads p hOld
    · rw [List.mem_singleton.mp hNew]

theorem Ok.setWatchWrite (h : Ok poller) (fd : Int) (watchWrite : Bool) : Ok (poller.setWatchWrite fd watchWrite) := by
  refine ⟨?_, ?_⟩
  · rw [PollPoller.setWatchWrite, List.map_map]
    have hSame : ((·.fd) ∘ fun p : PollFd =>
        if p.fd = fd then { p with events := { p.events with pollout := watchWrite } } else p) = (·.fd) := by
      funext p
      simp only [Function.comp_apply]
      split <;> rfl
    rw [hSame]
    exact h.distinct
  · intro p hMem
    obtain ⟨q, hOld, rfl⟩ := List.mem_map.mp hMem
    have hReads := h.reads q hOld
    split
    · rw [hReads]
    · exact hReads

theorem Ok.call (h : Ok poller) (c : PollerCall) : Ok (poller.call c) := by
  cases c with
  | add fd watchWrite => exact h.add fd watchWrite
  | remove fd => exact h.remove fd
  | setWatchWrite fd watchWrite => exact h.setWatchWrite fd watchWrite

theorem mem_remove {fd : Int} {p : PollFd} : p ∈ (poller.remove fd).fds ↔ p ∈ poller.fds ∧ p.fd ≠ fd := by
  rw [remove, List.mem_filter, bne_iff_ne]

theorem interest_remove (h : Ok poller) (fd : Int) : (poller.remove fd).interest = poller.interest.remove fd := by
  funext other
  ext watchWrite
  rw [interest_eq_some (h.remove fd), mem_remove, ← interest_eq_some h, Interest.remove]
  by_cases hOther : other = fd
  · simp [hOther]
  · simp [hOther]

theorem interest_add (h : Ok poller) (fd : Int) (watchWrite : Bool) :
    (poller.add fd watchWrite).interest = poller.interest.add fd watchWrite := by
  funext other
  ext bit
  rw [interest_eq_some (h.add fd watchWrite), add, List.mem_append, mem_remove, ← interest_eq_some h, Interest.add,
    List.mem_singleton]
  by_cases hOther : other = fd
  · simp [hOther, eq_comm]
  · simp [hOther]

theorem interest_setWatchWrite (fd : Int) (watchWrite : Bool) :
    (poller.setWatchWrite fd watchWrite).interest = poller.interest.setWatchWrite fd watchWrite := by
  funext other
  rw [interest, setWatchWrite, List.find?_map, Interest.setWatchWrite]
  have hKey : ((·.fd == other) ∘ fun p : PollFd =>
      if p.fd = fd then { p with events := { p.events with pollout := watchWrite } } else p) = (·.fd == other) := by
    funext p
    simp only [Function.comp_apply]
    split <;> rfl
  rw [hKey, Option.map_map]
  by_cases hOther : other = fd
  · subst hOther
    rw [Function.update_self, interest, Option.map_map]
    cases hFind : poller.fds.find? (·.fd == other) with
    | none => rfl
    | some p =>
      have hFd : p.fd = other := find_fd hFind
      simp [hFd]
  · rw [Function.update_of_ne hOther, interest]
    cases hFind : poller.fds.find? (·.fd == other) with
    | none => rfl
    | some p =>
      have hFd : p.fd = other := find_fd hFind
      simp [hFd, hOther]

/-- Every call does to the vector what it does to the table. -/
theorem interest_call (h : Ok poller) (c : PollerCall) : (poller.call c).interest = poller.interest.call c := by
  cases c with
  | add fd watchWrite => exact interest_add h fd watchWrite
  | remove fd => exact interest_remove h fd
  | setWatchWrite fd watchWrite => exact interest_setWatchWrite fd watchWrite

/-- The entry of a watched descriptor says what the table says. -/
theorem result_eq_report (h : Ok poller) (ready : Int → PollBits) {p : PollFd} (hMem : p ∈ poller.fds) :
    p.result ready = poller.interest.report ready p.fd := by
  have hReads := h.reads p hMem
  have hSome : poller.interest p.fd = some p.events.pollout := by
    rw [interest_eq_some h, ← hReads]
    exact hMem
  rw [Interest.report, hSome, Option.bind_some, PollFd.result, PollFd.revents, hReads]
  cases ready p.fd with
  | mk pollin pollout pollerr pollhup pollnval =>
    cases pollin <;> cases pollout <;> cases pollerr <;> cases pollhup <;> cases pollnval <;>
      cases p.events.pollout <;> rfl

theorem mem_results (h : Ok poller) (ready : Int → PollBits) (r : PollResult) :
    r ∈ poller.fds.filterMap (PollFd.result ready) ↔ poller.interest.report ready r.fd = some r := by
  rw [List.mem_filterMap]
  constructor
  · rintro ⟨p, hMem, hResult⟩
    rw [result_eq_report h ready hMem] at hResult
    rw [Interest.report_fd hResult]
    exact hResult
  · intro hReport
    obtain ⟨watchWrite, hWatched, -⟩ := Option.bind_eq_some_iff.mp hReport
    have hMem := (interest_eq_some h).mp hWatched
    exact ⟨_, hMem, (result_eq_report h ready hMem).trans hReport⟩

/-- `wait` reports from the table. -/
theorem wait_reports (h : Ok poller) (ready : Int → PollBits) {maxResults : Nat} (hRoom : 0 < maxResults) :
    poller.interest.Reports ready maxResults (poller.wait false ready maxResults) := by
  have hWait : poller.wait false ready maxResults =
      (poller.fds.filterMap (PollFd.result ready)).take maxResults := by
    rw [wait, if_neg Bool.false_ne_true, collect_eq _ _ _ _ hRoom, Nat.sub_zero]
  rw [hWait]
  refine ⟨?_, List.length_take_le _ _, ?_, ?_⟩
  · have hDistinct := h.distinct
    rw [List.nodup_iff_pairwise_ne, List.pairwise_map] at hDistinct
    have hAll : ((poller.fds.filterMap (PollFd.result ready)).map (·.fd)).Nodup := by
      rw [List.nodup_iff_pairwise_ne, List.pairwise_map, List.pairwise_filterMap]
      refine hDistinct.imp_of_mem fun {p q} hp hq hne r hr r' hr' => ?_
      rw [result_eq_report h ready hp] at hr
      rw [result_eq_report h ready hq] at hr'
      rw [Interest.report_fd hr, Interest.report_fd hr']
      exact hne
    exact hAll.sublist ((List.take_sublist _ _).map _)
  · exact fun r hTaken => (mem_results h ready r).mp (List.mem_of_mem_take hTaken)
  · intro hLess fd r hReport
    have hMem : r ∈ poller.fds.filterMap (PollFd.result ready) := by
      rw [mem_results h, Interest.report_fd hReport]
      exact hReport
    rw [List.length_take] at hLess
    rw [List.take_of_length_le (by omega)]
    exact hMem

end PollPoller

/-- The size of the array that `epoll_wait` fills. -/
abbrev kEpollEvents : Nat := 32

/-- The set of the kernel behind `epfd_`, and the vector that tells whether it is empty. -/
structure EpollPoller where
  watched : Interest := fun _ => none
  fds : List Int := []

namespace EpollPoller

def remove (poller : EpollPoller) (fd : Int) : EpollPoller :=
  { watched := Function.update poller.watched fd none, fds := poller.fds.filter (· != fd) }

/-- `accepted`: the kernel has taken the descriptor into its set. -/
def add (poller : EpollPoller) (accepted : Bool) (fd : Int) (watchWrite : Bool) : EpollPoller :=
  let poller := poller.remove fd
  if accepted then { watched := Function.update poller.watched fd (some watchWrite), fds := poller.fds ++ [fd] }
  else poller

/-- `EPOLL_CTL_MOD` fails for a descriptor outside the set. -/
def setWatchWrite (poller : EpollPoller) (fd : Int) (watchWrite : Bool) : EpollPoller :=
  if (poller.watched fd).isSome then { poller with watched := Function.update poller.watched fd (some watchWrite) }
  else poller

def call (poller : EpollPoller) : PollerCall → EpollPoller
  | .add fd watchWrite => poller.add true fd watchWrite
  | .remove fd => poller.remove fd
  | .setWatchWrite fd watchWrite => poller.setWatchWrite fd watchWrite

/-- One `epoll_event` of a descriptor in the set. -/
def event (ready : Int → PollBits) (fd : Int) (watchWrite : Bool) : PollBits :=
  let bits := ready fd
  { pollin := bits.pollin, pollout := bits.pollout && watchWrite, pollerr := bits.pollerr, pollhup := bits.pollhup }

def result (ev : Int × PollBits) : PollResult :=
  { fd := ev.1, readable := ev.2.pollin || ev.2.pollerr || ev.2.pollhup, writable := ev.2.pollout }

def maxEvents (maxResults : Nat) : Nat := if kEpollEvents < maxResults then kEpollEvents else maxResults

/-- `events`: what `epoll_wait` has written; it is not called on an empty set. -/
def wait (poller : EpollPoller) (events : List (Int × PollBits)) (maxResults : Nat) : List PollResult :=
  if poller.fds = [] then [] else collect (fun ev => some (result ev)) maxResults events 0

/-- What `epoll_wait` writes: ready descriptors of its set, each once and in any order, and all of them if there is room. -/
structure Answers (watched : Interest) (ready : Int → PollBits) (room : Nat) (events : List (Int × PollBits)) : Prop where
  distinct : (events.map Prod.fst).Nodup
  fits : events.length ≤ room
  sound : ∀ ev ∈ events, ev.2 ≠ {} ∧ ∃ watchWrite, watched ev.1 = some watchWrite ∧ ev.2 = event ready ev.1 watchWrite
  complete : events.length < room → ∀ fd watchWrite, watched fd = some watchWrite → event ready fd watchWrite ≠ {} →
    (fd, event ready fd watchWrite) ∈ events

/-- The vector lists what is in the set. -/
def Ok (poller : EpollPoller) : Prop := ∀ fd, fd ∈ poller.fds ↔ (poller.watched fd).isSome = true

variable {poller : EpollPoller}

theorem Ok.empty : Ok {} := by
  intro fd
  simp

theorem Ok.remove (h : Ok poller) (fd : Int) : Ok (poller.remove fd) := by
  intro other
  rw [EpollPoller.remove, List.mem_filter, h other]
  by_cases hOther : other = fd
  · simp [hOther]
  · simp [hOther]

theorem Ok.call (h : Ok poller) (c : PollerCall) : Ok (poller.call c) := by
  cases c with
  | add fd watchWrite =>
    intro other
    have hRest := h.remove fd other
    simp only [EpollPoller.call, add, if_true, List.mem_append, List.mem_singleton, hRest]
    by_cases hOther : other = fd
    · simp [hOther]
    · simp [hOther]
  | remove fd => exact h.remove fd
  | setWatchWrite fd watchWrite =>
    intro other
    rw [EpollPoller.call, setWatchWrite]
    split
    · rename_i hWatched
      rw [h other]
      by_cases hOther : other = fd
      · simp [hOther, hWatched]
      · simp [hOther]
    · exact h other

theorem watched_call (poller : EpollPoller) (c : PollerCall) : (poller.call c).watched = poller.watched.call c := by
  cases c with
  | add fd watchWrite => simp only [call, add, if_true, remove, Function.update_idem, Interest.call, Interest.add]
  | remove fd => rfl
  | setWatchWrite fd watchWrite =>
    rw [call, setWatchWrite, Interest.call, Interest.setWatchWrite]
    cases hWatched : poller.watched fd with
    | none =>
      have hSame : Function.update poller.watched fd none = poller.watched := by rw [← hWatched, Function.update_eq_self]
      exact hSame.symm
    | some old => rfl

/-- While no watched descriptor is closed, an `epoll_event` says what the table says. -/
theorem result_eq_report {ready : Int → PollBits} {fd : Int} {watchWrite : Bool} {watched : Interest}
    (hOpen : (ready fd).pollnval = false) (hWatched : watched fd = some watchWrite) :
    watched.report ready fd =
      if event ready fd watchWrite = {} then none else some (result (fd, event ready fd watchWrite)) := by
  rw [Interest.report, hWatched, Option.bind_some, event]
  cases hReady : ready fd with
  | mk pollin pollout pollerr pollhup pollnval =>
    rw [hReady] at hOpen
    simp only at hOpen
    subst hOpen
    cases pollin <;> cases pollout <;> cases pollerr <;> cases pollhup <;> cases watchWrite <;> rfl

/-- `wait` reports from the table. -/
theorem wait_reports (h : Ok poller) {ready : Int → PollBits} (hOpen : ∀ fd, (ready fd).pollnval = false)
    {maxResults : Nat} (hRoom : 0 < maxResults) (hMax : maxResults ≤ kEpollEvents) {events : List (Int × PollBits)}
    (hAnswers : Answers poller.watched ready (maxEvents maxResults) events) :
    poller.watched.Reports ready maxResults (poller.wait events maxResults) := by
  have hAll : maxEvents maxResults = maxResults := if_neg (Nat.not_lt.mpr hMax)
  have hWatchedOf : ∀ {fd r}, poller.watched.report ready fd = some r → ∃ watchWrite, poller.watched fd = some watchWrite := by
    intro fd r hReport
    obtain ⟨watchWrite, hWatched, -⟩ := Option.bind_eq_some_iff.mp hReport
    exact ⟨watchWrite, hWatched⟩
  rw [wait]
  split
  · rename_i hEmpty
    refine ⟨List.nodup_nil, Nat.zero_le _, fun r hMem => absurd hMem List.not_mem_nil, fun _ fd r hReport => ?_⟩
    obtain ⟨watchWrite, hWatched⟩ := hWatchedOf hReport
    have hMem := (h fd).mpr (by rw [hWatched]; rfl)
    rw [hEmpty] at hMem
    cases hMem
  · have hFits : events.length ≤ maxResults := hAll ▸ hAnswers.fits
    rw [collect_eq _ _ _ _ hRoom, Nat.sub_zero, List.filterMap_eq_map', List.take_of_length_le (by simpa using hFits)]
    refine ⟨?_, by simpa using hFits, ?_, ?_⟩
    · rw [List.map_map]
      exact hAnswers.distinct
    · intro r hMem
      obtain ⟨ev, hEv, rfl⟩ := List.mem_map.mp hMem
      obtain ⟨hBits, watchWrite, hWatched, hEvent⟩ := hAnswers.sound ev hEv
      have hReport := result_eq_report (hOpen ev.1) hWatched
      rw [if_neg (hEvent ▸ hBits), ← hEvent] at hReport
      exact hReport
    · intro hLess fd r hReport
      obtain ⟨watchWrite, hWatched⟩ := hWatchedOf hReport
      rw [result_eq_report (hOpen fd) hWatched] at hReport
      split at hReport
      · cases hReport
      · rename_i hBits
        rw [← Option.some.inj hReport]
        rw [List.length_map] at hLess
        exact List.mem_map_of_mem (hAnswers.complete (hAll.symm ▸ hLess) fd watchWrite hWatched hBits)

end EpollPoller

theorem PollPoller.interest_calls (calls : List PollerCall) {poller : PollPoller} (h : poller.Ok) :
    (calls.foldl call poller).Ok ∧ (calls.foldl call poller).interest = calls.foldl Interest.call poller.interest := by
  induction calls generalizing poller with
  | nil => exact ⟨h, rfl⟩
  | cons c calls ih =>
    rw [List.foldl_cons, List.foldl_cons, ← interest_call h c]
    exact ih (h.call c)

theorem EpollPoller.watched_calls (calls : List PollerCall) {poller : EpollPoller} (h : poller.Ok) :
    (calls.foldl call poller).Ok ∧ (calls.foldl call poller).watched = calls.foldl Interest.call poller.watched := by
  induction calls generalizing poller with
  | nil => exact ⟨h, rfl⟩
  | cons c calls ih =>
    rw [List.foldl_cons, List.foldl_cons, ← watched_call poller c]
    exact ih (h.call c)

/-- After the same calls both pollers watch the same descriptors, and for the same readiness they report the same. -/
theorem pollers_agree (calls : List PollerCall) (ready : Int → PollBits) (hOpen : ∀ fd, (ready fd).pollnval = false)
    (maxResults : Nat) (hRoom : 0 < maxResults) (hMax : maxResults ≤ kEpollEvents) (events : List (Int × PollBits))
    (hAnswers : EpollPoller.Answers (calls.foldl EpollPoller.call {}).watched ready (EpollPoller.maxEvents maxResults) events) :
    let polled := (calls.foldl PollPoller.call {}).wait false ready maxResults
    let epolled := (calls.foldl EpollPoller.call {}).wait events maxResults
    let watched : Interest := calls.foldl Interest.call fun _ => none
    watched.Reports ready maxResults polled ∧ watched.Reports ready maxResults epolled ∧
      (polled.length < maxResults ∨ epolled.length < maxResults → polled.Perm epolled) := by
  intro polled epolled watched
  obtain ⟨hPollOk, hInterest⟩ := PollPoller.interest_calls calls PollPoller.Ok.empty
  obtain ⟨hEpollOk, hWatched⟩ := EpollPoller.watched_calls calls EpollPoller.Ok.empty
  have hPolled : watched.Reports ready maxResults polled := by
    have hReports := PollPoller.wait_reports hPollOk ready hRoom
    rw [hInterest] at hReports
    exact hReports
  have hEpolled : watched.Reports ready maxResults epolled := by
    have hReports := EpollPoller.wait_reports hEpollOk hOpen hRoom hMax hAnswers
    rw [hWatched] at hReports
    exact hReports
  refine ⟨hPolled, hEpolled, ?_⟩
  rintro (hLess | hLess)
  · exact hPolled.perm hEpolled hLess
  · exact (hEpolled.perm hPolled hLess).symm

/-- Two descriptors, of which the kernel's set lists the later one first. -/
theorem pollers_agree_two :
    let calls : List PollerCall := [.add 3 false, .add 4 true, .add 5 true, .setWatchWrite 3 true, .remove 4]
    let ready : Int → PollBits := fun fd => if fd = 3 then { pollout := true } else { pollin := true }
    ((calls.foldl PollPoller.call {}).wait false ready 32).Perm
      ((calls.foldl EpollPoller.call {}).wait [(5, { pollin := true }), (3, { pollout := true })] 32) := by
  intro calls ready
  have hOpen : ∀ fd, (ready fd).pollnval = false := by
    intro fd
    simp only [ready]
    split <;> rfl
  have hWatched : ∀ fd watchWrite, (calls.foldl EpollPoller.call {}).watched fd = some watchWrite →
      fd = 3 ∧ watchWrite = true ∨ fd = 5 ∧ watchWrite = true := by
    intro fd watchWrite hSome
    by_cases h3 : fd = 3
    · subst h3
      exact Or.inl ⟨rfl, (Option.some.inj hSome).symm⟩
    · by_cases h5 : fd = 5
      · subst h5
        exact Or.inr ⟨rfl, (Option.some.inj hSome).symm⟩
      · by_cases h4 : fd = 4
        · subst h4
          cases hSome
        · simp [calls, EpollPoller.call, EpollPoller.add, EpollPoller.remove, EpollPoller.setWatchWrite, h3, h4, h5] at hSome
  refine (pollers_agree calls ready hOpen 32 (by decide) (by decide) [(5, { pollin := true }), (3, { pollout := true })]
    ⟨by decide, by decide, ?_, ?_⟩).2.2 (Or.inl (by decide))
  · intro ev hMem
    rcases List.mem_cons.mp hMem with rfl | hMem
    · exact ⟨by decide, true, rfl, rfl⟩
    · rw [List.mem_singleton.mp hMem]
      exact ⟨by decide, true, rfl, rfl⟩
  · intro _ fd watchWrite hSome hBits
    rcases hWatched fd watchWrite hSome with ⟨rfl, rfl⟩ | ⟨rfl, rfl⟩
    · exact List.mem_cons_of_mem _ List.mem_cons_self
    · exact List.mem_cons_self

end CaptureTheFlag
