import CaptureTheFlag.Library.Chain
import CaptureTheFlag.Server.Broadcast

/-! # The registry by slot

`client` gives the live entry of a slot. Each operation of the registry is a change of this view.
-/
namespace CaptureTheFlag
set_option autoImplicit false

namespace ClientRegistry

def client (r : ClientRegistry) (i : Nat) : Option ClientEntry :=
  (r.storage[i]?).filter fun e => e.tcpFd != kFreeFd

/-- A live entry stands in the slot of its id, and no two share a connection. -/
structure Indexed (r : ClientRegistry) : Prop where
  size : r.storage.length ≤ kMaxPlayers
  id : ∀ i e, r.client i = some e → e.playerId.toNat = i
  fd : ∀ i e, r.client i = some e → 0 ≤ e.tcpFd
  distinct : ∀ i j e e', r.client i = some e → r.client j = some e' → e.tcpFd = e'.tcpFd → i = j

theorem findById_eq (r : ClientRegistry) (id : U8) : r.findById id = r.client id.toNat := rfl

theorem client_eq_some {r : ClientRegistry} {i : Nat} {e : ClientEntry} :
    r.client i = some e ↔ r.storage[i]? = some e ∧ e.tcpFd ≠ kFreeFd := by
  rw [client, Option.filter_eq_some_iff]
  simp

theorem client_lt {r : ClientRegistry} {i : Nat} {e : ClientEntry} (h : r.client i = some e) : i < r.storage.length :=
  (List.getElem?_eq_some_iff.mp (client_eq_some.mp h).1).1

theorem Indexed.slot_lt {r : ClientRegistry} (h : r.Indexed) {i : Nat} {e : ClientEntry} (hAt : r.client i = some e) :
    i < kMaxPlayers := Nat.lt_of_lt_of_le (client_lt hAt) h.size

@[simp] theorem length_setEntry (r : ClientRegistry) (id : U8) (e : ClientEntry) :
    (r.setEntry id e).storage.length = r.storage.length := by
  simp [setEntry]

theorem client_setEntry {r : ClientRegistry} {id : U8} (e : ClientEntry) (hSlot : id.toNat < r.storage.length) :
    (r.setEntry id e).client =
      Function.update r.client id.toNat (if e.tcpFd = kFreeFd then none else some e) := by
  funext i
  by_cases hi : i = id.toNat
  · subst hi
    simp only [client, setEntry, List.getElem?_set_self hSlot, Function.update_self]
    by_cases hFree : e.tcpFd = kFreeFd
    · simp [hFree]
    · simp [hFree]
  · simp only [client, setEntry, Function.update_of_ne hi, List.getElem?_set_ne (Ne.symm hi)]

theorem client_remove (r : ClientRegistry) (id : U8) :
    (r.remove id).client = Function.update r.client id.toNat none := by
  rw [remove, findById_eq]
  cases hAt : r.client id.toNat with
  | none =>
    simp only
    rw [← hAt, Function.update_eq_self]
  | some e =>
    simp only
    rw [client_setEntry _ (client_lt hAt)]
    rfl

@[simp] theorem length_remove (r : ClientRegistry) (id : U8) : (r.remove id).storage.length = r.storage.length := by
  rw [remove]
  split <;> simp

theorem findByFd_some {r : ClientRegistry} {fd : Int} {e : ClientEntry} (hFd : 0 ≤ fd) (h : r.findByFd fd = some e) :
    e.tcpFd = fd ∧ ∃ i, r.client i = some e := by
  have hEq : e.tcpFd = fd := by simpa using List.find?_some h
  obtain ⟨i, hi, hGet⟩ := List.mem_iff_getElem.mp (List.mem_of_find?_eq_some h)
  refine ⟨hEq, i, client_eq_some.mpr ⟨by rw [List.getElem?_eq_getElem hi, hGet], ?_⟩⟩
  simp only [kFreeFd]
  omega

theorem findByFd_none {r : ClientRegistry} {fd : Int} (h : r.findByFd fd = none) {i : Nat} {e : ClientEntry}
    (hAt : r.client i = some e) : e.tcpFd ≠ fd := by
  have hMem := List.mem_of_getElem? (client_eq_some.mp hAt).1
  simpa using List.find?_eq_none.mp h e hMem

/-- With distinct connections the lookup finds the one entry there is. -/
theorem findByFd_of_client {r : ClientRegistry} (h : r.Indexed) {i : Nat} {e : ClientEntry}
    (hAt : r.client i = some e) : r.findByFd e.tcpFd = some e := by
  cases hFind : r.findByFd e.tcpFd with
  | none => exact absurd rfl (findByFd_none hFind hAt)
  | some e' =>
    obtain ⟨hFd, j, hAt'⟩ := findByFd_some (h.fd i e hAt) hFind
    obtain rfl := h.distinct j i e' e hAt' hAt hFd
    rw [hAt] at hAt'
    exact hAt'.symm

theorem client_entered {r r' : ClientRegistry} {i : Nat} {e : ClientEntry}
    (hClient : r'.client = Function.update r.client i (some e)) {j : Nat} {e' : ClientEntry} (hAt : r'.client j = some e') :
    (j = i ∧ e' = e) ∨ (j ≠ i ∧ r.client j = some e') := by
  rw [hClient] at hAt
  by_cases hj : j = i
  · subst hj
    rw [Function.update_self] at hAt
    exact Or.inl ⟨rfl, (Option.some.inj hAt).symm⟩
  · rw [Function.update_of_ne hj] at hAt
    exact Or.inr ⟨hj, hAt⟩

theorem client_left {r r' : ClientRegistry} {i : Nat} (hClient : r'.client = Function.update r.client i none) {j : Nat}
    {e' : ClientEntry} (hAt : r'.client j = some e') : j ≠ i ∧ r.client j = some e' := by
  rw [hClient] at hAt
  by_cases hj : j = i
  · rw [hj, Function.update_self] at hAt
    cases hAt
  · rw [Function.update_of_ne hj] at hAt
    exact ⟨hj, hAt⟩

theorem Indexed.enter {r r' : ClientRegistry} (h : r.Indexed) {i : Nat} {e : ClientEntry} (hFd : 0 ≤ e.tcpFd)
    (hNew : r.findByFd e.tcpFd = none) (hId : e.playerId.toNat = i)
    (hClient : r'.client = Function.update r.client i (some e)) (hSize : r'.storage.length ≤ kMaxPlayers) : r'.Indexed := by
  refine ⟨hSize, ?_, ?_, ?_⟩
  · intro j e' hAt
    rcases client_entered hClient hAt with ⟨rfl, rfl⟩ | ⟨-, hOld⟩
    · exact hId
    · exact h.id j e' hOld
  · intro j e' hAt
    rcases client_entered hClient hAt with ⟨rfl, rfl⟩ | ⟨-, hOld⟩
    · exact hFd
    · exact h.fd j e' hOld
  · intro j k e' f hAt hAtK hEq
    rcases client_entered hClient hAt with ⟨rfl, rfl⟩ | ⟨-, hOld⟩ <;>
      rcases client_entered hClient hAtK with ⟨rfl, rfl⟩ | ⟨-, hOldK⟩
    · rfl
    · exact absurd hEq.symm (findByFd_none hNew hOldK)
    · exact absurd hEq (findByFd_none hNew hOld)
    · exact h.distinct j k e' f hOld hOldK hEq

theorem Indexed.leave {r r' : ClientRegistry} (h : r.Indexed) {i : Nat}
    (hClient : r'.client = Function.update r.client i none) (hSize : r'.storage.length ≤ kMaxPlayers) : r'.Indexed where
  size := hSize
  id j e' hAt := h.id j e' (client_left hClient hAt).2
  fd j e' hAt := h.fd j e' (client_left hClient hAt).2
  distinct j k e' f hAt hAtK := h.distinct j k e' f (client_left hClient hAt).2 (client_left hClient hAtK).2

/-- The id that a connection plays under, once it has joined. -/
def idOf (r : ClientRegistry) (fd : Int) : Option U8 := (r.findByFd fd).map (·.playerId)

theorem idOf_eq_some {r : ClientRegistry} (h : r.Indexed) {fd : Int} (hFd : 0 ≤ fd) {id : U8} :
    r.idOf fd = some id ↔ ∃ e, r.client id.toNat = some e ∧ e.tcpFd = fd := by
  rw [idOf, Option.map_eq_some_iff]
  constructor
  · rintro ⟨e, hFind, rfl⟩
    obtain ⟨hEq, i, hAt⟩ := findByFd_some hFd hFind
    rw [h.id i e hAt]
    exact ⟨e, hAt, hEq⟩
  · rintro ⟨e, hAt, rfl⟩
    exact ⟨e, findByFd_of_client h hAt, BitVec.eq_of_toNat_eq (h.id _ e hAt)⟩

theorem idOf_congr {r r' : ClientRegistry} (h : r.Indexed) (h' : r'.Indexed) {fd : Int} (hFd : 0 ≤ fd)
    (hSame : ∀ i, (∃ e, r'.client i = some e ∧ e.tcpFd = fd) ↔ (∃ e, r.client i = some e ∧ e.tcpFd = fd)) :
    r'.idOf fd = r.idOf fd := by
  ext id
  rw [idOf_eq_some h' hFd, idOf_eq_some h hFd]
  exact hSame id.toNat

theorem idOf_update {r r' : ClientRegistry} (h : r.Indexed) (h' : r'.Indexed) {fd : Int} (hFd : 0 ≤ fd) {i : Nat}
    {slot : Option ClientEntry} (hClient : r'.client = Function.update r.client i slot)
    (hNew : ∀ e, slot = some e → e.tcpFd ≠ fd) (hOld : ∀ e, r.client i = some e → e.tcpFd ≠ fd) :
    r'.idOf fd = r.idOf fd := by
  refine idOf_congr h h' hFd fun j => ?_
  rw [hClient]
  by_cases hj : j = i
  · subst hj
    rw [Function.update_self]
    constructor
    · rintro ⟨e, hAt, hEq⟩
      exact absurd hEq (hNew e hAt)
    · rintro ⟨e, hAt, hEq⟩
      exact absurd hEq (hOld e hAt)
  · rw [Function.update_of_ne hj]

theorem findByFd_of_idOf {r : ClientRegistry} {fd : Int} (h : r.idOf fd = none) : r.findByFd fd = none := by
  simpa [idOf] using h

theorem freeSlot_le (r : ClientRegistry) : r.freeSlot ≤ r.storage.length := List.findIdx_le_length

theorem client_freeSlot (r : ClientRegistry) : r.client r.freeSlot = none := by
  rcases Nat.lt_or_ge r.freeSlot r.storage.length with hLt | hGe
  · have hFree : (r.storage[r.freeSlot].tcpFd == kFreeFd) = true := List.findIdx_getElem (w := hLt)
    simp only [client, List.getElem?_eq_getElem hLt]
    simpa using hFree
  · simp [client, hGe]

theorem client_grow (r : ClientRegistry) :
    (ClientRegistry.mk (if r.freeSlot = r.storage.length then r.storage ++ [({} : ClientEntry)] else r.storage)).client =
      r.client := by
  funext i
  simp only [client]
  split
  · rcases Nat.lt_trichotomy i r.storage.length with hLt | rfl | hGt
    · rw [List.getElem?_append_left hLt]
    · simp
    · rw [List.getElem?_eq_none (by simp; omega), List.getElem?_eq_none (by omega)]
  · rfl

theorem client_below_freeSlot {r : ClientRegistry} {j : Nat} (h : j < r.freeSlot) : (r.client j).isSome = true := by
  have hLt := Nat.lt_of_lt_of_le h r.freeSlot_le
  have hTaken : (r.storage[j].tcpFd == kFreeFd) = false := by simpa using List.not_of_lt_findIdx h
  simp only [client, List.getElem?_eq_getElem hLt]
  simpa using hTaken

theorem add_cases {r : ClientRegistry} (hSize : r.storage.length ≤ kMaxPlayers) (fd : Int) (hFd : fd ≠ kFreeFd)
    (name : List U8) :
    (∃ r', r.add fd name = (none, r') ∧ r'.client = r.client ∧ r'.storage.length ≤ kMaxPlayers ∧
      ∀ i < kMaxPlayers, (r.client i).isSome = true) ∨
    (∃ i r', r.add fd name = (some i, r') ∧ i < kMaxPlayers ∧ r.client i = none ∧
      (∀ j < i, (r.client j).isSome = true) ∧ i < r'.storage.length ∧ r'.storage.length ≤ kMaxPlayers ∧
      r'.client = Function.update r.client i (some { playerId := BitVec.ofNat 8 i, tcpFd := fd, name })) := by
  have hLe := r.freeSlot_le
  have hGrow := r.client_grow
  simp only [add]
  by_cases hFull : r.freeSlot = r.storage.length ∧ r.storage.length ≥ kMaxPlayers
  · exact Or.inl ⟨r, by rw [if_pos hFull], rfl, hSize, fun i hi => client_below_freeSlot (by omega)⟩
  · rw [if_neg hFull]
    generalize hStorage : (if r.freeSlot = r.storage.length then r.storage ++ [({} : ClientEntry)] else r.storage) =
      storage at hGrow
    have hBounds : r.freeSlot < storage.length ∧ storage.length ≤ kMaxPlayers := by
      rw [← hStorage]
      split
      · rw [List.length_append, List.length_singleton]
        omega
      · omega
    -- The free slot is not counted, so the count cannot reach the limit.
    have hCount : ¬ storage.countP (fun e => e.tcpFd != kFreeFd) ≥ kMaxPlayers := by
      intro hCount
      have hWhole : storage.countP (fun e => e.tcpFd != kFreeFd) = storage.length :=
        Nat.le_antisymm List.countP_le_length (by omega)
      have hAll := List.countP_eq_length.mp hWhole
      have hFree := congrFun hGrow r.freeSlot
      rw [r.client_freeSlot, client, List.getElem?_eq_getElem hBounds.1, Option.filter_some,
        if_pos (hAll _ (List.getElem_mem hBounds.1))] at hFree
      cases hFree
    refine Or.inr ⟨r.freeSlot, _, by rw [if_neg hCount], by omega, r.client_freeSlot, fun j hj => client_below_freeSlot hj,
      by simpa using hBounds.1, by simpa using hBounds.2, ?_⟩
    have hByte : (BitVec.ofNat 8 r.freeSlot).toNat = r.freeSlot := by
      simp only [kMaxPlayers] at hBounds
      rw [BitVec.toNat_ofNat]
      omega
    have hSet := @client_setEntry ⟨storage⟩ (BitVec.ofNat 8 r.freeSlot)
      { playerId := BitVec.ofNat 8 r.freeSlot, tcpFd := fd, name } (by rw [hByte]; exact hBounds.1)
    rw [hByte, hGrow, if_neg hFd] at hSet
    rw [← hSet, setEntry, hByte]

def withPending (payload : List U8) (e : ClientEntry) : ClientEntry := { e with pendingOut := e.pendingOut ++ payload }

theorem length_appendPending (payload : List U8) (r : ClientRegistry) (e : ClientEntry) :
    (appendPending payload r e).storage.length = r.storage.length := by
  rw [appendPending]
  split <;> simp

theorem client_appendPending (payload : List U8) (r : ClientRegistry) (e : ClientEntry) :
    (appendPending payload r e).client =
      Function.update r.client e.playerId.toNat ((r.client e.playerId.toNat).map (withPending payload)) := by
  rw [appendPending, findById_eq]
  cases hAt : r.client e.playerId.toNat with
  | none =>
    simp only [Option.map_none]
    rw [← hAt, Function.update_eq_self]
  | some found =>
    simp only [Option.map_some]
    rw [client_setEntry _ (client_lt hAt), if_neg (client_eq_some.mp hAt).2]
    rfl

theorem client_foldl_appendPending (payload : List U8) (es : List ClientEntry) (hNodup : (es.map (·.playerId)).Nodup)
    (r : ClientRegistry) (i : Nat) :
    (es.foldl (appendPending payload) r).client i =
      if ∃ e ∈ es, e.playerId.toNat = i then (r.client i).map (withPending payload) else r.client i := by
  induction es generalizing r with
  | nil => simp
  | cons e es ih =>
    obtain ⟨hHead, hTail⟩ := List.nodup_cons.mp hNodup
    rw [List.foldl_cons, ih hTail, client_appendPending]
    by_cases hi : i = e.playerId.toNat
    · subst hi
      have hLater : ¬ ∃ e' ∈ es, e'.playerId.toNat = e.playerId.toNat := by
        rintro ⟨e', hMem, hEq⟩
        exact hHead (List.mem_map.mpr ⟨e', hMem, BitVec.eq_of_toNat_eq hEq⟩)
      rw [if_neg hLater, Function.update_self, if_pos ⟨e, List.mem_cons_self, rfl⟩]
    · rw [Function.update_of_ne hi]
      have hSame : (∃ e' ∈ e :: es, e'.playerId.toNat = i) ↔ ∃ e' ∈ es, e'.playerId.toNat = i := by
        constructor
        · rintro ⟨e', hMem, hEq⟩
          rcases List.mem_cons.mp hMem with rfl | hMem
          · exact absurd hEq.symm hi
          · exact ⟨e', hMem, hEq⟩
        · rintro ⟨e', hMem, hEq⟩
          exact ⟨e', List.mem_cons_of_mem _ hMem, hEq⟩
      simp only [hSame]

theorem mem_live {r : ClientRegistry} {e : ClientEntry} : e ∈ r.live → ∃ i, r.client i = some e := by
  intro h
  obtain ⟨hMem, hFd⟩ := List.mem_filter.mp h
  obtain ⟨i, hi, hGet⟩ := List.mem_iff_getElem.mp hMem
  refine ⟨i, client_eq_some.mpr ⟨by rw [List.getElem?_eq_getElem hi, hGet], ?_⟩⟩
  have : 0 ≤ e.tcpFd := by simpa using hFd
  simp only [kFreeFd]
  omega

theorem Indexed.mem_live {r : ClientRegistry} (h : r.Indexed) {i : Nat} {e : ClientEntry} (hAt : r.client i = some e) :
    e ∈ r.live :=
  List.mem_filter.mpr ⟨List.mem_of_getElem? (client_eq_some.mp hAt).1, by simpa using h.fd i e hAt⟩

theorem Indexed.live_ids_nodup {r : ClientRegistry} (h : r.Indexed) : (r.live.map (·.playerId)).Nodup := by
  have hPairs : r.storage.Pairwise fun e e' => 0 ≤ e.tcpFd → 0 ≤ e'.tcpFd → e.playerId ≠ e'.playerId := by
    rw [List.pairwise_iff_getElem]
    intro i j hi hj hLt hFd hFd' hEq
    have hAt : r.client i = some r.storage[i] :=
      client_eq_some.mpr ⟨List.getElem?_eq_getElem hi, by simp only [kFreeFd]; omega⟩
    have hAt' : r.client j = some r.storage[j] :=
      client_eq_some.mpr ⟨List.getElem?_eq_getElem hj, by simp only [kFreeFd]; omega⟩
    have hId := h.id i _ hAt
    have hId' := h.id j _ hAt'
    rw [hEq] at hId
    omega
  rw [List.Nodup, List.pairwise_map]
  refine (hPairs.filter _).imp_of_mem ?_
  intro e e' hMem hMem' hRel
  exact hRel (by simpa using (List.mem_filter.mp hMem).2) (by simpa using (List.mem_filter.mp hMem').2)

theorem client_broadcastTcpEvent {r : ClientRegistry} (h : r.Indexed) (payload : List U8) (i : Nat) :
    (r.broadcastTcpEvent payload).client i = (r.client i).map (withPending payload) := by
  rw [broadcastTcpEvent, client_foldl_appendPending payload _ h.live_ids_nodup]
  split
  · rfl
  · rename_i hNone
    cases hAt : r.client i with
    | none => rfl
    | some e => exact absurd ⟨e, h.mem_live hAt, h.id i e hAt⟩ hNone

theorem length_broadcastTcpEvent (r : ClientRegistry) (payload : List U8) :
    (r.broadcastTcpEvent payload).storage.length = r.storage.length :=
  Chain.foldl_invariant (I := fun r' : ClientRegistry => r'.storage.length = r.storage.length)
    (fun r' e hLen => (length_appendPending payload r' e).trans hLen) r.live r rfl

end ClientRegistry
end CaptureTheFlag
