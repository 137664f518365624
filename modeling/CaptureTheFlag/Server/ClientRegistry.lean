import CaptureTheFlag.Shared.Protocol

/-! # Client registry

Slots are indexed by player id. A removed client leaves a tombstone, so a slot never moves.
-/
namespace CaptureTheFlag
set_option autoImplicit false

structure SockAddr where
  addr : U32 := 0
  port : U16 := 0
deriving DecidableEq, Repr

abbrev kFreeFd : Int := -1

structure ClientEntry where
  playerId : U8 := 0
  tcpFd : Int := kFreeFd
  name : List U8 := []
  udpAddr : SockAddr := {}
  hasUdpAddr : Bool := false
  sessionToken : U32 := 0
  lastInputTick : U32 := 0
  pendingOut : List U8 := []
deriving DecidableEq, Repr

structure ClientRegistry where
  storage : List ClientEntry := []

namespace ClientRegistry

/-- The slot `add` reaches: the first free one, or one past the end. -/
def freeSlot (r : ClientRegistry) : Nat := r.storage.findIdx (fun e => e.tcpFd == kFreeFd)

/-- The id of the new entry, or `none` for a null pointer. -/
def add (r : ClientRegistry) (tcpFd : Int) (name : List U8) : Option Nat × ClientRegistry :=
  let id := r.freeSlot
  if id = r.storage.length ∧ r.storage.length ≥ kMaxPlayers then (none, r)
  else
    let storage := if id = r.storage.length then r.storage ++ [({} : ClientEntry)] else r.storage
    if storage.countP (fun e => e.tcpFd != kFreeFd) ≥ kMaxPlayers then (none, { storage })
    else (some id, { storage := storage.set id { playerId := BitVec.ofNat 8 id, tcpFd, name } })

def findById (r : ClientRegistry) (playerId : U8) : Option ClientEntry :=
  (r.storage[playerId.toNat]?).filter (fun e => e.tcpFd != kFreeFd)

def findByFd (r : ClientRegistry) (tcpFd : Int) : Option ClientEntry :=
  r.storage.find? (fun e => e.tcpFd == tcpFd)

/-- Assignment through the pointer to a slot. -/
def setEntry (r : ClientRegistry) (playerId : U8) (entry : ClientEntry) : ClientRegistry :=
  { storage := r.storage.set playerId.toNat entry }

def remove (r : ClientRegistry) (playerId : U8) : ClientRegistry :=
  match r.findById playerId with
  | some _ => r.setEntry playerId {}
  | none => r

/-- What `for_each_live` visits. -/
def live (r : ClientRegistry) : List ClientEntry := r.storage.filter (fun e => e.tcpFd ≥ 0)

end ClientRegistry
end CaptureTheFlag
