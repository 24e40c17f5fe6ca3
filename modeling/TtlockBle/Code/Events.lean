import TtlockBle.Code.Client

/-! # `models/lock_event.py`, and the dispatch of pushed frames in `client.py` -/

open TtlockBle.Lib

namespace TtlockBle

/-- The statuses that have a name. -/
inductive ResponseStatus where
  | failed
  | success
  deriving DecidableEq, Repr

def ResponseStatus.ofByte : UInt8 → Option ResponseStatus
  | 0x00 => some failed
  | 0x01 => some success
  | _ => none

/-- `status` is a member of the enumeration, or the byte where there is none for it. -/
structure LockEvent where
  cmdEcho : UInt8
  status : ResponseStatus ⊕ UInt8
  data : Bytes
  battery : Option UInt8 := none
  lockState : Option LockState := none
  uid : Option Nat := none
  recordId : Option Nat := none
  timestamp : Option DateTime := none
  deriving DecidableEq

namespace LockEvent

def commSearchBicycleStatus : UInt8 := 0x14
def statePushLen : Nat := 3
def logPushLen : Nat := 15

/-- Six bytes, if they are a date. -/
def decodeTimestamp : Bytes → Option DateTime
  | [yy, mm, dd, hh, mn, ss] =>
    DateTime.mk? (2000 + yy.toNat) mm.toNat dd.toNat hh.toNat mn.toNat ss.toNat
  | _ => none

/-- What the status is makes no difference to what is read. -/
def fromPayload (cmdEcho status : UInt8) (data : Bytes) : LockEvent :=
  let statusValue := match ResponseStatus.ofByte status with
    | some member => .inl member
    | none => .inr status
  let event : LockEvent := { cmdEcho, status := statusValue, data }
  if cmdEcho ≠ commSearchBicycleStatus ∨ data.length = 0 then
    event
  else
    let battery := data[0]?
    if data.length = statePushLen then
      { event with battery, lockState := data[1]?.bind LockState.ofByte }
    else if data.length ≥ logPushLen then
      { event with
        battery
        uid := some (fromBytesBig (slice data 1 5))
        recordId := some (fromBytesBig (slice data 5 9))
        timestamp := decodeTimestamp (slice data 9 15) }
    else
      { event with battery }

end LockEvent

/-- What the listeners get of a pushed frame. -/
def TTLockClient.dispatchEvent (self : TTLockClient) (frame : Frame) : Py (Option LockEvent) :=
  match (do parseResponseStatus (← aesDecrypt self.aes frame.data self.aesKey) : Py _) with
  | .ok (echo, status, data) => .ok (some (LockEvent.fromPayload echo status data))
  | .error e => if e.isRuntimeOrValueError then .ok none else .error e

/-! ## The listeners -/

/-- What a listener, or the caller, does to the list of listeners. -/
inductive Registration (L : Type) where
  | add (listener : L)
  | remove (listener : L)

/-- The listeners of a client, and the calls of them so far. -/
structure Listeners (L : Type) where
  attached : List L
  calls : List (L × LockEvent)

/-- A listener is code of the caller. What it registers and raises may depend on all calls before. -/
abbrev Reaction (L : Type) := List (L × LockEvent) → L → LockEvent → List (Registration L) × Py Unit

/-- `except Exception`, which lets a cancellation through. -/
def PyExc.isException (e : PyExc) : Bool := e.type ≠ .cancelledError

section Listeners

variable {L : Type} [DecidableEq L]

/-- One that is there already is not added again. -/
def addEventListener (listeners : List L) (listener : L) : List L :=
  if listener ∈ listeners then listeners else listeners ++ [listener]

/-- The `ValueError` for one that is not there is suppressed. -/
def removeEventListener (listeners : List L) (listener : L) : List L := listeners.erase listener

def register (listeners : List L) : Registration L → List L
  | .add listener => addEventListener listeners listener
  | .remove listener => removeEventListener listeners listener

/-- The loop of `_dispatch_event`, over a copy of the list. -/
def callListeners (react : Reaction L) (event : LockEvent) : List L → Listeners L → Listeners L × Py Unit
  | [], s => (s, .ok ())
  | listener :: rest, s =>
    let (registrations, outcome) := react s.calls listener event
    let s := ⟨registrations.foldl register s.attached, s.calls ++ [(listener, event)]⟩
    match outcome with
    | .ok () => callListeners react event rest s
    | .error e => if e.isException then callListeners react event rest s else (s, .error e)

/-- `_dispatch_event`. -/
def TTLockClient.dispatch (self : TTLockClient) (react : Reaction L) (s : Listeners L) (frame : Frame) :
    Listeners L × Py Unit :=
  if s.attached = [] then (s, .ok ())
  else
    match self.dispatchEvent frame with
    | .ok (some event) => callListeners react event s.attached s
    | .ok none => (s, .ok ())
    | .error e => (s, .error e)

end Listeners

end TtlockBle
