import TtlockBle.Code.Encoding

/-! # `commands/session.py`, `commands/control.py` and `commands/clock.py` -/

open TtlockBle.Lib

namespace TtlockBle

/-! ## The handshakes -/

/-- The sum of the token and the key, in four bytes. -/
def tokenSum (psFromLock : Nat) (unlockKey : Int) : Nat :=
  ((psFromLock + unlockKey) % 2 ^ 32).toNat

def payloadCheckRandom (psFromLock : Nat) (unlockKey : String) : Py Bytes := do
  intToBytesBe (tokenSum psFromLock (← pyInt unlockKey))

/-- The window, the flag in three bytes and the user. -/
def payloadCheckUserTime (uid : Int) (startDate endDate : String) (lockFlagPos : Int) : Py Bytes := do
  let out := List.replicate 17 0
  let out := setSlice out 0 5 (← decimalTimeBytes startDate)
  let out := setSlice out 5 10 (← decimalTimeBytes endDate)
  let out ← setByte out 10 (UInt8.ofInt (lockFlagPos >>> (16 : Nat)))
  let out ← setByte out 11 (UInt8.ofInt (lockFlagPos >>> (8 : Nat)))
  let out ← setByte out 12 (UInt8.ofInt lockFlagPos)
  return setSlice out 13 17 (← intToBytesBe uid)

/-- The window of a key without a validity period. -/
def defaultStartDate : String := "0001311400"
def defaultEndDate : String := "9911301400"

/-- The password, the flag in three bytes and the user. -/
def payloadCheckAdmin (uid : Int) (adminPs : String) (lockFlagPos : Int) : Py Bytes := do
  let flag :=
    [UInt8.ofInt (lockFlagPos >>> (16 : Nat)), UInt8.ofInt (lockFlagPos >>> (8 : Nat)), UInt8.ofInt lockFlagPos]
  return (← intToBytesBe (← pyInt adminPs)) ++ flag ++ (← intToBytesBe uid)

def parseToken (name : String) (plaintext : Bytes) : Py Nat := do
  let (_, status, data) ← parseResponseStatus plaintext
  if status ≠ responseSuccess then
    throw (runtimeError s!"{name} FAILED: status={hexNumber status.toNat} err={hex data}")
  if data.length < 4 then
    throw (valueError s!"{name} payload too short: {hex plaintext}")
  return fromBytesBig (data.take 4)

def parseCheckUserTimeResponse (plaintext : Bytes) : Py Nat := parseToken "checkUserTime" plaintext

def parseCheckAdminResponse (plaintext : Bytes) : Py Nat := parseToken "checkAdmin" plaintext

/-! ## Bolt control and state -/

inductive LockState where
  | locked
  | unlocked
  deriving DecidableEq, Repr

def LockState.ofByte : UInt8 → Option LockState
  | 0 => some locked
  | 1 => some unlocked
  | _ => none

/-- Where `tsMs` is not positive, the host clock's `now` (milliseconds) is sent. -/
def payloadUnlock (psFromLock : Nat) (unlockKey : String) (now : Int) (tsMs : Int := 0) : Py Bytes := do
  let tsMs := if tsMs ≤ 0 then now else tsMs
  let sum := tokenSum psFromLock (← pyInt unlockKey)
  return (← intToBytesBe sum) ++ (← intToBytesBe (tsMs / 1000))

/-- The letters `SCIENER`. -/
def payloadQueryState : Bytes := [0x53, 0x43, 0x49, 0x45, 0x4E, 0x45, 0x52]

/-- The bolt, if the byte is one of the known ones. -/
def parseLockStatus (plaintext : Bytes) : Py (Option LockState) := do
  let (_, status, data) ← parseResponseStatus plaintext
  if status ≠ responseSuccess ∨ data.length < 2 then
    return none
  return LockState.ofByte (← byteAt data 1)

/-- The battery of a successful reply. -/
def parseStateBattery (plaintext : Bytes) : Py (Option UInt8) := do
  let (_, status, data) ← parseResponseStatus plaintext
  if status ≠ responseSuccess ∨ data.length < 1 then
    return none
  return some (← byteAt data 0)

/-! ## The clock -/

def twoDigits (n : Nat) : String := String.ofList [Nat.digitChar (n / 10 % 10), Nat.digitChar (n % 10)]

def strftimeCompact (t : DateTime) : String :=
  twoDigits (t.year % 100) ++ twoDigits t.month ++ twoDigits t.day ++ twoDigits t.hour ++
    twoDigits t.minute ++ twoDigits t.second

/-- The digits of the date, two a byte. -/
def payloadTimeCalibrate (localTime : DateTime) : Py Bytes :=
  decimalTimeBytes (strftimeCompact localTime)

def payloadGetLockTime : Bytes := []

/-- An impossible date is refused. -/
def parseGetLockTimeResponse (plaintext : Bytes) : Py DateTime := do
  let (_, status, data) ← parseResponseStatus plaintext
  if status ≠ responseSuccess then
    throw (runtimeError s!"getLockTime FAILED: status={hexNumber status.toNat} err={hex data}")
  match decodeDate6 (data.take 6) with
  | some parsed => return parsed
  | none => throw (valueError s!"getLockTime payload not a valid date: {hex plaintext}")

end TtlockBle
