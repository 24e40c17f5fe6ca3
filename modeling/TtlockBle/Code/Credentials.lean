import TtlockBle.Code.Encoding

/-!
# `commands/passcode.py`, `commands/passcode_list.py`, `commands/fingerprint.py` and
`commands/card.py`
-/

open TtlockBle.Lib

namespace TtlockBle

/-! ## Passcodes -/

/-- How long a passcode is good for. -/
inductive KeyboardPwdType where
  | permanent
  | count
  | period
  | circle
  deriving DecidableEq, Repr

namespace KeyboardPwdType

def toInt : KeyboardPwdType → Int
  | permanent => 1
  | count => 2
  | period => 3
  | circle => 4

/-- `_TRAILER_LENGTH_BY_TYPE.get(value)`, with the member that `value` names. -/
def trailerLength : UInt8 → Option (KeyboardPwdType × Nat)
  | 1 => some (permanent, 5)
  | 3 => some (period, 10)
  | 4 => some (circle, 7)
  | _ => none

end KeyboardPwdType

def pwdOperateClear : UInt8 := 1
def pwdOperateAdd : UInt8 := 2
def pwdOperateRemoveOne : UInt8 := 3

/-- A digit is what `isdigit` takes for one. -/
def checkPasscode (code : String) : Py Unit := do
  if ¬ (4 ≤ code.length ∧ code.length ≤ 9) ∨ ¬ isDigit code then
    throw (valueError s!"keyboard passcode must be 4-9 digits, got {reprStr printable code}")

/-- The end of the window is left out for a permanent passcode. -/
def payloadPasscodeAdd (pwdType : Int) (code startDate endDate : String) : Py Bytes := do
  checkPasscode code
  let out := [pwdOperateAdd, ← toByte pwdType, UInt8.ofNat code.length]
  let out := out ++ (← encodeAscii code) ++ (← decimalTimeBytes startDate)
  if pwdType ≠ KeyboardPwdType.permanent.toInt then
    return out ++ (← decimalTimeBytes endDate)
  return out

/-- The type and the code, without a window. -/
def payloadPasscodeDelete (pwdType : Int) (code : String) : Py Bytes := do
  checkPasscode code
  return [pwdOperateRemoveOne, ← toByte pwdType, UInt8.ofNat code.length] ++ (← encodeAscii code)

def payloadPasscodeClear : Bytes := [pwdOperateClear]

/-! ## The passcode list -/

/-- Days or a preset, the start, and for how long. -/
structure CyclicSchedule where
  dayOrPreset : String
  startHour : UInt8
  startMinute : UInt8
  durationHours : Nat
  deriving DecidableEq, Repr

/-- A passcode of the lock with its validity. -/
structure PasscodeEntry where
  passcode : String
  pwdType : KeyboardPwdType
  startDate : Option DateTime
  endDate : Option DateTime
  cyclicSchedule : Option CyclicSchedule
  deriving DecidableEq

/-- `_CYCLIC_BASE_SELECTORS`, in descending order. -/
def cyclicBasesDescending : List (Nat × String) :=
  [(232, "Weekend"), (192, "Sunday"), (168, "Saturday"), (144, "Friday"), (120, "Thursday"),
    (96, "Wednesday"), (72, "Tuesday"), (48, "Monday"), (24, "Workdays"), (0, "Daily")]

/-- The cursor, 0 for the first page. -/
def payloadPasscodeList (sequence : Int) : Py Bytes := intToBytesBe sequence 2

/-- An impossible date is refused here. -/
def decodeDateOrRaise (raw : Bytes) (label : String) : Py DateTime :=
  match decodeDate5 raw with
  | some parsed => .ok parsed
  | none => .error (valueError s!"passcode list {label} not a valid date")

def decodePasscode (raw : Bytes) : Py String :=
  match decodeAscii raw with
  | .ok passcode => .ok passcode
  | .error _ => .error (valueError "passcode list passcode is not valid ASCII")

/-- `next(...)` raises `StopIteration` where no base fits. -/
def decodeCyclicSchedule (trailer : Bytes) : Py CyclicSchedule := do
  let lowByte ← byteAt trailer 6
  match cyclicBasesDescending.find? fun base => base.1 ≤ lowByte.toNat with
  | some (base, name) =>
    return ⟨name, ← byteAt trailer 3, ← byteAt trailer 4, lowByte.toNat - base + 1⟩
  | none => throw ⟨.stopIteration, ""⟩

/-- The windows or the schedule that the trailer of the type holds. -/
def decodeValidity (pwdType : KeyboardPwdType) (trailer : Bytes) :
    Py (Option DateTime × Option DateTime × Option CyclicSchedule) :=
  match pwdType with
  | .permanent => do
    let startDate ← decodeDateOrRaise (slice trailer 0 5) "start_date"
    return (some startDate, none, none)
  | .period => do
    let startDate ← decodeDateOrRaise (slice trailer 0 5) "start_date"
    let endDate ← decodeDateOrRaise (slice trailer 5 10) "end_date"
    return (some startDate, some endDate, none)
  | _ => do
    let cyclicSchedule ← decodeCyclicSchedule trailer
    return (none, none, some cyclicSchedule)

/-- A page: its entry, if it is of a known type, and the next cursor. -/
def parsePasscodeListResponse (plaintext : Bytes) : Py (Option PasscodeEntry × Nat) := do
  let (_, status, data) ← parseResponseStatus plaintext
  if status ≠ responseSuccess then
    throw (runtimeError
      s!"passcode list FAILED: status={hexNumber status.toNat} data_length={data.length}")
  if data.length < 4 then
    return (none, 0)
  let nextSequence := fromBytesBig (slice data 2 4)
  let item := data.drop 4
  if item.length < 4 then
    return (none, nextSequence)
  match KeyboardPwdType.trailerLength (← byteAt item 1) with
  | none => return (none, nextSequence)
  | some (pwdType, trailerLength) =>
    let newPwdLength := (← byteAt item 2).toNat
    let newPwd := slice item 3 (3 + newPwdLength)
    let pwdLengthOffset := 3 + newPwdLength
    if pwdLengthOffset ≥ item.length then
      throw (valueError "passcode list payload too short for its passcode")
    let pwdLength := (← byteAt item pwdLengthOffset).toNat
    let trailerOffset := pwdLengthOffset + 1 + pwdLength
    let trailer := slice item trailerOffset (trailerOffset + trailerLength)
    if trailer.length < trailerLength then
      throw (valueError "passcode list payload too short for its trailer")
    let (startDate, endDate, cyclicSchedule) ← decodeValidity pwdType trailer
    let passcode ← decodePasscode newPwd
    return (some ⟨passcode, pwdType, startDate, endDate, cyclicSchedule⟩, nextSequence)

/-! ## Fingerprints and cards -/

/-- The start of a credential without one. -/
def startDateSentinel : Bytes := [0x00, 0x01, 0x01, 0x00, 0x00]

/-- The end of a credential without one. -/
def endDateSentinel : Bytes := [0x63, 0x01, 0x01, 0x00, 0x00]

/-- `[operation]` and the index, which the list queries share. -/
def payloadIndexed (operation : UInt8) (index : Int) : Py Bytes := do
  return operation :: (← intToBytesBe index 2)

/-- `[battery][operation][0xFF][0xFF]`, the end of both lists. -/
def endOfList (operation : UInt8) (data : Bytes) : Bool :=
  data.length = 4 && data.drop 1 = [operation, 0xFF, 0xFF]

/-- A sentinel is no date, and neither is an impossible one. -/
def dateUnless (sentinel raw : Bytes) : Option DateTime :=
  if raw = sentinel then none else decodeDate5 raw

def fingerprintListOperation : UInt8 := 0x06
def errorCredentialNotFound : UInt8 := 0x1A

/-- A fingerprint of the lock with its validity. -/
structure FingerprintEntry where
  fingerprintId : Bytes
  slot : Nat
  startDate : Option DateTime
  endDate : Option DateTime
  deriving DecidableEq

namespace FingerprintEntry

def isPermanent (entry : FingerprintEntry) : Bool := entry.endDate.isNone

def hasExplicitStart (entry : FingerprintEntry) : Bool := entry.startDate.isSome

end FingerprintEntry

def payloadFingerprintList (index : Int) : Py Bytes := payloadIndexed fingerprintListOperation index

/-- A fingerprint, or nothing at the end of the list. -/
def parseFingerprintListResponse (plaintext : Bytes) : Py (Option FingerprintEntry) := do
  let (_, status, data) ← parseResponseStatus plaintext
  if status ≠ responseSuccess then
    if data.head? = some errorCredentialNotFound then
      throw (runtimeError
        s!"credential not found (0x1A): status={hexNumber status.toNat} err={hex data}")
    throw (runtimeError s!"fingerprint list FAILED: status={hexNumber status.toNat} err={hex data}")
  if endOfList fingerprintListOperation data then
    return none
  if data.length < 20 then
    throw (valueError s!"fingerprint list payload too short: {hex plaintext}")
  return some {
    fingerprintId := slice data 4 8
    slot := fromBytesBig (slice data 8 10)
    startDate := dateUnless startDateSentinel (slice data 10 15)
    endDate := dateUnless endDateSentinel (slice data 15 20) }

def cardListOperation : UInt8 := 0x01

/-- A card of the lock with its validity. -/
structure CardEntry where
  cardId : Bytes
  startDate : Option DateTime
  endDate : Option DateTime
  deriving DecidableEq

namespace CardEntry

def isPermanent (entry : CardEntry) : Bool := entry.endDate.isNone

def hasExplicitStart (entry : CardEntry) : Bool := entry.startDate.isSome

end CardEntry

def payloadCardList (index : Int) : Py Bytes := payloadIndexed cardListOperation index

/-- The length of the card id that data of this length has room for. -/
def cardIdLength (length : Nat) : Option Nat :=
  if length = 22 then some 8 else if length = 18 then some 4 else none

/-- A card, or nothing at the end of the list. -/
def parseCardListResponse (plaintext : Bytes) : Py (Option CardEntry) := do
  let (_, status, data) ← parseResponseStatus plaintext
  if status ≠ responseSuccess then
    throw (runtimeError s!"card list FAILED: status={hexNumber status.toNat} data_length={data.length}")
  if endOfList cardListOperation data then
    return none
  match cardIdLength data.length with
  | none => throw (valueError s!"card list unexpected data length {data.length}")
  | some n =>
    let cardIdEnd := 4 + n
    return some {
      cardId := slice data 4 cardIdEnd
      startDate := dateUnless startDateSentinel (slice data cardIdEnd (cardIdEnd + 5))
      endDate := dateUnless endDateSentinel (slice data (cardIdEnd + 5) (cardIdEnd + 10)) }

end TtlockBle
