import TtlockBle.Code.Encoding

/-!
# `commands/auto_lock.py`, `commands/lock_sound.py`, `commands/device_feature.py` and
`commands/device_properties.py`
-/

open TtlockBle.Lib

namespace TtlockBle

/-! ## Auto-lock -/

def autoLockSearch : UInt8 := 0x01
def autoLockModify : UInt8 := 0x02

def payloadAutoLockSearch : Bytes := [autoLockSearch]

/-- The operation and the delay. -/
def payloadAutoLockSet (seconds : Int) : Py Bytes := do
  if ¬ (0 ≤ seconds ∧ seconds ≤ 0xFFFF) then
    throw (valueError s!"auto-lock seconds out of range [0, 65535]: {seconds}")
  return [autoLockModify, UInt8.ofInt (seconds >>> (8 : Nat)), UInt8.ofInt seconds]

/-- The data of a successful reply that is long enough. -/
def autoLockData (plaintext : Bytes) : Py Bytes := do
  let (_, status, data) ← parseResponseStatus plaintext
  if status ≠ responseSuccess then
    throw (runtimeError s!"autoLockManage FAILED: status={hexNumber status.toNat} err={hex data}")
  if data.length < 2 then
    throw (valueError s!"autoLockManage payload too short: {hex plaintext}")
  return data

/-- `(seconds, battery_pct)`. The seconds are -1 where the op-type echoed is not SEARCH. -/
def parseAutoLockResponse (plaintext : Bytes) : Py (Int × UInt8) := do
  let data ← autoLockData plaintext
  let battery ← byteAt data 0
  let opType ← byteAt data 1
  if opType ≠ 1 then
    return (-1, battery)
  if data.length < 4 then
    throw (valueError s!"autoLockManage SEARCH payload missing seconds: {hex plaintext}")
  return (fromBytesBig (slice data 2 4), battery)

/-- The bounds of the delay. -/
structure AutoLockLimits where
  minAllowed : Nat
  maxAllowed : Nat
  deriving DecidableEq, Repr

/-- The bounds come behind the delay. -/
def parseAutoLockLimitsResponse (plaintext : Bytes) : Py AutoLockLimits := do
  let data ← autoLockData plaintext
  let opType ← byteAt data 1
  if opType ≠ 1 then
    throw (valueError s!"autoLockManage limits need a SEARCH response, got op_type={opType}")
  if data.length < 8 then
    throw (valueError s!"autoLockManage SEARCH payload missing min/max: {hex plaintext}")
  return ⟨fromBytesBig (slice data 4 6), fromBytesBig (slice data 6 8)⟩

/-! ## Lock sound -/

inductive LockVolume where
  | low
  | mediumLow
  | medium
  | mediumHigh
  | high
  deriving DecidableEq, Repr

/-- The levels 1 to 5. -/
def LockVolume.ofInt : Int → Option LockVolume
  | 1 => some low
  | 2 => some mediumLow
  | 3 => some medium
  | 4 => some mediumHigh
  | 5 => some high
  | _ => none

def soundSearchOperation : UInt8 := 0x01
def soundModifyOperation : UInt8 := 0x02

def payloadGetLockSound : Bytes := [soundSearchOperation]

def payloadSetLockSound (enabled : Bool) : Bytes := [soundModifyOperation, if enabled then 1 else 0]

/-- A volume switches the sound on. -/
def payloadSetLockVolume (level : Int) : Py Bytes := do
  if (LockVolume.ofInt level).isNone then
    throw (valueError s!"lock volume must be 1-5, got {level}")
  return [soundModifyOperation, 0x01, ← toByte level, 0x00]

/-- The switch, and the level if the lock says one. -/
structure LockSound where
  enabled : Bool
  volume : Option LockVolume
  deriving DecidableEq, Repr

/-- An unknown level is dropped. -/
def parseLockSoundResponse (plaintext : Bytes) : Py LockSound := do
  let (_, status, data) ← parseResponseStatus plaintext
  if status ≠ responseSuccess then
    throw (runtimeError s!"audioManage FAILED: status={hexNumber status.toNat} err={hex data}")
  if data.length < 3 then
    throw (valueError s!"audioManage SEARCH payload too short: {hex plaintext}")
  if (← byteAt data 1) ≠ soundSearchOperation then
    throw (valueError
      s!"audioManage SEARCH expected op_echo=1, got {← byteAt data 1}: {hex plaintext}")
  let volume ← if data.length > 3 then do pure (LockVolume.ofInt (← byteAt data 3).toNat) else pure none
  return ⟨(← byteAt data 2) ≠ 0, volume⟩

/-! ## Device features -/

/-- The features by their bits, and the battery. -/
structure DeviceFeatures where
  mask : Nat
  battery : UInt8
  deriving DecidableEq, Repr

def payloadSearchDeviceFeature : Bytes := []

/-- The feature words, the first one lowest. -/
def featureMask (words : Bytes) : Nat :=
  (List.range (words.length / 4)).foldl
    (fun mask index => mask ||| fromBytesBig (slice words (index * 4) ((index + 1) * 4)) <<< (32 * index)) 0

/-- The words behind the battery. -/
def parseDeviceFeatureResponse (plaintext : Bytes) : Py DeviceFeatures := do
  let (_, status, data) ← parseResponseStatus plaintext
  if status ≠ responseSuccess then
    throw (runtimeError s!"searchDeviceFeature FAILED: status={hexNumber status.toNat} err={hex data}")
  if data.length < 5 then
    throw (valueError s!"searchDeviceFeature payload too short: {hex plaintext}")
  return ⟨featureMask (data.drop 1), ← byteAt data 0⟩

/-! ## Device properties -/

/-- One field for each step. -/
structure DeviceProperties where
  modelVariant : String
  hardwareRevision : String
  firmwareVersion : String
  manufactureDate : String
  macAddress : String
  clockTime : DateTime
  deriving DecidableEq

def payloadDeviceProperty (step : UInt8) : Bytes := [step]

def errorUnrecognizedStep : UInt8 := 0x19

/-- A step that the lock does not know has an error of its own. -/
def propertyData (plaintext : Bytes) : Py Bytes := do
  let (_, status, data) ← parseResponseStatus plaintext
  if status ≠ responseSuccess then
    if data.head? = some errorUnrecognizedStep then
      throw (runtimeError
        s!"unrecognized device property step (0x19): status={hexNumber status.toNat} err={hex data}")
    throw (runtimeError s!"device property query FAILED: status={hexNumber status.toNat} err={hex data}")
  return data

def parseDevicePropertyString (plaintext : Bytes) : Py String := do
  decodeNullTerminatedAscii (← propertyData plaintext)

def parseDevicePropertyMac (plaintext : Bytes) : Py String := do
  return (decodeMac6 (← propertyData plaintext)).toUpper

/-- An impossible date is refused. -/
def parseDevicePropertyClock (plaintext : Bytes) : Py DateTime := do
  match decodeDate6 ((← propertyData plaintext).take 6) with
  | some parsed => return parsed
  | none => throw (valueError s!"device property clock not a valid date: {hex plaintext}")

end TtlockBle
