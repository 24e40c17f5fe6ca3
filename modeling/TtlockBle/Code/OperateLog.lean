import TtlockBle.Code.Encoding

/-! # `commands/log_record.py` and `commands/operate_log.py` -/

open TtlockBle.Lib

namespace TtlockBle

/-! ## Record tails -/

/-- Two texts, each behind its length, and how far they reach. -/
def decodePwdPair (payload : Bytes) : Py (Option String × Option String × Nat) := do
  if payload = [] then
    return (none, none, 0)
  let pwdLen := (← byteAt payload 0).toNat
  if 1 + pwdLen > payload.length then
    return (none, none, 0)
  let pwd := decodeAsciiReplace (slice payload 1 (1 + pwdLen))
  let consumed := 1 + pwdLen
  if consumed ≥ payload.length then
    return (some pwd, none, consumed)
  let newLen := (← byteAt payload consumed).toNat
  let consumed := consumed + 1
  let newPwd := decodeAsciiReplace (slice payload consumed (consumed + newLen))
  return (some pwd, some newPwd, consumed + newLen)

/-- What the tail of a record can hold. -/
structure RecordTail where
  uid : Option Nat := none
  recordId : Option Nat := none
  password : Option String := none
  newPassword : Option String := none
  deleteDate : Option DateTime := none
  keyId : Option UInt8 := none
  accessoryBattery : Option UInt8 := none
  startDate : Option DateTime := none
  endDate : Option DateTime := none
  deriving DecidableEq

/-- The user and the number of a record of the app. -/
def decodeAppUidRecordId (payload : Bytes) : Py RecordTail := do
  if payload.length < 8 then
    return {}
  return {
    uid := some (fromBytesBig (payload.take 4))
    recordId := some (fromBytesBig (slice payload 4 8)) }

/-- As for the app, and the key that was pressed. -/
def decodeRemoteControlKey (payload : Bytes) : Py RecordTail := do
  if payload.length < 9 then
    return {}
  return {
    uid := some (fromBytesBig (payload.take 4))
    recordId := some (fromBytesBig (slice payload 4 8))
    keyId := some (← byteAt payload 8) }

/-- A passcode and the one that replaces it. -/
def decodePasscodePair (payload : Bytes) : Py RecordTail := do
  let (password, newPassword, _) ← decodePwdPair payload
  return { password := password, newPassword := newPassword }

/-- What follows the passcode is passed over. -/
def decodePasscodeOnly (payload : Bytes) : Py RecordTail := do
  let (password, _, _) ← decodePwdPair payload
  return { password := password }

/-- The date, and a passcode if there is more. -/
def decodeClearAllPasscodes (payload : Bytes) : Py RecordTail := do
  if payload.length < 5 then
    return {}
  let password ← if payload.length > 5 then do pure (← decodePwdPair (payload.drop 5)).1 else pure none
  return { deleteDate := decodeDate5 (payload.take 5), password := password }

def decimalId (raw : Bytes) : String := toString (fromBytesBig raw)

/-- A card number has any length. -/
def decodeCardNumber (payload : Bytes) : Py RecordTail := do
  if payload = [] then
    return {}
  return { password := some (decimalId payload) }

def decodeSixByteId (payload : Bytes) : Py RecordTail := do
  if payload.length < 6 then
    return {}
  return { password := some (decimalId (payload.take 6)) }

def decodeShortId (payload : Bytes) : Py RecordTail := do
  if payload.length < 2 then
    return {}
  return { password := some (decimalId (payload.take 2)) }

def decodeAccessoryBattery (payload : Bytes) : Py RecordTail := do
  if payload = [] then
    return {}
  return { accessoryBattery := some (← byteAt payload 0) }

/-- The address stands in for a password. -/
def decodeMacOnly (payload : Bytes) : Py RecordTail := do
  if payload.length < 6 then
    return {}
  return { password := some (decodeMac6 (payload.take 6)) }

def optionalByte (payload : Bytes) (i : Nat) : Py (Option UInt8) :=
  if payload.length ≥ i + 1 then do pure (some (← byteAt payload i)) else pure none

/-- The key and the battery may be missing. -/
def decodeKeyFob (payload : Bytes) : Py RecordTail := do
  if payload.length < 6 then
    return {}
  return {
    password := some (decodeMac6 (payload.take 6))
    keyId := ← optionalByte payload 6
    accessoryBattery := ← optionalByte payload 7 }

/-- The battery may be missing. -/
def decodeWirelessKeypad (payload : Bytes) : Py RecordTail := do
  if payload.length < 6 then
    return {}
  return {
    password := some (decodeMac6 (payload.take 6))
    accessoryBattery := ← optionalByte payload 6 }

/-- The windows may be missing. -/
def decodeAddedPasscode (payload : Bytes) : Py RecordTail := do
  if payload = [] then
    return {}
  let pwdLen := (← byteAt payload 0).toNat
  if 1 + pwdLen > payload.length then
    return {}
  let tail := payload.drop (1 + pwdLen)
  return {
    password := some (decodeAsciiReplace (slice payload 1 (1 + pwdLen)))
    startDate := if tail.length ≥ 5 then decodeDate5 (tail.take 5) else none
    endDate := if tail.length ≥ 10 then decodeDate5 (slice tail 5 10) else none }

/-- The decoder for each bucket of record types. -/
def tailDecodersByBucket : List (List UInt8 × (Bytes → Py RecordTail)) :=
  [([1, 26, 28, 41, 52, 75, 76, 77], decodeAppUidRecordId),
    ([4, 5, 6, 9, 10, 11, 12, 13, 34, 38, 78, 92], decodePasscodePair),
    ([7], decodePasscodeOnly),
    ([8], decodeClearAllPasscodes),
    ([15, 17, 18, 25, 35, 39, 51, 74, 80, 91], decodeCardNumber),
    ([19], decodeMacOnly),
    ([20, 21, 22, 23, 33, 40, 79], decodeSixByteId),
    ([30, 31], decodeAccessoryBattery),
    ([37], decodeRemoteControlKey),
    ([55, 82], decodeKeyFob),
    ([56], decodeWirelessKeypad),
    ([57, 58, 61, 62], decodeShortId),
    ([67, 68, 69, 70, 71, 72, 81, 83, 84, 85, 86, 87, 88, 89], decodeSixByteId),
    ([93], decodeAddedPasscode),
    ([94, 95, 96, 97, 98, 99, 100], decodeMacOnly)]

/-- `_TAIL_DECODERS.get(record_type)`. -/
def tailDecoder (recordType : UInt8) : Option (Bytes → Py RecordTail) :=
  (tailDecodersByBucket.find? (recordType ∈ ·.1)).map (·.2)

/-! ## Records and pages -/

/-- `record_type` is the raw byte: a `LogOperate` member equals it. -/
structure LogEntry where
  recordNumber : Int
  recordType : UInt8
  operateDate : Option DateTime
  lockBattery : UInt8
  tail : RecordTail
  deriving DecidableEq

/-- The fixed fields, and the tail that the type says. -/
def decodeLogRecord (recordType : UInt8) (operateDate : Option DateTime) (battery : UInt8)
    (sequence : Int) (data : Bytes) (idx recEnd : Nat) : Py LogEntry := do
  let tail ← match tailDecoder recordType with
    | some decoder => decoder (slice data idx recEnd)
    | none => pure {}
  return ⟨sequence, recordType, operateDate, battery, tail⟩

/-- The sequence to go on from. -/
def payloadOperateLogRequest (sequence : Int) : Py Bytes := intToBytesBe sequence 2

/-- The record loop of `parse_operate_log_response`. -/
def operateLogRecords (data : Bytes) (sequence : Nat) (idx : Nat) (entries : List LogEntry) :
    Py (List LogEntry) :=
  if h : idx < data.length then
    let recLen := data[idx].toNat
    let recStart := idx + 1
    if recStart + recLen > data.length then .ok entries
    else do
      let recordType ← byteAt data recStart
      let operateDate := decodeDate6 (slice data (recStart + 1) (recStart + 7))
      let battery ← byteAt data (recStart + 7)
      let entry ← decodeLogRecord recordType operateDate battery (sequence - entries.length - 1) data
        (recStart + 8) (recStart + recLen)
      operateLogRecords data sequence (recStart + recLen) (entries ++ [entry])
  else .ok entries
termination_by data.length - idx

/-- The next sequence and the entries of a page. -/
def parseOperateLogResponse (plaintext : Bytes) : Py (List LogEntry × Nat) := do
  let (_, status, data) ← parseResponseStatus plaintext
  if status ≠ responseSuccess ∨ data.length < 2 then
    return ([], 0)
  if fromBytesBig (data.take 2) = 0 then
    return ([], 0)
  let sequence := fromBytesBig (slice data 2 4)
  return (← operateLogRecords data sequence 4 [], sequence)

end TtlockBle
