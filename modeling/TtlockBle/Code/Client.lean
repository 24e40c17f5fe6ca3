import TtlockBle.Code.Credentials
import TtlockBle.Code.Frame
import TtlockBle.Code.OperateLog
import TtlockBle.Code.Session
import TtlockBle.Code.Settings
import TtlockBle.Lib.Program

/-!
# `client.py`

Every command is an interaction program: it takes and gives back the command lock, exchanges
frames, and reads the host clock. `exchange command payload` stands for
`self._transport.exchange(self._frame(command, payload))`.
-/

open TtlockBle.Lib

namespace TtlockBle

/-! ## The client -/

/-- The key of one user of one lock, as far as the client uses it. -/
structure VirtualKey where
  keyId : Int
  lockId : Int
  lockMac : String
  lockAlias : String
  lockName : String
  lockVersion : LockVersion
  aesKeyStr : String
  unlockKey : String
  lockFlagPos : Int
  timezoneRawOffSet : Int
  startTime : Int := 0
  endTime : Int := 0
  keyType : Int := 0
  userType : String := ""
  adminPs : String := ""
  keyboardPwdVersion : Int := 0
  specialValue : Int := 0
  featureValue : String := ""
  uid : Int := 0
  deriving DecidableEq, Repr

/-- What `__init__` leaves: the key, and the bytes of its `aesKeyStr`. -/
structure TTLockClient where
  key : VirtualKey
  aesKey : Bytes
  aes : Aes
  aesKey_length : aesKey.length = aesKeyLen

inductive ClientOp where
  | acquire
  | release
  | exchange (command : Int) (payload : Bytes)
  | now
  | restartKeepAlive
  | readOptionalChar (uuid : String)
  deriving DecidableEq, Repr

def ClientOp.Answer : ClientOp → Type
  | acquire | release | restartKeepAlive => Unit
  | exchange _ _ => Frame
  | now => Int
  | readOptionalChar _ => Option String

abbrev ClientProgram := Program ClientOp ClientOp.Answer PyExc

def withCommandLock {α : Type} (body : ClientProgram α) : ClientProgram α :=
  (Program.perform ClientOp.acquire : ClientProgram Unit).bind fun _ =>
    body.andFinally (Program.perform ClientOp.release : ClientProgram Unit)

theorem withCommandLock_sat {σ α : Type} (M : Program.Monitor ClientOp ClientOp.Answer PyExc σ)
    {Q : σ → Py α → Prop} {s : σ} {body : ClientProgram α} (htake : M.allows s .acquire)
    (hrefused : ∀ e, M.admits s .acquire (.error e) → Q (M.next s .acquire (.error e)) (.error e))
    (hbody : Program.Sat M (fun s' o => M.allows s' .release ∧
        (∀ e, M.admits s' .release (.error e) → Q (M.next s' .release (.error e)) (.error e)) ∧
        (M.admits s' .release (.ok ()) → Q (M.next s' .release (.ok ())) o))
      (M.next s .acquire (.ok ())) body) :
    Program.Sat M Q s (withCommandLock body) := by
  refine ⟨htake, ?_⟩
  rintro (e | ⟨⟩) hr
  · exact hrefused e hr
  show Program.Sat M Q (M.next s .acquire (.ok ())) (body.andFinally _)
  unfold Program.andFinally
  rw [Program.sat_handle]
  refine Program.sat_mono M ?_ hbody
  rintro s' o ⟨hgive, herror, hok⟩
  refine ⟨hgive, ?_⟩
  rintro (e | ⟨⟩) hr
  · exact herror e hr
  · exact (Program.sat_ofExcept _ _ _ _).mpr (hok hr)

def exchange (command : Int) (payload : Bytes) : ClientProgram Frame :=
  Program.perform (ClientOp.exchange command payload)

/-- `except ... as error: raise TTLockError(text(error))`. -/
def raiseAsTTLockError {α : Type} (catches : PyExc → Bool) (text : String → String) (x : Py α) : Py α :=
  match x with
  | .ok a => .ok a
  | .error e => if catches e then .error (ttLockError (text e.text)) else .error e

@[simp]
theorem raiseAsTTLockError_eq_ok {α : Type} (catches : PyExc → Bool) (text : String → String) (x : Py α)
    (a : α) : raiseAsTTLockError catches text x = .ok a ↔ x = .ok a := by
  unfold raiseAsTTLockError
  rcases x with e | a
  · simp only [reduceCtorEq, iff_false]
    split <;> simp
  · simp

namespace TTLockClient

variable (self : TTLockClient)

/-- A frame addressed to the lock, with the payload encrypted. -/
def frame (command : Int) (payload : Bytes) : Py Frame :=
  (Frame.forLock self.key.lockVersion command payload).encryptData self.aes self.aesKey

/-! ## Replies -/

/-- A reply is told by its echo of the opcode. A frame that cannot be read counts as one. -/
def answers (candidate : Frame) (expectedCommand : Int) : Bool :=
  match (do parseResponseStatus (← aesDecrypt self.aes candidate.data self.aesKey) : Py _) with
  | .ok (echo, _, _) => (echo.toNat : Int) = expectedCommand
  | .error _ => true

/-- A payload that cannot be decrypted is a `TTLockError`. -/
def decryptResponse (resp : Frame) (label : String) : Py Bytes :=
  raiseAsTTLockError PyExc.isValueError (s!"Failed to decrypt {label} response: " ++ ·)
    (aesDecrypt self.aes resp.data self.aesKey)

theorem decryptResponse_eq_ok (resp : Frame) (label : String) (plain : Bytes) :
    self.decryptResponse resp label = .ok plain ↔ aesDecrypt self.aes resp.data self.aesKey = .ok plain :=
  raiseAsTTLockError_eq_ok _ _ _ _

/-- A reply that is too short is a `TTLockError`. -/
def parseResponseEnvelope (plain : Bytes) (label : String) : Py (UInt8 × UInt8 × Bytes) :=
  raiseAsTTLockError PyExc.isValueError (s!"Failed to parse {label} response: " ++ ·)
    (parseResponseStatus plain)

/-- Any status but SUCCESS is a `TTLockError`. -/
def requireSuccess (plain : Bytes) (label : String) : Py Unit := do
  let (_, status, data) ← parseResponseEnvelope plain label
  if status ≠ responseSuccess then
    throw (ttLockError
      s!"Failed to {label}: lock rejected with status={hexNumber status.toNat}, error={hex data}")

/-- One exchange, its reply decrypted. -/
def roundTrip (command : Int) (payload : Bytes) (label : String) : ClientProgram Bytes := do
  let resp ← exchange command payload
  self.decryptResponse resp label

/-! ## The handshakes -/

/-- The first step of unlocking and locking, which gives the token. -/
def checkUserTime : ClientProgram Nat := do
  let payload ← payloadCheckUserTime self.key.uid defaultStartDate defaultEndDate self.key.lockFlagPos
  let plain ← self.roundTrip cmdCheckUserTime payload "check_user_time"
  raiseAsTTLockError PyExc.isRuntimeOrValueError ("Failed to validate virtual key with lock: " ++ ·)
    (parseCheckUserTimeResponse plain)

/-- CHECK_ADMIN for a token, then CHECK_RANDOM for its sum with the unlock key. -/
def adminHandshake : ClientProgram Unit := do
  if ¬ isDigit self.key.adminPs then
    throw (ttLockError
      s!"Failed to authorize as admin: key {self.key.keyId} carries no admin password")
  let payload ← payloadCheckAdmin self.key.uid self.key.adminPs self.key.lockFlagPos
  let plain ← self.roundTrip cmdCheckAdmin payload "check_admin"
  let psFromLock ← raiseAsTTLockError PyExc.isRuntimeOrValueError ("Failed to authorize as admin: " ++ ·)
    (parseCheckAdminResponse plain)
  let payload ← payloadCheckRandom psFromLock self.key.unlockKey
  let plain ← self.roundTrip cmdCheckRandom payload "check_random"
  requireSuccess plain "check_random"

/-! ## Bolt and clock -/

/-- The token, then the command with the sum and the time of the host. -/
def controlLock (opcode : Int) (ps : Nat) (label : String) : ClientProgram Unit := do
  let now ← (Program.perform ClientOp.now : ClientProgram Int)
  let payload ← payloadUnlock ps self.key.unlockKey now
  let plain ← self.roundTrip opcode payload label
  requireSuccess plain label

/-- `unlock` and `lock`, which differ in opcode and label. -/
def moveBolt (opcode : Int) (label : String) : ClientProgram Unit := do
  withCommandLock do
    let ps ← self.checkUserTime
    self.controlLock opcode ps label
  (Program.perform ClientOp.restartKeepAlive : ClientProgram Unit)

def unlock : ClientProgram Unit := self.moveBolt cmdUnlock "unlock"

def lock : ClientProgram Unit := self.moveBolt cmdLock "lock"

/-- Admin-gated, unlike the read. -/
def calibrateTime (localTime : DateTime) : ClientProgram Unit :=
  withCommandLock do
    self.adminHandshake
    let plain ← self.roundTrip cmdTimeCalibrate (← payloadTimeCalibrate localTime) "calibrate_time"
    let (_, status, data) ← parseResponseEnvelope plain "calibrate_time"
    if status ≠ responseSuccess then
      throw (ttLockError ("Failed to calibrate lock time: lock rejected with " ++
        s!"status={hexNumber status.toNat}, error={hex data}"))

/-- The clock can be read without a handshake. -/
def getLockTime : ClientProgram DateTime :=
  withCommandLock do
    let plain ← self.roundTrip cmdGetLockTime payloadGetLockTime "get_lock_time"
    raiseAsTTLockError PyExc.isRuntimeOrValueError ("Failed to read lock time: " ++ ·)
      (parseGetLockTimeResponse plain)

/-- Drift and threshold in microseconds. `localTime` is the time that the caller's value displays. -/
def syncTime (localTime : DateTime) (driftThreshold : Int := 2000000) : ClientProgram Int := do
  let lockTime ← self.getLockTime
  let drift := lockTime.sub localTime
  if |drift| > driftThreshold then
    self.calibrateTime localTime
  return drift

/-- The bolt and the battery, without a handshake. -/
def queryState : ClientProgram (Option LockState × Option UInt8) :=
  withCommandLock do
    let plain ← self.roundTrip cmdQueryState payloadQueryState "query_state"
    raiseAsTTLockError PyExc.isValueError ("Failed to parse query_state response: " ++ ·) do
      return (← parseLockStatus plain, ← parseStateBattery plain)

/-! ## Settings -/

/-- The reads and the writes of the auto-lock share one opcode. -/
def autoLockRoundTrip (payload : Bytes) (label : String) : ClientProgram Bytes := do
  self.adminHandshake
  self.roundTrip cmdAutoLockManage payload label

/-- The delay, if it was asked for, and the battery. -/
def autoLockExchange (payload : Bytes) (label : String) : ClientProgram (Int × UInt8) := do
  let plain ← self.autoLockRoundTrip payload label
  raiseAsTTLockError PyExc.isRuntimeOrValueError (s!"Failed to {label}: " ++ ·)
    (parseAutoLockResponse plain)

def getAutoLockTime : ClientProgram Int :=
  withCommandLock do
    let (seconds, _) ← self.autoLockExchange payloadAutoLockSearch "get_auto_lock_time"
    return seconds

/-- What the lock answers is dropped, once it is a success. -/
def setAutoLockTime (seconds : Int) : ClientProgram Unit :=
  withCommandLock do
    let _ ← self.autoLockExchange (← payloadAutoLockSet seconds) "set_auto_lock_time"

/-- The smallest and the largest delay. -/
def getAutoLockLimits : ClientProgram AutoLockLimits :=
  withCommandLock do
    let plain ← self.autoLockRoundTrip payloadAutoLockSearch "get_auto_lock_limits"
    raiseAsTTLockError PyExc.isRuntimeOrValueError ("Failed to get_auto_lock_limits: " ++ ·)
      (parseAutoLockLimitsResponse plain)

/-- The handshake, one exchange and its parser, which the admin-gated reads share. -/
def gatedRead {α : Type} (command : Int) (payload : Bytes) (label : String) (parser : Bytes → Py α) :
    ClientProgram α :=
  withCommandLock do
    self.adminHandshake
    let plain ← self.roundTrip command payload label
    raiseAsTTLockError PyExc.isRuntimeOrValueError (s!"Failed to {label}: " ++ ·) (parser plain)

/-- Whether the lock makes sounds, and how loud. -/
def getLockSound : ClientProgram LockSound :=
  self.gatedRead cmdSetLockSound payloadGetLockSound "get_lock_sound" parseLockSoundResponse

/-- The handshake, one exchange and the check of its status, which the admin-gated writes share. -/
def gatedWrite (command : Int) (payload : Bytes) (label : String) : ClientProgram Unit := do
  self.adminHandshake
  let plain ← self.roundTrip command payload label
  requireSuccess plain label

def setLockSound (enabled : Bool) : ClientProgram Unit :=
  withCommandLock (self.gatedWrite cmdSetLockSound (payloadSetLockSound enabled) "set_lock_sound")

/-- The level is checked before anything is sent. -/
def setLockVolume (level : Int) : ClientProgram Unit := do
  let payload ← payloadSetLockVolume level
  withCommandLock (self.gatedWrite cmdSetLockSound payload "set_lock_volume")

def getDeviceFeatures : ClientProgram DeviceFeatures :=
  self.gatedRead cmdSearchDeviceFeature payloadSearchDeviceFeature "get_device_features"
    parseDeviceFeatureResponse

def devicePropertyExchange (step : UInt8) : ClientProgram Bytes :=
  self.roundTrip cmdGetDeviceProperties (payloadDeviceProperty step) "get_device_properties"

def deviceProperties : ClientProgram DeviceProperties := do
  let modelVariant ← parseDevicePropertyString (← self.devicePropertyExchange 1)
  let hardwareRevision ← parseDevicePropertyString (← self.devicePropertyExchange 2)
  let firmwareVersion ← parseDevicePropertyString (← self.devicePropertyExchange 3)
  let manufactureDate ← parseDevicePropertyString (← self.devicePropertyExchange 4)
  let macAddress ← parseDevicePropertyMac (← self.devicePropertyExchange 5)
  let clockTime ← parseDevicePropertyClock (← self.devicePropertyExchange 6)
  return ⟨modelVariant, hardwareRevision, firmwareVersion, manufactureDate, macAddress, clockTime⟩

/-- All six steps in one section of the command lock. -/
def getDeviceProperties : ClientProgram DeviceProperties :=
  withCommandLock do
    self.adminHandshake
    self.deviceProperties.handle fun outcome =>
      Program.ofExcept (raiseAsTTLockError PyExc.isRuntimeOrValueError
        ("Failed to get_device_properties: " ++ ·) outcome)

/-- What the standard service of a device says, where it has it. -/
structure DeviceInfo where
  manufacturer : Option String
  model : Option String
  serialNumber : Option String
  hardwareRevision : Option String
  firmwareRevision : Option String
  softwareRevision : Option String
  deriving DecidableEq, Repr

/-- Six characteristics, read without a word to the lock. -/
def getDeviceInfo : ClientProgram DeviceInfo :=
  withCommandLock do
    let read (uuid : String) : ClientProgram (Option String) :=
      Program.perform (ClientOp.readOptionalChar uuid)
    return {
      manufacturer := ← read "00002a29-0000-1000-8000-00805f9b34fb"
      model := ← read "00002a24-0000-1000-8000-00805f9b34fb"
      serialNumber := ← read "00002a25-0000-1000-8000-00805f9b34fb"
      hardwareRevision := ← read "00002a27-0000-1000-8000-00805f9b34fb"
      firmwareRevision := ← read "00002a26-0000-1000-8000-00805f9b34fb"
      softwareRevision := ← read "00002a28-0000-1000-8000-00805f9b34fb" }

/-! ## Credentials -/

/-- A change of the passcodes behind the admin handshake. -/
def keyboardPasswordExchange (payload : Bytes) (label : String) : ClientProgram Unit :=
  self.gatedWrite cmdManageKeyboardPassword payload label

/-- The dates are strings of decimal digits. -/
def addPasscode (code : String) (pwdType : KeyboardPwdType := .permanent)
    (startDate : String := "0001311400") (endDate : String := "9912311400") : ClientProgram Unit :=
  withCommandLock do
    self.keyboardPasswordExchange (← payloadPasscodeAdd pwdType.toInt code startDate endDate)
      "add_passcode"

/-- A passcode is deleted under its type. -/
def deletePasscode (code : String) (pwdType : KeyboardPwdType := .permanent) : ClientProgram Unit :=
  withCommandLock do
    self.keyboardPasswordExchange (← payloadPasscodeDelete pwdType.toInt code) "delete_passcode"

def clearPasscodes : ClientProgram Unit :=
  withCommandLock (self.keyboardPasswordExchange payloadPasscodeClear "clear_passcodes")

/-- The safety caps of the listings. -/
def maxPasscodeEntries : Nat := 300
def maxFingerprintEntries : Nat := 300
def maxCardEntries : Nat := 300

/-- The loop of `get_passcodes`, with the attempts that are left. -/
def passcodePages : Nat → Nat → List PasscodeEntry → ClientProgram (List PasscodeEntry)
  | 0, _, _ =>
    throw (ttLockError (s!"Failed to get_passcodes: exceeded safety cap of {maxPasscodeEntries} " ++
      "entries without the lock's cursor reaching 0"))
  | attempts + 1, sequence, entries => do
    let plain ← self.roundTrip cmdGetPasscodes (← payloadPasscodeList sequence) "get_passcodes"
    let (entry, nextSequence) ← raiseAsTTLockError PyExc.isRuntimeOrValueError
      ("Failed to get_passcodes: " ++ ·) (parsePasscodeListResponse plain)
    let entries := entries ++ entry.toList
    if nextSequence = 0 then
      return entries
    passcodePages attempts nextSequence entries

/-- The pages from cursor 0 on. -/
def getPasscodes : ClientProgram (List PasscodeEntry) :=
  withCommandLock do
    self.adminHandshake
    self.passcodePages maxPasscodeEntries 0 []

/-- What `get_fingerprints` and `get_cards` differ in. -/
structure Listing (α : Type) where
  command : Int
  payload : Int → Py Bytes
  parser : Bytes → Py (Option α)
  label : String
  cap : Nat

def listingPages {α : Type} (l : Listing α) : Nat → Nat → List α → ClientProgram (List α)
  | 0, _, _ =>
    throw (ttLockError (s!"Failed to {l.label}: exceeded safety cap of {l.cap} " ++
      "entries without an end-of-list response"))
  | left + 1, index, entries => do
    let plain ← self.roundTrip l.command (← l.payload index) l.label
    let entry ← raiseAsTTLockError PyExc.isRuntimeOrValueError (s!"Failed to {l.label}: " ++ ·)
      (l.parser plain)
    match entry with
    | none => return entries
    | some entry => listingPages l left (index + 1) (entries ++ [entry])

def getListing {α : Type} (l : Listing α) : ClientProgram (List α) :=
  withCommandLock do
    self.adminHandshake
    self.listingPages l l.cap 0 []

def fingerprintListing : Listing FingerprintEntry where
  command := cmdManageFingerprint
  payload := payloadFingerprintList
  parser := parseFingerprintListResponse
  label := "get_fingerprints"
  cap := maxFingerprintEntries

def cardListing : Listing CardEntry where
  command := cmdManageIcCard
  payload := payloadCardList
  parser := parseCardListResponse
  label := "get_cards"
  cap := maxCardEntries

/-- By index, up to the end marker. -/
def getFingerprints : ClientProgram (List FingerprintEntry) := self.getListing fingerprintListing

/-- By index, up to the end marker. -/
def getCards : ClientProgram (List CardEntry) := self.getListing cardListing

/-! ## The operation log -/

def sliceTo {α : Type} (entries : List α) (n : Int) : List α :=
  if 0 ≤ n then entries.take n.toNat else entries.take (entries.length - n.natAbs)

/-- The `while True` loop of `get_operation_log`, followed for `fuel` pages. `seen` is the record
numbers of `entries`. -/
def operationLogPages (maxEntries : Option Int) :
    Nat → Int → List Int → List LogEntry → ClientProgram (List LogEntry)
  | 0, _, _, _ => Program.cut
  | fuel + 1, nextSeq, seen, entries => do
    let plain ← self.roundTrip cmdGetOperateLog (← payloadOperateLogRequest nextSeq) "operate_log"
    let (page, lastSeq) ← raiseAsTTLockError PyExc.isValueError
      ("Failed to parse operate_log response: " ++ ·) (parseOperateLogResponse plain)
    if page = [] then
      return entries
    let newEntries := page.filter fun e => e.recordNumber ∉ seen
    if newEntries = [] then
      return entries
    let seen := seen ++ newEntries.map (·.recordNumber)
    let entries := entries ++ newEntries
    if ∃ n ∈ maxEntries, (entries.length : Int) ≥ n then
      return sliceTo entries (maxEntries.getD 0)
    if (lastSeq : Int) = 0 ∨ (lastSeq : Int) = nextSeq then
      return entries
    operationLogPages maxEntries fuel lastSeq seen entries

/-- No record is returned twice. -/
def getOperationLog (fuel : Nat) (maxEntries : Option Int := none) (fromSequence : Int := 0xFFFF) :
    ClientProgram (List LogEntry) :=
  withCommandLock (self.operationLogPages maxEntries fuel fromSequence [] [])

/-! ## Every call -/

/-- A state query whose answer is dropped. -/
def pokeLock : ClientProgram Unit :=
  withCommandLock (exchange cmdQueryState payloadQueryState).discard

end TTLockClient

/-- The public methods that take the command lock, with their arguments, and the keep-alive poke. -/
inductive Command where
  | unlock
  | lock
  | calibrateTime (localTime : DateTime)
  | getLockTime
  | syncTime (localTime : DateTime) (driftThreshold : Int)
  | queryState
  | getAutoLockTime
  | setAutoLockTime (seconds : Int)
  | getAutoLockLimits
  | addPasscode (code : String) (pwdType : KeyboardPwdType) (startDate endDate : String)
  | deletePasscode (code : String) (pwdType : KeyboardPwdType)
  | clearPasscodes
  | getPasscodes
  | getOperationLog (maxEntries : Option Int) (fromSequence : Int)
  | getFingerprints
  | getCards
  | getLockSound
  | setLockSound (enabled : Bool)
  | setLockVolume (level : Int)
  | getDeviceFeatures
  | getDeviceInfo
  | getDeviceProperties
  | pokeLock
  deriving DecidableEq

def TTLockClient.program (self : TTLockClient) (fuel : Nat) : Command → ClientProgram Unit
  | .unlock => self.unlock
  | .lock => self.lock
  | .calibrateTime localTime => self.calibrateTime localTime
  | .getLockTime => self.getLockTime.discard
  | .syncTime localTime driftThreshold => (self.syncTime localTime driftThreshold).discard
  | .queryState => self.queryState.discard
  | .getAutoLockTime => self.getAutoLockTime.discard
  | .setAutoLockTime seconds => self.setAutoLockTime seconds
  | .getAutoLockLimits => self.getAutoLockLimits.discard
  | .addPasscode code pwdType startDate endDate => self.addPasscode code pwdType startDate endDate
  | .deletePasscode code pwdType => self.deletePasscode code pwdType
  | .clearPasscodes => self.clearPasscodes
  | .getPasscodes => self.getPasscodes.discard
  | .getOperationLog maxEntries fromSequence =>
    (self.getOperationLog fuel maxEntries fromSequence).discard
  | .getFingerprints => self.getFingerprints.discard
  | .getCards => self.getCards.discard
  | .getLockSound => self.getLockSound.discard
  | .setLockSound enabled => self.setLockSound enabled
  | .setLockVolume level => self.setLockVolume level
  | .getDeviceFeatures => self.getDeviceFeatures.discard
  | .getDeviceInfo => TTLockClient.getDeviceInfo.discard
  | .getDeviceProperties => self.getDeviceProperties.discard
  | .pokeLock => TTLockClient.pokeLock

end TtlockBle
