import TtlockBle.Lib.Simulation
import TtlockBle.OverTheAir
import TtlockBle.PasscodeList
import TtlockBle.PasscodeWindows

/-!
# A lock that keeps its settings

What a client sets is what it reads back: the auto-lock delay, the sound, the passcodes. The lock is a record with
a few rules of its own, and the client's calls, in any order, do to it over the air what they do to that record.
-/

open TtlockBle.Lib

namespace TtlockBle.Settings

open Ascii Clock Contract Conversation Lock OverTheAir Parsers PasscodeList PasscodeWindows Payloads Validity

/-! ## Passcodes -/

/-- A minute that ten digits can say. -/
structure Stamp where
  time : DateTime
  century : 2000 ≤ time.year ∧ time.year ≤ 2099
  whole : time.second = 0 ∧ time.microsecond = 0

namespace Stamp

def fields (t : Stamp) : List Nat := [t.time.year % 100, t.time.month, t.time.day, t.time.hour, t.time.minute]

/-- `YYMMDDHHmm`. -/
def text (t : Stamp) : String := String.ofList (t.fields.flatMap fun n => (twoDigits n).toList)

def raw (t : Stamp) : Bytes := t.fields.map fun n => UInt8.ofNat (n % 100)

theorem decimalTimeBytes_text (t : Stamp) : decimalTimeBytes t.text = .ok t.raw := decimalTimeBytes_twoDigits _

theorem text_length (t : Stamp) : t.text.length = 10 := by
  rw [text, String.length_ofList, flatMap_length]
  rfl

theorem encodes (t : Stamp) : Encodes t.raw t.time := by
  refine ⟨_, _, _, _, _, rfl, ?_⟩
  obtain ⟨hcentury, hcentury'⟩ := t.century
  obtain ⟨-, hmonth, hday, hhour, hminute, -, -⟩ := t.time.valid
  have hdays : daysInMonth t.time.year t.time.month ≤ 31 := by
    unfold daysInMonth
    split <;> (try split) <;> omega
  have hbyte (n : Nat) : (UInt8.ofNat (n % 100)).toNat = n % 100 :=
    UInt8.toNat_ofNat_of_lt' (show _ < 256 by omega)
  simp only [hbyte, t.whole, and_true]
  omega

end Stamp

inductive Window where
  | permanent (start : Stamp)
  | period (start stop : Stamp)

namespace Window

def pwdType : Window → KeyboardPwdType
  | permanent _ => .permanent
  | period _ _ => .period

def startDate : Window → String
  | permanent start => start.text
  | period start _ => start.text

/-- A permanent passcode ignores it. -/
def endDate : Window → String
  | permanent _ => "9912311400"
  | period _ stop => stop.text

def raw : Window → Bytes
  | permanent start => start.raw
  | period start stop => start.raw ++ stop.raw

end Window

instance (code : String) : Decidable (Keypad code) :=
  decidable_of_iff ((4 ≤ code.length ∧ code.length ≤ 9) ∧ code.toList.all fun c => IsDigit c) (by simp [Keypad])

structure Passcode where
  code : String
  keypad : Keypad code
  window : Window

namespace Passcode

/-- What a listing says of it. -/
def entry (p : Passcode) : PasscodeEntry :=
  match p.window with
  | .permanent start => ⟨p.code, .permanent, some start.time, none, none⟩
  | .period start stop => ⟨p.code, .period, some start.time, some stop.time, none⟩

end Passcode

/-- The digits behind their number. -/
def digits (code : String) : Bytes := UInt8.ofNat code.length :: bytes code.toList

def addRequest (p : Passcode) : Bytes :=
  [pwdOperateAdd, UInt8.ofInt p.window.pwdType.toInt] ++ digits p.code ++ p.window.raw

def removeRequest (pwdType : KeyboardPwdType) (code : String) : Bytes :=
  [pwdOperateRemoveOne, UInt8.ofInt pwdType.toInt] ++ digits code

/-! ## The record -/

structure Kept where
  autoLock : Nat
  limits : AutoLockLimits
  sound : Bool
  /-- Not every lock has one. -/
  volume : Option LockVolume
  passcodes : List PasscodeEntry

/-- What is left to the lock: which passcodes it takes and what they replace, whether a volume turns the sound on,
and how a listing goes from page to page. -/
structure Firmware where
  add : List PasscodeEntry → PasscodeEntry → Option (List PasscodeEntry)
  remove : List PasscodeEntry → KeyboardPwdType → String → Option (List PasscodeEntry)
  volumeTurnsOn : Bool
  page : List PasscodeEntry → Nat → Bytes

inductive Call where
  | getAutoLockTime
  | setAutoLockTime (seconds : Int)
  | getAutoLockLimits
  | getLockSound
  | setLockSound (enabled : Bool)
  | setLockVolume (level : Int)
  | addPasscode (code : String) (window : Window)
  | deletePasscode (code : String) (pwdType : KeyboardPwdType)
  | clearPasscodes
  | getPasscodes

inductive Answer where
  | done
  | seconds (seconds : Int)
  | limits (limits : AutoLockLimits)
  | sound (sound : LockSound)
  | passcodes (entries : List PasscodeEntry)
  deriving DecidableEq

inductive Refusal where
  /-- Nothing is sent. -/
  | argument
  | lock
  deriving DecidableEq

namespace Kept

/-- No delay at all is not held against the limits. -/
def takesDelay (k : Kept) (seconds : Nat) : Prop :=
  seconds = 0 ∨ k.limits.minAllowed ≤ seconds ∧ seconds ≤ k.limits.maxAllowed

instance (k : Kept) (seconds : Nat) : Decidable (k.takesDelay seconds) := inferInstanceAs (Decidable (_ ∨ _))

def setDelay (k : Kept) (seconds : Nat) : Option Kept :=
  if k.takesDelay seconds then some { k with autoLock := seconds } else none

def setVolume (f : Firmware) (k : Kept) (level : LockVolume) : Kept :=
  { k with sound := k.sound || f.volumeTurnsOn, volume := k.volume.map fun _ => level }

def withPasscodes (k : Kept) (passcodes : Option (List PasscodeEntry)) : Option Kept :=
  passcodes.map fun passcodes => { k with passcodes := passcodes }

/-- A change that the lock may refuse. -/
def change (k : Kept) : Option Kept → Except Refusal Answer × Kept
  | some k' => (.ok .done, k')
  | none => (.error .lock, k)

def step (f : Firmware) (k : Kept) : Call → Except Refusal Answer × Kept
  | .getAutoLockTime => (.ok (.seconds k.autoLock), k)
  | .setAutoLockTime seconds =>
    if 0 ≤ seconds ∧ seconds ≤ 0xFFFF then k.change (k.setDelay seconds.toNat) else (.error .argument, k)
  | .getAutoLockLimits => (.ok (.limits k.limits), k)
  | .getLockSound => (.ok (.sound ⟨k.sound, k.volume⟩), k)
  | .setLockSound enabled => (.ok .done, { k with sound := enabled })
  | .setLockVolume level =>
    match LockVolume.ofInt level with
    | some level => (.ok .done, k.setVolume f level)
    | none => (.error .argument, k)
  | .addPasscode code window =>
    if h : Keypad code then k.change (k.withPasscodes (f.add k.passcodes (Passcode.entry ⟨code, h, window⟩)))
    else (.error .argument, k)
  | .deletePasscode code pwdType =>
    if Keypad code then k.change (k.withPasscodes (f.remove k.passcodes pwdType code)) else (.error .argument, k)
  | .clearPasscodes => (.ok .done, { k with passcodes := [] })
  | .getPasscodes => (.ok (.passcodes k.passcodes), k)

end Kept

/-! ## The lock -/

def volumeByte : LockVolume → UInt8
  | .low => 1
  | .mediumLow => 2
  | .medium => 3
  | .mediumHigh => 4
  | .high => 5

/-- The replies, by the sequence that is asked for, list these entries from one of them on. -/
inductive Paged (reply : Nat → Bytes) : Nat → List PasscodeEntry → Prop
  | none {sequence : Nat} (h : (reply sequence).length < 4) : Paged reply sequence []
  | last {sequence : Nat} {item : Item} {rest : Bytes} (h : reply sequence = item.data ++ rest)
    (hlast : item.nextSequence = 0) : Paged reply sequence [item.entry]
  | more {sequence : Nat} {item : Item} {rest : Bytes} {entries : List PasscodeEntry}
    (h : reply sequence = item.data ++ rest) (hmore : item.nextSequence ≠ 0)
    (hpaged : Paged reply item.nextSequence entries) : Paged reply sequence (item.entry :: entries)

section Lock

variable {σ : Type} (client : TTLockClient) (lock : Lock σ) (view : σ → Kept)

structure Keeps (f : Firmware) : Prop where
  delays : ∀ s, (view s).autoLock < 65536 ∧ (view s).limits.minAllowed < 65536 ∧ (view s).limits.maxAllowed < 65536
  few : ∀ s, (view s).passcodes.length < TTLockClient.maxPasscodeEntries
  checkAdmin : ∀ s payload, Accepts client lock view s cmdCheckAdmin payload (4 ≤ ·.length) (view s)
  checkRandom : ∀ s payload, Accepts client lock view s cmdCheckRandom payload (fun _ => True) (view s)
  readAutoLock : ∀ s, Accepts client lock view s cmdAutoLockManage [autoLockSearch]
    (fun d => ∃ battery rest, d = battery :: autoLockSearch :: (toBytesBig 2 (view s).autoLock ++
      toBytesBig 2 (view s).limits.minAllowed ++ toBytesBig 2 (view s).limits.maxAllowed ++ rest)) (view s)
  writeAutoLock : ∀ s seconds, seconds < 65536 →
    Changes client lock view s cmdAutoLockManage (autoLockModify :: toBytesBig 2 seconds)
      (fun d => ∃ battery rest, d = battery :: autoLockModify :: rest) ((view s).setDelay seconds)
  readSound : ∀ s, Accepts client lock view s cmdSetLockSound [soundSearchOperation]
    (fun d => ∃ battery sound rest, d = battery :: soundSearchOperation :: sound :: rest ∧
      (sound ≠ 0 ↔ (view s).sound) ∧ rest.head? = (view s).volume.map volumeByte) (view s)
  writeSound : ∀ s enabled, Accepts client lock view s cmdSetLockSound
    [soundModifyOperation, if enabled then 1 else 0] (fun _ => True) { view s with sound := enabled }
  writeVolume : ∀ s level, Accepts client lock view s cmdSetLockSound
    [soundModifyOperation, 0x01, volumeByte level, 0x00] (fun _ => True) ((view s).setVolume f level)
  addPasscode : ∀ s p, Changes client lock view s cmdManageKeyboardPassword (addRequest p) (fun _ => True)
    ((view s).withPasscodes (f.add (view s).passcodes p.entry))
  removePasscode : ∀ s pwdType code, Keypad code →
    Changes client lock view s cmdManageKeyboardPassword (removeRequest pwdType code) (fun _ => True)
      ((view s).withPasscodes (f.remove (view s).passcodes pwdType code))
  clearPasscodes : ∀ s, Accepts client lock view s cmdManageKeyboardPassword [pwdOperateClear] (fun _ => True)
    { view s with passcodes := [] }
  page : ∀ s sequence, sequence < 65536 → Accepts client lock view s cmdGetPasscodes (toBytesBig 2 sequence)
    (· = f.page (view s).passcodes sequence) (view s)
  paged : ∀ s, Paged (f.page (view s).passcodes) 0 (view s).passcodes

end Lock

/-! ## The calls -/

section Calls

variable (client : TTLockClient)

def ask : Call → ClientProgram Answer
  | .getAutoLockTime => return .seconds (← client.getAutoLockTime)
  | .setAutoLockTime seconds => do client.setAutoLockTime seconds; return .done
  | .getAutoLockLimits => return .limits (← client.getAutoLockLimits)
  | .getLockSound => return .sound (← client.getLockSound)
  | .setLockSound enabled => do client.setLockSound enabled; return .done
  | .setLockVolume level => do client.setLockVolume level; return .done
  | .addPasscode code window => do
    client.addPasscode code window.pwdType window.startDate window.endDate
    return .done
  | .deletePasscode code pwdType => do client.deletePasscode code pwdType; return .done
  | .clearPasscodes => do client.clearPasscodes; return .done
  | .getPasscodes => return .passcodes (← client.getPasscodes)

/-- What a call ends with is what the record answers. -/
def Agrees : Py Answer → Except Refusal Answer → Prop
  | .ok a, .ok b => a = b
  | .error e, .error .argument => IsValueError e
  | .error e, .error .lock => IsTTLockError e
  | _, _ => False

end Calls

/-! ## Requests and replies -/

section Payloads

theorem payloadAutoLockSet_eq (seconds : Int) (h : 0 ≤ seconds ∧ seconds ≤ 0xFFFF) :
    payloadAutoLockSet seconds = .ok (autoLockModify :: toBytesBig 2 seconds.toNat) := by
  obtain ⟨n, rfl⟩ := Int.eq_ofNat_of_zero_le h.1
  unfold payloadAutoLockSet
  rw [if_neg (not_not_intro h)]
  have hlow : UInt8.ofInt (n : Int) = UInt8.ofNat n := by
    apply UInt8.toNat_inj.mp
    simp only [UInt8.ofInt, UInt8.toNat_ofNat']
    omega
  have hhigh : UInt8.ofInt ((n : Int) >>> (8 : Nat)) = UInt8.ofNat (n / 256) := by
    rw [Int.shiftRight_eq_div_pow]
    apply UInt8.toNat_inj.mp
    simp only [UInt8.ofInt, UInt8.toNat_ofNat']
    omega
  rw [hlow, hhigh]
  simp only [toBytesBig, Int.toNat_natCast, Nat.pow_zero, Nat.pow_one, Nat.div_one]
  rfl

theorem payloadAutoLockSet_refuses (seconds : Int) (h : ¬ (0 ≤ seconds ∧ seconds ≤ 0xFFFF)) :
    ∃ e, payloadAutoLockSet seconds = .error e ∧ IsValueError e := by
  unfold payloadAutoLockSet
  rw [if_pos h]
  exact ⟨_, rfl, rfl⟩

theorem payloadSetLockVolume_eq {level : Int} {volume : LockVolume} (h : LockVolume.ofInt level = some volume) :
    payloadSetLockVolume level = .ok [soundModifyOperation, 0x01, volumeByte volume, 0x00] := by
  unfold LockVolume.ofInt at h
  split at h <;> cases h <;> rfl

theorem payloadSetLockVolume_refuses {level : Int} (h : LockVolume.ofInt level = none) :
    ∃ e, payloadSetLockVolume level = .error e ∧ IsValueError e := by
  unfold payloadSetLockVolume
  rw [h]
  exact ⟨_, rfl, rfl⟩

theorem windows_raw (code : String) (window : Window) :
    (Request.windows ⟨window.pwdType, code, window.startDate, window.endDate⟩).mapM decimalTimeBytes =
      .ok (match window with
        | .permanent start => [start.raw]
        | .period start stop => [start.raw, stop.raw]) := by
  cases window with
  | permanent start =>
    show List.mapM decimalTimeBytes [start.text] = _
    rw [List.mapM_cons, start.decimalTimeBytes_text]
    rfl
  | period start stop =>
    show List.mapM decimalTimeBytes [start.text, stop.text] = _
    rw [List.mapM_cons, List.mapM_cons, start.decimalTimeBytes_text, stop.decimalTimeBytes_text]
    rfl

theorem payloadPasscodeAdd_eq (p : Passcode) :
    payloadPasscodeAdd p.window.pwdType.toInt p.code p.window.startDate p.window.endDate = .ok (addRequest p) := by
  apply (payload_ok_iff ⟨p.window.pwdType, p.code, p.window.startDate, p.window.endDate⟩ _).mpr
  refine ⟨p.keypad, _, windows_raw p.code p.window, ?_⟩
  unfold addRequest digits front
  cases p.window with
  | permanent start => simp [Window.raw, Window.pwdType]
  | period start stop => simp [Window.raw, Window.pwdType]

theorem payloadPasscodeAdd_refuses (code : String) (window : Window) (h : ¬ Keypad code) :
    ∃ e, payloadPasscodeAdd window.pwdType.toInt code window.startDate window.endDate = .error e ∧ IsValueError e := by
  let r : Request := ⟨window.pwdType, code, window.startDate, window.endDate⟩
  cases hpayload : r.payload with
  | ok payload => exact absurd ((payload_ok_iff r payload).mp hpayload).1 h
  | error e => exact ⟨e, hpayload, payload_raises r e hpayload⟩

theorem payloadPasscodeDelete_eq (pwdType : KeyboardPwdType) (code : String) (h : Keypad code) :
    payloadPasscodeDelete pwdType.toInt code = .ok (removeRequest pwdType code) := by
  obtain ⟨hcheck, data, hdata⟩ := (keypad_iff code).mpr h
  obtain ⟨-, rfl⟩ := (encodeAscii_ok_iff code data).mp hdata
  unfold payloadPasscodeDelete
  rw [hcheck, toByte_pwdType, hdata]
  rfl

theorem payloadPasscodeDelete_refuses (pwdType : KeyboardPwdType) (code : String) (h : ¬ Keypad code) :
    ∃ e, payloadPasscodeDelete pwdType.toInt code = .error e ∧ IsValueError e := by
  have hraises : Raises IsValueError (payloadPasscodeDelete pwdType.toInt code) := by
    unfold payloadPasscodeDelete
    simp [checkPasscode_raises, encodeAscii_raises, toByte_raises]
  cases hpayload : payloadPasscodeDelete pwdType.toInt code with
  | error e => exact ⟨e, rfl, hraises e hpayload⟩
  | ok payload =>
    refine absurd ((keypad_iff code).mp ?_) h
    unfold payloadPasscodeDelete at hpayload
    cases hcheck : checkPasscode code with
    | error e =>
      rw [hcheck] at hpayload
      cases hpayload
    | ok _ =>
      rw [hcheck, toByte_pwdType] at hpayload
      cases hdata : encodeAscii code with
      | error e =>
        rw [hdata] at hpayload
        cases hpayload
      | ok data => exact ⟨rfl, data, rfl⟩

end Payloads

section Replies

theorem slice_word (n : Nat) (hn : n < 65536) (front rest : Bytes) {i : Nat} (hi : front.length = i) :
    fromBytesBig (slice (front ++ toBytesBig 2 n ++ rest) i (i + 2)) = n := by
  have h := slice_middle front (toBytesBig 2 n) rest
  rw [toBytesBig_length, hi] at h
  rw [h]
  exact fromBytesBig_toBytesBig 2 n hn

theorem autoLockData_eq (echo battery op : UInt8) (rest : Bytes) :
    autoLockData (echo :: responseSuccess :: battery :: op :: rest) = .ok (battery :: op :: rest) := by
  unfold autoLockData
  rw [parseResponseStatus_cons]
  rfl

theorem parseAutoLockResponse_read (echo battery : UInt8) (n : Nat) (hn : n < 65536) (rest : Bytes) :
    parseAutoLockResponse (echo :: responseSuccess :: battery :: autoLockSearch :: (toBytesBig 2 n ++ rest)) =
      .ok ((n : Int), battery) := by
  have hlong : ¬ (battery :: autoLockSearch :: (toBytesBig 2 n ++ rest)).length < 4 := by simp
  have hword := slice_word n hn [battery, autoLockSearch] rest (i := 2) rfl
  unfold parseAutoLockResponse
  rw [autoLockData_eq]
  simp only [bind, Except.bind, byteAt, List.getElem?_cons_succ, List.getElem?_cons_zero, if_neg hlong]
  exact congrArg (fun m : Nat => Except.ok ((m : Int), battery)) hword

theorem parseAutoLockResponse_written (echo battery : UInt8) (rest : Bytes) :
    parseAutoLockResponse (echo :: responseSuccess :: battery :: autoLockModify :: rest) = .ok (-1, battery) := by
  unfold parseAutoLockResponse
  rw [autoLockData_eq]
  rfl

theorem parseAutoLockLimitsResponse_read (echo battery : UInt8) (n : Nat) (limits : AutoLockLimits)
    (hmin : limits.minAllowed < 65536) (hmax : limits.maxAllowed < 65536) (rest : Bytes) :
    parseAutoLockLimitsResponse (echo :: responseSuccess :: battery :: autoLockSearch :: (toBytesBig 2 n ++
      toBytesBig 2 limits.minAllowed ++ toBytesBig 2 limits.maxAllowed ++ rest)) = .ok limits := by
  have hlong : ¬ (battery :: autoLockSearch :: (toBytesBig 2 n ++ toBytesBig 2 limits.minAllowed ++
      toBytesBig 2 limits.maxAllowed ++ rest)).length < 8 := by
    simp
    omega
  have hminWord := slice_word limits.minAllowed hmin ([battery, autoLockSearch] ++ toBytesBig 2 n)
    (toBytesBig 2 limits.maxAllowed ++ rest) (i := 4) rfl
  have hmaxWord := slice_word limits.maxAllowed hmax
    ([battery, autoLockSearch] ++ toBytesBig 2 n ++ toBytesBig 2 limits.minAllowed) rest (i := 6) rfl
  unfold parseAutoLockLimitsResponse
  rw [autoLockData_eq]
  simp only [bind, Except.bind, byteAt, List.getElem?_cons_succ, List.getElem?_cons_zero, if_neg hlong]
  simp only [List.append_assoc, List.cons_append, List.nil_append] at hminWord hmaxWord ⊢
  rw [hminWord, hmaxWord]
  rfl

theorem ofInt_volumeByte (volume : LockVolume) : LockVolume.ofInt (volumeByte volume).toNat = some volume := by
  cases volume <;> rfl

theorem parseLockSoundResponse_read (echo battery sound : UInt8) (rest : Bytes) (enabled : Bool)
    (volume : Option LockVolume) (hsound : sound ≠ 0 ↔ enabled) (hrest : rest.head? = volume.map volumeByte) :
    parseLockSoundResponse (echo :: responseSuccess :: battery :: soundSearchOperation :: sound :: rest) =
      .ok ⟨enabled, volume⟩ := by
  have henabled : decide (sound ≠ 0) = enabled := by
    rw [← Bool.decide_coe enabled]
    exact decide_eq_decide.mpr hsound
  unfold parseLockSoundResponse
  rw [parseResponseStatus_cons]
  cases rest with
  | nil =>
    obtain rfl : volume = none := by simpa using hrest.symm
    rw [← henabled]
    rfl
  | cons level rest =>
    obtain ⟨v, rfl, rfl⟩ : ∃ v, volume = some v ∧ volumeByte v = level := by
      simpa [eq_comm] using hrest
    have hlong : (battery :: soundSearchOperation :: sound :: volumeByte v :: rest).length > 3 := by simp
    have hshort : ¬ (battery :: soundSearchOperation :: sound :: volumeByte v :: rest).length < 3 := by simp
    simp only [bind, Except.bind, byteAt, List.getElem?_cons_succ, List.getElem?_cons_zero, if_neg hshort, if_pos hlong]
    rw [← henabled, ← ofInt_volumeByte v]
    rfl

end Replies

/-! ## One call -/

section Refinement

variable {σ : Type} {client : TTLockClient} {lock : Lock σ} {view : σ → Kept} {f : Firmware}
  (hlock : Keeps client lock view f) (hkey : WellFormedKey client.key) (hadmin : isDigit client.key.adminPs)
include hlock hkey hadmin

theorem play_adminHandshake (s : Session σ) :
    ∃ s', lock.play s client.adminHandshake = (s', some (.ok ())) ∧ view s'.lock = view s.lock := by
  obtain ⟨admin, hadmin'⟩ := payloadCheckAdmin_returns client.key hkey.uid (hkey.adminPs hadmin)
  obtain ⟨n, hn⟩ := hkey.unlockKey
  obtain ⟨echo, token, htoken, hreplies, hview⟩ := hlock.checkAdmin s.lock admin
  have hparse : parseCheckAdminResponse (echo :: responseSuccess :: token) = .ok (fromBytesBig (token.take 4)) :=
    parseToken_eq _ (parseResponseStatus_cons _ _ _) htoken
  let s₁ := lock.send s cmdCheckAdmin admin
  let random := toBytesBig 4 (tokenSum (fromBytesBig (token.take 4)) n)
  obtain ⟨echo', data', -, hreplies', hview'⟩ := hlock.checkRandom s₁.lock random
  refine ⟨lock.send s₁ cmdCheckRandom random, ?_, hview'.trans hview⟩
  unfold TTLockClient.adminHandshake
  rw [if_neg (not_not_intro hadmin), play_lift_bind hadmin', play_bind (play_roundTrip_replies hreplies _), hparse]
  refine (play_lift_bind (a := fromBytesBig (token.take 4)) rfl _).trans ?_
  rw [play_lift_bind (payloadCheckRandom_eq _ _ _ hn)]
  refine (play_bind (play_roundTrip_replies hreplies' _) _).trans ?_
  rw [requireSuccess_success]
  rfl

variable {s : Session σ} {command : Int} {payload : Bytes} {label : String} {data : Bytes → Prop}

/-- The handshake, one exchange and its parser. -/
def gated {α : Type} (client : TTLockClient) (command : Int) (payload : Bytes) (label : String)
    (parser : Bytes → Py α) : ClientProgram α := do
  client.adminHandshake
  let plain ← client.roundTrip command payload label
  raiseAsTTLockError PyExc.isRuntimeOrValueError (s!"Failed to {label}: " ++ ·) (parser plain)

omit hlock hkey hadmin in
theorem autoLockExchange_eq : client.autoLockExchange payload label =
    gated client cmdAutoLockManage payload label parseAutoLockResponse :=
  Program.bind_assoc _ _ _

/-- The lock keeps the same after the handshake, so it says what it would have said before it. -/
theorem play_gated {α : Type} (label : String) (parser : Bytes → Py α) (P : α → Prop) {k : Kept}
    (haccepts : ∀ t, view t = view s.lock → Accepts client lock view t command payload data k)
    (hparse : ∀ echo d, data d → ∃ a, parser (echo :: responseSuccess :: d) = .ok a ∧ P a) :
    ∃ s' a, lock.play s (gated client command payload label parser) = (s', some (.ok a)) ∧ P a ∧
      view s'.lock = k := by
  obtain ⟨s₁, hhandshake, hview⟩ := play_adminHandshake hlock hkey hadmin s
  obtain ⟨echo, d, hdata, hreplies, hview'⟩ := haccepts s₁.lock hview
  obtain ⟨a, hparsed, ha⟩ := hparse echo d hdata
  refine ⟨lock.send s₁ command payload, a, ?_, ha, hview'⟩
  unfold gated
  rw [play_bind hhandshake, play_bind (play_roundTrip_replies hreplies _), hparsed]
  rfl

theorem play_gated_rejected {α : Type} (label : String) (parser : Bytes → Py α)
    (hrejects : ∀ t, view t = view s.lock → Rejects client lock view t command payload)
    (hparse : ∀ echo status d, status ≠ responseSuccess →
      ∃ e, parser (echo :: status :: d) = .error e ∧ IsRuntimeOrValueError e) :
    ∃ s' e, lock.play s (gated client command payload label parser) = (s', some (.error e)) ∧ IsTTLockError e ∧
      view s'.lock = view s.lock := by
  obtain ⟨s₁, hhandshake, hview⟩ := play_adminHandshake hlock hkey hadmin s
  obtain ⟨echo, status, d, hstatus, hreplies, hview'⟩ := hrejects s₁.lock hview
  obtain ⟨e, herror, he⟩ := hparse echo status d hstatus
  refine ⟨lock.send s₁ command payload, ttLockError (s!"Failed to {label}: " ++ e.text), ?_, rfl, hview'.trans hview⟩
  unfold gated
  rw [play_bind hhandshake, play_bind (play_roundTrip_replies hreplies _), play_lift, herror, raiseAsTTLockError,
    if_pos (show e.isRuntimeOrValueError = true from he)]

theorem play_gatedWrite {change : Option Kept}
    (hchanges : ∀ t, view t = view s.lock → Changes client lock view t command payload data change) :
    ∃ s' o, lock.play s (client.gatedWrite command payload label) = (s', some o) ∧
      Agrees (o.map fun _ => .done) ((view s.lock).change change).1 ∧
      view s'.lock = ((view s.lock).change change).2 := by
  obtain ⟨s₁, hhandshake, hview⟩ := play_adminHandshake hlock hkey hadmin s
  have hchanges := hchanges s₁.lock hview
  refine ⟨lock.send s₁ command payload, ?_⟩
  unfold TTLockClient.gatedWrite
  rw [play_bind hhandshake]
  cases change with
  | some k' =>
    obtain ⟨echo, d, -, hreplies, hview'⟩ := hchanges
    refine ⟨.ok (), ?_, rfl, hview'⟩
    rw [play_bind (play_roundTrip_replies hreplies _)]
    rfl
  | none =>
    obtain ⟨echo, status, d, hstatus, hreplies, hview'⟩ := hchanges
    obtain ⟨e, herror, he⟩ := requireSuccess_rejected echo d label hstatus
    refine ⟨.error e, ?_, he, hview'.trans hview⟩
    rw [play_bind (play_roundTrip_replies hreplies _), play_lift, herror]

omit hkey hadmin in
theorem play_page {sequence : Nat} (hsequence : sequence < 65536) {entry : Option PasscodeEntry} {nextSequence : Nat}
    (hparse : ∀ echo, parsePasscodeListResponse
      (echo :: responseSuccess :: f.page (view s.lock).passcodes sequence) = .ok (entry, nextSequence))
    (attempts : Nat) (read : List PasscodeEntry) :
    view (lock.send s cmdGetPasscodes (toBytesBig 2 sequence)).lock = view s.lock ∧
      lock.play s (client.passcodePages (attempts + 1) sequence read) =
        lock.play (lock.send s cmdGetPasscodes (toBytesBig 2 sequence))
          (if nextSequence = 0 then pure (read ++ entry.toList)
            else client.passcodePages attempts nextSequence (read ++ entry.toList)) := by
  obtain ⟨echo, d, rfl, hreplies, hview⟩ := hlock.page s.lock sequence hsequence
  refine ⟨hview, ?_⟩
  rw [TTLockClient.passcodePages, payloadPasscodeList, play_lift_bind (intToBytesBe_two sequence hsequence),
    play_bind (play_roundTrip_replies hreplies _), hparse]
  rfl

omit hkey hadmin in
theorem play_passcodePages {reply : Nat → Bytes} {sequence : Nat} {entries : List PasscodeEntry}
    (hpaged : Paged reply sequence entries) (hsequence : sequence < 65536) {attempts : Nat}
    (hattempts : entries.length < attempts) (read : List PasscodeEntry) {s : Session σ}
    (hreply : f.page (view s.lock).passcodes = reply) :
    ∃ s', lock.play s (client.passcodePages attempts sequence read) = (s', some (.ok (read ++ entries))) ∧
      view s'.lock = view s.lock := by
  induction hpaged generalizing s attempts read with
  | @none sequence h =>
    obtain ⟨attempts, rfl⟩ := Nat.exists_eq_succ_of_ne_zero (Nat.ne_zero_of_lt hattempts)
    obtain ⟨hview, hplay⟩ := play_page hlock hsequence (s := s)
      (fun echo => by rw [hreply, parsePasscodeListResponse_short echo _ (by omega), if_pos h]) attempts read
    rw [if_pos rfl] at hplay
    exact ⟨_, hplay, hview⟩
  | @last sequence item rest h hlast =>
    obtain ⟨attempts, rfl⟩ := Nat.exists_eq_succ_of_ne_zero (Nat.ne_zero_of_lt hattempts)
    obtain ⟨hview, hplay⟩ := play_page hlock hsequence (s := s)
      (fun echo => by rw [hreply, h, parse_item]) attempts read
    rw [if_pos hlast] at hplay
    exact ⟨_, hplay, hview⟩
  | @more sequence item rest entries h hmore _ ih =>
    obtain ⟨attempts, rfl⟩ := Nat.exists_eq_succ_of_ne_zero (Nat.ne_zero_of_lt hattempts)
    obtain ⟨hview, hplay⟩ := play_page hlock hsequence (s := s)
      (fun echo => by rw [hreply, h, parse_item]) attempts read
    obtain ⟨s', hrest, hview'⟩ := ih item.nextSequence_lt (Nat.lt_of_succ_lt_succ hattempts)
      (read ++ [item.entry]) (by rw [hview, hreply])
    rw [if_neg hmore] at hplay
    refine ⟨s', (hplay.trans hrest).trans ?_, hview'.trans hview⟩
    rw [List.append_assoc]
    rfl

theorem play_getPasscodes :
    ∃ s', lock.play s client.getPasscodes = (s', some (.ok (view s.lock).passcodes)) ∧ view s'.lock = view s.lock := by
  obtain ⟨s₁, hhandshake, hview⟩ := play_adminHandshake hlock hkey hadmin s
  obtain ⟨s₂, hpages, hview'⟩ := play_passcodePages hlock (hlock.paged s₁.lock) (by decide) (hlock.few s₁.lock) [] rfl
  refine ⟨s₂, ?_, hview'.trans hview⟩
  unfold TTLockClient.getPasscodes
  rw [play_withCommandLock, play_bind hhandshake, hpages, hview]
  rfl

/-! ## Every call -/

omit hlock hkey hadmin in
theorem parseAutoLockResponse_rejected (echo status : UInt8) (d : Bytes) (h : status ≠ responseSuccess) :
    ∃ e, parseAutoLockResponse (echo :: status :: d) = .error e ∧ IsRuntimeOrValueError e := by
  unfold parseAutoLockResponse autoLockData
  rw [parseResponseStatus_cons]
  simp only [bind, Except.bind, ne_eq, h, not_false_eq_true, if_true]
  exact ⟨_, rfl, rfl⟩

omit hlock hkey hadmin in
theorem play_returning {α β : Type} {p : ClientProgram α} {s' : Session σ} {o : Py α}
    (h : lock.play s p = (s', some o)) (g : α → β) :
    lock.play s (do return g (← p)) = (s', some (o.map g)) := by
  cases o with
  | ok a => exact play_bind h _
  | error e => exact play_bind_error h _

omit hlock hkey hadmin in
theorem play_refused {α β : Type} {x : Py α} {e : PyExc} (h : x = .error e) (g : α → ClientProgram β) :
    lock.play s (do let a ← x; g a) = (s, some (.error e)) :=
  play_bind_error (by rw [play_lift, h]) _

/-- A call ends as the record says, and leaves the lock with what is then kept. Nothing is sent for an argument
that is refused. -/
structure Does (view : σ → Kept) (f : Firmware) (s s' : Session σ) (o : Py Answer) (call : Call) : Prop where
  agrees : Agrees o ((view s.lock).step f call).1
  keeps : view s'.lock = ((view s.lock).step f call).2
  silent : ((view s.lock).step f call).1 = .error .argument → s' = s

theorem play_getAutoLockTime :
    ∃ s', lock.play s client.getAutoLockTime = (s', some (.ok ((view s.lock).autoLock : Int))) ∧
      view s'.lock = view s.lock := by
  obtain ⟨s', ⟨seconds, battery⟩, hplay, hseconds, hview⟩ := play_gated hlock hkey hadmin
    "get_auto_lock_time" parseAutoLockResponse (fun a => a.1 = ((view s.lock).autoLock : Int))
    (fun t ht => ht ▸ hlock.readAutoLock t) (by
      rintro echo _ ⟨battery, rest, rfl⟩
      rw [List.append_assoc, List.append_assoc]
      exact ⟨_, parseAutoLockResponse_read _ _ _ (hlock.delays s.lock).1 _, rfl⟩)
  obtain rfl : seconds = ((view s.lock).autoLock : Int) := hseconds
  refine ⟨s', ?_, hview⟩
  unfold TTLockClient.getAutoLockTime
  rw [play_withCommandLock, autoLockExchange_eq]
  exact play_bind hplay _

theorem play_setAutoLockTime (seconds : Int) (h : 0 ≤ seconds ∧ seconds ≤ 0xFFFF) :
    ∃ s' o, lock.play s (client.setAutoLockTime seconds) = (s', some o) ∧
      Agrees (o.map fun _ => .done) ((view s.lock).change ((view s.lock).setDelay seconds.toNat)).1 ∧
      view s'.lock = ((view s.lock).change ((view s.lock).setDelay seconds.toNat)).2 := by
  have hwrites (t : σ) (ht : view t = view s.lock) := ht ▸ hlock.writeAutoLock t seconds.toNat (by omega)
  unfold TTLockClient.setAutoLockTime
  rw [play_withCommandLock, play_lift_bind (payloadAutoLockSet_eq seconds h), autoLockExchange_eq]
  cases hchange : (view s.lock).setDelay seconds.toNat with
  | some k' =>
    rw [hchange] at hwrites
    obtain ⟨s', a, hplay, -, hview⟩ := play_gated hlock hkey hadmin "set_auto_lock_time"
      parseAutoLockResponse (fun _ => True) hwrites (by
        rintro echo _ ⟨battery, rest, rfl⟩
        exact ⟨_, parseAutoLockResponse_written _ _ _, trivial⟩)
    exact ⟨s', .ok (), play_bind hplay _, rfl, hview⟩
  | none =>
    rw [hchange] at hwrites
    obtain ⟨s', e, hplay, he, hview⟩ := play_gated_rejected hlock hkey hadmin "set_auto_lock_time"
      parseAutoLockResponse hwrites parseAutoLockResponse_rejected
    exact ⟨s', .error e, play_bind_error hplay _, he, hview⟩

theorem play_getAutoLockLimits :
    ∃ s', lock.play s client.getAutoLockLimits = (s', some (.ok (view s.lock).limits)) ∧
      view s'.lock = view s.lock := by
  obtain ⟨s', _, hplay, rfl, hview⟩ := play_gated hlock hkey hadmin "get_auto_lock_limits"
    parseAutoLockLimitsResponse (· = (view s.lock).limits)
    (fun t ht => ht ▸ hlock.readAutoLock t) (by
      rintro echo _ ⟨battery, rest, rfl⟩
      exact ⟨_, parseAutoLockLimitsResponse_read _ _ _ _ (hlock.delays s.lock).2.1 (hlock.delays s.lock).2.2 _, rfl⟩)
  refine ⟨s', ?_, hview⟩
  unfold TTLockClient.getAutoLockLimits
  rw [play_withCommandLock]
  exact (congrArg (lock.play s) (Program.bind_assoc _ _ _)).trans hplay

theorem play_getLockSound :
    ∃ s', lock.play s client.getLockSound = (s', some (.ok ⟨(view s.lock).sound, (view s.lock).volume⟩)) ∧
      view s'.lock = view s.lock := by
  obtain ⟨s', _, hplay, rfl, hview⟩ := play_gated hlock hkey hadmin "get_lock_sound"
    parseLockSoundResponse (· = ⟨(view s.lock).sound, (view s.lock).volume⟩)
    (fun t ht => ht ▸ hlock.readSound t) (by
      rintro echo _ ⟨battery, sound, rest, rfl, hsound, hvolume⟩
      exact ⟨_, parseLockSoundResponse_read _ _ _ _ _ _ hsound hvolume, rfl⟩)
  exact ⟨s', play_withCommandLock.trans hplay, hview⟩

section Does

omit hlock hkey hadmin

variable {call : Call}

theorem does_read {α : Type} {p : ClientProgram α} {a : α} (g : α → Answer)
    (hstep : (view s.lock).step f call = (.ok (g a), view s.lock))
    (hplay : ∃ s', lock.play s p = (s', some (.ok a)) ∧ view s'.lock = view s.lock) :
    ∃ s' o, lock.play s (do return g (← p)) = (s', some o) ∧ Does view f s s' o call := by
  obtain ⟨s', hplay, hview⟩ := hplay
  refine ⟨s', _, play_returning hplay g, ?_, ?_, ?_⟩
  · rw [hstep]
    rfl
  · rw [hstep, hview]
  · rw [hstep]
    rintro ⟨⟩

theorem does_write {p : ClientProgram Unit} (change : Option Kept)
    (hstep : (view s.lock).step f call = (view s.lock).change change)
    (hplay : ∃ s' o, lock.play s p = (s', some o) ∧
      Agrees (o.map fun _ => .done) ((view s.lock).change change).1 ∧
      view s'.lock = ((view s.lock).change change).2) :
    ∃ s' o, lock.play s (do p; return .done) = (s', some o) ∧ Does view f s s' o call := by
  obtain ⟨s', o, hplay, hagrees, hview⟩ := hplay
  refine ⟨s', _, play_returning hplay fun _ => Answer.done, ?_, ?_, ?_⟩
  · rwa [hstep]
  · rwa [hstep]
  · rw [hstep]
    cases change <;> rintro ⟨⟩

theorem does_refused {p : ClientProgram Unit} {e : PyExc}
    (hstep : (view s.lock).step f call = (.error .argument, view s.lock))
    (hplay : lock.play s p = (s, some (.error e))) (he : IsValueError e) :
    ∃ s' o, lock.play s (do p; return .done) = (s', some o) ∧ Does view f s s' o call := by
  refine ⟨s, _, play_returning hplay fun _ => Answer.done, ?_, ?_, fun _ => rfl⟩
  · rw [hstep]
    exact he
  · rw [hstep]

end Does

theorem play_ask (call : Call) : ∃ s' o, lock.play s (ask client call) = (s', some o) ∧ Does view f s s' o call := by
  cases call with
  | getAutoLockTime => exact does_read .seconds rfl (play_getAutoLockTime hlock hkey hadmin)
  | setAutoLockTime seconds =>
    by_cases h : 0 ≤ seconds ∧ seconds ≤ 0xFFFF
    · exact does_write _ (if_pos h) (play_setAutoLockTime hlock hkey hadmin seconds h)
    · obtain ⟨e, herror, he⟩ := payloadAutoLockSet_refuses seconds h
      exact does_refused (if_neg h) (play_withCommandLock.trans (play_refused herror _)) he
  | getAutoLockLimits => exact does_read .limits rfl (play_getAutoLockLimits hlock hkey hadmin)
  | getLockSound => exact does_read .sound rfl (play_getLockSound hlock hkey hadmin)
  | setLockSound enabled =>
    refine does_write (some { view s.lock with sound := enabled }) rfl ?_
    unfold TTLockClient.setLockSound
    rw [play_withCommandLock]
    exact play_gatedWrite hlock hkey hadmin fun t ht => ht ▸ hlock.writeSound t enabled
  | setLockVolume level =>
    cases hvolume : LockVolume.ofInt level with
    | some volume =>
      refine does_write (some ((view s.lock).setVolume f volume)) ?_ ?_
      · simp only [Kept.step, hvolume]
        rfl
      unfold TTLockClient.setLockVolume
      rw [play_lift_bind (payloadSetLockVolume_eq hvolume), play_withCommandLock]
      exact play_gatedWrite hlock hkey hadmin fun t ht => ht ▸ hlock.writeVolume t volume
    | none =>
      obtain ⟨e, herror, he⟩ := payloadSetLockVolume_refuses hvolume
      exact does_refused (by simp only [Kept.step, hvolume]) (play_refused herror _) he
  | addPasscode code window =>
    by_cases h : Keypad code
    · refine does_write _ (dif_pos h) ?_
      unfold TTLockClient.addPasscode
      rw [play_withCommandLock, play_lift_bind (payloadPasscodeAdd_eq ⟨code, h, window⟩)]
      exact play_gatedWrite hlock hkey hadmin fun t ht => ht ▸ hlock.addPasscode t ⟨code, h, window⟩
    · obtain ⟨e, herror, he⟩ := payloadPasscodeAdd_refuses code window h
      exact does_refused (dif_neg h) (play_withCommandLock.trans (play_refused herror _)) he
  | deletePasscode code pwdType =>
    by_cases h : Keypad code
    · refine does_write _ (if_pos h) ?_
      unfold TTLockClient.deletePasscode
      rw [play_withCommandLock, play_lift_bind (payloadPasscodeDelete_eq pwdType code h)]
      exact play_gatedWrite hlock hkey hadmin fun t ht => ht ▸ hlock.removePasscode t pwdType code h
    · obtain ⟨e, herror, he⟩ := payloadPasscodeDelete_refuses pwdType code h
      exact does_refused (if_neg h) (play_withCommandLock.trans (play_refused herror _)) he
  | clearPasscodes =>
    refine does_write (some { view s.lock with passcodes := [] }) rfl ?_
    unfold TTLockClient.clearPasscodes
    rw [play_withCommandLock]
    exact play_gatedWrite hlock hkey hadmin fun t ht => ht ▸ hlock.clearPasscodes t
  | getPasscodes => exact does_read .passcodes rfl (play_getPasscodes hlock hkey hadmin)

end Refinement

/-! ## Over the air -/

section Air

open Program

variable (client : TTLockClient)

/-- The next call comes whatever the last one ended with. -/
def recording (calls : List Call) : ClientProgram (List (Py Answer)) := inOrder (calls.map (ask client))

variable {client}

section Timeless

variable {command : Int} {payload : Bytes} {label : String} {α : Type}

theorem timeless_gated (parser : Bytes → Py α) : Only Timeless (gated client command payload label parser) :=
  only_bind timeless_adminHandshake fun _ => only_bind (timeless_roundTrip _ _ _) fun _ => timeless_lift _

theorem timeless_gatedWrite : Only Timeless (client.gatedWrite command payload label) :=
  only_bind timeless_adminHandshake fun _ => only_bind (timeless_roundTrip _ _ _) fun _ => timeless_lift _

theorem timeless_passcodePages (attempts sequence : Nat) (read : List PasscodeEntry) :
    Only Timeless (client.passcodePages attempts sequence read) := by
  induction attempts generalizing sequence read with
  | zero => exact timeless_lift (.error _)
  | succ attempts ih =>
    rw [TTLockClient.passcodePages]
    refine only_bind (timeless_lift _) fun _ => only_bind (timeless_roundTrip _ _ _) fun _ => ?_
    refine only_bind (timeless_lift _) fun ⟨entry, nextSequence⟩ => ?_
    simp only
    split_ifs
    · exact timeless_lift (.ok _)
    · exact ih _ _

theorem timeless_ask (call : Call) : Only Timeless (ask client call) := by
  have hreturn {α : Type} (a : α) : Only Timeless (pure a : ClientProgram α) := timeless_lift (.ok a)
  have hexchange (payload : Bytes) (label : String) : Only Timeless (client.autoLockExchange payload label) :=
    autoLockExchange_eq.symm ▸ timeless_gated _
  cases call with
  | getAutoLockTime =>
    exact only_bind (timeless_withCommandLock (only_bind (hexchange _ _) fun _ => hreturn _)) fun _ => hreturn _
  | setAutoLockTime seconds =>
    exact only_bind (timeless_withCommandLock (only_bind (timeless_lift _) fun _ =>
      only_bind (hexchange _ _) fun _ => hreturn _)) fun _ => hreturn _
  | getAutoLockLimits =>
    refine only_bind (timeless_withCommandLock ?_) fun _ => hreturn _
    exact only_bind (only_bind timeless_adminHandshake fun _ => timeless_roundTrip _ _ _) fun _ => timeless_lift _
  | getLockSound => exact only_bind (timeless_withCommandLock (timeless_gated _)) fun _ => hreturn _
  | setLockSound enabled => exact only_bind (timeless_withCommandLock timeless_gatedWrite) fun _ => hreturn _
  | setLockVolume level =>
    exact only_bind (only_bind (timeless_lift _) fun _ => timeless_withCommandLock timeless_gatedWrite) fun _ =>
      hreturn _
  | addPasscode code window =>
    exact only_bind (timeless_withCommandLock (only_bind (timeless_lift _) fun _ => timeless_gatedWrite)) fun _ =>
      hreturn _
  | deletePasscode code pwdType =>
    exact only_bind (timeless_withCommandLock (only_bind (timeless_lift _) fun _ => timeless_gatedWrite)) fun _ =>
      hreturn _
  | clearPasscodes => exact only_bind (timeless_withCommandLock timeless_gatedWrite) fun _ => hreturn _
  | getPasscodes =>
    refine only_bind (timeless_withCommandLock (only_bind timeless_adminHandshake fun _ => ?_)) fun _ => hreturn _
    exact timeless_passcodePages _ _ _

end Timeless

theorem short_ask (call : Call) : Only ShortRequest (ask client call) := by
  have hreturn {α : Type} (a : α) : Only ShortRequest (pure a : ClientProgram α) := only_ofExcept (.ok a)
  have hshort (command : Command) (h : Fits command) := short_program client 0 h
  cases call with
  | getAutoLockTime => exact only_bind (only_of_bind (hshort .getAutoLockTime fun _ h => h)) fun _ => hreturn _
  | setAutoLockTime seconds => exact only_bind (hshort (.setAutoLockTime seconds) fun _ h => h) fun _ => hreturn _
  | getAutoLockLimits => exact only_bind (only_of_bind (hshort .getAutoLockLimits fun _ h => h)) fun _ => hreturn _
  | getLockSound => exact only_bind (only_of_bind (hshort .getLockSound fun _ h => h)) fun _ => hreturn _
  | setLockSound enabled => exact only_bind (hshort (.setLockSound enabled) fun _ h => h) fun _ => hreturn _
  | setLockVolume level => exact only_bind (hshort (.setLockVolume level) fun _ h => h) fun _ => hreturn _
  | addPasscode code window =>
    refine only_bind ?_ fun _ => hreturn _
    by_cases hkeypad : Keypad code
    · refine hshort (.addPasscode code window.pwdType window.startDate window.endDate) ?_
      rintro opcode ⟨-, hlong⟩
      obtain ⟨-, hcode⟩ := hkeypad.1
      cases window <;> simp [Requests.maxPayload, Window.startDate, Window.endDate, Window.pwdType,
        Stamp.text_length] at hlong <;> omega
    · obtain ⟨e, herror, -⟩ := payloadPasscodeAdd_refuses code window hkeypad
      unfold TTLockClient.addPasscode
      rw [herror]
      exact only_withCommandLock trivial trivial (only_ofExcept (.error e))
  | deletePasscode code pwdType =>
    exact only_bind (hshort (.deletePasscode code pwdType) fun _ h => h) fun _ => hreturn _
  | clearPasscodes => exact only_bind (hshort .clearPasscodes fun _ h => h) fun _ => hreturn _
  | getPasscodes => exact only_bind (only_of_bind (hshort .getPasscodes fun _ h => h)) fun _ => hreturn _

theorem only_recording {P : ClientOp → Prop} (calls : List Call) (h : ∀ call, Only P (ask client call)) :
    Only P (recording client calls) := by
  apply only_inOrder
  intro p hp
  obtain ⟨call, -, rfl⟩ := List.mem_map.mp hp
  exact h call

theorem short_recording (calls : List Call) : Only ShortRequest (recording client calls).discard :=
  only_bind (only_recording calls short_ask) fun _ => only_ofExcept (.ok ())

theorem simulates_ask {σ : Type} {lock : Lock σ} {view : σ → Kept} {f : Firmware} (hlock : Keeps client lock view f)
    (hkey : WellFormedKey client.key) (hadmin : isDigit client.key.adminPs) (call : Call) :
    Simulates (Kept.step f) lock.answer lock.after (ask client) (fun s k => view s.lock = k) Agrees call := by
  rintro s k rfl
  obtain ⟨s', o, hplay, hdoes⟩ := play_ask hlock hkey hadmin (s := s) call
  exact ⟨s', o, hplay, hdoes.agrees, hdoes.keeps⟩

/-- **What is set is what is read back, however the bytes travel.** The calls can always finish. Then they have ended
with the answers of the record, and the lock keeps what the record does. -/
theorem settings_kept {σ : Type} {lock : Lock σ} {view : σ → Kept} {f : Firmware} (hlock : Keeps client lock view f)
    (hkey : WellFormedKey client.key) (hadmin : isDigit client.key.adminPs)
    (hversion : Wire.FitsHeader client.key.lockVersion) (hcipher : Cipher.PaddedCipher client.aes client.aesKey)
    (calls : List Call) (hanswers : OverTheAir.Answers client lock (recording client calls).discard)
    (transport : BleTransport) (hopen : Conversation.Open transport) (start : σ) (es : List ConversationEvent)
    (c : Conversation σ) (hundisturbed : Undisturbed es)
    (hpush : ∀ frame, .push frame ∈ es → Unasked client (recording client calls).discard frame)
    (hrun : (machine client lock transport start (recording client calls).discard).Reaches es c) :
    (∃ c', CanReach client lock c c' ∧ c'.task.left.Ended) ∧
      (c.task.left.Ended → ∃ os, Runs (recording client calls) c.task.finished (.ret os) ∧
        List.Forall₂ Agrees os (outcomes (Kept.step f) (view start) calls).1 ∧
        view c.lock = (outcomes (Kept.step f) (view start) calls).2) := by
  obtain ⟨s', os, hplay, hagrees, hkept⟩ := play_inOrder calls
    (fun call _ => simulates_ask hlock hkey hadmin call) (s := ⟨start, []⟩) rfl
  have hu := understood_of_short hversion hcipher (short_recording calls) hanswers
  have hstage := stage_run hu hopen hundisturbed hpush hrun
  obtain ⟨c', hreach, -, hends⟩ := stage_finishes hu hstage
  refine ⟨⟨c', hreach, hends⟩, fun hended => ?_⟩
  have hidle := state_ended hstage hended
  obtain ⟨o, hruns, hserved⟩ := sat_discard_ended _ (serving_of_play (only_recording calls timeless_ask) hplay)
    (fun _ => id) hidle.runs hidle.admitted hended
  obtain ⟨hstate, rfl⟩ := hserved
  exact ⟨os, hruns, hagrees, by rw [hidle.state, hstate, hkept]⟩

end Air

/-! ## A lock with room for one passcode -/

/-- What is read back of a request. -/
def readStamp (raw : Bytes) : Option Stamp :=
  (decodeDate5 raw).bind fun time =>
    if h : (2000 ≤ time.year ∧ time.year ≤ 2099) ∧ time.second = 0 ∧ time.microsecond = 0 then
      some ⟨time, h.1, h.2⟩
    else none

def readPasscode : Bytes → Option Passcode
  | op :: pwdType :: length :: rest =>
    let code := String.ofList (chars (rest.take length.toNat))
    let dates := rest.drop length.toNat
    if h : op = pwdOperateAdd ∧ Keypad code then
      if pwdType = UInt8.ofInt KeyboardPwdType.permanent.toInt then
        (readStamp dates).map fun start => ⟨code, h.2, .permanent start⟩
      else
        (readStamp (dates.take 5)).bind fun start => (readStamp (dates.drop 5)).map fun stop =>
          ⟨code, h.2, .period start stop⟩
    else none
  | _ => none

theorem readStamp_raw (t : Stamp) : readStamp t.raw = some t := by
  have hdate : decodeDate5 t.raw = some t.time := (decodeDate5_eq_some _ _ rfl).mpr t.encodes
  unfold readStamp
  rw [hdate, Option.bind_some, dif_pos ⟨t.century, t.whole⟩]

theorem readPasscode_addRequest (p : Passcode) : readPasscode (addRequest p) = some p := by
  obtain ⟨code, hkeypad, window⟩ := p
  obtain ⟨-, hlength⟩ := hkeypad.1
  have hascii : ∀ c ∈ code.toList, c.toNat < 128 := fun c hc => isDigit_lt c (hkeypad.2 c hc)
  have hbyte : (UInt8.ofNat code.length).toNat = (bytes code.toList).length := by
    rw [UInt8.toNat_ofNat_of_lt' (show _ < 256 by omega)]
    simp [bytes, String.length_toList]
  have htake : (bytes code.toList ++ window.raw).take (UInt8.ofNat code.length).toNat = bytes code.toList := by
    rw [hbyte, List.take_left]
  have hdrop : (bytes code.toList ++ window.raw).drop (UInt8.ofNat code.length).toNat = window.raw := by
    rw [hbyte, List.drop_left]
  have hcode : String.ofList (chars (bytes code.toList)) = code := by
    rw [chars_bytes _ hascii, String.ofList_toList]
  show readPasscode (pwdOperateAdd :: UInt8.ofInt window.pwdType.toInt :: UInt8.ofNat code.length ::
    (bytes code.toList ++ window.raw)) = _
  unfold readPasscode
  simp only [htake, hdrop, hcode]
  rw [dif_pos ⟨trivial, hkeypad⟩]
  cases window with
  | permanent start =>
    have htype : UInt8.ofInt (Window.permanent start).pwdType.toInt = UInt8.ofInt KeyboardPwdType.permanent.toInt := rfl
    have hstart : readStamp (Window.permanent start).raw = some start := readStamp_raw start
    rw [if_pos htype, hstart]
    rfl
  | period start stop =>
    have hstart : readStamp ((Window.period start stop).raw.take 5) = some start := readStamp_raw start
    have hstop : readStamp ((Window.period start stop).raw.drop 5) = some stop := readStamp_raw stop
    have htype : UInt8.ofInt (Window.period start stop).pwdType.toInt ≠ UInt8.ofInt KeyboardPwdType.permanent.toInt :=
      show UInt8.ofInt KeyboardPwdType.period.toInt ≠ _ by decide
    rw [if_neg htype, hstart, hstop]
    rfl

structure Box where
  delay : Nat
  delay_lt : delay < 65536
  sound : Bool
  volume : LockVolume
  slot : Option Passcode

namespace Box

def kept (box : Box) : Kept where
  autoLock := box.delay
  limits := ⟨1, 900⟩
  sound := box.sound
  volume := some box.volume
  passcodes := (box.slot.map Passcode.entry).toList

def rawDate (time : DateTime) : Bytes :=
  [time.year % 100, time.month, time.day, time.hour, time.minute].map fun n => UInt8.ofNat (n % 100)

def page : List PasscodeEntry → Nat → Bytes
  | entry :: _, 0 =>
    [0, 0, 0, 0, 0, UInt8.ofInt entry.pwdType.toInt, UInt8.ofNat entry.passcode.length] ++
      bytes entry.passcode.toList ++ 0 :: (entry.startDate.elim [] rawDate ++ entry.endDate.elim [] rawDate)
  | _, _ => [0, 0]

def firmware : Firmware where
  add entries entry := if entries = [] then some [entry] else none
  remove entries _ code := if ∃ entry ∈ entries, entry.passcode = code then some [] else none
  volumeTurnsOn := true
  page := page

def failed : Bytes := [0]

def changeDelay (box : Box) : Bytes → Bytes × Box
  | [_, high, low] =>
    if box.kept.takesDelay (fromBytesBig [high, low]) then
      ([responseSuccess, 100, autoLockModify],
        { box with delay := fromBytesBig [high, low], delay_lt := fromBytesBig_lt _ 2 (by simp) })
    else (failed, box)
  | _ =>
    (responseSuccess :: 100 :: autoLockSearch :: (toBytesBig 2 box.delay ++ toBytesBig 2 1 ++ toBytesBig 2 900), box)

def changeSound (box : Box) : Bytes → Bytes × Box
  | [_, enabled] => ([responseSuccess], { box with sound := enabled = 1 })
  | [_, _, level, _] =>
    ([responseSuccess], { box with sound := true, volume := (LockVolume.ofInt level.toNat).getD box.volume })
  | _ => ([responseSuccess, 100, soundSearchOperation, if box.sound then 1 else 0, volumeByte box.volume], box)

def changePasscode (box : Box) (payload : Bytes) : Bytes × Box :=
  if payload = [pwdOperateClear] then ([responseSuccess], { box with slot := none })
  else
    match readPasscode payload, box.slot with
    | some p, none => ([responseSuccess], { box with slot := some p })
    | none, some p =>
      if payload.drop 2 = digits p.code then ([responseSuccess], { box with slot := none }) else (failed, box)
    | _, _ => (failed, box)

def handle (box : Box) (command : Int) (payload : Bytes) : Bytes × Box :=
  if command = cmdAutoLockManage then box.changeDelay payload
  else if command = cmdSetLockSound then box.changeSound payload
  else if command = cmdManageKeyboardPassword then box.changePasscode payload
  else if command = cmdGetPasscodes then (responseSuccess :: page box.kept.passcodes (fromBytesBig payload), box)
  else ([responseSuccess, 0, 0, 0, 7], box)

def lock : Lock Box :=
  echoing (fun box command payload => (box.handle command payload).1) fun box command payload =>
    (box.handle command payload).2

theorem replies_lock (box : Box) (command : Int) (payload : Bytes) :
    lock.Replies clockClient box command payload (UInt8.ofInt command :: (box.handle command payload).1) :=
  replies_echoing box command payload

section Keeps

variable {box box' : Box} {command : Int} {payload d : Bytes}

theorem accepts_of_handle (h : box.handle command payload = (responseSuccess :: d, box')) {data : Bytes → Prop}
    (hd : data d) {k : Kept} (hk : box'.kept = k) : Accepts clockClient lock kept box command payload data k := by
  refine ⟨UInt8.ofInt command, d, hd, ?_, ?_⟩
  · have hreplies := box.replies_lock command payload
    rwa [h] at hreplies
  · show (box.handle command payload).2.kept = k
    rw [h, hk]

theorem rejects_of_handle (h : box.handle command payload = (failed, box)) :
    Rejects clockClient lock kept box command payload := by
  refine ⟨UInt8.ofInt command, 0, [], by decide, ?_, ?_⟩
  · have hreplies := box.replies_lock command payload
    rwa [h] at hreplies
  · show (box.handle command payload).2.kept = box.kept
    rw [h]

theorem readPasscode_removeRequest (pwdType : KeyboardPwdType) (code : String) :
    readPasscode (removeRequest pwdType code) = none := by
  show readPasscode (pwdOperateRemoveOne :: UInt8.ofInt pwdType.toInt :: UInt8.ofNat code.length ::
    bytes code.toList) = none
  unfold readPasscode
  exact dif_neg fun h => absurd h.1 (by decide)

theorem digits_injective {code code' : String} (h : Keypad code) (h' : Keypad code')
    (heq : digits code = digits code') : code = code' :=
  String.toList_inj.mp (bytes_injective (fun c hc => isDigit_lt c (h.2 c hc)) (fun c hc => isDigit_lt c (h'.2 c hc))
    (List.cons.inj heq).2)

theorem code_length (p : Passcode) : (bytes p.code.toList).length = p.code.length :=
  (List.length_map _).trans String.length_toList

theorem code_ascii (p : Passcode) : encodeAscii p.entry.passcode = .ok (bytes p.code.toList) := by
  obtain ⟨data, hdata⟩ := ((keypad_iff p.code).mpr p.keypad).2
  obtain ⟨-, rfl⟩ := (encodeAscii_ok_iff p.code data).mp hdata
  obtain ⟨code, hkeypad, window⟩ := p
  cases window <;> exact hdata

theorem code_le (p : Passcode) : (bytes p.code.toList).length ≤ 255 := by
  have hcode := p.keypad.1.2
  rw [code_length]
  omega

theorem window_encodes (p : Passcode) :
    EncodesValidity p.entry.pwdType p.window.raw p.entry.startDate p.entry.endDate p.entry.cyclicSchedule := by
  obtain ⟨code, hkeypad, window⟩ := p
  cases window with
  | permanent start => exact .permanent start.encodes
  | period start stop => exact .period start.encodes stop.encodes

def item (p : Passcode) : Item where
  header := (0, 0)
  nextSequence := 0
  nextSequence_lt := by decide
  itemLength := 0
  entry := p.entry
  newPwd := bytes p.code.toList
  newPwd_ascii := code_ascii p
  newPwd_le := code_le p
  pwd := []
  pwd_le := by decide
  trailer := p.window.raw
  validity := window_encodes p

theorem page_entry (p : Passcode) : page [p.entry] 0 = (item p).data := by
  have hzero : toBytesBig 2 0 = [0, 0] := by decide
  unfold Item.data Item.front
  show _ = [0, 0] ++ toBytesBig 2 0 ++ [0, UInt8.ofInt p.entry.pwdType.toInt,
    UInt8.ofNat (bytes p.code.toList).length] ++ bytes p.code.toList ++ 0 :: p.window.raw
  rw [hzero, code_length]
  obtain ⟨code, hkeypad, window⟩ := p
  cases window with
  | permanent start =>
    have hraw : start.raw ++ [] = start.raw := List.append_nil _
    exact congrArg (fun raw => _ ++ (0 : UInt8) :: raw) hraw
  | period start stop => rfl

theorem paged_page (p : Passcode) : Paged (page [p.entry]) 0 [p.entry] :=
  Paged.last ((page_entry p).trans (List.append_nil _).symm) rfl

theorem entry_passcode (p : Passcode) : p.entry.passcode = p.code := by
  unfold Passcode.entry
  cases p.window <;> rfl

theorem handle_passcode (box : Box) (payload : Bytes) :
    box.handle cmdManageKeyboardPassword payload = box.changePasscode payload := by
  unfold handle
  rw [if_neg (by decide), if_neg (by decide), if_pos rfl]

theorem keeps_lock : Keeps clockClient lock kept firmware where
  delays box := ⟨box.delay_lt, show 1 < 65536 by decide, show 900 < 65536 by decide⟩
  few box := by
    show (box.slot.map Passcode.entry).toList.length < 300
    cases box.slot with
    | none => exact (by decide : 0 < 300)
    | some p => exact (by decide : 1 < 300)
  checkAdmin box payload := accepts_of_handle rfl (by decide) rfl
  checkRandom box payload := accepts_of_handle rfl trivial rfl
  readAutoLock box := accepts_of_handle rfl ⟨100, [], by rw [List.append_nil]; rfl⟩ rfl
  writeAutoLock box seconds hseconds := by
    have hback : fromBytesBig (toBytesBig 2 seconds) = seconds := fromBytesBig_toBytesBig 2 seconds hseconds
    have hhandle : box.handle cmdAutoLockManage (autoLockModify :: toBytesBig 2 seconds) =
        if box.kept.takesDelay seconds then
          ([responseSuccess, 100, autoLockModify], { box with delay := seconds, delay_lt := hseconds })
        else (failed, box) := by
      show (if box.kept.takesDelay (fromBytesBig (toBytesBig 2 seconds)) then
        (_, { box with delay := fromBytesBig (toBytesBig 2 seconds), delay_lt := _ }) else _) = _
      simp only [hback]
    unfold Kept.setDelay
    split_ifs at hhandle ⊢
    · exact accepts_of_handle hhandle ⟨100, [], rfl⟩ rfl
    · exact rejects_of_handle hhandle
  readSound box := accepts_of_handle rfl ⟨100, if box.sound then 1 else 0, [volumeByte box.volume], rfl,
    by show _ ↔ box.sound = true; cases box.sound <;> decide, rfl⟩ rfl
  writeSound box enabled := accepts_of_handle rfl trivial (by cases enabled <;> rfl)
  writeVolume box level := by
    refine accepts_of_handle rfl trivial ?_
    unfold Kept.setVolume kept
    simp only [ofInt_volumeByte, Option.getD_some, Option.map_some, firmware, Bool.or_true]
  addPasscode box p := by
    have hclear : addRequest p ≠ [pwdOperateClear] := fun h => absurd (List.cons.inj h).1 (by decide)
    have hhandle := box.handle_passcode (addRequest p)
    unfold changePasscode at hhandle
    rw [if_neg hclear, readPasscode_addRequest] at hhandle
    unfold kept
    cases hslot : box.slot with
    | none =>
      rw [hslot] at hhandle
      exact accepts_of_handle hhandle trivial rfl
    | some q =>
      rw [hslot] at hhandle
      exact rejects_of_handle hhandle
  removePasscode box pwdType code hcode := by
    have hhandle := box.handle_passcode (removeRequest pwdType code)
    have hclear : removeRequest pwdType code ≠ [pwdOperateClear] := fun h => absurd (List.cons.inj h).1 (by decide)
    unfold changePasscode at hhandle
    rw [if_neg hclear, readPasscode_removeRequest] at hhandle
    unfold kept
    cases hslot : box.slot with
    | none =>
      rw [hslot] at hhandle
      exact rejects_of_handle hhandle
    | some q =>
      rw [hslot] at hhandle
      have hfirmware : firmware.remove [q.entry] pwdType code = if code = q.code then some [] else none := by
        show (if ∃ entry ∈ [q.entry], entry.passcode = code then some [] else none) = _
        simp [entry_passcode, eq_comm]
      have hhandle : box.handle cmdManageKeyboardPassword (removeRequest pwdType code) =
          if code = q.code then ([responseSuccess], { box with slot := none }) else (failed, box) :=
        hhandle.trans (if_congr ⟨digits_injective hcode q.keypad, fun h => h ▸ rfl⟩ rfl rfl)
      show Changes _ _ _ _ _ _ _ (Kept.withPasscodes _ (firmware.remove [q.entry] pwdType code))
      rw [hfirmware]
      split_ifs at hhandle ⊢
      · exact accepts_of_handle hhandle trivial rfl
      · exact rejects_of_handle hhandle
  clearPasscodes box := accepts_of_handle ((box.handle_passcode _).trans (if_pos rfl)) trivial rfl
  page box sequence hsequence := by
    refine accepts_of_handle (d := Box.page box.kept.passcodes (fromBytesBig (toBytesBig 2 sequence))) rfl ?_ rfl
    rw [fromBytesBig_toBytesBig 2 sequence hsequence]
    rfl
  paged box := by
    show Paged (page box.kept.passcodes) 0 box.kept.passcodes
    unfold kept
    cases box.slot with
    | none => exact .none (show 2 < 4 by decide)
    | some p => exact paged_page p

theorem page_length (slot : Option Passcode) (sequence : Nat) :
    (page (slot.map Passcode.entry).toList sequence).length < 100 := by
  cases slot with
  | none => exact (by decide : 2 < 100)
  | some p =>
    cases sequence with
    | succ n => exact (by decide : 2 < 100)
    | zero =>
      have htrailer : p.window.raw.length ≤ 10 := by cases p.window <;> exact Nat.le_of_ble_eq_true rfl
      have hcode : (bytes p.code.toList).length = p.code.length := by simp [bytes, String.length_toList]
      have hle := p.keypad.1.2
      have hlength := data_length (item p)
      show (page [p.entry] 0).length < 100
      rw [page_entry, hlength]
      show 8 + (bytes p.code.toList).length + 0 + p.window.raw.length < 100
      omega

theorem handle_length (box : Box) (command : Int) (payload : Bytes) :
    (box.handle command payload).1.length < Requests.maxPayload := by
  have hpage := page_length box.slot (fromBytesBig payload)
  have hdelay : (box.changeDelay payload).1.length ≤ 9 := by
    unfold changeDelay
    split
    · split <;> exact Nat.le_of_ble_eq_true rfl
    · simp
  have hsound : (box.changeSound payload).1.length ≤ 5 := by
    unfold changeSound
    split <;> exact Nat.le_of_ble_eq_true rfl
  have hpasscode : (box.changePasscode payload).1.length ≤ 1 := by
    unfold changePasscode
    split_ifs
    · exact le_rfl
    · split
      · exact le_rfl
      · split <;> exact le_rfl
      · exact le_rfl
  unfold handle Requests.maxPayload
  split_ifs
  · omega
  · omega
  · omega
  · exact Nat.lt_of_le_of_lt (Nat.succ_le_of_lt hpage) (by decide)
  · exact (by decide : 5 < 239)

end Keeps

end Box

/-! ### A passcode is kept -/

/-- 2000-01-31 14:00, the start that a passcode has by default. -/
def defaultStart : Stamp := ⟨⟨2000, 1, 31, 14, 0, 0, 0, by decide⟩, by decide, by decide⟩

def pinCode : Passcode := ⟨"1234", by decide, .permanent defaultStart⟩

def someCalls : List Call :=
  [.setAutoLockTime 900, .setAutoLockTime 901, .setLockVolume 6, .setLockVolume 4, .addPasscode "1234" pinCode.window,
    .addPasscode "56789" pinCode.window, .getPasscodes, .getAutoLockTime, .getLockSound]

def someAnswers : List (Except Refusal Answer) :=
  [.ok .done, .error .lock, .error .argument, .ok .done, .ok .done, .error .lock, .ok (.passcodes [pinCode.entry]),
    .ok (.seconds 900), .ok (.sound ⟨true, some .mediumHigh⟩)]

def newBox : Box := ⟨5, by decide, false, .low, none⟩

example : defaultStart.text = "0001311400" := by decide

theorem outcomes_someCalls :
    (Program.outcomes (Kept.step Box.firmware) newBox.kept someCalls).1 = someAnswers := by decide +kernel

theorem settings_kept_pinCode :
    ∃ es c os,
      (machine clockClient Box.lock openTransport newBox (recording clockClient someCalls).discard).Reaches es c ∧
      c.task.left.Ended ∧ Program.Runs (recording clockClient someCalls) c.task.finished (.ret os) ∧
      List.Forall₂ Agrees os someAnswers ∧ c.lock.kept.passcodes = [pinCode.entry] := by
  have hkept (es : List ConversationEvent) (c : Conversation Box) :=
    settings_kept Box.keeps_lock wellFormedKey_makeVirtualKey (by decide +kernel) Wire.fitsHeader_makeVirtualKey
      Clock.paddedCipher_clockClient someCalls (answers_echoing (short_recording someCalls) Box.handle_length)
      openTransport open_openTransport newBox es c
  obtain ⟨⟨c, ⟨es, hquiet, hreaches⟩, hended⟩, -⟩ := hkept [] _ (by decide) (by simp) rfl
  obtain ⟨-, hends⟩ := hkept es c (undisturbed_of_quiet hquiet) (fun frame hmem => nomatch hquiet _ hmem) hreaches
  obtain ⟨os, hruns, hagrees, hkeeps⟩ := hends hended
  exact ⟨es, c, os, hreaches, hended, hruns, outcomes_someCalls ▸ hagrees, hkeeps ▸ by decide +kernel⟩

end TtlockBle.Settings
