import TtlockBle.Cipher
import TtlockBle.Contract
import TtlockBle.Lock
import TtlockBle.LogPages

/-!
# Setting the clock

A lock that stores the six bytes of a calibration, and whose clock stands still. What it stores is
the displayed time without its microseconds, so the drift that is left is less than a second.
-/

open TtlockBle.Lib

namespace TtlockBle.Clock

open Lock LogPages Payloads

/-! ## The lock -/

section Lock

variable {σ : Type} (client : TTLockClient) (lock : Lock σ) (clock : σ → Bytes)

structure StoresClock : Prop where
  checkAdmin : ∀ s payload, ∃ echo token, 4 ≤ token.length ∧
    lock.Replies client s cmdCheckAdmin payload (echo :: responseSuccess :: token)
  checkRandom : ∀ s payload, ∃ echo data,
    lock.Replies client s cmdCheckRandom payload (echo :: responseSuccess :: data)
  getLockTime : ∀ s payload, ∃ echo rest,
    lock.Replies client s cmdGetLockTime payload (echo :: responseSuccess :: (clock s ++ rest))
  timeCalibrate : ∀ s payload, payload.length = 6 →
    (∃ echo data, lock.Replies client s cmdTimeCalibrate payload (echo :: responseSuccess :: data)) ∧
      clock (lock.next s cmdTimeCalibrate payload) = payload
  stands : ∀ s command payload, command ≠ cmdTimeCalibrate → clock (lock.next s command payload) = clock s

end Lock

/-- A calibrate frame is among the requests. -/
def Calibrates (sent : List (Int × Bytes)) : Prop := ∃ payload, (cmdTimeCalibrate, payload) ∈ sent

/-! ## The time that is stored -/

def withoutMicroseconds (t : DateTime) : DateTime where
  year := t.year
  month := t.month
  day := t.day
  hour := t.hour
  minute := t.minute
  second := t.second
  microsecond := 0
  valid := by
    obtain ⟨hyear, hmonth, hday, hhour, hminute, hsecond, -⟩ := t.valid
    exact ⟨hyear, hmonth, hday, hhour, hminute, hsecond, by omega⟩

theorem sub_withoutMicroseconds (t : DateTime) : (withoutMicroseconds t).sub t = -(t.microsecond : Int) := by
  unfold DateTime.sub DateTime.toMicroseconds DateTime.toOrdinal withoutMicroseconds
  simp only
  omega

theorem payloadTimeCalibrate_encodes (t : DateTime) (ht : 2000 ≤ t.year ∧ t.year ≤ 2099) :
    ∃ payload, payloadTimeCalibrate t = .ok payload ∧ payload.length = 6 ∧
      EncodesSecond payload (withoutMicroseconds t) := by
  refine ⟨_, payloadTimeCalibrate_eq t, rfl, _, _, _, _, _, _, rfl, ?_⟩
  obtain ⟨-, hmonth, hday, hhour, hminute, hsecond, -⟩ := t.valid
  have hdays : daysInMonth t.year t.month ≤ 31 := by
    unfold daysInMonth
    split <;> (try split) <;> omega
  have hbyte (n : Nat) : (UInt8.ofNat (n % 100)).toNat = n % 100 :=
    UInt8.toNat_ofNat_of_lt' (show _ < 256 by omega)
  simp only [hbyte, withoutMicroseconds, and_true]
  omega

/-! ## The calls -/

section Calls

variable {σ : Type} {client : TTLockClient} {lock : Lock σ} {clock : σ → Bytes}
  (hlock : StoresClock client lock clock)

theorem requireSuccess_success (echo : UInt8) (data : Bytes) (label : String) :
    TTLockClient.requireSuccess (echo :: responseSuccess :: data) label = .ok () := rfl

include hlock

theorem play_getLockTime {s : Session σ} {date : DateTime} (hdate : EncodesSecond (clock s.lock) date) :
    lock.play s client.getLockTime = (lock.send s cmdGetLockTime [], some (.ok date)) := by
  obtain ⟨echo, rest, hreplies⟩ := hlock.getLockTime s.lock []
  have hlength : (clock s.lock).length = 6 := by
    obtain ⟨_, _, _, _, _, _, hraw, -⟩ := hdate
    rw [hraw]
    rfl
  have hparse : parseGetLockTimeResponse (echo :: responseSuccess :: (clock s.lock ++ rest)) = .ok date := by
    unfold parseGetLockTimeResponse
    rw [Parsers.parseResponseStatus_cons]
    simp only [bind, Except.bind, ne_eq, not_true_eq_false, if_false, List.take_left' hlength,
      (decodeDate6_eq_some _ _ hlength).mpr hdate]
    rfl
  unfold TTLockClient.getLockTime
  rw [play_withCommandLock, show payloadGetLockTime = [] from rfl, play_bind (play_roundTrip_replies hreplies _),
    hparse]
  rfl

theorem play_adminHandshake (hkey : WellFormedKey client.key) (hadmin : isDigit client.key.adminPs)
    (s : Session σ) :
    ∃ s' admin random, lock.play s client.adminHandshake = (s', some (.ok ())) ∧
      s'.sent = s.sent ++ [(cmdCheckAdmin, admin), (cmdCheckRandom, random)] ∧ clock s'.lock = clock s.lock := by
  obtain ⟨admin, hadmin'⟩ := payloadCheckAdmin_returns client.key hkey.uid (hkey.adminPs hadmin)
  obtain ⟨n, hn⟩ := hkey.unlockKey
  obtain ⟨echo, token, htoken, hreplies⟩ := hlock.checkAdmin s.lock admin
  have hparse : parseCheckAdminResponse (echo :: responseSuccess :: token) = .ok (fromBytesBig (token.take 4)) :=
    Parsers.parseToken_eq _ (Parsers.parseResponseStatus_cons _ _ _) htoken
  let s₁ := lock.send s cmdCheckAdmin admin
  let random := toBytesBig 4 (tokenSum (fromBytesBig (token.take 4)) n)
  obtain ⟨echo', data', hreplies'⟩ := hlock.checkRandom s₁.lock random
  refine ⟨lock.send s₁ cmdCheckRandom random, admin, random, ?_, ?_, ?_⟩
  · unfold TTLockClient.adminHandshake
    rw [if_neg (not_not_intro hadmin)]
    rw [play_lift_bind hadmin', play_bind (play_roundTrip_replies hreplies _), hparse]
    refine (play_lift_bind (a := fromBytesBig (token.take 4)) rfl _).trans ?_
    rw [play_lift_bind (payloadCheckRandom_eq _ _ _ hn)]
    refine (play_bind (play_roundTrip_replies hreplies' _) _).trans ?_
    rw [requireSuccess_success]
    rfl
  · show (s.sent ++ [_]) ++ [_] = _
    rw [List.append_assoc]
    rfl
  · exact (hlock.stands _ _ _ (by decide)).trans (hlock.stands _ _ _ (by decide))

theorem play_calibrateTime (hkey : WellFormedKey client.key) (hadmin : isDigit client.key.adminPs)
    (t : DateTime) (ht : 2000 ≤ t.year ∧ t.year ≤ 2099) (s : Session σ) :
    ∃ s' admin random payload, lock.play s (client.calibrateTime t) = (s', some (.ok ())) ∧
      s'.sent = s.sent ++ [(cmdCheckAdmin, admin), (cmdCheckRandom, random), (cmdTimeCalibrate, payload)] ∧
      EncodesSecond (clock s'.lock) (withoutMicroseconds t) := by
  obtain ⟨payload, hpayload, hlength, hencodes⟩ := payloadTimeCalibrate_encodes t ht
  obtain ⟨s₁, admin, random, hhandshake, hsent, -⟩ := play_adminHandshake hlock hkey hadmin s
  obtain ⟨⟨echo, data, hreplies⟩, hclock⟩ := hlock.timeCalibrate s₁.lock payload hlength
  refine ⟨lock.send s₁ cmdTimeCalibrate payload, admin, random, payload, ?_, ?_, ?_⟩
  · unfold TTLockClient.calibrateTime
    rw [play_withCommandLock, play_bind hhandshake, play_lift_bind hpayload,
      play_bind (play_roundTrip_replies hreplies _)]
    rfl
  · show s₁.sent ++ [_] = _
    rw [hsent, List.append_assoc]
    rfl
  · show EncodesSecond (clock (lock.next s₁.lock cmdTimeCalibrate payload)) _
    rw [hclock]
    exact hencodes

theorem play_syncTime (hkey : WellFormedKey client.key) (hadmin : isDigit client.key.adminPs) (t : DateTime)
    (ht : 2000 ≤ t.year ∧ t.year ≤ 2099) (threshold : Int) {s : σ} {date : DateTime}
    (hdate : EncodesSecond (clock s) date) :
    ∃ s', lock.play ⟨s, []⟩ (client.syncTime t threshold) = (s', some (.ok (date.sub t))) ∧
      (Calibrates s'.sent ↔ |date.sub t| > threshold) ∧
      EncodesSecond (clock s'.lock) (if |date.sub t| > threshold then withoutMicroseconds t else date) := by
  have hread := play_getLockTime hlock (s := ⟨s, []⟩) hdate
  have hstands : clock (lock.next s cmdGetLockTime []) = clock s := hlock.stands _ _ _ (by decide)
  unfold TTLockClient.syncTime
  rw [play_bind hread]
  by_cases hdrift : |date.sub t| > threshold
  · obtain ⟨s', admin, random, payload, hplay, hsent, hclock⟩ :=
      play_calibrateTime hlock hkey hadmin t ht (lock.send ⟨s, []⟩ cmdGetLockTime [])
    refine ⟨s', ?_, ⟨fun _ => hdrift, fun _ => ⟨payload, by simp [hsent]⟩⟩, ?_⟩
    · simp only [if_pos hdrift]
      rw [play_bind hplay]
      rfl
    · rwa [if_pos hdrift]
  · refine ⟨lock.send ⟨s, []⟩ cmdGetLockTime [], ?_, ⟨?_, fun h => absurd h hdrift⟩, ?_⟩
    · simp only [if_neg hdrift]
      rfl
    · rintro ⟨payload, hmem⟩
      have hopcode := congrArg Prod.fst (List.mem_singleton.mp hmem)
      exact absurd hopcode (show ¬ cmdTimeCalibrate = cmdGetLockTime by decide)
    · rw [if_neg hdrift]
      show EncodesSecond (clock (lock.next s cmdGetLockTime [])) _
      rwa [hstands]

end Calls

/-! ## A lock with a clock -/

/-- What is said under the made client's key when its clock is read and set. -/
def clockRows : List (Bytes × Bytes) :=
  [([],
      [0x40, 0xCB, 0x2A, 0xDB, 0xCA, 0x85, 0x9E, 0x1C, 0xDC, 0xA1, 0x21, 0xE3, 0xE2, 0x04, 0x60, 0xA0]),
    ([0x34, 0x01, 0x18, 0x03, 0x01, 0x00, 0x00, 0x02],
      [0x05, 0xBD, 0x4F, 0x3A, 0xD5, 0x23, 0xBA, 0xCA, 0xEE, 0x73, 0x24, 0x43, 0x21, 0x60, 0x17, 0x46]),
    ([0x08, 0x18, 0x07, 0x54, 0x00, 0x00, 0x00, 0x00, 0x00, 0x00, 0x00],
      [0x1F, 0x14, 0x69, 0xCE, 0xCC, 0x0F, 0x41, 0x20, 0x11, 0xCF, 0x6E, 0x43, 0x7C, 0x1B, 0x17, 0xB2]),
    ([0x41, 0x01, 0x00, 0x00, 0x00, 0x07],
      [0xCC, 0x29, 0x5D, 0x0E, 0x3C, 0x0A, 0x3F, 0x49, 0x1C, 0x14, 0xD8, 0x16, 0xA2, 0x78, 0x0B, 0x99]),
    ([0x0E, 0xB6, 0x13, 0x92],
      [0x2E, 0x5D, 0xDF, 0x1B, 0x43, 0xBE, 0x4C, 0x76, 0x9D, 0xF2, 0xBF, 0xA7, 0xC9, 0x7C, 0xD7, 0xEC]),
    ([0x18, 0x02, 0x1D, 0x17, 0x3B, 0x3B],
      [0x02, 0x2E, 0xC5, 0xB9, 0xC0, 0xA6, 0x34, 0xBD, 0xA3, 0x48, 0xDE, 0x21, 0x29, 0x10, 0x61, 0xE8]),
    ([0x34, 0x01, 0x18, 0x02, 0x1D, 0x17, 0x3B, 0x3B],
      [0x18, 0x55, 0xCB, 0xF5, 0x68, 0xC7, 0xFE, 0x59, 0x9A, 0x9F, 0xE1, 0xBB, 0xCE, 0xEE, 0xF1, 0x0E]),
    ([0x30, 0x01, 0x00, 0x00, 0x00, 0x07],
      [0xA7, 0x57, 0x81, 0xA3, 0x28, 0xA1, 0x1C, 0x76, 0x6F, 0x33, 0x73, 0x40, 0xF3, 0xCB, 0xDB, 0xDC]),
    ([0x43, 0x01, 0x00, 0x00, 0x00, 0x07],
      [0x22, 0x78, 0x54, 0xE5, 0xAA, 0xAE, 0xED, 0xFC, 0x02, 0x20, 0xE7, 0x02, 0x19, 0x1A, 0x95, 0x3A])]

/-- What is said when the settings are read and changed. -/
def settingsRows : List (Bytes × Bytes) :=
  [([0x02, 0x03, 0x84],
      [0xB1, 0x92, 0x49, 0x04, 0xF3, 0x16, 0x4F, 0x5B, 0xE6, 0xFF, 0x8B, 0x31, 0x94, 0xBD, 0xDE, 0x79]),
    ([0x36, 0x01, 0x64, 0x02],
      [0xF2, 0x4F, 0x1D, 0xA2, 0x53, 0x40, 0xB1, 0x29, 0xF8, 0x33, 0x84, 0x28, 0x69, 0x9D, 0x5A, 0x29]),
    ([0x02, 0x03, 0x85],
      [0x2D, 0x9F, 0x84, 0x08, 0xD5, 0x9D, 0xB5, 0x3D, 0xB1, 0x18, 0xDE, 0x9A, 0x2F, 0x1A, 0xAE, 0x4B]),
    ([0x36, 0x00],
      [0x53, 0xED, 0xB5, 0x7D, 0xD3, 0xD3, 0xF8, 0x2B, 0xA5, 0xB3, 0x16, 0x45, 0x22, 0x92, 0xD8, 0xDD]),
    ([0x02, 0x01, 0x04, 0x00],
      [0x24, 0x8A, 0x0F, 0x1C, 0x98, 0x8C, 0x3F, 0x30, 0xE5, 0x16, 0xAA, 0x00, 0x95, 0x8E, 0x44, 0x7F]),
    ([0x62, 0x01],
      [0x49, 0xA5, 0x57, 0x44, 0x35, 0xBF, 0x59, 0x0B, 0x24, 0xE7, 0x67, 0xC0, 0x3B, 0xFC, 0x25, 0xB2]),
    ([0x02, 0x01, 0x04, 0x31, 0x32, 0x33, 0x34, 0x00, 0x01, 0x1F, 0x0E, 0x00],
      [0x5C, 0xC9, 0x88, 0x11, 0x67, 0xAC, 0x02, 0x7C, 0x23, 0x48, 0x6D, 0xBB, 0x95, 0xA6, 0x01, 0x01]),
    ([0x03, 0x01],
      [0xA8, 0xE0, 0x52, 0x0E, 0xD5, 0xCE, 0xB2, 0x48, 0xC8, 0x90, 0xE3, 0x69, 0xF5, 0xD8, 0xBD, 0xE8]),
    ([0x02, 0x01, 0x05, 0x35, 0x36, 0x37, 0x38, 0x39, 0x00, 0x01, 0x1F, 0x0E, 0x00],
      [0x69, 0x52, 0xD6, 0x93, 0x9B, 0xD9, 0x15, 0x23, 0x70, 0x68, 0x9D, 0x5E, 0x99, 0xF6, 0x5A, 0xF1]),
    ([0x03, 0x00],
      [0xA1, 0x65, 0x7C, 0x54, 0x92, 0x3A, 0xB3, 0xE6, 0x20, 0x18, 0x26, 0x7F, 0xEC, 0xF7, 0xED, 0x32]),
    ([0x00, 0x00],
      [0x61, 0x24, 0x1B, 0x21, 0xB7, 0x99, 0xA9, 0x62, 0x88, 0x8C, 0x25, 0xF5, 0x8C, 0x86, 0x31, 0xC9]),
    ([0x07, 0x01, 0x00, 0x00, 0x00, 0x00, 0x00, 0x01, 0x04, 0x31, 0x32, 0x33, 0x34, 0x00, 0x00,
      0x01, 0x1F, 0x0E, 0x00],
      [0x08, 0x3F, 0xC0, 0x86, 0x8D, 0x4A, 0x40, 0x66, 0xD7, 0x0A, 0x39, 0x97, 0xBC, 0x08, 0xF9, 0x7F,
      0x49, 0x1B, 0x97, 0x0A, 0xB1, 0x38, 0xC5, 0x46, 0x12, 0x18, 0x89, 0x3F, 0x08, 0xD9, 0x1E, 0xE0]),
    ([0x01],
      [0x66, 0x62, 0x36, 0x97, 0x67, 0x72, 0xAF, 0xB2, 0x35, 0x53, 0x06, 0x49, 0xDF, 0x5B, 0x1F, 0xCD]),
    ([0x36, 0x01, 0x64, 0x01, 0x03, 0x84, 0x00, 0x01, 0x03, 0x84],
      [0xDE, 0x9B, 0x76, 0x38, 0xD3, 0x96, 0xF7, 0x14, 0x03, 0x17, 0xFB, 0x40, 0x20, 0x52, 0xCB, 0x7E]),
    ([0x62, 0x01, 0x64, 0x01, 0x01, 0x04],
      [0xF5, 0x47, 0x31, 0xF7, 0x1F, 0x54, 0xCB, 0x51, 0x1B, 0xAA, 0xDB, 0x3B, 0x55, 0xB4, 0xF3, 0x60])]

/-- What is said when the bolt moves. -/
def boltRows : List (Bytes × Bytes) :=
  [([0x00, 0x01, 0x1F, 0x0E, 0x00, 0x63, 0x0B, 0x1E, 0x0E, 0x00, 0x00, 0x00, 0x00, 0x00, 0x00,
      0x00, 0x00],
      [0x7A, 0xC5, 0xEB, 0x74, 0x69, 0x7C, 0x18, 0xB4, 0x97, 0xDF, 0x69, 0x52, 0x5B, 0xEC, 0x9E, 0xC3,
      0xC9, 0x31, 0xF4, 0xCA, 0x74, 0xB5, 0x13, 0xE2, 0x8E, 0x6F, 0x63, 0xB5, 0x31, 0xC5, 0x5C, 0x69]),
    ([0x55, 0x01, 0x00, 0x00, 0x00, 0x07],
      [0xB7, 0xC2, 0xF7, 0x26, 0x41, 0x4F, 0x0A, 0xAD, 0x1A, 0x2F, 0x34, 0x04, 0x10, 0x5C, 0xAB, 0x84]),
    ([0x0E, 0xB6, 0x13, 0x92, 0x65, 0x53, 0xF1, 0x00],
      [0x71, 0x04, 0x24, 0x30, 0xF8, 0xD6, 0x91, 0x83, 0xB8, 0x7D, 0x01, 0x25, 0xAB, 0xAD, 0xB0, 0xB7]),
    ([0x47, 0x01],
      [0x46, 0x0C, 0xC7, 0x46, 0xBA, 0xB0, 0xB8, 0x4F, 0xF5, 0xF3, 0xD1, 0x05, 0x14, 0xB2, 0xC0, 0x1B]),
    ([0x53, 0x43, 0x49, 0x45, 0x4E, 0x45, 0x52],
      [0x70, 0xA3, 0x34, 0x71, 0x84, 0x7B, 0xCD, 0x96, 0xBC, 0x28, 0xA0, 0x1D, 0xF1, 0xCC, 0xF3, 0x18]),
    ([0x14, 0x01, 0x64, 0x01],
      [0xCE, 0x60, 0x1C, 0x29, 0x13, 0x8B, 0xC8, 0x16, 0x7C, 0xFC, 0x99, 0xBD, 0x7B, 0xC0, 0x77, 0x1D]),
    ([0x55, 0x01, 0x00, 0x00, 0x00, 0x08],
      [0x5C, 0x43, 0x70, 0x93, 0x6D, 0x3A, 0x0F, 0xFD, 0x82, 0x19, 0x49, 0xEB, 0xFF, 0xB4, 0x3F, 0xBC]),
    ([0x0E, 0xB6, 0x13, 0x93, 0x65, 0x53, 0xF1, 0x00],
      [0x89, 0xC5, 0x38, 0xDA, 0x6E, 0xDD, 0xCF, 0xA1, 0x59, 0xC6, 0xD0, 0x75, 0x82, 0x62, 0x9E, 0xA8]),
    ([0x58, 0x01],
      [0x19, 0x8E, 0x95, 0xE6, 0x0A, 0xBB, 0xFD, 0xD9, 0xCD, 0x81, 0xBB, 0xAD, 0xD9, 0x6F, 0x5F, 0x0A]),
    ([0x47, 0x00],
      [0x5A, 0x5D, 0xD3, 0x8E, 0xA0, 0xC5, 0x63, 0x1E, 0x41, 0xEB, 0x9C, 0xCA, 0x91, 0x2B, 0xC4, 0xC0]),
    ([0x14, 0x01, 0x32, 0x00, 0x01],
      [0x50, 0x0B, 0xB9, 0x36, 0x65, 0x56, 0xDD, 0xBC, 0xF0, 0x60, 0x2F, 0x8A, 0x34, 0xBA, 0x54, 0x58])]

/-- A client whose cipher is AES on these messages. -/
def clockClient : TTLockClient :=
  { makeClient [] with aes := Cipher.swapAes (clockRows ++ settingsRows ++ boltRows) }

theorem paddedCipher_clockClient : Cipher.PaddedCipher clockClient.aes clockClient.aesKey := by
  refine Cipher.paddedCipher_swapAes (clockRows ++ settingsRows ++ boltRows) ?_ _
  simp only [List.forall_mem_append]
  refine ⟨⟨?_, ?_⟩, ?_⟩ <;> decide +kernel

def clockLock : Lock Bytes where
  reply clock command _ := .ok (lockFrame (clockClient.aes.encrypt clockClient.aesKey
    (if command = cmdGetLockTime then 0x34 :: responseSuccess :: clock else [0x41, responseSuccess, 0, 0, 0, 7])))
  next clock command payload := if command = cmdTimeCalibrate then payload else clock

theorem replies_clockLock (clock : Bytes) (command : Int) (payload : Bytes) :
    clockLock.Replies clockClient clock command payload
      (if command = cmdGetLockTime then 0x34 :: responseSuccess :: clock else [0x41, responseSuccess, 0, 0, 0, 7]) :=
  ⟨_, rfl, (Cipher.aesDecrypt_eq_ok_iff paddedCipher_clockClient _ _).mpr rfl⟩

theorem storesClock_clockLock : StoresClock clockClient clockLock id where
  checkAdmin s payload := ⟨0x41, [0, 0, 0, 7], by decide, replies_clockLock s cmdCheckAdmin payload⟩
  checkRandom s payload := ⟨0x41, [0, 0, 0, 7], replies_clockLock s cmdCheckRandom payload⟩
  getLockTime s payload := ⟨0x34, [], by simpa using replies_clockLock s cmdGetLockTime payload⟩
  timeCalibrate s payload _ := ⟨⟨0x41, [0, 0, 0, 7], replies_clockLock s cmdTimeCalibrate payload⟩, rfl⟩
  stands s command payload h := if_neg h

/-- **Clock sync converges and is idempotent.** -/
theorem syncTime_converges {σ : Type} {client : TTLockClient} {lock : Lock σ} {clock : σ → Bytes}
    (hlock : StoresClock client lock clock) (hkey : WellFormedKey client.key) (hadmin : isDigit client.key.adminPs)
    (t : DateTime) (ht : 2000 ≤ t.year ∧ t.year ≤ 2099) (threshold : Int) (hthreshold : 1000000 ≤ threshold)
    (start : σ) (date : DateTime) (hdate : EncodesSecond (clock start) date) :
    ∃ s, lock.play ⟨start, []⟩ (client.syncTime t threshold) = (s, some (.ok (date.sub t))) ∧
      (Calibrates s.sent ↔ |date.sub t| > threshold) ∧
      (Calibrates s.sent → (lock.play s client.getLockTime).2 = some (.ok (withoutMicroseconds t))) ∧
      ∃ s' drift, lock.play ⟨s.lock, []⟩ (client.syncTime t threshold) = (s', some (.ok drift)) ∧
        ¬ Calibrates s'.sent := by
  obtain ⟨s, hplay, hcalibrates, hclock⟩ := play_syncTime hlock hkey hadmin t ht threshold hdate
  obtain ⟨s', hplay', hcalibrates', -⟩ := play_syncTime hlock hkey hadmin t ht threshold hclock
  refine ⟨s, hplay, hcalibrates, fun h => ?_, s', _, hplay', fun h => ?_⟩
  · rw [if_pos (hcalibrates.mp h)] at hclock
    rw [play_getLockTime hlock hclock]
  · have hdrift := hcalibrates'.mp h
    split at hdrift
    · rw [sub_withoutMicroseconds] at hdrift
      obtain ⟨-, -, -, -, -, -, hmicrosecond⟩ := t.valid
      rw [abs_neg, Nat.abs_cast] at hdrift
      omega
    · rename_i hsmall
      exact hsmall hdrift

/-- The end of a leap day, on a lock that is a second ahead and in the next month. -/
def leapDay : DateTime := ⟨2024, 2, 29, 23, 59, 59, 999999, by decide⟩

def nextDay : DateTime := ⟨2024, 3, 1, 0, 0, 2, 0, by decide⟩

theorem syncTime_converges_leapDay :
    ∃ s, clockLock.play ⟨[24, 3, 1, 0, 0, 2], []⟩ (clockClient.syncTime leapDay 2000000) =
        (s, some (.ok (nextDay.sub leapDay))) ∧
      (Calibrates s.sent ↔ |nextDay.sub leapDay| > 2000000) ∧
      (Calibrates s.sent →
        (clockLock.play s clockClient.getLockTime).2 = some (.ok (withoutMicroseconds leapDay))) ∧
      ∃ s' drift, clockLock.play ⟨s.lock, []⟩ (clockClient.syncTime leapDay 2000000) = (s', some (.ok drift)) ∧
        ¬ Calibrates s'.sent :=
  syncTime_converges storesClock_clockLock Contract.wellFormedKey_makeVirtualKey (by decide +kernel) leapDay
    (by decide) 2000000 (by decide) [24, 3, 1, 0, 0, 2] nextDay
    ⟨24, 3, 1, 0, 0, 2, rfl, rfl, rfl, rfl, rfl, rfl, rfl, rfl⟩

end TtlockBle.Clock
