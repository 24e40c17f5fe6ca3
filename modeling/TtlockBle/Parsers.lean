import Mathlib.Data.List.Induction
import Mathlib.Data.List.Nodup
import Mathlib.Tactic.Common
import TtlockBle.Code.Credentials
import TtlockBle.Code.OperateLog
import TtlockBle.Code.Session
import TtlockBle.Code.Settings
import TtlockBle.Lib.Raises

/-!
# What the parsers raise

Whatever the plaintext, a parser raises what its caller catches. The log page parser is the
exception: it raises an `IndexError` on a page with a short record.
-/

open TtlockBle.Lib

namespace TtlockBle.Parsers

open Raises

def IsValueError (e : PyExc) : Prop := e.isValueError

def IsRuntimeOrValueError (e : PyExc) : Prop := e.isRuntimeOrValueError

theorem runtimeOrValue_of_value (e : PyExc) (h : IsValueError e) : IsRuntimeOrValueError e := by
  unfold IsRuntimeOrValueError PyExc.isRuntimeOrValueError
  unfold IsValueError PyExc.isValueError at h
  rw [h, Bool.or_true]

@[simp]
theorem isValueError_valueError (text : String) : IsValueError (valueError text) := rfl

@[simp]
theorem isRuntimeOrValueError_valueError (text : String) : IsRuntimeOrValueError (valueError text) := rfl

@[simp]
theorem isRuntimeOrValueError_runtimeError (text : String) :
    IsRuntimeOrValueError (runtimeError text) := rfl

@[simp]
theorem isValueError_indexError (text : String) : IsValueError ⟨.indexError, text⟩ ↔ False := by
  simp [IsValueError, PyExc.isValueError, ExcType.isValueError]

@[simp]
theorem isRuntimeOrValueError_indexError (text : String) :
    IsRuntimeOrValueError ⟨.indexError, text⟩ ↔ False := by
  simp [IsRuntimeOrValueError, PyExc.isRuntimeOrValueError, ExcType.isRuntimeError, ExcType.isValueError]

/-! ## Building blocks -/

@[simp]
theorem raises_byteAt (P : PyExc → Prop) (data : Bytes) (i : Nat) :
    Raises P (byteAt data i) ↔ (data.length ≤ i → P ⟨.indexError, "index out of range"⟩) := by
  unfold byteAt
  cases h : data[i]? with
  | some b =>
    have := (List.getElem?_eq_some_iff.mp h).1
    simp only [raises_ok, true_iff]
    intro hle
    omega
  | none => simp [List.getElem?_eq_none_iff.mp h]

theorem parseResponseStatus_cons (echo status : UInt8) (data : Bytes) :
    parseResponseStatus (echo :: status :: data) = .ok (echo, status, data) := rfl

theorem parseResponseStatus_raises (plaintext : Bytes) :
    Raises IsValueError (parseResponseStatus plaintext) := by
  unfold parseResponseStatus
  simp
  intro hlen
  exact ⟨List.ne_nil_of_length_pos (by omega), fun _ _ => by omega⟩

theorem parseResponseStatus_raises' (plaintext : Bytes) :
    Raises IsRuntimeOrValueError (parseResponseStatus plaintext) :=
  (parseResponseStatus_raises plaintext).mono runtimeOrValue_of_value

theorem decodeAscii_raises (data : Bytes) : Raises IsValueError (decodeAscii data) := by
  unfold decodeAscii
  split <;> simp [IsValueError, PyExc.isValueError, ExcType.isValueError]

theorem decodeAscii_raises' (data : Bytes) : Raises IsRuntimeOrValueError (decodeAscii data) :=
  (decodeAscii_raises data).mono runtimeOrValue_of_value

/-! ## One reply -/

theorem parseToken_eq (name : String) {plaintext data : Bytes} {echo : UInt8}
    (h : parseResponseStatus plaintext = .ok (echo, responseSuccess, data)) (hlength : 4 ≤ data.length) :
    parseToken name plaintext = .ok (fromBytesBig (data.take 4)) := by
  unfold parseToken
  rw [h]
  simp only [bind, Except.bind, ne_eq, not_true_eq_false, if_false, if_neg (Nat.not_lt.mpr hlength)]
  rfl

theorem parseToken_raises (name : String) (plaintext : Bytes) :
    Raises IsRuntimeOrValueError (parseToken name plaintext) := by
  unfold parseToken
  simp [parseResponseStatus_raises']

theorem parseLockStatus_raises (plaintext : Bytes) : Raises IsValueError (parseLockStatus plaintext) := by
  unfold parseLockStatus
  simp only [raises_bind, raises_ite, raises_pure, raises_byteAt, parseResponseStatus_raises, Prod.forall,
    implies_true, true_and, and_true]
  omega

theorem parseStateBattery_raises (plaintext : Bytes) :
    Raises IsValueError (parseStateBattery plaintext) := by
  unfold parseStateBattery
  simp [parseResponseStatus_raises]

theorem parseGetLockTimeResponse_raises (plaintext : Bytes) :
    Raises IsRuntimeOrValueError (parseGetLockTimeResponse plaintext) := by
  unfold parseGetLockTimeResponse
  simp [parseResponseStatus_raises']
  intro _ _ data _ _
  split <;> simp

theorem autoLockData_raises (plaintext : Bytes) :
    Raises IsRuntimeOrValueError (autoLockData plaintext) := by
  unfold autoLockData
  simp [parseResponseStatus_raises']

theorem autoLockData_length (plaintext : Bytes) : Returns (2 ≤ ·.length) (autoLockData plaintext) := by
  unfold autoLockData
  rw [Returns.returns_bind]
  rintro ⟨echo, status, data⟩ -
  by_cases hlen : 2 ≤ data.length
  · simp [hlen]
  · simp [show data.length < 2 by omega]

theorem parseAutoLockResponse_raises (plaintext : Bytes) :
    Raises IsRuntimeOrValueError (parseAutoLockResponse plaintext) := by
  unfold parseAutoLockResponse
  simp [autoLockData_raises]
  intro data hdata
  have := autoLockData_length plaintext _ hdata
  exact ⟨List.ne_nil_of_length_pos (by omega), fun _ _ => by omega⟩

theorem parseAutoLockLimitsResponse_raises (plaintext : Bytes) :
    Raises IsRuntimeOrValueError (parseAutoLockLimitsResponse plaintext) := by
  unfold parseAutoLockLimitsResponse
  simp [autoLockData_raises]
  intro data hdata
  have := autoLockData_length plaintext _ hdata
  omega

theorem parseLockSoundResponse_raises (plaintext : Bytes) :
    Raises IsRuntimeOrValueError (parseLockSoundResponse plaintext) := by
  unfold parseLockSoundResponse
  simp [parseResponseStatus_raises']
  intro _ _ data _ _ hlen
  refine ⟨by omega, fun _ _ => ⟨fun _ => ⟨fun _ => ⟨?_, fun _ _ => ?_⟩, fun _ => ?_⟩, fun _ => ?_⟩⟩
  all_goals omega

theorem parseDeviceFeatureResponse_raises (plaintext : Bytes) :
    Raises IsRuntimeOrValueError (parseDeviceFeatureResponse plaintext) := by
  unfold parseDeviceFeatureResponse
  simp [parseResponseStatus_raises']
  intro _ _ data _ _ hlen
  exact List.ne_nil_of_length_pos (by omega)

theorem propertyData_raises (plaintext : Bytes) :
    Raises IsRuntimeOrValueError (propertyData plaintext) := by
  unfold propertyData
  simp [parseResponseStatus_raises']

theorem parseDevicePropertyString_raises (plaintext : Bytes) :
    Raises IsRuntimeOrValueError (parseDevicePropertyString plaintext) := by
  unfold parseDevicePropertyString decodeNullTerminatedAscii
  simp [propertyData_raises, decodeAscii_raises']

theorem parseDevicePropertyMac_raises (plaintext : Bytes) :
    Raises IsRuntimeOrValueError (parseDevicePropertyMac plaintext) := by
  unfold parseDevicePropertyMac
  simp [propertyData_raises]

theorem parseDevicePropertyClock_raises (plaintext : Bytes) :
    Raises IsRuntimeOrValueError (parseDevicePropertyClock plaintext) := by
  unfold parseDevicePropertyClock
  simp [propertyData_raises]
  intro data _
  split <;> simp

/-! ## Credentials -/

theorem decodeDateOrRaise_raises (raw : Bytes) (label : String) :
    Raises IsRuntimeOrValueError (decodeDateOrRaise raw label) := by
  unfold decodeDateOrRaise
  split <;> simp

theorem decodePasscode_raises (raw : Bytes) : Raises IsRuntimeOrValueError (decodePasscode raw) := by
  unfold decodePasscode
  split <;> simp

theorem decodeCyclicSchedule_raises (trailer : Bytes) (h : 7 ≤ trailer.length) :
    Raises IsRuntimeOrValueError (decodeCyclicSchedule trailer) := by
  unfold decodeCyclicSchedule
  simp
  refine ⟨by omega, fun lowByte _ => ?_⟩
  split
  · simp
    exact ⟨by omega, fun _ _ => by omega⟩
  · rename_i hnone
    have hzero := List.find?_eq_none.mp hnone (0, "Daily") (by simp [cyclicBasesDescending])
    simp at hzero

theorem decodeValidity_raises (pwdType : KeyboardPwdType) (trailer : Bytes)
    (h : pwdType ≠ .permanent → pwdType ≠ .period → 7 ≤ trailer.length) :
    Raises IsRuntimeOrValueError (decodeValidity pwdType trailer) := by
  unfold decodeValidity
  split
  · simp [decodeDateOrRaise_raises]
  · simp [decodeDateOrRaise_raises]
  · simp [decodeCyclicSchedule_raises trailer (h ‹_› ‹_›)]

theorem trailerLength_circle (value : UInt8) (pwdType : KeyboardPwdType) (n : Nat)
    (h : KeyboardPwdType.trailerLength value = some (pwdType, n)) (hp : pwdType ≠ .permanent)
    (hq : pwdType ≠ .period) : n = 7 := by
  unfold KeyboardPwdType.trailerLength at h
  split at h <;> simp_all

theorem parsePasscodeListResponse_raises (plaintext : Bytes) :
    Raises IsRuntimeOrValueError (parsePasscodeListResponse plaintext) := by
  unfold parsePasscodeListResponse
  simp [parseResponseStatus_raises']
  intro _ _ data _ _ hlen hitem
  refine ⟨by omega, fun value _ => ?_⟩
  split
  · simp
  · rename_i pwdType n hn
    simp [decodePasscode_raises]
    refine ⟨by omega, fun _ _ hoffset => ⟨hoffset, fun _ _ htrailer => ?_⟩⟩
    apply decodeValidity_raises
    intro hp hq
    obtain rfl := trailerLength_circle value pwdType n hn hp hq
    exact htrailer

theorem parseFingerprintListResponse_raises (plaintext : Bytes) :
    Raises IsRuntimeOrValueError (parseFingerprintListResponse plaintext) := by
  unfold parseFingerprintListResponse
  simp [parseResponseStatus_raises']

theorem parseCardListResponse_raises (plaintext : Bytes) :
    Raises IsRuntimeOrValueError (parseCardListResponse plaintext) := by
  unfold parseCardListResponse
  simp [parseResponseStatus_raises']
  intro _ _ data _ _ _
  split <;> simp

theorem fromBytesBig_lt (bytes : Bytes) (n : Nat) (h : bytes.length ≤ n) :
    fromBytesBig bytes < 256 ^ n := by
  refine (?_ : fromBytesBig bytes < 256 ^ bytes.length).trans_le (Nat.pow_le_pow_right (by decide) h)
  unfold fromBytesBig
  induction bytes using List.reverseRecOn with
  | nil => simp
  | append_singleton bytes b ih =>
    have hb := b.toNat_lt
    have := ih (by simp at h; omega)
    rw [List.foldl_append, List.length_append, List.length_singleton, Nat.pow_succ]
    simp only [List.foldl_cons, List.foldl_nil]
    omega

theorem parsePasscodeListResponse_sequence (plaintext : Bytes) :
    Returns (fun r => r.2 < 65536) (parsePasscodeListResponse plaintext) := by
  unfold parsePasscodeListResponse
  have hseq : ∀ data, fromBytesBig (slice data 2 4) < 65536 := fun data =>
    fromBytesBig_lt _ 2 (by rw [slice_length]; omega)
  simp
  intro _ _ data _ _ _
  refine ⟨fun _ => hseq data, fun _ value _ => ?_⟩
  split
  · simp [hseq data]
  · simp [hseq data]

/-! ## The operation log -/

abbrev Total {α : Type} (x : Py α) : Prop := Raises (fun _ => False) x

theorem decodePwdPair_total (payload : Bytes) : Total (decodePwdPair payload) := by
  unfold decodePwdPair
  simp

theorem tail_total (recordType : UInt8) (decoder : Bytes → Py RecordTail)
    (h : tailDecoder recordType = some decoder) (payload : Bytes) : Total (decoder payload) := by
  obtain ⟨row, hrow, rfl⟩ := Option.map_eq_some_iff.mp h
  have hmem := List.mem_of_find?_eq_some hrow
  simp only [tailDecodersByBucket, List.mem_cons, List.not_mem_nil, or_false] at hmem
  rcases hmem with rfl | rfl | rfl | rfl | rfl | rfl | rfl | rfl | rfl | rfl | rfl | rfl | rfl | rfl | rfl
  · simp [decodeAppUidRecordId]
  · simp [decodePasscodePair, decodePwdPair_total]
  · simp [decodePasscodeOnly, decodePwdPair_total]
  · simp [decodeClearAllPasscodes, decodePwdPair_total]
  · simp [decodeCardNumber]
  · simp [decodeMacOnly]
  · simp [decodeSixByteId]
  · simp [decodeAccessoryBattery]
  · simp [decodeRemoteControlKey]
    omega
  · simp [decodeKeyFob, optionalByte]
    exact fun _ => ⟨by omega, fun _ _ => by omega⟩
  · simp [decodeWirelessKeypad, optionalByte]
    omega
  · simp [decodeShortId]
  · simp [decodeSixByteId]
  · simp [decodeAddedPasscode]
  · simp [decodeMacOnly]

theorem decodeLogRecord_total (recordType : UInt8) (operateDate : Option DateTime) (battery : UInt8)
    (sequence : Int) (data : Bytes) (idx recEnd : Nat) :
    Total (decodeLogRecord recordType operateDate battery sequence data idx recEnd) := by
  unfold decodeLogRecord
  split
  · rename_i decoder hdecoder
    simp [tail_total recordType decoder hdecoder]
  · simp

/-- The walk over the records comes to one that ends within the page but leaves no room for its
fixed head of eight bytes. -/
def shortRecord (data : Bytes) (idx : Nat) : Bool :=
  if h : idx < data.length then
    let recStart := idx + 1
    let recEnd := recStart + data[idx].toNat
    if recEnd > data.length then false
    else if data.length < recStart + 8 then true
    else shortRecord data recEnd
  else false
termination_by data.length - idx

theorem byteAt_of_lt (data : Bytes) (i : Nat) (h : i < data.length) : byteAt data i = .ok data[i] := by
  simp [byteAt, h]

theorem byteAt_of_le (data : Bytes) (i : Nat) (h : data.length ≤ i) :
    byteAt data i = .error ⟨.indexError, "index out of range"⟩ := by
  simp [byteAt, h]

theorem operateLogRecords_result (data : Bytes) (sequence idx : Nat) (entries : List LogEntry) :
    (shortRecord data idx →
      operateLogRecords data sequence idx entries = .error ⟨.indexError, "index out of range"⟩) ∧
    (¬ shortRecord data idx → Total (operateLogRecords data sequence idx entries)) := by
  fun_induction operateLogRecords data sequence idx entries with
  | case1 idx entries h recLen recStart hlong =>
    have hshort : shortRecord data idx = false := by
      unfold shortRecord
      rw [dif_pos h, if_pos hlong]
    simp [hshort]
  | case2 idx entries h recLen recStart hlong ih =>
    by_cases hroom : data.length < recStart + 8
    · have hshort : shortRecord data idx = true := by
        unfold shortRecord
        rw [dif_pos h, if_neg hlong, if_pos hroom]
      refine ⟨fun _ => ?_, by simp [hshort]⟩
      -- Either read can be the one that fails: the type's or the battery's.
      by_cases htype : recStart < data.length
      · rw [byteAt_of_lt data recStart htype, byteAt_of_le data (recStart + 7) (by omega)]
        rfl
      · rw [byteAt_of_le data recStart (by omega)]
        rfl
    · have hshort : shortRecord data idx = shortRecord data (recStart + recLen) := by
        rw [shortRecord, dif_pos h, if_neg hlong, if_neg hroom]
      rw [hshort, byteAt_of_lt data recStart (by omega), byteAt_of_lt data (recStart + 7) (by omega)]
      obtain ⟨entry, hentry⟩ := exists_ok (decodeLogRecord_total data[recStart]
        (decodeDate6 (slice data (recStart + 1) (recStart + 7))) data[recStart + 7]
        (sequence - entries.length - 1) data (recStart + 8) (recStart + recLen))
      simp only [hentry, bind, Except.bind]
      exact ih entry
  | case3 idx entries h =>
    have hshort : shortRecord data idx = false := by
      unfold shortRecord
      rw [dif_neg h]
    simp [hshort]

/-- A successful page that is not empty and has a short record. -/
def shortPage (plaintext : Bytes) : Bool :=
  match parseResponseStatus plaintext with
  | .ok (_, status, data) =>
    status = responseSuccess && 2 ≤ data.length && fromBytesBig (data.take 2) ≠ 0 && shortRecord data 4
  | .error _ => false

theorem parseOperateLogResponse_result (plaintext : Bytes) :
    (shortPage plaintext →
      parseOperateLogResponse plaintext = .error ⟨.indexError, "index out of range"⟩) ∧
    (¬ shortPage plaintext → Raises IsValueError (parseOperateLogResponse plaintext)) := by
  have henvelope := parseResponseStatus_raises plaintext
  unfold shortPage parseOperateLogResponse
  cases hstatus : parseResponseStatus plaintext with
  | error e => simpa [bind, Except.bind, hstatus] using henvelope
  | ok envelope =>
    obtain ⟨echo, status, data⟩ := envelope
    obtain ⟨hshort, htotal⟩ := operateLogRecords_result data (fromBytesBig (slice data 2 4)) 4 []
    by_cases hempty : status ≠ responseSuccess ∨ data.length < 2
    · simp only [bind, Except.bind, if_pos hempty]
      rcases hempty with h | h <;> simp [h]
    · simp only [bind, Except.bind, if_neg hempty]
      rw [not_or, not_not, not_lt] at hempty
      by_cases hzero : fromBytesBig (data.take 2) = 0
      · simp [hempty, hzero]
      · by_cases hs : shortRecord data 4
        · simp [hempty, hzero, hs, hshort hs]
        · obtain ⟨entries, hentries⟩ := exists_ok (htotal hs)
          simp [hempty, hzero, hs, hentries]

/-! ### Record numbers -/

/-- The numbers of the first `n` records of a page. -/
def recordNumbers (sequence n : Nat) : List Int :=
  (List.range n).map fun (i : Nat) => (sequence : Int) - i - 1

theorem recordNumbers_nodup (sequence n : Nat) : (recordNumbers sequence n).Nodup := by
  refine List.Nodup.map (fun i j h => ?_) List.nodup_range
  simpa using h

theorem mem_recordNumbers (sequence n : Nat) (k : Int) :
    k ∈ recordNumbers sequence n ↔ (sequence : Int) - n ≤ k ∧ k < sequence := by
  simp only [recordNumbers, List.mem_map, List.mem_range]
  constructor
  · rintro ⟨i, hi, rfl⟩
    omega
  · rintro ⟨hlow, hhigh⟩
    exact ⟨(sequence - k - 1).toNat, by omega, by omega⟩

/-- The records of a page, as far as their numbers go: `room` bytes hold at most as many records. -/
def Numbered (sequence room : Nat) (entries : List LogEntry) : Prop :=
  entries.map (·.recordNumber) = recordNumbers sequence entries.length ∧ entries.length ≤ room

theorem decodeLogRecord_number (recordType : UInt8) (operateDate : Option DateTime) (battery : UInt8)
    (sequence : Int) (data : Bytes) (idx recEnd : Nat) :
    Returns (·.recordNumber = sequence)
      (decodeLogRecord recordType operateDate battery sequence data idx recEnd) := by
  unfold decodeLogRecord
  split <;> simp

theorem operateLogRecords_numbered (data : Bytes) (sequence idx : Nat) (entries : List LogEntry)
    (h : Numbered sequence idx entries) :
    Returns (Numbered sequence (idx + (data.length - idx)))
      (operateLogRecords data sequence idx entries) := by
  fun_induction operateLogRecords data sequence idx entries with
  | case1 idx entries _ recLen recStart hlong =>
    exact (Returns.returns_ok _).mpr ⟨h.1, by have := h.2; omega⟩
  | case2 idx entries hidx recLen recStart hlong ih =>
    simp
    intro recordType _ battery _ entry hentry
    have hnumber := decodeLogRecord_number _ _ _ _ _ _ _ entry hentry
    have hnext : Numbered sequence (recStart + recLen) (entries ++ [entry]) := by
      have := h.2
      refine ⟨?_, by simp; omega⟩
      rw [List.map_append, h.1, List.length_append, List.length_singleton, recordNumbers, recordNumbers,
        List.range_succ, List.map_append]
      simp [hnumber]
    convert ih entry hnext using 2
    omega
  | case3 idx entries _ =>
    exact (Returns.returns_ok _).mpr ⟨h.1, by have := h.2; omega⟩

theorem parseOperateLogResponse_numbered (plaintext : Bytes) :
    Returns (fun r => Numbered r.2 plaintext.length r.1) (parseOperateLogResponse plaintext) := by
  have hdata : Returns (fun r => r.2.2.length + 2 = plaintext.length) (parseResponseStatus plaintext) := by
    unfold parseResponseStatus
    simp
    omega
  unfold parseOperateLogResponse
  simp
  intro echo status data henvelope
  have hlen := hdata _ henvelope
  simp only at hlen
  have hnone : Numbered 0 plaintext.length [] := ⟨rfl, Nat.zero_le _⟩
  refine ⟨fun _ => hnone, fun _ h2 => ⟨fun _ => hnone, fun _ entries hentries => ?_⟩⟩
  have h := operateLogRecords_numbered data _ 4 [] ⟨rfl, Nat.zero_le _⟩ entries hentries
  exact ⟨h.1, h.2.trans (by omega)⟩

theorem parseOperateLogResponse_sequence (plaintext : Bytes) :
    Returns (fun r => r.2 < 65536) (parseOperateLogResponse plaintext) := by
  have hseq : ∀ data, fromBytesBig (slice data 2 4) < 65536 := fun data =>
    fromBytesBig_lt _ 2 (by rw [slice_length]; omega)
  unfold parseOperateLogResponse
  simp [hseq]

end TtlockBle.Parsers
