import Mathlib.Tactic.IntervalCases
import TtlockBle.Code.Client
import TtlockBle.Parsers

/-!
# What the payload builders return

For a well-formed key the handshakes can always be built. What a caller passes can be refused, by
the builder that takes it.
-/

open TtlockBle.Lib

namespace TtlockBle.Payloads

open Parsers Raises Returns

/-! ## Numbers -/

theorem intToBytesBe_eq (value : Int) (length : Nat) (h0 : 0 ≤ value) (h : value < 256 ^ length) :
    intToBytesBe value length = .ok (toBytesBig length value.toNat) := by
  unfold intToBytesBe
  rw [if_neg (by omega), if_neg (by omega)]

theorem intToBytesBe_refuses (value : Int) (length : Nat) (h : ¬ (0 ≤ value ∧ value < 256 ^ length)) :
    ∃ text, intToBytesBe value length = .error (overflowError text) := by
  unfold intToBytesBe
  by_cases h0 : value < 0
  · exact ⟨_, if_pos h0⟩
  · rw [if_neg h0, if_pos (by omega)]
    exact ⟨_, rfl⟩

theorem pyInt_eq (s : String) (n : Int) (h : parseInt s = .ok n) : pyInt s = .ok n := by
  unfold pyInt
  rw [h]

theorem pyInt_refuses (s : String) (h : ¬ ∃ n, parseInt s = .ok n) :
    ∃ text, pyInt s = .error (valueError text) := by
  unfold pyInt
  cases hs : parseInt s with
  | error text => exact ⟨text, rfl⟩
  | ok n => exact absurd ⟨n, hs⟩ h

theorem pyInt_raises (s : String) : Raises IsValueError (pyInt s) := by
  unfold pyInt
  split <;> simp

theorem tokenSum_lt (psFromLock : Nat) (unlockKey : Int) :
    (tokenSum psFromLock unlockKey : Int) < 256 ^ 4 := by
  unfold tokenSum
  have := Int.emod_nonneg ((psFromLock : Int) + unlockKey) (b := 2 ^ 32) (by decide)
  have := Int.emod_lt_of_pos ((psFromLock : Int) + unlockKey) (b := 2 ^ 32) (by decide)
  omega

/-! ## Decimal times -/

theorem toByte_raises (n : Int) : Raises IsValueError (toByte n) := by
  unfold toByte
  simp

theorem decimalTimeBytes_raises (timeStr : String) : Raises IsValueError (decimalTimeBytes timeStr) := by
  unfold decimalTimeBytes
  apply Raises.mapM
  intro pair _
  simp [pyInt_raises]
  intro n _
  exact toByte_raises n

theorem twoDigits_mod (n : Nat) : twoDigits n = twoDigits (n % 100) := by
  have h1 : n / 10 % 10 = n % 100 / 10 % 10 := by omega
  have h2 : n % 10 = n % 100 % 10 := by omega
  rw [twoDigits, h1, h2, twoDigits]

theorem pairToByte_twoDigits (n : Nat) :
    (do toByte (← pyInt (twoDigits n)) : Py UInt8) = .ok (UInt8.ofNat (n % 100)) := by
  rw [twoDigits_mod]
  have h : ∀ k : Fin 100, (do toByte (← pyInt (twoDigits k)) : Py UInt8) = .ok (UInt8.ofNat k) := by
    decide +kernel
  exact h ⟨n % 100, Nat.mod_lt _ (by decide)⟩

theorem pairs_twoDigits (n : Nat) (cs : List Char) :
    pairs ((twoDigits n).toList ++ cs) = twoDigits n :: pairs cs := by
  simp [twoDigits, pairs]

theorem pairs_flatMap (ns : List Nat) :
    pairs (ns.flatMap fun n => (twoDigits n).toList) = ns.map twoDigits := by
  induction ns with
  | nil => rfl
  | cons n ns ih => rw [List.flatMap_cons, pairs_twoDigits, ih, List.map_cons]

theorem flatMap_length (ns : List Nat) :
    (ns.flatMap fun n => (twoDigits n).toList).length = 2 * ns.length := by
  simp [List.length_flatMap, twoDigits, Nat.mul_comm]

theorem decimalTimeBytes_twoDigits (ns : List Nat) :
    decimalTimeBytes (String.ofList (ns.flatMap fun n => (twoDigits n).toList)) =
      .ok (ns.map fun n => UInt8.ofNat (n % 100)) := by
  have heven : ¬ (String.ofList (ns.flatMap fun n => (twoDigits n).toList)).length % 2 = 1 := by
    rw [String.length_ofList, flatMap_length]
    omega
  have hbyte : (fun n => (do toByte (← pyInt (twoDigits n)) : Py UInt8)) =
      fun n => pure (UInt8.ofNat (n % 100)) := funext pairToByte_twoDigits
  unfold decimalTimeBytes
  simp only [heven, if_false, String.toList_ofList, pairs_flatMap, List.mapM_map]
  show List.mapM (fun n => (do toByte (← pyInt (twoDigits n)) : Py UInt8)) _ = _
  rw [hbyte, List.mapM_pure]
  rfl

theorem strftimeCompact_eq (t : DateTime) :
    strftimeCompact t = String.ofList
      ([t.year % 100, t.month, t.day, t.hour, t.minute, t.second].flatMap fun n => (twoDigits n).toList) := by
  apply String.toList_inj.mp
  unfold strftimeCompact
  simp

theorem payloadTimeCalibrate_eq (t : DateTime) :
    payloadTimeCalibrate t =
      .ok ([t.year % 100, t.month, t.day, t.hour, t.minute, t.second].map fun n => UInt8.ofNat (n % 100)) := by
  unfold payloadTimeCalibrate
  rw [strftimeCompact_eq]
  exact decimalTimeBytes_twoDigits _

/-! ## The key -/

/-- What the builders of the handshakes need of a key. -/
structure WellFormedKey (key : VirtualKey) : Prop where
  uid : 0 ≤ key.uid ∧ key.uid < 256 ^ 4
  unlockKey : ∃ n, parseInt key.unlockKey = .ok n
  adminPs : isDigit key.adminPs → ∃ n, parseInt key.adminPs = .ok n ∧ 0 ≤ n ∧ n < 256 ^ 4

theorem payloadCheckUserTime_returns (uid lockFlagPos : Int) (h : 0 ≤ uid ∧ uid < 256 ^ 4) :
    ∃ payload, payloadCheckUserTime uid defaultStartDate defaultEndDate lockFlagPos = .ok payload := by
  have hstart : decimalTimeBytes defaultStartDate = .ok [0, 1, 31, 14, 0] := by decide +kernel
  have hend : decimalTimeBytes defaultEndDate = .ok [99, 11, 30, 14, 0] := by decide +kernel
  unfold payloadCheckUserTime
  simp only [hstart, hend, intToBytesBe_eq uid 4 h.1 h.2]
  exact ⟨_, rfl⟩

theorem payloadCheckAdmin_returns (key : VirtualKey) (huid : 0 ≤ key.uid ∧ key.uid < 256 ^ 4)
    (hadminPs : ∃ n, parseInt key.adminPs = .ok n ∧ 0 ≤ n ∧ n < 256 ^ 4) :
    ∃ payload, payloadCheckAdmin key.uid key.adminPs key.lockFlagPos = .ok payload := by
  obtain ⟨n, hn, h0, hlt⟩ := hadminPs
  unfold payloadCheckAdmin
  rw [pyInt_eq _ _ hn]
  simp only [bind, Except.bind, intToBytesBe_eq _ 4 h0 hlt, intToBytesBe_eq _ 4 huid.1 huid.2]
  exact ⟨_, rfl⟩

theorem payloadCheckUserTime_refuses (uid lockFlagPos : Int) (h : ¬ (0 ≤ uid ∧ uid < 256 ^ 4)) :
    ∃ text, payloadCheckUserTime uid defaultStartDate defaultEndDate lockFlagPos =
      .error (overflowError text) := by
  have hstart : decimalTimeBytes defaultStartDate = .ok [0, 1, 31, 14, 0] := by decide +kernel
  have hend : decimalTimeBytes defaultEndDate = .ok [99, 11, 30, 14, 0] := by decide +kernel
  obtain ⟨text, huid⟩ := intToBytesBe_refuses uid 4 h
  unfold payloadCheckUserTime
  simp only [hstart, hend, huid]
  exact ⟨text, rfl⟩

theorem payloadCheckAdmin_refuses (key : VirtualKey)
    (h : ¬ ((∃ n, parseInt key.adminPs = .ok n ∧ 0 ≤ n ∧ n < 256 ^ 4) ∧ 0 ≤ key.uid ∧ key.uid < 256 ^ 4)) :
    ∃ e, payloadCheckAdmin key.uid key.adminPs key.lockFlagPos = .error e ∧ e.type ≠ .ttLockError := by
  unfold payloadCheckAdmin
  by_cases hint : ∃ n, parseInt key.adminPs = .ok n
  · obtain ⟨n, hn⟩ := hint
    rw [pyInt_eq _ _ hn]
    by_cases hfits : 0 ≤ n ∧ n < 256 ^ 4
    · obtain ⟨text, huid⟩ := intToBytesBe_refuses key.uid 4 fun huid => h ⟨⟨n, hn, hfits⟩, huid⟩
      simp only [bind, Except.bind, intToBytesBe_eq n 4 hfits.1 hfits.2, huid]
      exact ⟨_, rfl, by simp [overflowError]⟩
    · obtain ⟨text, hpassword⟩ := intToBytesBe_refuses n 4 hfits
      simp only [bind, Except.bind, hpassword]
      exact ⟨_, rfl, by simp [overflowError]⟩
  · obtain ⟨text, herror⟩ := pyInt_refuses key.adminPs hint
    rw [herror]
    exact ⟨_, rfl, by simp [valueError]⟩

theorem payloadCheckRandom_refuses (psFromLock : Nat) (unlockKey : String)
    (h : ¬ ∃ n, parseInt unlockKey = .ok n) :
    ∃ text, payloadCheckRandom psFromLock unlockKey = .error (valueError text) := by
  obtain ⟨text, herror⟩ := pyInt_refuses unlockKey h
  unfold payloadCheckRandom
  rw [herror]
  exact ⟨text, rfl⟩

theorem payloadCheckRandom_eq (psFromLock : Nat) (unlockKey : String) (n : Int)
    (h : parseInt unlockKey = .ok n) :
    payloadCheckRandom psFromLock unlockKey = .ok (toBytesBig 4 (tokenSum psFromLock n)) := by
  unfold payloadCheckRandom
  rw [pyInt_eq _ _ h]
  exact intToBytesBe_eq _ 4 (Int.natCast_nonneg _) (tokenSum_lt psFromLock n)

/-- The host clock is sent in seconds, as four bytes. -/
def SecondsFit (now : Int) : Prop := 0 ≤ now / 1000 ∧ now / 1000 < 256 ^ 4

theorem payloadUnlock_eq (psFromLock : Nat) (unlockKey : String) (n now : Int)
    (h : parseInt unlockKey = .ok n) (hnow : SecondsFit now) :
    payloadUnlock psFromLock unlockKey now =
      .ok (toBytesBig 4 (tokenSum psFromLock n) ++ toBytesBig 4 (now / 1000).toNat) := by
  unfold payloadUnlock
  rw [pyInt_eq _ _ h]
  simp only [bind, Except.bind, intToBytesBe_eq _ 4 (Int.natCast_nonneg _) (tokenSum_lt psFromLock n),
    le_refl, if_true, intToBytesBe_eq _ 4 hnow.1 hnow.2]
  rfl

theorem payloadUnlock_refuses (psFromLock : Nat) (unlockKey : String) (n now : Int)
    (h : parseInt unlockKey = .ok n) (hnow : ¬ SecondsFit now) :
    ∃ text, payloadUnlock psFromLock unlockKey now = .error (overflowError text) := by
  obtain ⟨text, herror⟩ := intToBytesBe_refuses (now / 1000) 4 hnow
  unfold payloadUnlock
  rw [pyInt_eq _ _ h]
  simp only [bind, Except.bind, intToBytesBe_eq _ 4 (Int.natCast_nonneg _) (tokenSum_lt psFromLock n),
    le_refl, if_true, herror]
  exact ⟨_, rfl⟩

theorem payloadUnlock_noInt (psFromLock : Nat) (unlockKey : String) (now : Int)
    (h : ¬ ∃ n, parseInt unlockKey = .ok n) :
    ∃ text, payloadUnlock psFromLock unlockKey now = .error (valueError text) := by
  obtain ⟨text, herror⟩ := pyInt_refuses unlockKey h
  unfold payloadUnlock
  rw [herror]
  exact ⟨text, rfl⟩

theorem payloadUnlock_take (psFromLock : Nat) (unlockKey : String) (n now : Int)
    (h : parseInt unlockKey = .ok n) :
    Returns (·.take 4 = toBytesBig 4 (tokenSum psFromLock n)) (payloadUnlock psFromLock unlockKey now) := by
  unfold payloadUnlock
  rw [pyInt_eq _ _ h]
  simp only [bind, Except.bind, intToBytesBe_eq _ 4 (Int.natCast_nonneg _) (tokenSum_lt psFromLock n)]
  split
  · exact (Returns.returns_error _).mpr trivial
  · refine (Returns.returns_ok _).mpr ?_
    exact List.take_left' (toBytesBig_length 4 _)

/-! ## Pages -/

theorem intToBytesBe_two (n : Nat) (h : n < 65536) : intToBytesBe n 2 = .ok (toBytesBig 2 n) :=
  intToBytesBe_eq n 2 (Int.natCast_nonneg n) (by omega)

theorem payloadIndexed_eq (operation : UInt8) (index : Nat) (h : index < 65536) :
    payloadIndexed operation index = .ok (operation :: toBytesBig 2 index) := by
  unfold payloadIndexed
  rw [intToBytesBe_two index h]
  rfl

/-! ## Arguments -/

/-- What is built from the arguments of a call alone. -/
def argumentPayload : Command → Py Bytes
  | .setAutoLockTime seconds => payloadAutoLockSet seconds
  | .setLockVolume level => payloadSetLockVolume level
  | .addPasscode code pwdType startDate endDate => payloadPasscodeAdd pwdType.toInt code startDate endDate
  | .deletePasscode code pwdType => payloadPasscodeDelete pwdType.toInt code
  | .getOperationLog _ fromSequence => payloadOperateLogRequest fromSequence
  | _ => .ok []

def Accepted (command : Command) : Prop := ∃ payload, argumentPayload command = .ok payload

theorem checkPasscode_raises (code : String) : Raises IsValueError (checkPasscode code) := by
  unfold checkPasscode
  simp

theorem encodeAscii_raises (s : String) : Raises IsValueError (encodeAscii s) := by
  unfold encodeAscii
  split <;> simp [IsValueError, PyExc.isValueError, ExcType.isValueError]

theorem argumentPayload_raises (command : Command) :
    Raises (fun e => e.type ≠ .ttLockError) (argumentPayload command) := by
  have hvalue : ∀ e : PyExc, IsValueError e → e.type ≠ .ttLockError := by
    rintro ⟨type, text⟩ he rfl
    simp [IsValueError, PyExc.isValueError, ExcType.isValueError] at he
  cases command with
  | getOperationLog maxEntries fromSequence =>
    unfold argumentPayload payloadOperateLogRequest intToBytesBe
    simp [overflowError]
  | setAutoLockTime seconds =>
    apply Raises.mono hvalue
    unfold argumentPayload payloadAutoLockSet
    simp
  | setLockVolume level =>
    apply Raises.mono hvalue
    unfold argumentPayload payloadSetLockVolume
    simp [toByte_raises]
  | addPasscode code pwdType startDate endDate =>
    apply Raises.mono hvalue
    unfold argumentPayload payloadPasscodeAdd
    simp [checkPasscode_raises, toByte_raises, encodeAscii_raises, decimalTimeBytes_raises]
  | deletePasscode code pwdType =>
    apply Raises.mono hvalue
    unfold argumentPayload payloadPasscodeDelete
    simp [checkPasscode_raises, toByte_raises, encodeAscii_raises]
  | _ => exact (raises_ok _).mpr trivial

/-! ## Lengths -/

theorem intToBytesBe_length (value : Int) (length : Nat) :
    Returns (·.length = length) (intToBytesBe value length) := by
  unfold intToBytesBe
  simp

theorem pairs_length (cs : List Char) : (pairs cs).length = cs.length / 2 := by
  induction cs using pairs.induct with
  | case1 a b cs ih =>
    simp only [pairs, List.length_cons, ih]
    omega
  | case2 cs hshort =>
    match cs with
    | [] => rfl
    | [a] => simp [pairs]
    | a :: b :: cs => exact (hshort a b cs rfl).elim

theorem decimalTimeBytes_length (timeStr : String) :
    Returns (·.length = (timeStr.length + 1) / 2) (decimalTimeBytes timeStr) := by
  intro bytes h
  have hlength := mapM_length _ _ bytes h
  rw [pairs_length, String.length_toList] at hlength
  rw [hlength]
  split
  · have hzero : "0".length = 1 := rfl
    rw [String.length_append, hzero]
    omega
  · omega

theorem encodeAscii_length (s : String) : Returns (·.length = s.length) (encodeAscii s) := by
  unfold encodeAscii
  split
  · simp [String.length_toList]
  · simp

theorem setSlice_length (out new : Bytes) (start stop : Nat) (hnew : start + new.length = stop)
    (hstop : stop ≤ out.length) : (setSlice out start stop new).length = out.length := by
  unfold setSlice
  simp
  omega

theorem setByte_length (out : Bytes) (i : Nat) (b : UInt8) :
    Returns (·.length = out.length) (setByte out i b) := by
  unfold setByte
  simp

theorem payloadCheckUserTime_length (uid lockFlagPos : Int) :
    Returns (·.length = 17) (payloadCheckUserTime uid defaultStartDate defaultEndDate lockFlagPos) := by
  unfold payloadCheckUserTime
  simp
  intro startDate hstart endDate hend out₁ h₁ out₂ h₂ out₃ h₃ uidBytes huid
  have hstart : startDate.length = 5 := decimalTimeBytes_length _ _ hstart
  have hend : endDate.length = 5 := decimalTimeBytes_length _ _ hend
  have hfirst : (setSlice (List.replicate 17 0) 0 5 startDate).length = 17 :=
    setSlice_length _ _ 0 5 (by omega) (by simp)
  have hboth := (setSlice_length (setSlice (List.replicate 17 0) 0 5 startDate) endDate 5 10 (by omega)
    (by omega)).trans hfirst
  have h₁ := (setByte_length _ _ _ _ h₁).trans hboth
  have h₂ := (setByte_length _ _ _ _ h₂).trans h₁
  have h₃ : out₃.length = 17 := (setByte_length _ _ _ _ h₃).trans h₂
  have huid : uidBytes.length = 4 := intToBytesBe_length _ _ _ huid
  rw [setSlice_length _ _ _ _ (by omega) (by omega), h₃]

theorem payloadCheckAdmin_length (uid : Int) (adminPs : String) (lockFlagPos : Int) :
    Returns (·.length = 11) (payloadCheckAdmin uid adminPs lockFlagPos) := by
  unfold payloadCheckAdmin
  simp
  intro ps _ psBytes hps uidBytes huid
  have := intToBytesBe_length _ _ _ hps
  have := intToBytesBe_length _ _ _ huid
  omega

theorem payloadCheckRandom_length (psFromLock : Nat) (unlockKey : String) :
    Returns (·.length = 4) (payloadCheckRandom psFromLock unlockKey) := by
  unfold payloadCheckRandom
  simp
  intro key _
  exact intToBytesBe_length _ 4

theorem payloadUnlock_length (psFromLock : Nat) (unlockKey : String) (now tsMs : Int) :
    Returns (·.length = 8) (payloadUnlock psFromLock unlockKey now tsMs) := by
  unfold payloadUnlock
  simp
  intro key _ sum hsum time htime
  have := intToBytesBe_length _ _ _ hsum
  have := intToBytesBe_length _ _ _ htime
  omega

theorem payloadIndexed_length (operation : UInt8) (index : Int) :
    Returns (·.length = 3) (payloadIndexed operation index) := by
  unfold payloadIndexed
  simp
  exact intToBytesBe_length index 2

theorem payloadAutoLockSet_length (seconds : Int) : Returns (·.length = 3) (payloadAutoLockSet seconds) := by
  unfold payloadAutoLockSet
  simp

theorem payloadSetLockVolume_length (level : Int) : Returns (·.length = 4) (payloadSetLockVolume level) := by
  unfold payloadSetLockVolume
  simp

theorem checkPasscode_length (code : String) : Returns (fun _ => code.length ≤ 9) (checkPasscode code) := by
  unfold checkPasscode
  simp
  exact fun _ h _ => h

theorem payloadPasscodeDelete_length (pwdType : Int) (code : String) :
    Returns (·.length ≤ 12) (payloadPasscodeDelete pwdType code) := by
  unfold payloadPasscodeDelete
  simp
  intro _ hcheck _ _ digits hdigits
  have := checkPasscode_length code _ hcheck
  have := encodeAscii_length _ _ hdigits
  omega

theorem payloadPasscodeAdd_length (pwdType : Int) (code startDate endDate : String) :
    Returns (·.length = 3 + code.length + (startDate.length + 1) / 2 +
        if pwdType = KeyboardPwdType.permanent.toInt then 0 else (endDate.length + 1) / 2)
      (payloadPasscodeAdd pwdType code startDate endDate) := by
  unfold payloadPasscodeAdd
  simp
  intro _ _ _ _ digits hdigits start hstart
  have := encodeAscii_length _ _ hdigits
  have := decimalTimeBytes_length _ _ hstart
  constructor
  · intro hpermanent
    rw [if_pos hpermanent]
    omega
  · intro hpermanent stop hstop
    have := decimalTimeBytes_length _ _ hstop
    rw [if_neg hpermanent]
    omega

end TtlockBle.Payloads
