import TtlockBle.Ascii
import TtlockBle.Payloads

/-!
# Windows of a passcode

`decimal_time_bytes` packs pairs, however many there are, and nothing checks that a window has five.
-/

open TtlockBle.Lib

namespace TtlockBle.PasscodeWindows

open Ascii Payloads Parsers

/-! ## Requests -/

/-- The arguments of `payload_passcode_add`. -/
structure Request where
  pwdType : KeyboardPwdType
  code : String
  startDate : String
  endDate : String

namespace Request

def payload (r : Request) : Py Bytes := payloadPasscodeAdd r.pwdType.toInt r.code r.startDate r.endDate

/-- The windows that are sent. -/
def windows (r : Request) : List String :=
  if r.pwdType = .permanent then [r.startDate] else [r.startDate, r.endDate]

end Request

/-- Five fields, and the string in which each has its two digits. -/
structure Fields (date : String) (fields : Bytes) : Prop where
  five : fields.length = 5
  small : ∀ field ∈ fields, field.toNat < 100
  spelt : date.toList = fields.flatMap fun field => (twoDigits field.toNat).toList

/-- `[2][type][len][code digits]`, then five bytes for each window. -/
structure LaidOut (r : Request) (payload : Bytes) : Prop where
  digits : ∀ c ∈ r.code.toList, IsDigit c
  layout : ∃ fields : List Bytes, List.Forall₂ Fields r.windows fields ∧
    payload = [pwdOperateAdd, UInt8.ofInt r.pwdType.toInt, UInt8.ofNat r.code.length] ++
      bytes r.code.toList ++ fields.flatten
  length : payload.length = 3 + r.code.length + if r.pwdType = .permanent then 5 else 10

/-- Refused with a `ValueError`, or laid out as documented. -/
def Unambiguous (r : Request) : Prop :=
  (∃ e, r.payload = .error e ∧ IsValueError e) ∨ ∃ payload, r.payload = .ok payload ∧ LaidOut r payload

/-! ## What is accepted -/

def Keypad (code : String) : Prop :=
  (4 ≤ code.length ∧ code.length ≤ 9) ∧ ∀ c ∈ code.toList, IsDigit c

/-- With the zero that an odd length gets, `int` takes every pair, as a byte. -/
def Packs (date : String) : Prop :=
  ∀ pair ∈ pairs (if date.length % 2 = 1 then "0" ++ date else date).toList,
    ∃ n, parseInt pair = .ok n ∧ 0 ≤ n ∧ n ≤ 255

/-- `YYMMDDHHmm`. -/
def TenDigits (date : String) : Prop := date.length = 10 ∧ ∀ c ∈ date.toList, IsDigit c

/-! ## The code -/

theorem checkPasscode_ok_iff (code : String) :
    checkPasscode code = .ok () ↔ (4 ≤ code.length ∧ code.length ≤ 9) ∧ isDigit code = true := by
  unfold checkPasscode
  split
  · rename_i h
    simp only [throw, throwThe, MonadExceptOf.throw, reduceCtorEq, false_iff]
    tauto
  · rename_i h
    simp only [pure, Except.pure, true_iff]
    tauto

theorem keypad_iff (code : String) :
    (checkPasscode code = .ok () ∧ ∃ bytes, encodeAscii code = .ok bytes) ↔ Keypad code := by
  rw [checkPasscode_ok_iff, Keypad, and_assoc]
  simp only [encodeAscii_ok_iff, exists_and_left, exists_eq, and_true]
  refine and_congr_right fun hlength => ?_
  have hne : code ≠ "" := by
    rintro rfl
    simp at hlength
  simp only [isDigit, ne_eq, hne, not_false_eq_true, decide_true, Bool.true_and, List.all_eq_true]
  constructor
  · rintro ⟨hdigit, hascii⟩ c hc
    have := hdigit c hc
    rwa [isDigit_iff c (hascii c hc), decide_eq_true_eq] at this
  · intro h
    have hascii : ∀ c ∈ code.toList, c.toNat < 128 := fun c hc => isDigit_lt c (h c hc)
    refine ⟨fun c hc => ?_, hascii⟩
    rw [isDigit_iff c (hascii c hc), decide_eq_true_eq]
    exact h c hc

/-! ## The windows -/

theorem pair_ok_iff (pair : String) :
    (∃ b, (do toByte (← pyInt pair) : Py UInt8) = .ok b) ↔ ∃ n, parseInt pair = .ok n ∧ 0 ≤ n ∧ n ≤ 255 := by
  unfold pyInt
  cases parseInt pair with
  | error text =>
    constructor
    · rintro ⟨b, h⟩
      cases h
    · rintro ⟨n, h, -⟩
      cases h
  | ok n =>
    show (∃ b, toByte n = .ok b) ↔ _
    simp only [Except.ok.injEq, exists_eq_left', toByte]
    split
    · rename_i h
      exact ⟨fun _ => h, fun _ => ⟨_, rfl⟩⟩
    · rename_i h
      exact ⟨fun ⟨_, hb⟩ => (nomatch hb), fun hn => absurd hn h⟩

theorem packs_iff (date : String) : Packs date ↔ ∃ bytes, decimalTimeBytes date = .ok bytes := by
  unfold decimalTimeBytes
  rw [Raises.exists_mapM_iff]
  simp only [pair_ok_iff]
  rfl

theorem packs_all_iff (dates : List String) :
    (∀ date ∈ dates, Packs date) ↔ ∃ packed, dates.mapM decimalTimeBytes = .ok packed := by
  simp only [packs_iff, Raises.exists_mapM_iff]

theorem exists_twoDigits (a b : Char) (ha : IsDigit a) (hb : IsDigit b) :
    ∃ n < 100, (twoDigits n).toList = [a, b] := by
  have ha' := (isDigit_bounds a).mp ha
  have hb' := (isDigit_bounds b).mp hb
  refine ⟨10 * (a.toNat - 48) + (b.toNat - 48), by omega, ?_⟩
  have htens : (10 * (a.toNat - 48) + (b.toNat - 48)) / 10 % 10 = a.toNat - 48 := by omega
  have hones : (10 * (a.toNat - 48) + (b.toNat - 48)) % 10 = b.toNat - 48 := by omega
  rw [twoDigits, String.toList_ofList, htens, hones, ← eq_digitChar a ha,
    ← eq_digitChar b hb]

theorem exists_flatMap (k : Nat) (cs : List Char) (hlength : cs.length = 2 * k) (h : ∀ c ∈ cs, IsDigit c) :
    ∃ ns : List Nat, ns.length = k ∧ (∀ n ∈ ns, n < 100) ∧ cs = ns.flatMap fun n => (twoDigits n).toList := by
  induction k generalizing cs with
  | zero =>
    obtain rfl := List.length_eq_zero_iff.mp hlength
    exact ⟨[], rfl, by simp, rfl⟩
  | succ k ih =>
    match cs, hlength with
    | a :: b :: cs, hlength =>
      simp only [List.length_cons] at hlength
      obtain ⟨ns, hns, hsmall, hspelt⟩ := ih cs (by omega) fun c hc => h c (by simp [hc])
      obtain ⟨n, hn, hpair⟩ := exists_twoDigits a b (h a (by simp)) (h b (by simp))
      refine ⟨n :: ns, by simp [hns], ?_, ?_⟩
      · exact List.forall_mem_cons.mpr ⟨hn, hsmall⟩
      · rw [List.flatMap_cons, hpair, ← hspelt]
        rfl

theorem fields_of_tenDigits (date : String) (h : TenDigits date) :
    ∃ fields, decimalTimeBytes date = .ok fields ∧ Fields date fields := by
  obtain ⟨hlength, hdigits⟩ := h
  obtain ⟨ns, hns, hsmall, hspelt⟩ := exists_flatMap 5 date.toList (by rw [String.length_toList, hlength]) hdigits
  have hbytes := decimalTimeBytes_twoDigits ns
  rw [← hspelt, String.ofList_toList] at hbytes
  have hback : ∀ n ∈ ns, (UInt8.ofNat (n % 100)).toNat = n := by
    intro n hn
    have := hsmall n hn
    rw [UInt8.toNat_ofNat']
    omega
  refine ⟨_, hbytes, ⟨by simp [hns], ?_, ?_⟩⟩
  · intro field hfield
    obtain ⟨n, hn, rfl⟩ := List.mem_map.mp hfield
    rw [hback n hn]
    exact hsmall n hn
  · rw [hspelt, List.flatMap_map]
    exact List.flatMap_congr fun n hn => by rw [hback n hn]

theorem tenDigits_of_fields (date : String) (fields : Bytes) (h : Fields date fields) : TenDigits date := by
  constructor
  · rw [← String.length_toList, h.spelt, ← List.flatMap_map UInt8.toNat fun n => (twoDigits n).toList,
      flatMap_length, List.length_map, h.five]
  · intro c hc
    rw [h.spelt] at hc
    obtain ⟨field, -, hc⟩ := List.mem_flatMap.mp hc
    rw [twoDigits, String.toList_ofList] at hc
    rcases List.mem_pair.mp hc with rfl | rfl
    · exact isDigit_digitChar _
    · exact isDigit_digitChar _

/-! ## The payload -/

/-- What is sent, and the bytes in front of the windows. -/
def front (r : Request) : Bytes :=
  [pwdOperateAdd, UInt8.ofInt r.pwdType.toInt, UInt8.ofNat r.code.length] ++
    bytes r.code.toList

theorem front_length (r : Request) : (front r).length = 3 + r.code.length := by
  simp [front, bytes, String.length_toList]
  omega

theorem windows_length (r : Request) : r.windows.length = if r.pwdType = .permanent then 1 else 2 := by
  unfold Request.windows
  split <;> rfl

theorem toByte_pwdType (pwdType : KeyboardPwdType) : toByte pwdType.toInt = .ok (UInt8.ofInt pwdType.toInt) := by
  cases pwdType <;> rfl

theorem toInt_permanent (pwdType : KeyboardPwdType) :
    pwdType.toInt = KeyboardPwdType.permanent.toInt ↔ pwdType = .permanent := by
  cases pwdType <;> decide

theorem payload_eq (r : Request) : r.payload = (do
    checkPasscode r.code
    let digits ← encodeAscii r.code
    let packed ← r.windows.mapM decimalTimeBytes
    return [pwdOperateAdd, UInt8.ofInt r.pwdType.toInt, UInt8.ofNat r.code.length] ++ digits ++
      packed.flatten) := by
  unfold Request.payload payloadPasscodeAdd Request.windows
  refine bind_congr fun _ => ?_
  rw [toByte_pwdType]
  show (encodeAscii r.code >>= fun digits => _) = _
  refine bind_congr fun digits => ?_
  cases hstart : decimalTimeBytes r.startDate with
  | error e => by_cases hpermanent : r.pwdType = .permanent <;> simp [hpermanent, hstart, bind, Except.bind]
  | ok start =>
    by_cases hpermanent : r.pwdType = .permanent
    · simp [hpermanent, hstart, bind, Except.bind, pure, Except.pure]
    · have htype : r.pwdType.toInt ≠ KeyboardPwdType.permanent.toInt := mt (toInt_permanent r.pwdType).mp hpermanent
      cases hstop : decimalTimeBytes r.endDate with
      | error e => simp [hpermanent, htype, hstart, hstop, bind, Except.bind]
      | ok stop => simp [hpermanent, htype, hstart, hstop, bind, Except.bind, pure, Except.pure]

theorem payload_ok_iff (r : Request) (payload : Bytes) : r.payload = .ok payload ↔
    Keypad r.code ∧ ∃ packed, r.windows.mapM decimalTimeBytes = .ok packed ∧
      payload = front r ++ packed.flatten := by
  rw [payload_eq, ← keypad_iff]
  cases hcheck : checkPasscode r.code with
  | error e => simp [bind, Except.bind]
  | ok _ =>
    cases hdigits : encodeAscii r.code with
    | error e => simp [bind, Except.bind]
    | ok digits =>
      obtain rfl := ((encodeAscii_ok_iff _ _).mp hdigits).2
      cases hpacked : r.windows.mapM decimalTimeBytes with
      | error e => simp [bind, Except.bind]
      | ok packed => simp [bind, Except.bind, pure, Except.pure, front, eq_comm]

theorem payload_raises (r : Request) : Raises IsValueError r.payload := by
  rw [payload_eq]
  simp [checkPasscode_raises, encodeAscii_raises]
  intro _ _ _ _
  exact Raises.mapM fun date _ => decimalTimeBytes_raises date

/-! ## Laid out -/

theorem mapM_fields {dates : List String} (h : ∀ date ∈ dates, TenDigits date) :
    ∃ packed, dates.mapM decimalTimeBytes = .ok packed ∧ List.Forall₂ Fields dates packed := by
  induction dates with
  | nil => exact ⟨[], rfl, .nil⟩
  | cons date dates ih =>
    obtain ⟨hdate, hdates⟩ := List.forall_mem_cons.mp h
    obtain ⟨fields, hfields, hspelt⟩ := fields_of_tenDigits date hdate
    obtain ⟨packed, hpacked, hall⟩ := ih hdates
    refine ⟨fields :: packed, ?_, .cons hspelt hall⟩
    rw [List.mapM_cons, hfields, hpacked]
    rfl

theorem forall₂_tenDigits {dates : List String} {packed : List Bytes} (h : List.Forall₂ Fields dates packed) :
    ∀ date ∈ dates, TenDigits date := by
  induction h with
  | nil => simp
  | cons hdate _ ih => exact List.forall_mem_cons.mpr ⟨tenDigits_of_fields _ _ hdate, ih⟩

theorem forall₂_flatten_length {dates : List String} {packed : List Bytes} (h : List.Forall₂ Fields dates packed) :
    packed.flatten.length = 5 * dates.length := by
  induction h with
  | nil => rfl
  | cons hdate _ ih =>
    rw [List.flatten_cons, List.length_append, hdate.five, ih, List.length_cons]
    omega

theorem laidOut_iff (r : Request) (payload : Bytes) (h : r.payload = .ok payload) :
    LaidOut r payload ↔ ∀ date ∈ r.windows, TenDigits date := by
  constructor
  · rintro ⟨-, ⟨fields, hfields, -⟩, -⟩
    exact forall₂_tenDigits hfields
  · intro hten
    obtain ⟨hkeypad, packed, hpacked, rfl⟩ := (payload_ok_iff r payload).mp h
    obtain ⟨packed', hpacked', hfields⟩ := mapM_fields hten
    obtain rfl := Except.ok.inj (hpacked.symm.trans hpacked')
    refine ⟨hkeypad.2, ⟨packed, hfields, rfl⟩, ?_⟩
    rw [List.length_append, front_length, forall₂_flatten_length hfields, windows_length]
    split <;> rfl

/-! ## Two requests -/

theorem dates_injective {dates dates' : List String} {packed packed' : List Bytes}
    (h : List.Forall₂ Fields dates packed) (h' : List.Forall₂ Fields dates' packed')
    (hlength : dates.length = dates'.length) (heq : packed.flatten = packed'.flatten) : dates = dates' := by
  induction h generalizing dates' packed' with
  | nil => exact (List.length_eq_zero_iff.mp hlength.symm).symm
  | cons hdate _ ih =>
    cases h' with
    | nil => cases hlength
    | cons hdate' hdates' =>
      rw [List.flatten_cons, List.flatten_cons] at heq
      obtain ⟨hfields, hrest⟩ := List.append_inj heq (hdate.five.trans hdate'.five.symm)
      have hhead := hdate.spelt.trans (hfields ▸ hdate'.spelt.symm)
      rw [String.toList_inj.mp hhead, ih hdates' (Nat.succ.inj hlength) hrest]

theorem pwdType_injective (t t' : KeyboardPwdType) (h : UInt8.ofInt t.toInt = UInt8.ofInt t'.toInt) : t = t' := by
  revert h
  cases t <;> cases t' <;> decide

theorem payload_injective (r r' : Request) (payload : Bytes) (h : r.payload = .ok payload)
    (h' : r'.payload = .ok payload) (hten : ∀ date ∈ r.windows, TenDigits date)
    (hten' : ∀ date ∈ r'.windows, TenDigits date) :
    r.pwdType = r'.pwdType ∧ r.code = r'.code ∧ r.windows = r'.windows := by
  obtain ⟨hdigits, ⟨packed, hpacked, hlayout⟩, -⟩ := (laidOut_iff r payload h).mpr hten
  obtain ⟨hdigits', ⟨packed', hpacked', hlayout'⟩, -⟩ := (laidOut_iff r' payload h').mpr hten'
  obtain ⟨⟨hlong, hshort⟩, -⟩ := ((payload_ok_iff r payload).mp h).1
  obtain ⟨⟨hlong', hshort'⟩, -⟩ := ((payload_ok_iff r' payload).mp h').1
  rw [hlayout, List.append_assoc, List.append_assoc] at hlayout'
  obtain ⟨hfront, hrest⟩ := List.append_inj hlayout' rfl
  simp only [List.cons.injEq, true_and, and_true] at hfront
  have htype := pwdType_injective _ _ hfront.1
  have hcode : r.code.length = r'.code.length := by
    have := congrArg UInt8.toNat hfront.2
    simp only [UInt8.toNat_ofNat'] at this
    omega
  obtain ⟨hcodes, hdates⟩ := List.append_inj hrest (by simpa [bytes, String.length_toList] using hcode)
  refine ⟨htype, String.toList_inj.mp (bytes_injective (fun c hc => isDigit_lt c (hdigits c hc))
    (fun c hc => isDigit_lt c (hdigits' c hc)) hcodes), ?_⟩
  refine dates_injective hpacked hpacked' ?_ hdates
  rw [windows_length, windows_length, htype]

/-- **Accepted passcode requests.** A request is refused or laid out as documented exactly if it is
one that is refused, or each window that is sent has ten digits. Of the latter no two are alike. -/
theorem unambiguous_iff (r : Request) :
    (Unambiguous r ↔ ¬ Keypad r.code ∨ (∃ date ∈ r.windows, ¬ Packs date) ∨ ∀ date ∈ r.windows, TenDigits date) ∧
    ∀ (r' : Request) payload, r.payload = .ok payload → r'.payload = .ok payload →
      (∀ date ∈ r.windows, TenDigits date) → (∀ date ∈ r'.windows, TenDigits date) →
      r.pwdType = r'.pwdType ∧ r.code = r'.code ∧ r.startDate = r'.startDate ∧
        (r.pwdType ≠ .permanent → r.endDate = r'.endDate) := by
  constructor
  · cases hpayload : r.payload with
    | error e =>
      have hrefused : ¬ Keypad r.code ∨ ∃ date ∈ r.windows, ¬ Packs date := by
        by_contra hcontra
        obtain ⟨hkeypad, hpacks⟩ := not_or.mp hcontra
        obtain ⟨packed, hpacked⟩ := (packs_all_iff r.windows).mp fun date hdate =>
          not_not.mp fun hnot => hpacks ⟨date, hdate, hnot⟩
        rw [(payload_ok_iff r _).mpr ⟨not_not.mp hkeypad, packed, hpacked, rfl⟩] at hpayload
        cases hpayload
      refine ⟨fun _ => hrefused.imp_right .inl, fun _ => .inl ⟨e, hpayload, payload_raises r e hpayload⟩⟩
    | ok payload =>
      obtain ⟨hkeypad, packed, hpacked, -⟩ := (payload_ok_iff r payload).mp hpayload
      have hpacks : ¬ ∃ date ∈ r.windows, ¬ Packs date := by
        rintro ⟨date, hdate, hnot⟩
        exact hnot ((packs_all_iff r.windows).mpr ⟨packed, hpacked⟩ date hdate)
      rw [← laidOut_iff r payload hpayload]
      simp [Unambiguous, hpayload, hkeypad, hpacks]
  · intro r' payload h h' hten hten'
    obtain ⟨htype, hcode, hwindows⟩ := payload_injective r r' payload h h' hten hten'
    unfold Request.windows at hwindows
    rw [← htype] at hwindows
    refine ⟨htype, hcode, ?_⟩
    split at hwindows
    · rename_i hpermanent
      exact ⟨(List.cons.inj hwindows).1, fun hne => absurd hpermanent hne⟩
    · simp only [List.cons.injEq, and_true] at hwindows
      exact ⟨hwindows.1, fun _ => hwindows.2⟩

/-! ## Windows that are too short -/

def shortWindow : Request := ⟨.permanent, "1234", "", "9912311400"⟩

def splitEarly : Request := ⟨.period, "1234", "00013114", "009912311400"⟩

def splitLate : Request := ⟨.period, "1234", "0001311400", "9912311400"⟩

def splitPayload : Bytes := [2, 3, 4, 0x31, 0x32, 0x33, 0x34, 0, 1, 31, 14, 0, 99, 12, 31, 14, 0]

/-- No start is sent, and the bytes of a start belong to the end. -/
theorem windows_shift :
    (shortWindow.payload = .ok [2, 1, 4, 0x31, 0x32, 0x33, 0x34] ∧ ¬ Unambiguous shortWindow) ∧
    splitEarly.payload = .ok splitPayload ∧ splitLate.payload = .ok splitPayload ∧
      splitEarly.startDate ≠ splitLate.startDate := by
  have hpayload : shortWindow.payload = .ok [2, 1, 4, 0x31, 0x32, 0x33, 0x34] := by
    simp only [payload_eq]
    decide +kernel
  refine ⟨⟨hpayload, ?_⟩, ?_, ?_, by decide⟩
  · rintro (⟨e, h, -⟩ | ⟨payload, h, hlaidOut⟩)
    · rw [hpayload] at h
      cases h
    · have := ((laidOut_iff _ _ h).mp hlaidOut "" (by decide)).1
      cases this
  · simp only [payload_eq]
    decide +kernel
  · simp only [payload_eq]
    decide +kernel

end TtlockBle.PasscodeWindows
