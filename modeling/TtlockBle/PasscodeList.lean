import TtlockBle.Ascii
import TtlockBle.Parsers
import TtlockBle.Validity

/-!
# Items of the passcode list

Every length-prefixed field of an item moves the ones behind it. The trailer of a cyclic passcode has
one byte for the day and the duration.
-/

open TtlockBle.Lib

namespace TtlockBle.PasscodeList

open Ascii Parsers Validity

/-! ## The encoding -/

/-- A trailer, its type, and what it says. -/
inductive EncodesValidity :
    KeyboardPwdType → Bytes → Option DateTime → Option DateTime → Option CyclicSchedule → Prop
  | permanent {raw : Bytes} {start : DateTime} (h : Encodes raw start) :
    EncodesValidity .permanent raw (some start) none none
  | period {startRaw stopRaw : Bytes} {start stop : DateTime} (hstart : Encodes startRaw start)
    (hstop : Encodes stopRaw stop) : EncodesValidity .period (startRaw ++ stopRaw) (some start) (some stop) none
  | circle {s₁ s₂ s₃ hour minute unused : UInt8} {base d : Nat} {name : String}
    (hbase : (base, name) ∈ cyclicBasesDescending) (hd : 1 ≤ d ∧ d ≤ 24) :
    EncodesValidity .circle [s₁, s₂, s₃, hour, minute, unused, UInt8.ofNat (base + d - 1)] none none
      (some ⟨name, hour, minute, d⟩)

/-- The item of one response, with the bytes that nothing depends on. -/
structure Item where
  header : UInt8 × UInt8
  nextSequence : Nat
  nextSequence_lt : nextSequence < 65536
  itemLength : UInt8
  entry : PasscodeEntry
  newPwd : Bytes
  newPwd_ascii : encodeAscii entry.passcode = .ok newPwd
  newPwd_le : newPwd.length ≤ 255
  pwd : Bytes
  pwd_le : pwd.length ≤ 255
  trailer : Bytes
  validity : EncodesValidity entry.pwdType trailer entry.startDate entry.endDate entry.cyclicSchedule

namespace Item

def front (item : Item) : Bytes :=
  [item.header.1, item.header.2] ++ toBytesBig 2 item.nextSequence ++
    [item.itemLength, UInt8.ofInt item.entry.pwdType.toInt, UInt8.ofNat item.newPwd.length]

def data (item : Item) : Bytes :=
  item.front ++ item.newPwd ++ UInt8.ofNat item.pwd.length :: (item.pwd ++ item.trailer)

end Item

/-! ## Where the fields are -/

def newPwdLength (data : Bytes) : Nat := (data.getD 6 0).toNat

def pwdLength (data : Bytes) : Nat := (data.getD (7 + newPwdLength data) 0).toNat

def trailerOffset (data : Bytes) : Nat := 8 + newPwdLength data + pwdLength data

/-- The fields behind the checks of the lengths. -/
def decodeItem (data : Bytes) (pwdType : KeyboardPwdType) (trailerLength : Nat) :
    Py (Option PasscodeEntry × Nat) := do
  let (startDate, endDate, cyclicSchedule) ←
    decodeValidity pwdType (slice data (trailerOffset data) (trailerOffset data + trailerLength))
  let passcode ← decodePasscode (slice data 7 (7 + newPwdLength data))
  return (some ⟨passcode, pwdType, startDate, endDate, cyclicSchedule⟩, fromBytesBig (slice data 2 4))

theorem byteAt_drop (data : Bytes) (n i : Nat) (h : n + i < data.length) :
    byteAt (data.drop n) i = .ok (data.getD (n + i) 0) := by
  rw [byteAt_of_lt _ i (by rw [List.length_drop]; omega), List.getElem_drop, List.getD_eq_getElem _ _ h]

theorem trailerLength_pos (value : UInt8) (pwdType : KeyboardPwdType) (n : Nat)
    (h : KeyboardPwdType.trailerLength value = some (pwdType, n)) : 0 < n := by
  unfold KeyboardPwdType.trailerLength at h
  split at h <;> simp_all <;> omega

theorem parsePasscodeListResponse_failed (echo status : UInt8) (data : Bytes) (h : status ≠ responseSuccess) :
    parsePasscodeListResponse (echo :: status :: data) = .error (runtimeError
      s!"passcode list FAILED: status={hexNumber status.toNat} data_length={data.length}") := by
  unfold parsePasscodeListResponse
  rw [parseResponseStatus_cons]
  simp only [bind, Except.bind, if_pos h]
  rfl

theorem parsePasscodeListResponse_short (echo : UInt8) (data : Bytes) (h : data.length < 8) :
    parsePasscodeListResponse (echo :: responseSuccess :: data) =
      .ok (none, if data.length < 4 then 0 else fromBytesBig (slice data 2 4)) := by
  have hitem : (data.drop 4).length < 4 := by
    rw [List.length_drop]
    omega
  unfold parsePasscodeListResponse
  rw [parseResponseStatus_cons]
  simp only [bind, Except.bind, ne_eq, not_true_eq_false, if_false, if_pos hitem]
  split <;> rfl

theorem parsePasscodeListResponse_item (echo : UInt8) (data : Bytes) (hlong : 8 ≤ data.length) :
    parsePasscodeListResponse (echo :: responseSuccess :: data) =
      (KeyboardPwdType.trailerLength (data.getD 5 0)).elim (.ok (none, fromBytesBig (slice data 2 4)))
        fun found =>
          if data.length ≤ 7 + newPwdLength data then
            .error (valueError "passcode list payload too short for its passcode")
          else if data.length < trailerOffset data + found.2 then
            .error (valueError "passcode list payload too short for its trailer")
          else decodeItem data found.1 found.2 := by
  have hheader : ¬ data.length < 4 := by omega
  have hitem : ¬ (data.drop 4).length < 4 := by
    rw [List.length_drop]
    omega
  unfold parsePasscodeListResponse
  rw [parseResponseStatus_cons]
  simp only [bind, Except.bind, ne_eq, not_true_eq_false, if_false, if_neg hheader, if_neg hitem,
    byteAt_drop data 4 1 (by omega), byteAt_drop data 4 2 (by omega), Nat.reduceAdd]
  cases hfound : KeyboardPwdType.trailerLength (data.getD 5 0) with
  | none => rfl
  | some found =>
    obtain ⟨pwdType, n⟩ := found
    have hpos := trailerLength_pos _ pwdType n hfound
    have hoffset : 3 + newPwdLength data ≥ (data.drop 4).length ↔ data.length ≤ 7 + newPwdLength data := by
      rw [List.length_drop]
      omega
    show (if 3 + newPwdLength data ≥ (data.drop 4).length then _ else _) = if _ then _ else _
    rw [if_congr hoffset rfl rfl]
    by_cases hpasscode : data.length ≤ 7 + newPwdLength data
    · rw [if_pos hpasscode, if_pos hpasscode]
      rfl
    have hpwd : byteAt (data.drop 4) (3 + newPwdLength data) = .ok (data.getD (7 + newPwdLength data) 0) := by
      rw [byteAt_drop data 4 _ (by omega), ← Nat.add_assoc]
    have htrailer : slice (data.drop 4) (3 + newPwdLength data + 1 + pwdLength data)
        (3 + newPwdLength data + 1 + pwdLength data + n) =
        slice data (trailerOffset data) (trailerOffset data + n) := by
      rw [slice_drop]
      congr 1 <;> (unfold trailerOffset; omega)
    have hnewPwd : slice (data.drop 4) 3 (3 + newPwdLength data) = slice data 7 (7 + newPwdLength data) := by
      rw [slice_drop, ← Nat.add_assoc]
    have hshort : (slice data (trailerOffset data) (trailerOffset data + n)).length < n ↔
        data.length < trailerOffset data + n := by
      rw [slice_length]
      omega
    rw [if_neg hpasscode, if_neg hpasscode, show (data.getD 6 0).toNat = newPwdLength data from rfl, hpwd]
    simp only [show (data.getD (7 + newPwdLength data) 0).toNat = pwdLength data from rfl, htrailer, hnewPwd]
    rw [if_congr hshort rfl rfl]
    split <;> rfl

/-! ## Decoding what was encoded -/

theorem trailerLength_eq {pwdType : KeyboardPwdType} {trailer : Bytes} {start stop : Option DateTime}
    {schedule : Option CyclicSchedule} (h : EncodesValidity pwdType trailer start stop schedule) :
    KeyboardPwdType.trailerLength (UInt8.ofInt pwdType.toInt) = some (pwdType, trailer.length) := by
  cases h with
  | permanent h =>
    obtain ⟨_, _, _, _, _, rfl, -⟩ := h
    rfl
  | period hstart hstop =>
    obtain ⟨_, _, _, _, _, rfl, -⟩ := hstart
    obtain ⟨_, _, _, _, _, rfl, -⟩ := hstop
    rfl
  | circle => rfl

theorem bases_apart : cyclicBasesDescending.Pairwise fun a b => b.1 + 24 ≤ a.1 := by decide

/-- In a table with gaps of 24, a base is the first one that fits any of the 24 values from it on. -/
theorem find_base (table : List (Nat × String)) (hapart : table.Pairwise fun a b => b.1 + 24 ≤ a.1)
    (base : Nat × String) (hbase : base ∈ table) (v : Nat) (hv : base.1 ≤ v ∧ v < base.1 + 24) :
    (table.find? fun b => b.1 ≤ v) = some base := by
  induction table with
  | nil => cases hbase
  | cons first table ih =>
    rw [List.pairwise_cons] at hapart
    rcases List.mem_cons.mp hbase with rfl | hmem
    · rw [List.find?_cons_of_pos (by simpa using hv.1)]
    · have hgap := hapart.1 base hmem
      rw [List.find?_cons_of_neg (by simp; omega)]
      exact ih hapart.2 hmem

theorem encodes_length {raw : Bytes} {date : DateTime} (h : Encodes raw date) : raw.length = 5 := by
  obtain ⟨_, _, _, _, _, rfl, -⟩ := h
  rfl

theorem decodeDateOrRaise_eq {raw : Bytes} {date : DateTime} (h : Encodes raw date) (label : String) :
    decodeDateOrRaise raw label = .ok date := by
  unfold decodeDateOrRaise
  rw [(decodeDate5_eq_some raw date (encodes_length h)).mpr h]

theorem decodeValidity_eq {pwdType : KeyboardPwdType} {trailer : Bytes} {start stop : Option DateTime}
    {schedule : Option CyclicSchedule} (h : EncodesValidity pwdType trailer start stop schedule) :
    decodeValidity pwdType trailer = .ok (start, stop, schedule) := by
  cases h with
  | permanent h =>
    have hslice : slice trailer 0 5 = trailer := List.take_of_length_le (encodes_length h).le
    simp only [decodeValidity, hslice, decodeDateOrRaise_eq h]
    rfl
  | @period startRaw stopRaw _ _ hstart hstop =>
    have hfront : slice (startRaw ++ stopRaw) 0 5 = startRaw := List.take_left' (encodes_length hstart)
    have hback : slice (startRaw ++ stopRaw) 5 10 = stopRaw := by
      have := slice_middle startRaw stopRaw []
      rwa [encodes_length hstart, encodes_length hstop, List.append_nil] at this
    simp only [decodeValidity, hfront, hback, decodeDateOrRaise_eq hstart, decodeDateOrRaise_eq hstop]
    rfl
  | @circle s₁ s₂ s₃ hour minute unused base d name hbase hd =>
    have hbase_le : base ≤ 232 := by
      have : ∀ b ∈ cyclicBasesDescending, b.1 ≤ 232 := by decide
      exact this _ hbase
    have hlow : (UInt8.ofNat (base + d - 1)).toNat = base + d - 1 := UInt8.toNat_ofNat_of_lt' (show _ < 256 by omega)
    have hfind := find_base _ bases_apart _ hbase (base + d - 1)
      ⟨show base ≤ base + d - 1 by omega, show base + d - 1 < base + 24 by omega⟩
    have hduration : base + d - 1 - base + 1 = d := by omega
    simp only [decodeValidity, decodeCyclicSchedule, byteAt, List.getElem?_cons_succ, List.getElem?_cons_zero, bind,
      Except.bind, hlow, hfind, hduration]
    rfl

section Layout

variable (item : Item) (rest : Bytes)

theorem front_length : item.front.length = 7 := by
  unfold Item.front
  simp

theorem data_append : item.data ++ rest =
    item.front ++ (item.newPwd ++ UInt8.ofNat item.pwd.length :: (item.pwd ++ item.trailer ++ rest)) := by
  simp [Item.data]

theorem data_type : (item.data ++ rest).getD 5 0 = UInt8.ofInt item.entry.pwdType.toInt := by
  rw [data_append, List.getD_append _ _ _ _ (by rw [front_length]; omega)]
  rfl

theorem data_sequence : slice (item.data ++ rest) 2 4 = toBytesBig 2 item.nextSequence := by
  rw [data_append]
  rfl

theorem data_newPwdLength : newPwdLength (item.data ++ rest) = item.newPwd.length := by
  have hle := item.newPwd_le
  unfold newPwdLength
  rw [data_append, List.getD_append _ _ _ _ (by rw [front_length]; omega)]
  exact UInt8.toNat_ofNat_of_lt' (show _ < 256 by omega)

theorem data_newPwd : slice (item.data ++ rest) 7 (7 + item.newPwd.length) = item.newPwd := by
  rw [data_append, ← List.append_assoc]
  have := slice_middle item.front item.newPwd (UInt8.ofNat item.pwd.length :: (item.pwd ++ item.trailer ++ rest))
  rwa [front_length] at this

theorem data_pwdLength : pwdLength (item.data ++ rest) = item.pwd.length := by
  have hle := item.pwd_le
  unfold pwdLength
  rw [data_newPwdLength, data_append, List.getD_append_right _ _ _ _ (by rw [front_length]; omega),
    List.getD_append_right _ _ _ _ (by rw [front_length]; omega)]
  have hzero : 7 + item.newPwd.length - item.front.length - item.newPwd.length = 0 := by
    rw [front_length]
    omega
  rw [hzero]
  exact UInt8.toNat_ofNat_of_lt' (show _ < 256 by omega)

theorem data_trailerOffset : trailerOffset (item.data ++ rest) = 8 + item.newPwd.length + item.pwd.length := by
  unfold trailerOffset
  rw [data_newPwdLength, data_pwdLength]

theorem data_trailer : slice (item.data ++ rest) (8 + item.newPwd.length + item.pwd.length)
    (8 + item.newPwd.length + item.pwd.length + item.trailer.length) = item.trailer := by
  have := slice_middle (item.front ++ item.newPwd ++ UInt8.ofNat item.pwd.length :: item.pwd) item.trailer rest
  have hbefore : (item.front ++ item.newPwd ++ UInt8.ofNat item.pwd.length :: item.pwd).length =
      8 + item.newPwd.length + item.pwd.length := by
    rw [List.length_append, List.length_append, List.length_cons, front_length]
    omega
  rw [hbefore] at this
  simpa [Item.data] using this

theorem data_length : item.data.length = 8 + item.newPwd.length + item.pwd.length + item.trailer.length := by
  unfold Item.data
  rw [List.length_append, List.length_append, List.length_cons, List.length_append, front_length]
  omega

end Layout

theorem parse_item (echo : UInt8) (item : Item) (rest : Bytes) :
    parsePasscodeListResponse (echo :: responseSuccess :: (item.data ++ rest)) =
      .ok (some item.entry, item.nextSequence) := by
  have hlength := data_length item
  have hlong : 8 ≤ (item.data ++ rest).length := by
    rw [List.length_append]
    omega
  rw [parsePasscodeListResponse_item echo _ hlong, data_type, trailerLength_eq item.validity, Option.elim_some]
  simp only [data_newPwdLength, data_trailerOffset, List.length_append]
  rw [if_neg (by omega), if_neg (by omega)]
  unfold decodeItem
  rw [data_newPwdLength, data_trailerOffset, data_newPwd, data_trailer, data_sequence,
    fromBytesBig_toBytesBig 2 _ item.nextSequence_lt, decodeValidity_eq item.validity, decodePasscode,
    decodeAscii_encodeAscii _ _ item.newPwd_ascii]
  rfl

theorem getD_take (data : Bytes) (cut i : Nat) (h : i < cut) : (data.take cut).getD i 0 = data.getD i 0 := by
  rw [List.getD_eq_getElem?_getD, List.getElem?_take_of_lt h, ← List.getD_eq_getElem?_getD]

theorem parse_cut (echo : UInt8) (item : Item) (cut : Nat) (hlong : 8 ≤ cut) (hcut : cut < item.data.length) :
    ∃ text, parsePasscodeListResponse (echo :: responseSuccess :: item.data.take cut) = .error (valueError text) := by
  have hlength := data_length item
  have hcutLength : (item.data.take cut).length = cut := by
    rw [List.length_take]
    omega
  have htype := data_type item []
  have hnewPwd := data_newPwdLength item []
  have hoffset := data_trailerOffset item []
  rw [List.append_nil] at htype hnewPwd hoffset
  have hsame : newPwdLength (item.data.take cut) = item.newPwd.length := by
    unfold newPwdLength
    rw [getD_take _ _ _ (by omega)]
    exact hnewPwd
  rw [parsePasscodeListResponse_item echo _ (by omega), getD_take _ _ _ (by omega), htype,
    trailerLength_eq item.validity, Option.elim_some]
  simp only [hsame, hcutLength]
  by_cases hpasscode : cut ≤ 7 + item.newPwd.length
  · exact ⟨_, if_pos hpasscode⟩
  · have hstop : trailerOffset (item.data.take cut) = trailerOffset item.data := by
      unfold trailerOffset pwdLength
      rw [hsame, hnewPwd, getD_take _ _ _ (by omega)]
    rw [if_neg hpasscode, hstop, hoffset]
    exact ⟨_, if_pos (by omega)⟩

/-- **An encoded passcode is read back**, whatever follows it, and none is read where the end of its
trailer is missing. -/
theorem parse_encoded (echo : UInt8) (item : Item) :
    (∀ rest, parsePasscodeListResponse (echo :: responseSuccess :: (item.data ++ rest)) =
      .ok (some item.entry, item.nextSequence)) ∧
    ∀ cut, 8 ≤ cut → cut < item.data.length →
      ∃ text, parsePasscodeListResponse (echo :: responseSuccess :: item.data.take cut) = .error (valueError text) :=
  ⟨parse_item echo item, parse_cut echo item⟩

/-- `24680` for 24 hours from Saturday 9:30 on, and the last byte is 255. -/
def weekendItem : Item where
  header := (0, 0)
  nextSequence := 7
  nextSequence_lt := by decide
  itemLength := 20
  entry := ⟨"24680", .circle, none, none, some ⟨"Weekend", 9, 30, 24⟩⟩
  newPwd := [50, 52, 54, 56, 48]
  newPwd_ascii := rfl
  newPwd_le := by decide
  pwd := [49, 49]
  pwd_le := by decide
  trailer := [0, 1, 1, 9, 30, 3, 255]
  validity := @EncodesValidity.circle 0 1 1 9 30 3 232 24 "Weekend" (by decide) (by decide)

theorem parse_encoded_weekend :
    (∀ rest, parsePasscodeListResponse (0x07 :: responseSuccess :: (weekendItem.data ++ rest)) =
      .ok (some weekendItem.entry, weekendItem.nextSequence)) ∧
    ∀ cut, 8 ≤ cut → cut < weekendItem.data.length →
      ∃ text, parsePasscodeListResponse (0x07 :: responseSuccess :: weekendItem.data.take cut) =
        .error (valueError text) :=
  parse_encoded 0x07 weekendItem

end TtlockBle.PasscodeList
