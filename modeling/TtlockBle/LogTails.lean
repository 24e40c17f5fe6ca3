import Mathlib.Data.List.Infix
import TtlockBle.Parsers

/-!
# Truncated record tails

A tail that is cut off gives a subset of its fields, each unchanged. The passcode pair is the
exception: its second passcode is taken without a look at its length.
-/

open TtlockBle.Lib

namespace TtlockBle.LogTails

/-- The tail fields of a record. A type without a decoder has none. -/
def recordTail (recordType : UInt8) (payload : Bytes) : Py RecordTail :=
  match tailDecoder recordType with
  | some decoder => decoder payload
  | none => pure {}

theorem decodeLogRecord_eq (recordType : UInt8) (operateDate : Option DateTime) (battery : UInt8)
    (sequence : Int) (data : Bytes) (idx recEnd : Nat) :
    decodeLogRecord recordType operateDate battery sequence data idx recEnd = do
      let tail ← recordTail recordType (slice data idx recEnd)
      return ⟨sequence, recordType, operateDate, battery, tail⟩ := by
  unfold decodeLogRecord recordTail
  cases tailDecoder recordType <;> rfl

theorem recordTail_total (recordType : UInt8) (payload : Bytes) :
    Parsers.Total (recordTail recordType payload) := by
  unfold recordTail
  split
  · rename_i decoder hdecoder
    exact Parsers.tail_total recordType decoder hdecoder payload
  · simp

/-! ## Fewer fields -/

def Kept {α : Type} (x y : Option α) : Prop := x = none ∨ x = y

@[simp]
theorem kept_none {α : Type} (y : Option α) : Kept none y := .inl rfl

@[simp]
theorem kept_self {α : Type} (x : Option α) : Kept x x := .inr rfl

/-- Each field of the first tail is missing or is that of the second. -/
structure Within (cut whole : RecordTail) : Prop where
  uid : Kept cut.uid whole.uid
  recordId : Kept cut.recordId whole.recordId
  password : Kept cut.password whole.password
  newPassword : Kept cut.newPassword whole.newPassword
  deleteDate : Kept cut.deleteDate whole.deleteDate
  keyId : Kept cut.keyId whole.keyId
  accessoryBattery : Kept cut.accessoryBattery whole.accessoryBattery
  startDate : Kept cut.startDate whole.startDate
  endDate : Kept cut.endDate whole.endDate

theorem within_empty (whole : RecordTail) : Within {} whole := by
  constructor <;> exact kept_none _

theorem within_self (whole : RecordTail) : Within whole whole := by
  constructor <;> exact kept_self _

/-- Cut off or whole, the decoder raises nothing, and what it finds in the cut tail it finds in the
whole one. -/
def Survives (decoder : Bytes → Py RecordTail) (cut whole : Bytes) : Prop :=
  ∃ a b, decoder cut = .ok a ∧ decoder whole = .ok b ∧ Within a b

/-! ## Tails of a fixed shape -/

theorem survives_of_read {decoder : Bytes → Py RecordTail} (width : Nat) (read : Bytes → RecordTail)
    (hdecoder : ∀ payload, decoder payload = if payload.length < width then .ok {} else .ok (read payload))
    (hread : ∀ payload rest, width ≤ payload.length → Within (read payload) (read (payload ++ rest)))
    {cut whole : Bytes} (h : cut <+: whole) : Survives decoder cut whole := by
  obtain ⟨rest, rfl⟩ := h
  unfold Survives
  rw [hdecoder, hdecoder]
  rcases Nat.lt_or_ge cut.length width with hlt | hge
  · rw [if_pos hlt]
    split
    · exact ⟨_, _, rfl, rfl, within_empty _⟩
    · exact ⟨_, _, rfl, rfl, within_empty _⟩
  · rw [if_neg (by omega), if_neg (by rw [List.length_append]; omega)]
    exact ⟨_, _, rfl, rfl, hread cut rest hge⟩

theorem survives_of_head {decoder : Bytes → Py RecordTail} (width : Nat) (read : Bytes → RecordTail)
    (hdecoder : ∀ payload, decoder payload =
      if payload.length < width then .ok {} else .ok (read (payload.take width)))
    {cut whole : Bytes} (h : cut <+: whole) : Survives decoder cut whole := by
  apply survives_of_read width (fun payload => read (payload.take width)) hdecoder _ h
  intro payload rest hlen
  rw [List.take_append_of_le_length hlen]
  exact within_self _

theorem kept_getElem? (payload rest : Bytes) (i : Nat) : Kept payload[i]? (payload ++ rest)[i]? := by
  rcases Nat.lt_or_ge i payload.length with hlt | hge
  · rw [List.getElem?_append_left hlt]
    exact kept_self _
  · rw [List.getElem?_eq_none hge]
    exact kept_none _

theorem byteAt_some (payload : Bytes) (i : Nat) (h : i < payload.length) :
    (some <$> byteAt payload i : Py (Option UInt8)) = .ok payload[i]? := by
  rw [Parsers.byteAt_of_lt _ _ h, List.getElem?_eq_getElem h]
  rfl

theorem optionalByte_eq (payload : Bytes) (i : Nat) : optionalByte payload i = .ok payload[i]? := by
  unfold optionalByte
  split
  · rename_i h
    exact byteAt_some payload i h
  · rw [List.getElem?_eq_none (by omega)]
    rfl

section FixedShape

variable {cut whole : Bytes} (h : cut <+: whole)
include h

theorem decodeAppUidRecordId_survives : Survives decodeAppUidRecordId cut whole := by
  apply survives_of_read 8 _ (fun _ => by unfold decodeAppUidRecordId; rfl) _ h
  intro payload rest hlen
  rw [List.take_append_of_le_length (by omega), slice_append _ _ _ _ hlen]
  exact within_self _

theorem decodeSixByteId_survives : Survives decodeSixByteId cut whole := by
  apply survives_of_head 6 (fun head => { password := some (decimalId head) }) _ h
  intro payload
  unfold decodeSixByteId
  rfl

theorem decodeShortId_survives : Survives decodeShortId cut whole := by
  apply survives_of_head 2 (fun head => { password := some (decimalId head) }) _ h
  intro payload
  unfold decodeShortId
  rfl

theorem decodeMacOnly_survives : Survives decodeMacOnly cut whole := by
  apply survives_of_head 6 (fun head => { password := some (decodeMac6 head) }) _ h
  intro payload
  unfold decodeMacOnly
  rfl

theorem decodeRemoteControlKey_survives : Survives decodeRemoteControlKey cut whole := by
  apply survives_of_read 9 (fun payload =>
    { uid := some (fromBytesBig (payload.take 4)), recordId := some (fromBytesBig (slice payload 4 8)),
      keyId := payload[8]? }) _ _ h
  · intro payload
    unfold decodeRemoteControlKey
    split
    · rfl
    · rw [Parsers.byteAt_of_lt _ _ (by omega), List.getElem?_eq_getElem (by omega)]
      rfl
  · intro payload rest hlen
    rw [List.take_append_of_le_length (by omega), slice_append _ _ _ _ (by omega),
      List.getElem?_append_left hlen]
    exact within_self _

theorem decodeAccessoryBattery_survives : Survives decodeAccessoryBattery cut whole := by
  apply survives_of_read 1 (fun payload => { accessoryBattery := payload[0]? }) _ _ h
  · rintro (_ | ⟨b, rest⟩)
    · rfl
    · rfl
  · intro payload rest hlen
    rw [List.getElem?_append_left hlen]
    exact within_self _

theorem decodeKeyFob_survives : Survives decodeKeyFob cut whole := by
  apply survives_of_read 6 (fun payload =>
    { password := some (decodeMac6 (payload.take 6)), keyId := payload[6]?,
      accessoryBattery := payload[7]? }) _ _ h
  · intro payload
    unfold decodeKeyFob
    rw [optionalByte_eq, optionalByte_eq]
    rfl
  · intro payload rest hlen
    rw [List.take_append_of_le_length hlen]
    constructor <;> simp [kept_getElem?]

theorem decodeWirelessKeypad_survives : Survives decodeWirelessKeypad cut whole := by
  apply survives_of_read 6 (fun payload =>
    { password := some (decodeMac6 (payload.take 6)), accessoryBattery := payload[6]? }) _ _ h
  · intro payload
    unfold decodeWirelessKeypad
    rw [optionalByte_eq]
    rfl
  · intro payload rest hlen
    rw [List.take_append_of_le_length hlen]
    constructor <;> simp [kept_getElem?]

end FixedShape

/-! ## Length-prefixed texts -/

/-- The text that a length byte announces, if all of it is there. -/
def wholeText : Bytes → Option String
  | [] => none
  | len :: rest => if rest.length < len.toNat then none else some (decodeAsciiReplace (rest.take len.toNat))

/-- The text that a length byte announces, or as much of it as there is. -/
def anyText : Bytes → Option String
  | [] => none
  | len :: rest => some (decodeAsciiReplace (rest.take len.toNat))

/-- What follows the text that a length byte announces. -/
def afterText : Bytes → Bytes
  | [] => []
  | len :: rest => rest.drop len.toNat

theorem slice_cons_text (len : UInt8) (rest : Bytes) :
    slice (len :: rest) 1 (1 + len.toNat) = rest.take len.toNat := by
  rw [slice, Nat.add_comm 1, List.take_succ_cons, List.drop_succ_cons, List.drop_zero]

theorem decodePwdPair_eq (payload : Bytes) :
    ∃ consumed, decodePwdPair payload = .ok (wholeText payload, anyText (afterText payload), consumed) := by
  unfold decodePwdPair
  rcases payload with _ | ⟨len, rest⟩
  · exact ⟨0, rfl⟩
  unfold wholeText afterText
  rw [if_neg (List.cons_ne_nil _ _), Parsers.byteAt_of_lt _ _ (by simp)]
  simp only [List.getElem_cons_zero, List.length_cons, Bind.bind, Except.bind]
  rw [slice_cons_text]
  rcases Nat.lt_trichotomy rest.length len.toNat with hlt | heq | hgt
  · rw [if_pos (show 1 + len.toNat > rest.length + 1 by omega), if_pos hlt,
      List.drop_eq_nil_of_le (Nat.le_of_lt hlt)]
    exact ⟨0, rfl⟩
  · rw [if_neg (show ¬ 1 + len.toNat > rest.length + 1 by omega),
      if_pos (show 1 + len.toNat ≥ rest.length + 1 by omega), if_neg (show ¬ rest.length < len.toNat by omega),
      List.drop_eq_nil_of_le (Nat.le_of_eq heq)]
    exact ⟨_, rfl⟩
  · have hdrop := List.drop_eq_getElem_cons hgt
    have hnew : byteAt (len :: rest) (1 + len.toNat) = .ok rest[len.toNat] := by
      rw [Nat.add_comm, Parsers.byteAt_of_lt _ _ (by simpa using hgt)]
      rfl
    have hsecond (n : Nat) : slice (len :: rest) (1 + len.toNat + 1) (1 + len.toNat + 1 + n) =
        (rest.drop (len.toNat + 1)).take n := by
      rw [slice, show 1 + len.toNat + 1 + n = (len.toNat + 1 + n) + 1 by omega, List.take_succ_cons,
        show 1 + len.toNat + 1 = (len.toNat + 1) + 1 by omega, List.drop_succ_cons, List.drop_take,
        Nat.add_sub_cancel_left]
    rw [if_neg (show ¬ 1 + len.toNat > rest.length + 1 by omega),
      if_neg (show ¬ 1 + len.toNat ≥ rest.length + 1 by omega), if_neg (show ¬ rest.length < len.toNat by omega),
      hdrop, hnew]
    simp only [hsecond]
    exact ⟨_, rfl⟩

theorem kept_wholeText {cut whole : Bytes} (h : cut <+: whole) : Kept (wholeText cut) (wholeText whole) := by
  obtain ⟨rest, rfl⟩ := h
  rcases cut with _ | ⟨len, text⟩
  · exact kept_none _
  unfold wholeText
  rcases Nat.lt_or_ge text.length len.toNat with hlt | hge
  · simp [hlt]
  · have hge' : len.toNat ≤ (text ++ rest).length := by
      rw [List.length_append]
      omega
    simp only [List.cons_append]
    rw [if_neg (by omega), if_neg (by omega), List.take_append_of_le_length hge]
    exact kept_self _

theorem afterText_mono {cut whole : Bytes} (h : cut <+: whole) : afterText cut <+: afterText whole := by
  obtain ⟨rest, rfl⟩ := h
  rcases cut with _ | ⟨len, text⟩
  · exact List.nil_prefix
  · exact (List.prefix_append text rest).drop len.toNat

theorem decodeAsciiReplace_length (data : Bytes) : (decodeAsciiReplace data).length = data.length := by
  unfold decodeAsciiReplace
  simp

/-- The cut falls behind the length byte of a text and before its end. -/
def CutsText (cut whole : Bytes) : Prop :=
  ∃ len ∈ whole.head?, 1 ≤ cut.length ∧ cut.length < min (1 + len.toNat) whole.length

theorem kept_anyText_iff {cut whole : Bytes} (h : cut <+: whole) :
    Kept (anyText cut) (anyText whole) ↔ ¬ CutsText cut whole := by
  obtain ⟨rest, rfl⟩ := h
  unfold CutsText
  rcases cut with _ | ⟨len, text⟩
  · simp [anyText]
  have hcuts : (∃ n ∈ (len :: text ++ rest).head?, 1 ≤ (len :: text).length ∧
      (len :: text).length < min (1 + n.toNat) (len :: text ++ rest).length) ↔
      text.length < len.toNat ∧ 0 < rest.length := by
    simp
    omega
  rw [hcuts]
  show Kept (some _) (some (decodeAsciiReplace ((text ++ rest).take len.toNat))) ↔ _
  simp only [Kept, reduceCtorEq, false_or, Option.some.injEq]
  constructor
  · rintro heq ⟨hlen, hrest⟩
    have := congrArg String.length heq
    simp only [decodeAsciiReplace_length, List.length_take, List.length_append] at this
    omega
  · intro hnot
    rcases Nat.lt_or_ge text.length len.toNat with hlt | hge
    · rw [show rest = [] from List.eq_nil_of_length_eq_zero (by omega), List.append_nil]
    · rw [List.take_append_of_le_length hge]

/-! ## Tails with texts -/

section Texts

variable {cut whole : Bytes} (h : cut <+: whole)
include h

theorem decodePasscodeOnly_survives : Survives decodePasscodeOnly cut whole := by
  have hread (payload : Bytes) : decodePasscodeOnly payload = .ok { password := wholeText payload } := by
    obtain ⟨consumed, hpair⟩ := decodePwdPair_eq payload
    unfold decodePasscodeOnly
    rw [hpair]
    rfl
  refine ⟨_, _, hread cut, hread whole, ?_⟩
  constructor <;> simp [kept_wholeText h]

theorem decodePasscodePair_survives_iff :
    Survives decodePasscodePair cut whole ↔ ¬ CutsText (afterText cut) (afterText whole) := by
  have hread (payload : Bytes) : decodePasscodePair payload =
      .ok { password := wholeText payload, newPassword := anyText (afterText payload) } := by
    obtain ⟨consumed, hpair⟩ := decodePwdPair_eq payload
    unfold decodePasscodePair
    rw [hpair]
    rfl
  rw [← kept_anyText_iff (afterText_mono h)]
  unfold Survives
  rw [hread, hread]
  constructor
  · rintro ⟨_, _, ha, hb, hwithin⟩
    obtain rfl := Except.ok.inj ha
    obtain rfl := Except.ok.inj hb
    exact hwithin.newPassword
  · intro hkept
    refine ⟨_, _, rfl, rfl, ?_⟩
    constructor <;> simp [kept_wholeText h, hkept]

theorem decodeClearAllPasscodes_survives : Survives decodeClearAllPasscodes cut whole := by
  apply survives_of_read 5 (fun payload =>
    { deleteDate := decodeDate5 (payload.take 5), password := wholeText (payload.drop 5) }) _ _ h
  · intro payload
    obtain ⟨consumed, hpair⟩ := decodePwdPair_eq (payload.drop 5)
    unfold decodeClearAllPasscodes
    rw [hpair]
    split
    · rfl
    split
    · rfl
    · rw [List.drop_eq_nil_of_le (by omega)]
      rfl
  · intro payload rest hlen
    rw [List.take_append_of_le_length hlen, List.drop_append_of_le_length hlen]
    have := kept_wholeText (List.prefix_append (payload.drop 5) rest)
    constructor <;> simp [this]

/-- The date in the first five bytes, if they are there. -/
def wholeDate (raw : Bytes) : Option DateTime :=
  if raw.length ≥ 5 then decodeDate5 (raw.take 5) else none

omit h in
theorem kept_wholeDate {cut whole : Bytes} (h : cut <+: whole) : Kept (wholeDate cut) (wholeDate whole) := by
  obtain ⟨rest, rfl⟩ := h
  unfold wholeDate
  split
  · rename_i hlen
    rw [if_pos (by rw [List.length_append]; omega), List.take_append_of_le_length hlen]
    exact kept_self _
  · exact kept_none _

omit h in
theorem secondDate_eq (tail : Bytes) :
    (if tail.length ≥ 10 then decodeDate5 (slice tail 5 10) else none) = wholeDate (tail.drop 5) := by
  unfold wholeDate
  rw [slice, List.drop_take, List.length_drop]
  congr 1
  rw [eq_iff_iff]
  omega

omit h in
theorem decodeAddedPasscode_eq (payload : Bytes) : decodeAddedPasscode payload =
    .ok { password := wholeText payload, startDate := wholeDate (afterText payload),
          endDate := wholeDate ((afterText payload).drop 5) } := by
  rcases payload with _ | ⟨len, rest⟩
  · rfl
  have hdrop : (len :: rest).drop (1 + len.toNat) = rest.drop len.toNat := by
    rw [Nat.add_comm, List.drop_succ_cons]
  unfold decodeAddedPasscode wholeText afterText
  rw [if_neg (List.cons_ne_nil _ _), Parsers.byteAt_of_lt _ _ (by simp)]
  simp only [List.getElem_cons_zero, List.length_cons, Bind.bind, Except.bind]
  rcases Nat.lt_or_ge rest.length len.toNat with hlt | hge
  · rw [if_pos (show 1 + len.toNat > rest.length + 1 by omega), if_pos hlt,
      List.drop_eq_nil_of_le (Nat.le_of_lt hlt)]
    rfl
  · rw [if_neg (show ¬ 1 + len.toNat > rest.length + 1 by omega), if_neg (show ¬ rest.length < len.toNat by omega),
      hdrop, slice_cons_text, secondDate_eq]
    rfl

theorem decodeAddedPasscode_survives : Survives decodeAddedPasscode cut whole := by
  refine ⟨_, _, decodeAddedPasscode_eq cut, decodeAddedPasscode_eq whole, ?_⟩
  have hafter := afterText_mono h
  have hdates := List.IsPrefix.drop hafter 5
  constructor <;> simp [kept_wholeText h, kept_wholeDate hafter, kept_wholeDate hdates]

end Texts

/-! ## All types -/

def passcodePairTypes : List UInt8 := [4, 5, 6, 9, 10, 11, 12, 13, 34, 38, 78, 92]

def cardNumberTypes : List UInt8 := [15, 17, 18, 25, 35, 39, 51, 74, 80, 91]

theorem tail_survives (recordType : UInt8) (decoder : Bytes → Py RecordTail)
    (h : tailDecoder recordType = some decoder) (hcard : recordType ∉ cardNumberTypes) :
    recordType ∈ passcodePairTypes ∧ decoder = decodePasscodePair ∨
      recordType ∉ passcodePairTypes ∧ ∀ cut whole, cut <+: whole → Survives decoder cut whole := by
  obtain ⟨row, hrow, rfl⟩ := Option.map_eq_some_iff.mp h
  have hmem := List.mem_of_find?_eq_some hrow
  have htype := List.find?_some hrow
  rw [decide_eq_true_iff] at htype
  have hother (types : List UInt8) (hin : recordType ∈ types)
      (hdis : types.all fun t => decide (t ∉ passcodePairTypes)) : recordType ∉ passcodePairTypes := by
    simpa using List.all_eq_true.mp hdis recordType hin
  simp only [tailDecodersByBucket, List.mem_cons, List.not_mem_nil, or_false] at hmem
  rcases hmem with rfl | rfl | rfl | rfl | rfl | rfl | rfl | rfl | rfl | rfl | rfl | rfl | rfl | rfl | rfl
  · exact .inr ⟨hother _ htype (by decide), fun _ _ => decodeAppUidRecordId_survives⟩
  · exact .inl ⟨htype, rfl⟩
  · exact .inr ⟨hother _ htype (by decide), fun _ _ => decodePasscodeOnly_survives⟩
  · exact .inr ⟨hother _ htype (by decide), fun _ _ => decodeClearAllPasscodes_survives⟩
  · exact absurd htype hcard
  · exact .inr ⟨hother _ htype (by decide), fun _ _ => decodeMacOnly_survives⟩
  · exact .inr ⟨hother _ htype (by decide), fun _ _ => decodeSixByteId_survives⟩
  · exact .inr ⟨hother _ htype (by decide), fun _ _ => decodeAccessoryBattery_survives⟩
  · exact .inr ⟨hother _ htype (by decide), fun _ _ => decodeRemoteControlKey_survives⟩
  · exact .inr ⟨hother _ htype (by decide), fun _ _ => decodeKeyFob_survives⟩
  · exact .inr ⟨hother _ htype (by decide), fun _ _ => decodeWirelessKeypad_survives⟩
  · exact .inr ⟨hother _ htype (by decide), fun _ _ => decodeShortId_survives⟩
  · exact .inr ⟨hother _ htype (by decide), fun _ _ => decodeSixByteId_survives⟩
  · exact .inr ⟨hother _ htype (by decide), fun _ _ => decodeAddedPasscode_survives⟩
  · exact .inr ⟨hother _ htype (by decide), fun _ _ => decodeMacOnly_survives⟩

theorem tailDecoder_pair (recordType : UInt8) (h : recordType ∈ passcodePairTypes) :
    tailDecoder recordType = some decodePasscodePair := by
  simp only [passcodePairTypes, List.mem_cons, List.not_mem_nil, or_false] at h
  rcases h with rfl | rfl | rfl | rfl | rfl | rfl | rfl | rfl | rfl | rfl | rfl | rfl <;> rfl

/-- **What a cut tail shows.** A record type with no card number gives from a cut tail only what the
whole tail gives, but for a passcode pair that is cut inside its second passcode. -/
theorem recordTail_survives_iff (recordType : UInt8) (hcard : recordType ∉ cardNumberTypes)
    (cut whole : Bytes) (h : cut <+: whole) :
    Survives (recordTail recordType) cut whole ↔
      ¬ (recordType ∈ passcodePairTypes ∧ CutsText (afterText cut) (afterText whole)) := by
  by_cases hpair : recordType ∈ passcodePairTypes
  · have hdecoder : recordTail recordType = decodePasscodePair := by
      unfold recordTail
      rw [tailDecoder_pair recordType hpair]
    rw [hdecoder, decodePasscodePair_survives_iff h]
    simp [hpair]
  · simp only [hpair, false_and, not_false_iff, iff_true]
    unfold recordTail
    cases hdecoder : tailDecoder recordType with
    | none => exact ⟨{}, {}, rfl, rfl, within_empty _⟩
    | some decoder =>
      rcases tail_survives recordType decoder hdecoder hcard with ⟨hin, -⟩ | ⟨-, hsurvives⟩
      · exact absurd hin hpair
      · exact hsurvives cut whole h

theorem recordTail_survives_iff_fob :
    55 ∉ cardNumberTypes ∧
      (Survives (recordTail 55) [1, 2, 3, 4, 5, 6, 7] [1, 2, 3, 4, 5, 6, 7, 80] ↔
        ¬ (55 ∈ passcodePairTypes ∧
          CutsText (afterText [1, 2, 3, 4, 5, 6, 7]) (afterText [1, 2, 3, 4, 5, 6, 7, 80]))) :=
  ⟨by decide, recordTail_survives_iff 55 (by decide) _ _ ⟨[80], rfl⟩⟩

/-- A new passcode `1234` that is cut after its second digit is reported as `12`. -/
theorem recordTail_shortens_passcode :
    ¬ ∀ recordType, recordType ∉ cardNumberTypes → ∀ cut whole, cut <+: whole →
      Survives (recordTail recordType) cut whole := by
  intro h
  let whole : Bytes := [4, 0x35, 0x36, 0x37, 0x38, 4, 0x31, 0x32, 0x33, 0x34]
  obtain ⟨_, _, ha, hb, hwithin⟩ := h 5 (by decide) (whole.take 8) whole (List.take_prefix 8 whole)
  obtain rfl := Except.ok.inj ha
  obtain rfl := Except.ok.inj hb
  have hkept := hwithin.newPassword
  revert hkept
  unfold Kept
  decide +kernel

end TtlockBle.LogTails
