import TtlockBle.Parsers

/-!
# What a listed entry says about its validity

The card list and the fingerprint list mark "no date" with a sentinel and report it as `None`. They
report bytes that form no calendar date the same way, so such an entry looks permanent.
-/

open TtlockBle.Lib

namespace TtlockBle.Validity

/-! ## Dates -/

/-- The five bytes are the date, down to the minute. -/
def Encodes (raw : Bytes) (date : DateTime) : Prop :=
  ∃ yy mm dd hh mn : UInt8, raw = [yy, mm, dd, hh, mn] ∧ date.year = 2000 + yy.toNat ∧
    date.month = mm.toNat ∧ date.day = dd.toNat ∧ date.hour = hh.toNat ∧ date.minute = mn.toNat ∧
    date.second = 0 ∧ date.microsecond = 0

def IsCalendarDate (raw : Bytes) : Prop := ∃ date, Encodes raw date

theorem exists_five (raw : Bytes) (h : raw.length = 5) :
    ∃ yy mm dd hh mn, raw = [yy, mm, dd, hh, mn] := by
  match raw, h with
  | [yy, mm, dd, hh, mn], _ => exact ⟨yy, mm, dd, hh, mn, rfl⟩

theorem decodeDate5_eq_some (raw : Bytes) (date : DateTime) (h : raw.length = 5) :
    decodeDate5 raw = some date ↔ Encodes raw date := by
  obtain ⟨yy, mm, dd, hh, mn, rfl⟩ := exists_five raw h
  unfold decodeDate5
  rw [DateTime.mk?_eq_some]
  constructor
  · exact fun hdate => ⟨yy, mm, dd, hh, mn, rfl, hdate⟩
  · rintro ⟨yy', mm', dd', hh', mn', heq, hdate⟩
    simp only [List.cons.injEq, and_true] at heq
    obtain ⟨rfl, rfl, rfl, rfl, rfl⟩ := heq
    exact hdate

theorem decodeDate5_eq_none (raw : Bytes) (h : raw.length = 5) :
    decodeDate5 raw = none ↔ ¬ IsCalendarDate raw := by
  unfold IsCalendarDate
  simp only [← decodeDate5_eq_some raw _ h, ← Option.isSome_iff_exists, Bool.not_eq_true,
    Option.isSome_eq_false_iff, Option.isNone_iff_eq_none]

/-! ## Entries -/

/-- An entry read from these date bytes reports what they say: no date for a sentinel, and for
anything else the date. -/
structure Reports (startRaw endRaw : Bytes) (startDate endDate : Option DateTime)
    (isPermanent hasExplicitStart : Bool) : Prop where
  permanent : isPermanent ↔ endRaw = endDateSentinel
  explicit : hasExplicitStart ↔ startRaw ≠ startDateSentinel
  startsOn : startRaw ≠ startDateSentinel → ∃ date, startDate = some date ∧ Encodes startRaw date
  endsOn : endRaw ≠ endDateSentinel → ∃ date, endDate = some date ∧ Encodes endRaw date

theorem dateUnless_sentinel (raw : Bytes) : dateUnless raw raw = none := if_pos rfl

theorem dateUnless_date (sentinel raw : Bytes) (h : raw ≠ sentinel) :
    dateUnless sentinel raw = decodeDate5 raw := if_neg h

theorem dateUnless_isSome (sentinel raw : Bytes) (hlen : raw.length = 5) :
    (dateUnless sentinel raw).isSome ↔ raw ≠ sentinel ∧ IsCalendarDate raw := by
  by_cases h : raw = sentinel
  · simp [h, dateUnless_sentinel]
  · rw [dateUnless_date _ _ h, ← Option.ne_none_iff_isSome, ne_eq, decodeDate5_eq_none raw hlen]
    simp [h]

theorem dateUnless_eq_some (sentinel raw : Bytes) (hlen : raw.length = 5) (h : raw ≠ sentinel)
    (hdate : IsCalendarDate raw) : ∃ date, dateUnless sentinel raw = some date ∧ Encodes raw date := by
  obtain ⟨date, hdate⟩ := hdate
  exact ⟨date, by rwa [dateUnless_date _ _ h, decodeDate5_eq_some raw date hlen], hdate⟩

/-- Each of the two dates is its sentinel or a date of the calendar. -/
def WellDated (startRaw endRaw : Bytes) : Prop :=
  (startRaw = startDateSentinel ∨ IsCalendarDate startRaw) ∧
    (endRaw = endDateSentinel ∨ IsCalendarDate endRaw)

theorem reports_iff (startRaw endRaw : Bytes) (hs : startRaw.length = 5) (he : endRaw.length = 5) :
    Reports startRaw endRaw (dateUnless startDateSentinel startRaw) (dateUnless endDateSentinel endRaw)
        (dateUnless endDateSentinel endRaw).isNone (dateUnless startDateSentinel startRaw).isSome ↔
      WellDated startRaw endRaw := by
  have hnone : (dateUnless endDateSentinel endRaw).isNone ↔
      ¬ (endRaw ≠ endDateSentinel ∧ IsCalendarDate endRaw) := by
    rw [← dateUnless_isSome _ _ he]
    simp
  constructor
  · intro h
    constructor
    · apply Classical.or_iff_not_imp_left.mpr
      intro hne
      obtain ⟨date, -, hdate⟩ := h.startsOn hne
      exact ⟨date, hdate⟩
    · apply Classical.or_iff_not_imp_left.mpr
      intro hne
      obtain ⟨date, -, hdate⟩ := h.endsOn hne
      exact ⟨date, hdate⟩
  · rintro ⟨hstart, hend⟩
    constructor
    · rw [hnone]
      tauto
    · rw [dateUnless_isSome _ _ hs]
      tauto
    · exact fun hne => dateUnless_eq_some _ _ hs hne (hstart.resolve_left hne)
    · exact fun hne => dateUnless_eq_some _ _ he hne (hend.resolve_left hne)

/-! ## The two lists -/

theorem parseResponseStatus_data (plaintext : Bytes) :
    Returns (fun r => r.2.2 = plaintext.drop 2) (parseResponseStatus plaintext) := by
  unfold parseResponseStatus
  simp

theorem parseFingerprintListResponse_entry (plaintext : Bytes) (entry : FingerprintEntry)
    (h : parseFingerprintListResponse plaintext = .ok (some entry)) :
    20 ≤ (plaintext.drop 2).length ∧
      entry.startDate = dateUnless startDateSentinel (slice (plaintext.drop 2) 10 15) ∧
      entry.endDate = dateUnless endDateSentinel (slice (plaintext.drop 2) 15 20) := by
  have hentry : Returns (fun r => ∀ e ∈ r, 20 ≤ (plaintext.drop 2).length ∧
      e.startDate = dateUnless startDateSentinel (slice (plaintext.drop 2) 10 15) ∧
      e.endDate = dateUnless endDateSentinel (slice (plaintext.drop 2) 15 20))
      (parseFingerprintListResponse plaintext) := by
    unfold parseFingerprintListResponse
    simp only [Returns.returns_bind, Prod.forall]
    intro echo status data hstatus
    obtain rfl : data = plaintext.drop 2 := parseResponseStatus_data plaintext _ hstatus
    simp
  exact hentry _ h entry rfl

theorem cardIdLength_eq_some (length n : Nat) (h : cardIdLength length = some n) : length = 14 + n := by
  unfold cardIdLength at h
  split at h
  · obtain rfl := Option.some.inj h
    assumption
  · split at h
    · obtain rfl := Option.some.inj h
      assumption
    · cases h

theorem parseCardListResponse_entry (plaintext : Bytes) (entry : CardEntry)
    (h : parseCardListResponse plaintext = .ok (some entry)) :
    ∃ n, (plaintext.drop 2).length = 14 + n ∧
      entry.startDate = dateUnless startDateSentinel (slice (plaintext.drop 2) (4 + n) (4 + n + 5)) ∧
      entry.endDate = dateUnless endDateSentinel (slice (plaintext.drop 2) (4 + n + 5) (4 + n + 10)) := by
  have hentry : Returns (fun r => ∀ e ∈ r, ∃ n, (plaintext.drop 2).length = 14 + n ∧
      e.startDate = dateUnless startDateSentinel (slice (plaintext.drop 2) (4 + n) (4 + n + 5)) ∧
      e.endDate = dateUnless endDateSentinel (slice (plaintext.drop 2) (4 + n + 5) (4 + n + 10)))
      (parseCardListResponse plaintext) := by
    unfold parseCardListResponse
    simp only [Returns.returns_bind, Prod.forall]
    intro echo status data hstatus
    obtain rfl : data = plaintext.drop 2 := parseResponseStatus_data plaintext _ hstatus
    simp only [Returns.returns_bind, Returns.returns_ite, Returns.returns_pure]
    refine ⟨by simp, fun _ => ⟨by simp, fun _ => ?_⟩⟩
    split
    · simp
    · rename_i n hn
      simp only [Returns.returns_pure, Option.mem_some_iff, forall_eq']
      exact ⟨n, cardIdLength_eq_some _ _ hn, rfl, rfl⟩
  exact hentry _ h entry rfl

def cardStart (plaintext : Bytes) : Bytes := slice plaintext (plaintext.length - 10) (plaintext.length - 5)

def cardEnd (plaintext : Bytes) : Bytes := slice plaintext (plaintext.length - 5) plaintext.length

def fingerprintStart (plaintext : Bytes) : Bytes := slice (plaintext.drop 2) 10 15

def fingerprintEnd (plaintext : Bytes) : Bytes := slice (plaintext.drop 2) 15 20

def CardReported (plaintext : Bytes) (entry : CardEntry) : Prop :=
  Reports (cardStart plaintext) (cardEnd plaintext) entry.startDate entry.endDate
    entry.isPermanent entry.hasExplicitStart

def FingerprintReported (plaintext : Bytes) (entry : FingerprintEntry) : Prop :=
  Reports (fingerprintStart plaintext) (fingerprintEnd plaintext) entry.startDate entry.endDate
    entry.isPermanent entry.hasExplicitStart

theorem cardReported_iff (plaintext : Bytes) (entry : CardEntry)
    (h : parseCardListResponse plaintext = .ok (some entry)) :
    CardReported plaintext entry ↔ WellDated (cardStart plaintext) (cardEnd plaintext) := by
  obtain ⟨n, hlen, hstart, hend⟩ := parseCardListResponse_entry plaintext entry h
  rw [List.length_drop] at hlen
  have hs : cardStart plaintext = slice (plaintext.drop 2) (4 + n) (4 + n + 5) := by
    rw [slice_drop, cardStart, show plaintext.length = 16 + n by omega]
    congr 1 <;> omega
  have he : cardEnd plaintext = slice (plaintext.drop 2) (4 + n + 5) (4 + n + 10) := by
    rw [slice_drop, cardEnd, show plaintext.length = 16 + n by omega]
    congr 1 <;> omega
  unfold CardReported CardEntry.isPermanent CardEntry.hasExplicitStart
  rw [hstart, hend, ← hs, ← he]
  apply reports_iff
  · rw [cardStart, slice_length]
    omega
  · rw [cardEnd, slice_length]
    omega

theorem fingerprintReported_iff (plaintext : Bytes) (entry : FingerprintEntry)
    (h : parseFingerprintListResponse plaintext = .ok (some entry)) :
    FingerprintReported plaintext entry ↔
      WellDated (fingerprintStart plaintext) (fingerprintEnd plaintext) := by
  obtain ⟨hlen, hstart, hend⟩ := parseFingerprintListResponse_entry plaintext entry h
  unfold FingerprintReported FingerprintEntry.isPermanent FingerprintEntry.hasExplicitStart
  rw [hstart, hend]
  apply reports_iff
  · rw [fingerprintStart, slice_length]
    omega
  · rw [fingerprintEnd, slice_length]
    omega

/-- **When a listed entry says what its dates are**: when each is its sentinel or a calendar date. -/
theorem entries_reported_iff (plaintext : Bytes) :
    (∀ entry, parseCardListResponse plaintext = .ok (some entry) →
      (CardReported plaintext entry ↔ WellDated (cardStart plaintext) (cardEnd plaintext))) ∧
    ∀ entry, parseFingerprintListResponse plaintext = .ok (some entry) →
      (FingerprintReported plaintext entry ↔
        WellDated (fingerprintStart plaintext) (fingerprintEnd plaintext)) :=
  ⟨cardReported_iff plaintext, fingerprintReported_iff plaintext⟩

/-- A card list reply with the id `01 02 03 04` and the two dates. -/
def cardReply (startDate endDate : Bytes) : Bytes :=
  [0x05, 0x01, 0x64, 0x01, 0x00, 0x01, 0x01, 0x02, 0x03, 0x04] ++ startDate ++ endDate

/-- A fingerprint list reply with the id `01 02 03 04`, slot 1 and the two dates. -/
def fingerprintReply (startDate endDate : Bytes) : Bytes :=
  [0x06, 0x01, 0x64, 0x06, 0x00, 0x01, 0x01, 0x02, 0x03, 0x04, 0x00, 0x01] ++ startDate ++ endDate

theorem entries_reported_iff_summer :
    let day : Bytes := [26, 7, 14, 12, 30]
    (∃ entry, parseCardListResponse (cardReply startDateSentinel day) = .ok (some entry) ∧
      (CardReported (cardReply startDateSentinel day) entry ↔ WellDated startDateSentinel day)) ∧
    ∃ entry, parseFingerprintListResponse (fingerprintReply day endDateSentinel) = .ok (some entry) ∧
      (FingerprintReported (fingerprintReply day endDateSentinel) entry ↔ WellDated day endDateSentinel) :=
  ⟨⟨_, rfl, (entries_reported_iff _).1 _ rfl⟩, ⟨_, rfl, (entries_reported_iff _).2 _ rfl⟩⟩

/-- A card that ends on day 14 of month 13 is listed as permanent. -/
theorem entries_reported_fails :
    ¬ ∀ plaintext,
      (∀ entry, parseCardListResponse plaintext = .ok (some entry) → CardReported plaintext entry) ∧
      ∀ entry, parseFingerprintListResponse plaintext = .ok (some entry) →
        FingerprintReported plaintext entry := by
  intro h
  have hcard := (h (cardReply startDateSentinel [26, 13, 14, 12, 30])).1 _ rfl
  have hperm := hcard.permanent.mp rfl
  revert hperm
  decide

end TtlockBle.Validity
