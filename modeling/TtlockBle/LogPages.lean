import TtlockBle.LogTails

/-!
# Pages of the operation log

The record loop finds the records by their length bytes and decodes each. A record of at least eight
bytes is decoded from its own bytes; a shorter one borrows its head from what follows it, and raises
where nothing does. So a record that says too little further down takes the entries before it with it.
-/

open TtlockBle.Lib

namespace TtlockBle.LogPages

/-! ## The walk over the records -/

/-- Where a record lies, without its length byte. -/
structure Span where
  start : Nat
  len : Nat
  deriving DecidableEq, Repr

def Span.stop (span : Span) : Nat := span.start + span.len

/-- The records that the loop finds from `idx` on. -/
def recordSpans (data : Bytes) (idx : Nat) : List Span :=
  if h : idx < data.length then
    let span : Span := ⟨idx + 1, data[idx].toNat⟩
    if span.stop > data.length then [] else span :: recordSpans data span.stop
  else []
termination_by data.length - idx
decreasing_by
  simp only [Span.stop]
  omega

/-- What the loop makes of record number `k`. -/
def entryAt (data : Bytes) (sequence k : Nat) (span : Span) : Py LogEntry := do
  let recordType ← byteAt data span.start
  let operateDate := decodeDate6 (slice data (span.start + 1) (span.start + 7))
  let battery ← byteAt data (span.start + 7)
  decodeLogRecord recordType operateDate battery (sequence - k - 1) data (span.start + 8) span.stop

def entriesAt (data : Bytes) (sequence : Nat) : Nat → List Span → Py (List LogEntry)
  | _, [] => pure []
  | k, span :: spans => do
    let entry ← entryAt data sequence k span
    let entries ← entriesAt data sequence (k + 1) spans
    return entry :: entries

theorem recordSpans_step (data : Bytes) (idx : Nat) (h : idx < data.length)
    (hstop : idx + 1 + data[idx].toNat ≤ data.length) :
    recordSpans data idx = ⟨idx + 1, data[idx].toNat⟩ :: recordSpans data (idx + 1 + data[idx].toNat) := by
  rw [recordSpans, dif_pos h]
  exact if_neg (Nat.not_lt.mpr hstop)

theorem recordSpans_long (data : Bytes) (idx : Nat) (h : idx < data.length)
    (hstop : data.length < idx + 1 + data[idx].toNat) : recordSpans data idx = [] := by
  rw [recordSpans, dif_pos h]
  exact if_pos hstop

theorem recordSpans_end (data : Bytes) (idx : Nat) (h : data.length ≤ idx) : recordSpans data idx = [] := by
  rw [recordSpans, dif_neg (Nat.not_lt.mpr h)]

/-- The loop finds the records and decodes them in order. -/
theorem operateLogRecords_eq (data : Bytes) (sequence idx : Nat) (entries : List LogEntry) :
    operateLogRecords data sequence idx entries =
      (entries ++ ·) <$> entriesAt data sequence entries.length (recordSpans data idx) := by
  fun_induction operateLogRecords data sequence idx entries with
  | case1 idx entries h recLen recStart hlong =>
    rw [recordSpans_long data idx h hlong]
    simp [entriesAt]
    rfl
  | case2 idx entries h recLen recStart hlong ih =>
    rw [recordSpans_step data idx h (Nat.not_lt.mp hlong)]
    simp only [entriesAt, entryAt, Span.stop, bind_assoc, ih, List.length_append,
      List.length_singleton, List.append_assoc, map_eq_pure_bind, pure_bind]
    rfl
  | case3 idx entries h =>
    rw [recordSpans_end data idx (Nat.not_lt.mp h)]
    simp [entriesAt]
    rfl

/-- What the bytes of record number `k` say on their own. -/
def recordEntry (sequence k : Nat) (record : Bytes) : Py LogEntry := do
  let recordType ← byteAt record 0
  let battery ← byteAt record 7
  let tail ← LogTails.recordTail recordType (record.drop 8)
  return ⟨sequence - k - 1, recordType, decodeDate6 (slice record 1 7), battery, tail⟩

theorem entryAt_eq (data : Bytes) (sequence k : Nat) (span : Span) (hlen : 8 ≤ span.len) :
    entryAt data sequence k span = recordEntry sequence k (slice data span.start span.stop) := by
  have hstop : span.start + 8 ≤ span.stop := Nat.add_le_add_left hlen _
  have hbyte (i : Nat) (hi : i < 8) :
      byteAt (slice data span.start span.stop) i = byteAt data (span.start + i) := by
    unfold byteAt
    rw [getElem?_slice _ _ _ _ (by omega)]
  unfold entryAt recordEntry
  rw [hbyte 0 (by omega), hbyte 7 (by omega), slice_slice _ _ _ _ _ (by omega), drop_slice]
  simp only [LogTails.decodeLogRecord_eq, Nat.add_zero]

/-! ## The entries of a page -/

theorem entriesAt_ok (data : Bytes) (sequence k : Nat) (spans : List Span) (entries : List LogEntry)
    (h : entriesAt data sequence k spans = .ok entries) :
    entries.length = spans.length ∧ ∀ i span entry, spans[i]? = some span → entries[i]? = some entry →
      entryAt data sequence (k + i) span = .ok entry := by
  induction spans generalizing k entries with
  | nil =>
    obtain rfl := Except.ok.inj h
    simp
  | cons span spans ih =>
    have hcons : Returns (fun es => ∃ entry rest, es = entry :: rest ∧ entryAt data sequence k span = .ok entry ∧
        entriesAt data sequence (k + 1) spans = .ok rest) (entriesAt data sequence k (span :: spans)) := by
      rw [entriesAt]
      simp only [Returns.returns_bind, Returns.returns_pure]
      exact fun entry hentry rest hrest => ⟨entry, rest, rfl, hentry, hrest⟩
    obtain ⟨entry, rest, rfl, hentry, hrest⟩ := hcons entries h
    obtain ⟨hlen, hall⟩ := ih (k + 1) rest hrest
    refine ⟨by simp [hlen], fun i s e hs he => ?_⟩
    rcases i with _ | i
    · obtain rfl := Option.some.inj hs
      obtain rfl := Option.some.inj he
      exact hentry
    · have hat := hall i s e hs he
      rwa [Nat.add_right_comm] at hat

def IsEmptyPage (data : Bytes) : Prop := data.length < 2 ∨ fromBytesBig (data.take 2) = 0

instance (data : Bytes) : Decidable (IsEmptyPage data) := inferInstanceAs (Decidable (_ ∨ _))

theorem parseOperateLogResponse_eq (echo : UInt8) (data : Bytes) :
    parseOperateLogResponse (echo :: responseSuccess :: data) =
      if IsEmptyPage data then .ok ([], 0) else
        (·, fromBytesBig (slice data 2 4)) <$>
          entriesAt data (fromBytesBig (slice data 2 4)) 0 (recordSpans data 4) := by
  unfold parseOperateLogResponse IsEmptyPage
  rw [Parsers.parseResponseStatus_cons]
  simp only [Bind.bind, Except.bind, ne_eq, not_true_eq_false, false_or, operateLogRecords_eq, List.nil_append,
    List.length_nil, id_map']
  by_cases hlen : data.length < 2
  · simp only [hlen, true_or, if_true]
    rfl
  · by_cases hzero : fromBytesBig (data.take 2) = 0
    · simp only [hlen, hzero, or_true, if_true]
      rfl
    · simp only [hlen, hzero, or_false, if_false]
      cases entriesAt data (fromBytesBig (slice data 2 4)) 0 (recordSpans data 4) <;> rfl

theorem parseOperateLogResponse_full (echo : UInt8) (data : Bytes) (hfull : ¬ IsEmptyPage data)
    (entries : List LogEntry) (sequence : Nat) :
    parseOperateLogResponse (echo :: responseSuccess :: data) = .ok (entries, sequence) ↔
      sequence = fromBytesBig (slice data 2 4) ∧
        entriesAt data sequence 0 (recordSpans data 4) = .ok entries := by
  rw [parseOperateLogResponse_eq, if_neg hfull]
  cases hentries : entriesAt data (fromBytesBig (slice data 2 4)) 0 (recordSpans data 4) with
  | error e =>
    simp only [Functor.map, Except.map, reduceCtorEq, false_iff, not_and]
    rintro rfl h
    rw [hentries] at h
    cases h
  | ok es =>
    simp only [Functor.map, Except.map, Except.ok.injEq, Prod.mk.injEq]
    constructor
    · rintro ⟨rfl, rfl⟩
      exact ⟨rfl, hentries⟩
    · rintro ⟨rfl, h⟩
      rw [hentries] at h
      exact ⟨Except.ok.inj h, rfl⟩

theorem parseOperateLogResponse_ok (echo : UInt8) (data : Bytes) (entries : List LogEntry) (sequence : Nat)
    (h : parseOperateLogResponse (echo :: responseSuccess :: data) = .ok (entries, sequence))
    (hne : entries ≠ []) :
    ¬ IsEmptyPage data ∧ sequence = fromBytesBig (slice data 2 4) ∧
      entriesAt data sequence 0 (recordSpans data 4) = .ok entries := by
  by_cases hempty : IsEmptyPage data
  · rw [parseOperateLogResponse_eq, if_pos hempty] at h
    exact absurd (congrArg Prod.fst (Except.ok.inj h)).symm hne
  · exact ⟨hempty, (parseOperateLogResponse_full echo data hempty entries sequence).mp h⟩

/-! ## Encoded pages -/

def encodeRecord (record : Bytes) : Bytes := UInt8.ofNat record.length :: record

def encodePage (total sequence : Nat) (records : List Bytes) : Bytes :=
  toBytesBig 2 total ++ toBytesBig 2 sequence ++ records.flatMap encodeRecord

/-- No bytes, or a record that announces more than there is. -/
def Unfinished (rest : Bytes) : Prop := ∀ len tail, rest = len :: tail → tail.length < len.toNat

def recordEntries (sequence : Nat) : Nat → List Bytes → Py (List LogEntry)
  | _, [] => pure []
  | k, record :: records => do
    let entry ← recordEntry sequence k record
    let entries ← recordEntries sequence (k + 1) records
    return entry :: entries

theorem recordSpans_unfinished (before rest : Bytes) (h : Unfinished rest) :
    recordSpans (before ++ rest) before.length = [] := by
  rcases rest with _ | ⟨len, tail⟩
  · exact recordSpans_end _ _ (by simp)
  · have hlt : before.length < (before ++ len :: tail).length := by simp
    have hget : (before ++ len :: tail)[before.length] = len := by simp
    have := h len tail rfl
    apply recordSpans_long _ _ hlt
    rw [hget, List.length_append, List.length_cons]
    omega

theorem recordSpans_record (before record rest : Bytes) (hlen : record.length ≤ 255) :
    recordSpans (before ++ encodeRecord record ++ rest) before.length =
      ⟨before.length + 1, record.length⟩ ::
        recordSpans (before ++ encodeRecord record ++ rest) (before ++ encodeRecord record).length := by
  have hbyte : (UInt8.ofNat record.length).toNat = record.length := by
    rw [UInt8.toNat_ofNat']
    omega
  have hlength : (before ++ encodeRecord record).length = before.length + 1 + record.length := by
    simp [encodeRecord]
    omega
  have hlt : before.length < (before ++ encodeRecord record ++ rest).length := by
    rw [List.length_append]
    omega
  have hget : (before ++ encodeRecord record ++ rest)[before.length] = UInt8.ofNat record.length := by
    simp [encodeRecord]
  rw [recordSpans_step _ _ hlt (by rw [hget, hbyte, List.length_append]; omega), hget, hbyte, hlength]

theorem entriesAt_records (sequence k : Nat) (before rest : Bytes) (records : List Bytes)
    (hrecords : ∀ record ∈ records, 8 ≤ record.length ∧ record.length ≤ 255) (hrest : Unfinished rest) :
    entriesAt (before ++ records.flatMap encodeRecord ++ rest) sequence k
        (recordSpans (before ++ records.flatMap encodeRecord ++ rest) before.length) =
      recordEntries sequence k records := by
  induction records generalizing before k with
  | nil =>
    rw [List.flatMap_nil, List.append_nil, recordSpans_unfinished before rest hrest]
    rfl
  | cons record records ih =>
    obtain ⟨hrecord, hothers⟩ := List.forall_mem_cons.mp hrecords
    have hdata : before ++ (record :: records).flatMap encodeRecord ++ rest =
        before ++ encodeRecord record ++ records.flatMap encodeRecord ++ rest := by
      simp
    have hslice : slice (before ++ encodeRecord record ++ records.flatMap encodeRecord ++ rest)
        (before.length + 1) (before.length + 1 + record.length) = record := by
      have := slice_middle (before ++ [UInt8.ofNat record.length]) record (records.flatMap encodeRecord ++ rest)
      simpa [encodeRecord] using this
    have hspans := recordSpans_record before record (records.flatMap encodeRecord ++ rest) hrecord.2
    rw [← List.append_assoc (before ++ encodeRecord record)] at hspans
    rw [hdata, hspans, entriesAt, recordEntries, entryAt_eq _ _ _ _ hrecord.1, Span.stop, hslice,
      ih (k + 1) (before ++ encodeRecord record) hothers]

/-- The six bytes are the date, down to the second. -/
def EncodesSecond (raw : Bytes) (date : DateTime) : Prop :=
  ∃ yy mm dd hh mn ss : UInt8, raw = [yy, mm, dd, hh, mn, ss] ∧ date.year = 2000 + yy.toNat ∧
    date.month = mm.toNat ∧ date.day = dd.toNat ∧ date.hour = hh.toNat ∧ date.minute = mn.toNat ∧
    date.second = ss.toNat ∧ date.microsecond = 0

theorem decodeDate6_eq_some (raw : Bytes) (date : DateTime) (h : raw.length = 6) :
    decodeDate6 raw = some date ↔ EncodesSecond raw date := by
  obtain ⟨yy, mm, dd, hh, mn, ss, rfl⟩ : ∃ yy mm dd hh mn ss, raw = [yy, mm, dd, hh, mn, ss] := by
    match raw, h with
    | [yy, mm, dd, hh, mn, ss], _ => exact ⟨yy, mm, dd, hh, mn, ss, rfl⟩
  unfold decodeDate6
  rw [DateTime.mk?_eq_some]
  constructor
  · exact fun hdate => ⟨yy, mm, dd, hh, mn, ss, rfl, hdate⟩
  · rintro ⟨yy', mm', dd', hh', mn', ss', heq, hdate⟩
    simp only [List.cons.injEq, and_true] at heq
    obtain ⟨rfl, rfl, rfl, rfl, rfl, rfl⟩ := heq
    exact hdate

/-- The entry says what record number `i` of a page says. -/
structure EntryOf (sequence i : Nat) (record : Bytes) (entry : LogEntry) : Prop where
  recordNumber : entry.recordNumber = sequence - i - 1
  recordType : record[0]? = some entry.recordType
  operateDate : ∀ date, entry.operateDate = some date ↔ EncodesSecond (slice record 1 7) date
  lockBattery : record[7]? = some entry.lockBattery
  tail : LogTails.recordTail entry.recordType (record.drop 8) = .ok entry.tail

theorem recordEntry_ok (sequence i : Nat) (record : Bytes) (hlen : 8 ≤ record.length) :
    ∃ entry, recordEntry sequence i record = .ok entry ∧ EntryOf sequence i record entry := by
  obtain ⟨tail, htail⟩ := Raises.exists_ok (LogTails.recordTail_total record[0] (record.drop 8))
  refine ⟨⟨sequence - i - 1, record[0], decodeDate6 (slice record 1 7), record[7], tail⟩, ?_, ?_⟩
  · unfold recordEntry
    rw [Parsers.byteAt_of_lt _ _ (by omega), Parsers.byteAt_of_lt _ _ (by omega)]
    simp only [Bind.bind, Except.bind, htail]
    rfl
  · have hsix : (slice record 1 7).length = 6 := by
      rw [slice_length]
      omega
    exact ⟨rfl, List.getElem?_eq_getElem _, fun date => decodeDate6_eq_some _ date hsix,
      List.getElem?_eq_getElem _, htail⟩

theorem recordEntries_ok (sequence k : Nat) (records : List Bytes) (h : ∀ record ∈ records, 8 ≤ record.length) :
    ∃ entries, recordEntries sequence k records = .ok entries ∧ entries.length = records.length ∧
      ∀ i record, records[i]? = some record →
        ∃ entry, entries[i]? = some entry ∧ EntryOf sequence (k + i) record entry := by
  induction records generalizing k with
  | nil => exact ⟨[], rfl, rfl, by simp⟩
  | cons record records ih =>
    obtain ⟨hrecord, hothers⟩ := List.forall_mem_cons.mp h
    obtain ⟨entry, hentry, hof⟩ := recordEntry_ok sequence k record hrecord
    obtain ⟨entries, hentries, hlen, hall⟩ := ih (k + 1) hothers
    refine ⟨entry :: entries, ?_, by simp [hlen], fun i r hr => ?_⟩
    · rw [recordEntries, hentry, hentries]
      rfl
    · rcases i with _ | i
      · obtain rfl := Option.some.inj hr
        exact ⟨entry, rfl, hof⟩
      · obtain ⟨e, he, hof⟩ := hall i r hr
        exact ⟨e, he, by rwa [Nat.add_right_comm] at hof⟩

theorem parse_encodePage (echo : UInt8) (total sequence : Nat) (records : List Bytes) (rest : Bytes)
    (htotal : 0 < total ∧ total < 65536) (hsequence : sequence < 65536)
    (hrecords : ∀ record ∈ records, 8 ≤ record.length ∧ record.length ≤ 255) (hrest : Unfinished rest) :
    parseOperateLogResponse (echo :: responseSuccess :: (encodePage total sequence records ++ rest)) =
      (·, sequence) <$> recordEntries sequence 0 records := by
  have htake : (encodePage total sequence records ++ rest).take 2 = toBytesBig 2 total := by
    simp [encodePage]
  have hslice : slice (encodePage total sequence records ++ rest) 2 4 = toBytesBig 2 sequence := by
    have := slice_middle (toBytesBig 2 total) (toBytesBig 2 sequence) (records.flatMap encodeRecord ++ rest)
    simpa [encodePage] using this
  have hfull : ¬ IsEmptyPage (encodePage total sequence records ++ rest) := by
    unfold IsEmptyPage
    rw [htake, fromBytesBig_toBytesBig 2 total htotal.2]
    simp [encodePage]
    omega
  have hwalk :=
    entriesAt_records sequence 0 (toBytesBig 2 total ++ toBytesBig 2 sequence) rest records hrecords hrest
  have hhead : (toBytesBig 2 total ++ toBytesBig 2 sequence).length = 4 := by simp
  rw [hhead] at hwalk
  rw [parseOperateLogResponse_eq, if_neg hfull, hslice, fromBytesBig_toBytesBig 2 sequence hsequence, encodePage,
    hwalk]

/-- **A page gives its records**, and one that is cut off after them changes nothing. -/
theorem parseOperateLogResponse_page (echo : UInt8) (total sequence : Nat) (records : List Bytes)
    (htotal : 0 < total ∧ total < 65536) (hsequence : sequence < 65536)
    (hrecords : ∀ record ∈ records, 8 ≤ record.length ∧ record.length ≤ 255) :
    ∃ entries,
      parseOperateLogResponse (echo :: responseSuccess :: encodePage total sequence records) =
        .ok (entries, sequence) ∧
      entries.length = records.length ∧
      (∀ i record, records[i]? = some record →
        ∃ entry, entries[i]? = some entry ∧ EntryOf sequence i record entry) ∧
      ∀ len tail, tail.length < len.toNat →
        parseOperateLogResponse (echo :: responseSuccess :: (encodePage total sequence records ++ len :: tail)) =
          .ok (entries, sequence) := by
  obtain ⟨entries, hentries, hlength, hall⟩ := recordEntries_ok sequence 0 records fun r hr => (hrecords r hr).1
  have hparse (rest : Bytes) (hrest : Unfinished rest) :
      parseOperateLogResponse (echo :: responseSuccess :: (encodePage total sequence records ++ rest)) =
        .ok (entries, sequence) := by
    rw [parse_encodePage echo total sequence records rest htotal hsequence hrecords hrest, hentries]
    rfl
  refine ⟨entries, ?_, hlength, ?_, ?_⟩
  · have h := hparse [] (by rintro len tail ⟨⟩)
    rwa [List.append_nil] at h
  · intro i record hi
    obtain ⟨entry, hentry, hof⟩ := hall i record hi
    exact ⟨entry, hentry, by rwa [Nat.zero_add] at hof⟩
  · intro len tail htail
    apply hparse
    rintro len' tail' heq
    obtain ⟨rfl, rfl⟩ := List.cons.inj heq
    exact htail

theorem parseOperateLogResponse_page_two :
    ∃ entries,
      parseOperateLogResponse (0x25 :: responseSuccess ::
        encodePage 28 7 [[55, 26, 7, 14, 12, 30, 5, 90, 1, 2, 3, 4, 5, 6], [30, 26, 13, 14, 12, 30, 5, 89, 42]]) =
        .ok (entries, 7) ∧ entries.length = 2 := by
  obtain ⟨entries, hparse, hlength, -⟩ := parseOperateLogResponse_page 0x25 28 7
    [[55, 26, 7, 14, 12, 30, 5, 90, 1, 2, 3, 4, 5, 6], [30, 26, 13, 14, 12, 30, 5, 89, 42]] (by decide) (by decide)
    (by decide)
  exact ⟨entries, hparse, hlength⟩

/-! ## The bytes that decide an entry -/

theorem recordSpans_cons (data : Bytes) (idx : Nat) (span : Span) (spans : List Span)
    (h : recordSpans data idx = span :: spans) :
    ∃ len, data[idx]? = some len ∧ span = ⟨idx + 1, len.toNat⟩ ∧ span.stop ≤ data.length ∧
      spans = recordSpans data span.stop := by
  rcases Nat.lt_or_ge idx data.length with hlt | hge
  · rcases Nat.lt_or_ge data.length (idx + 1 + data[idx].toNat) with hlong | hfits
    · rw [recordSpans_long data idx hlt hlong] at h
      cases h
    · rw [recordSpans_step data idx hlt hfits, List.cons.injEq] at h
      obtain ⟨rfl, rfl⟩ := h
      exact ⟨data[idx], List.getElem?_eq_getElem hlt, rfl, hfits, rfl⟩
  · rw [recordSpans_end data idx hge] at h
    cases h

theorem recordSpans_of_len (data : Bytes) (idx : Nat) (len : UInt8) (hlen : data[idx]? = some len)
    (hstop : idx + 1 + len.toNat ≤ data.length) :
    recordSpans data idx = ⟨idx + 1, len.toNat⟩ :: recordSpans data (idx + 1 + len.toNat) := by
  obtain ⟨hlt, rfl⟩ := List.getElem?_eq_some_iff.mp hlen
  exact recordSpans_step data idx hlt hstop

theorem recordSpans_mem (data : Bytes) (idx : Nat) (span : Span) (h : span ∈ recordSpans data idx) :
    ∃ i len, idx ≤ i ∧ data[i]? = some len ∧ span = ⟨i + 1, len.toNat⟩ ∧ span.stop ≤ data.length := by
  generalize hspans : recordSpans data idx = spans at h
  induction spans generalizing idx with
  | nil => cases h
  | cons first spans ih =>
    obtain ⟨len, hlen, hfirst, hstop, hrest⟩ := recordSpans_cons data idx first spans hspans
    rcases List.mem_cons.mp h with rfl | hmem
    · exact ⟨idx, len, Nat.le_refl _, hlen, hfirst, hstop⟩
    · obtain ⟨i, l, hi, h'⟩ := ih first.stop hrest.symm hmem
      refine ⟨i, l, ?_, h'⟩
      simp only [hfirst, Span.stop] at hi
      omega

/-- The two pages have one length and are the same up to the end of a record. -/
structure SameUpTo (stop : Nat) (data data' : Bytes) : Prop where
  length : data'.length = data.length
  take : data'.take stop = data.take stop

theorem SameUpTo.getElem? {stop : Nat} {data data' : Bytes} (h : SameUpTo stop data data') {i : Nat}
    (hi : i < stop) : data'[i]? = data[i]? := by
  rw [← List.getElem?_take_of_lt hi, h.take, List.getElem?_take_of_lt hi]

theorem SameUpTo.slice {stop : Nat} {data data' : Bytes} (h : SameUpTo stop data data') (a : Nat) {b : Nat}
    (hb : b ≤ stop) : slice data' a b = slice data a b := by
  have htake : data'.take b = data.take b := by
    rw [← Nat.min_eq_left hb, ← List.take_take, h.take, List.take_take]
  unfold Lib.slice
  rw [htake]

section Changed

variable {data data' : Bytes} {span : Span} (hsame : SameUpTo span.stop data data')
include hsame

theorem recordSpans_same_step (idx i : Nat) (hspan : (recordSpans data idx)[i]? = some span) :
    ∃ first spans, recordSpans data idx = first :: spans ∧ spans = recordSpans data first.stop ∧
      recordSpans data' idx = first :: recordSpans data' first.stop := by
  obtain ⟨first, spans, hcons⟩ : ∃ first spans, recordSpans data idx = first :: spans := by
    apply List.exists_cons_of_ne_nil
    rintro hnil
    rw [hnil] at hspan
    cases hspan
  obtain ⟨len, hlen, hfirst, hstop, hrest⟩ := recordSpans_cons data idx first spans hcons
  obtain ⟨j, _, hj, -, hspan', -⟩ := recordSpans_mem data idx span (List.mem_of_getElem? hspan)
  have hlt : idx < span.stop := by
    simp only [hspan', Span.stop]
    omega
  refine ⟨first, spans, hcons, hrest, ?_⟩
  have hlen' := hsame.getElem? hlt
  rw [hlen] at hlen'
  have hstop' : idx + 1 + len.toNat ≤ data'.length := by
    rw [hsame.length]
    rwa [hfirst] at hstop
  rw [recordSpans_of_len data' idx len hlen' hstop', hfirst]
  rfl

theorem recordSpans_same (idx i : Nat) (hspan : (recordSpans data idx)[i]? = some span) :
    (recordSpans data' idx)[i]? = some span := by
  induction i generalizing idx with
  | zero =>
    obtain ⟨first, spans, hcons, -, hcons'⟩ := recordSpans_same_step hsame idx 0 hspan
    rw [hcons] at hspan
    rwa [hcons']
  | succ i ih =>
    obtain ⟨first, spans, hcons, hrest, hcons'⟩ := recordSpans_same_step hsame idx (i + 1) hspan
    rw [hcons, hrest] at hspan
    rw [hcons']
    exact ih first.stop hspan

theorem recordSpans_filled (hfill : ∀ j b, span.stop ≤ j → data'[j]? = some b → 8 ≤ b.toNat) (idx i : Nat)
    (hspan : (recordSpans data idx)[i]? = some span) :
    ∀ s ∈ recordSpans data' idx, s ∈ recordSpans data idx ∨ 8 ≤ s.len := by
  induction i generalizing idx with
  | zero =>
    obtain ⟨first, spans, hcons, -, hcons'⟩ := recordSpans_same_step hsame idx 0 hspan
    rw [hcons] at hspan
    obtain rfl := Option.some.inj hspan
    rw [hcons, hcons']
    intro s hs
    rcases List.mem_cons.mp hs with rfl | hs
    · exact .inl List.mem_cons_self
    · obtain ⟨j, len, hj, hlen, rfl, -⟩ := recordSpans_mem data' _ s hs
      exact .inr (hfill j len hj hlen)
  | succ i ih =>
    obtain ⟨first, spans, hcons, hrest, hcons'⟩ := recordSpans_same_step hsame idx (i + 1) hspan
    rw [hcons, hrest] at hspan
    rw [hcons, hcons', hrest]
    intro s hs
    rcases List.mem_cons.mp hs with rfl | hs
    · exact .inl List.mem_cons_self
    · exact (ih first.stop hspan s hs).imp_left (List.mem_cons_of_mem _)

theorem mem_recordSpans_behind (idx i : Nat) (hspan : (recordSpans data idx)[i]? = some span) :
    ∀ s ∈ recordSpans data' span.stop, s ∈ recordSpans data' idx := by
  induction i generalizing idx with
  | zero =>
    obtain ⟨first, spans, hcons, -, hcons'⟩ := recordSpans_same_step hsame idx 0 hspan
    rw [hcons] at hspan
    obtain rfl := Option.some.inj hspan
    rw [hcons']
    exact fun s hs => List.mem_cons_of_mem _ hs
  | succ i ih =>
    obtain ⟨first, spans, hcons, hrest, hcons'⟩ := recordSpans_same_step hsame idx (i + 1) hspan
    rw [hcons, hrest] at hspan
    rw [hcons']
    exact fun s hs => List.mem_cons_of_mem _ (ih first.stop hspan s hs)

end Changed

/-- Zeros are records of length zero, and the last one begins where the page ends. -/
theorem recordSpans_zeros (data : Bytes) (stop n idx : Nat) (hzero : ∀ j b, stop ≤ j → data[j]? = some b → b = 0)
    (hidx : stop ≤ idx) (hlength : data.length = idx + n + 1) : ⟨data.length, 0⟩ ∈ recordSpans data idx := by
  have hstep (k : Nat) (hk : stop ≤ k) (hlt : k < data.length) :
      recordSpans data k = ⟨k + 1, 0⟩ :: recordSpans data (k + 1) := by
    have hlen := List.getElem?_eq_getElem hlt
    rw [hzero k _ hk hlen] at hlen
    exact recordSpans_of_len data k 0 hlen hlt
  induction n generalizing idx with
  | zero =>
    rw [hstep idx hidx (by omega), hlength]
    exact List.mem_cons_self
  | succ n ih =>
    rw [hstep idx hidx (by omega)]
    exact List.mem_cons_of_mem _ (ih (idx + 1) (by omega) (by omega))

theorem entryAt_ok (data : Bytes) (sequence k : Nat) (span : Span) (entry : LogEntry)
    (h : entryAt data sequence k span = .ok entry) : data[span.start + 7]? = some entry.lockBattery := by
  have hbattery : Returns (fun e => data[span.start + 7]? = some e.lockBattery) (entryAt data sequence k span) := by
    unfold entryAt
    simp only [LogTails.decodeLogRecord_eq, Returns.returns_bind, Returns.returns_pure]
    intro _ _ battery hbyte _ _
    unfold byteAt at hbyte
    split at hbyte
    · rename_i b hb
      obtain rfl := Except.ok.inj hbyte
      exact hb
    · cases hbyte
  exact hbattery entry h

theorem entryAt_returns (data : Bytes) (sequence k : Nat) (span : Span) (h : span.start + 8 ≤ data.length) :
    ∃ entry, entryAt data sequence k span = .ok entry := by
  unfold entryAt
  rw [Parsers.byteAt_of_lt _ _ (by omega), Parsers.byteAt_of_lt _ _ (by omega)]
  exact Raises.exists_ok (Parsers.decodeLogRecord_total _ _ _ _ _ _ _)

theorem entriesAt_returns (data : Bytes) (sequence k : Nat) (spans : List Span)
    (h : ∀ span ∈ spans, span.start + 8 ≤ data.length) :
    ∃ entries, entriesAt data sequence k spans = .ok entries := by
  induction spans generalizing k with
  | nil => exact ⟨[], rfl⟩
  | cons span spans ih =>
    obtain ⟨hspan, hothers⟩ := List.forall_mem_cons.mp h
    obtain ⟨entry, hentry⟩ := entryAt_returns data sequence k span hspan
    obtain ⟨entries, hentries⟩ := ih (k + 1) hothers
    refine ⟨entry :: entries, ?_⟩
    rw [entriesAt, hentry, hentries]
    rfl

theorem entriesAt_get (data : Bytes) (sequence k : Nat) (spans : List Span) (entries : List LogEntry)
    (h : entriesAt data sequence k spans = .ok entries) (i : Nat) (span : Span) (hspan : spans[i]? = some span) :
    ∃ entry, entries[i]? = some entry ∧ entryAt data sequence (k + i) span = .ok entry := by
  obtain ⟨hlen, hall⟩ := entriesAt_ok data sequence k spans entries h
  have hi : i < entries.length := hlen ▸ (List.getElem?_eq_some_iff.mp hspan).1
  have hentry := List.getElem?_eq_getElem hi
  exact ⟨_, hentry, hall i span _ hspan hentry⟩

theorem entriesAt_room (data : Bytes) (sequence k : Nat) (spans : List Span) (entries : List LogEntry)
    (h : entriesAt data sequence k spans = .ok entries) (span : Span) (hmem : span ∈ spans) :
    span.start + 8 ≤ data.length := by
  obtain ⟨i, hi⟩ := List.mem_iff_getElem?.mp hmem
  obtain ⟨entry, -, hat⟩ := entriesAt_get data sequence k spans entries h i span hi
  exact (List.getElem?_eq_some_iff.mp (entryAt_ok _ _ _ _ _ hat)).1

/-- The page with one byte all over from `stop` on. -/
def fill (stop : Nat) (v : UInt8) (data : Bytes) : Bytes :=
  data.take stop ++ List.replicate (data.length - stop) v

theorem sameUpTo_fill (data : Bytes) (v : UInt8) {stop : Nat} (h : stop ≤ data.length) :
    SameUpTo stop data (fill stop v data) := by
  constructor
  · simp [fill]
    omega
  · exact List.take_left' (by simp [h])

theorem getElem?_fill (data : Bytes) (v : UInt8) {stop j : Nat} (hj : stop ≤ j)
    {b : UInt8} (hb : (fill stop v data)[j]? = some b) : b = v := by
  rw [fill, List.getElem?_append_right (by simp; omega)] at hb
  exact List.eq_of_mem_replicate (List.mem_of_getElem? hb)

theorem exists_other_long (b : UInt8) : ∃ v : UInt8, b ≠ v ∧ 8 ≤ v.toNat := by
  by_cases h : b = 255
  · exact ⟨254, by rw [h]; decide, by decide⟩
  · exact ⟨255, h, by decide⟩

/-- Whatever the bytes behind the record are changed to, the page has this entry. -/
def Determined (echo : UInt8) (data : Bytes) (span : Span) (i : Nat) (entry : LogEntry) : Prop :=
  ∀ data', SameUpTo span.stop data data' → ∃ entries' sequence',
    parseOperateLogResponse (echo :: responseSuccess :: data') = .ok (entries', sequence') ∧ entries'[i]? = some entry

/-- The same of those changed pages for which the parser does not raise. -/
def Unchanged (echo : UInt8) (data : Bytes) (span : Span) (i : Nat) (entry : LogEntry) : Prop :=
  ∀ data' entries' sequence', SameUpTo span.stop data data' →
    parseOperateLogResponse (echo :: responseSuccess :: data') = .ok (entries', sequence') →
    entries'[i]? = some entry

theorem Determined.unchanged {echo : UInt8} {data : Bytes} {span : Span} {i : Nat} {entry : LogEntry}
    (h : Determined echo data span i entry) : Unchanged echo data span i entry := by
  intro data' entries' sequence' hsame hparse'
  obtain ⟨entries, sequence, hparse, hentry⟩ := h data' hsame
  rw [hparse'] at hparse
  obtain ⟨rfl, -⟩ := Prod.mk.inj (Except.ok.inj hparse)
  exact hentry

section Entry

variable {echo : UInt8} {data : Bytes} {entries : List LogEntry} {sequence i : Nat} {entry : LogEntry}
  {span : Span}
  (hparse : parseOperateLogResponse (echo :: responseSuccess :: data) = .ok (entries, sequence))
  (hentry : entries[i]? = some entry)
include hparse hentry

theorem exists_span : ∃ span, (recordSpans data 4)[i]? = some span ∧ entryAt data sequence i span = .ok entry := by
  obtain ⟨-, rfl, hentries⟩ := parseOperateLogResponse_ok echo data entries sequence hparse
    (List.ne_nil_of_mem (List.mem_of_getElem? hentry))
  obtain ⟨hlen, hall⟩ := entriesAt_ok _ _ _ _ _ hentries
  have hi : i < (recordSpans data 4).length := hlen ▸ (List.getElem?_eq_some_iff.mp hentry).1
  have hspan := List.getElem?_eq_getElem hi
  have hat := hall i _ entry hspan hentry
  rw [Nat.zero_add] at hat
  exact ⟨_, hspan, hat⟩

theorem changed_page (hspan : (recordSpans data 4)[i]? = some span) {data' : Bytes}
    (hsame : SameUpTo span.stop data data') :
    ¬ IsEmptyPage data' ∧ fromBytesBig (slice data' 2 4) = sequence := by
  obtain ⟨hfull, rfl, -⟩ := parseOperateLogResponse_ok echo data entries sequence hparse
    (List.ne_nil_of_mem (List.mem_of_getElem? hentry))
  obtain ⟨j, len, hj, -, rfl, -⟩ := recordSpans_mem data 4 span (List.mem_of_getElem? hspan)
  have hstop : 4 ≤ Span.stop ⟨j + 1, len.toNat⟩ := by
    simp only [Span.stop]
    omega
  have htotal := hsame.slice 0 (show 2 ≤ _ by omega)
  rw [slice, slice, List.drop_zero, List.drop_zero] at htotal
  refine ⟨?_, by rw [hsame.slice 2 hstop]⟩
  unfold IsEmptyPage at hfull ⊢
  rwa [hsame.length, htotal]

theorem unchanged_of_room (hspan : (recordSpans data 4)[i]? = some span)
    (hat : entryAt data sequence i span = .ok entry) (hlen : 8 ≤ span.len) :
    Unchanged echo data span i entry := by
  intro data' entries' sequence' hsame hparse'
  obtain ⟨hfull, hsequence⟩ := changed_page hparse hentry hspan hsame
  have hspan' := recordSpans_same hsame 4 i hspan
  obtain ⟨rfl, hentries'⟩ := (parseOperateLogResponse_full echo data' hfull entries' sequence').mp hparse'
  rw [hsequence] at hentries'
  obtain ⟨entry', hentry', hat'⟩ := entriesAt_get _ _ _ _ _ hentries' i span hspan'
  rw [Nat.zero_add, entryAt_eq _ _ _ _ hlen, hsame.slice _ (Nat.le_refl _), ← entryAt_eq _ _ _ _ hlen, hat] at hat'
  rw [hentry', Except.ok.inj hat']

/-- A shorter record has its battery byte outside: a page changed there has another entry. -/
theorem not_unchanged_of_short (hspan : (recordSpans data 4)[i]? = some span) (hlen : span.len < 8) :
    ¬ Unchanged echo data span i entry := by
  intro hdet
  obtain ⟨-, -, hentries⟩ := parseOperateLogResponse_ok echo data entries sequence hparse
    (List.ne_nil_of_mem (List.mem_of_getElem? hentry))
  obtain ⟨v, hv, hlong⟩ := exists_other_long entry.lockBattery
  have hstop : span.stop ≤ data.length := by
    obtain ⟨_, _, -, -, -, hstop⟩ := recordSpans_mem data 4 span (List.mem_of_getElem? hspan)
    exact hstop
  have hsame := sameUpTo_fill data v hstop
  have hroom : ∀ s ∈ recordSpans (fill span.stop v data) 4, s.start + 8 ≤ (fill span.stop v data).length := by
    intro s hs
    rcases recordSpans_filled hsame (fun j b hj hb => by rwa [getElem?_fill data v hj hb]) 4 i hspan s hs
      with hold | hlen8
    · rw [hsame.length]
      exact entriesAt_room _ _ _ _ _ hentries s hold
    · obtain ⟨_, _, -, -, -, hfits⟩ := recordSpans_mem _ 4 s hs
      rw [Span.stop] at hfits
      omega
  obtain ⟨hfull, hsequence⟩ := changed_page hparse hentry hspan hsame
  obtain ⟨entries', hentries'⟩ := entriesAt_returns (fill span.stop v data) sequence 0 _ hroom
  have hparse' := (parseOperateLogResponse_full echo _ hfull entries' sequence).mpr ⟨hsequence.symm, hentries'⟩
  have hkept := hdet _ entries' sequence hsame hparse'
  have hat' := (entriesAt_ok _ _ _ _ _ hentries').2 i span entry (recordSpans_same hsame 4 i hspan) hkept
  have hbattery := entryAt_ok _ _ _ _ _ hat'
  exact hv (getElem?_fill data v (by rw [Span.stop]; omega) hbattery)

/-- With zeros behind the record, the last of them is a record that raises. -/
theorem not_determined_of_behind (hspan : (recordSpans data 4)[i]? = some span) (hbehind : span.stop < data.length) :
    ¬ Determined echo data span i entry := by
  intro hdet
  have hsame := sameUpTo_fill data 0 hbehind.le
  obtain ⟨entries', sequence', hparse', -⟩ := hdet _ hsame
  obtain ⟨hfull, -⟩ := changed_page hparse hentry hspan hsame
  obtain ⟨-, hentries'⟩ := (parseOperateLogResponse_full echo _ hfull entries' sequence').mp hparse'
  have hlength : (fill span.stop 0 data).length = span.stop + (data.length - span.stop - 1) + 1 := by
    rw [hsame.length]
    omega
  have hlast := recordSpans_zeros _ span.stop _ _ (fun j b hj => getElem?_fill data 0 hj) (Nat.le_refl _) hlength
  have hroom := entriesAt_room _ _ _ _ _ hentries' _ (mem_recordSpans_behind hsame 4 i hspan _ hlast)
  simp at hroom

theorem determined_of_last (hlast : span.stop = data.length) :
    Determined echo data span i entry := by
  intro data' hsame
  have hdata : data' = data := by
    have htake := hsame.take
    rwa [hlast, List.take_length, ← hsame.length, List.take_length] at htake
  exact ⟨entries, sequence, hdata ▸ hparse, hentry⟩

end Entry

/-- **Where an entry comes from.** Its record alone decides it exactly if nothing lies behind the record, for
a record further down can raise. Where none does, it is decided exactly if the record has room for its fixed
head of eight bytes. -/
theorem entry_determined_iff (echo : UInt8) (data : Bytes) (entries : List LogEntry) (sequence i : Nat)
    (entry : LogEntry)
    (hparse : parseOperateLogResponse (echo :: responseSuccess :: data) = .ok (entries, sequence))
    (hentry : entries[i]? = some entry) :
    ∃ span, (recordSpans data 4)[i]? = some span ∧
      (Determined echo data span i entry ↔ span.stop = data.length) ∧
      (Unchanged echo data span i entry ↔ 8 ≤ span.len) := by
  obtain ⟨span, hspan, hat⟩ := exists_span hparse hentry
  have hfits : span.stop ≤ data.length := by
    obtain ⟨_, _, -, -, -, hstop⟩ := recordSpans_mem data 4 span (List.mem_of_getElem? hspan)
    exact hstop
  refine ⟨span, hspan, ⟨fun hdet => ?_, determined_of_last hparse hentry⟩, fun hkept => ?_,
    unchanged_of_room hparse hentry hspan hat⟩
  · apply hfits.antisymm
    exact Nat.le_of_not_lt fun hbehind => not_determined_of_behind hparse hentry hspan hbehind hdet
  · exact Nat.le_of_not_lt fun hshort => not_unchanged_of_short hparse hentry hspan hshort hkept

theorem entry_determined_iff_fob :
    let page := encodePage 9 1 [[55, 26, 7, 14, 12, 30, 5, 90]]
    ∃ entries entry, parseOperateLogResponse (0x25 :: responseSuccess :: page) = .ok (entries, 1) ∧
      entries[0]? = some entry ∧
      ∃ span, (recordSpans page 4)[0]? = some span ∧
        (Determined 0x25 page span 0 entry ↔ span.stop = page.length) ∧
        (Unchanged 0x25 page span 0 entry ↔ 8 ≤ span.len) := by
  intro page
  let records : List Bytes := [[55, 26, 7, 14, 12, 30, 5, 90]]
  have hrecords : ∀ record ∈ records, 8 ≤ record.length ∧ record.length ≤ 255 := by decide
  obtain ⟨entries, hentries, -, hall⟩ := recordEntries_ok 1 0 records fun r hr => (hrecords r hr).1
  have hparse : parseOperateLogResponse (0x25 :: responseSuccess :: page) = .ok (entries, 1) := by
    have h := parse_encodePage 0x25 9 1 records [] (by decide) (by decide) hrecords (by rintro len tail ⟨⟩)
    rw [List.append_nil, hentries] at h
    exact h
  obtain ⟨entry, hentry, -⟩ := hall 0 _ rfl
  exact ⟨entries, entry, hparse, hentry, entry_determined_iff 0x25 page entries 1 0 entry hparse hentry⟩

/-- A record of length zero is reported with the battery level that lies behind it. -/
theorem entry_not_determined :
    ¬ ∀ echo data entries sequence i entry span,
      parseOperateLogResponse (echo :: responseSuccess :: data) = .ok (entries, sequence) →
      entries[i]? = some entry → (recordSpans data 4)[i]? = some span → Determined echo data span i entry := by
  intro h
  let data : Bytes := [0, 9, 0, 1, 0, 255, 0, 0, 0, 0, 0, 0, 90]
  let entry : LogEntry := ⟨0, 255, none, 90, {}⟩
  have hspans : recordSpans data 4 = [⟨5, 0⟩] := by
    have hlast : recordSpans data 5 = [] := recordSpans_long data 5 (by decide) (by decide)
    rw [recordSpans_of_len data 4 0 rfl (by decide)]
    exact congrArg _ hlast
  have hparse : parseOperateLogResponse (0x25 :: responseSuccess :: data) = .ok ([entry], 1) := by
    rw [parseOperateLogResponse_full 0x25 data (by decide), hspans]
    exact ⟨rfl, rfl⟩
  have hspan : (recordSpans data 4)[0]? = some ⟨5, 0⟩ := by
    rw [hspans]
    rfl
  exact not_unchanged_of_short hparse rfl hspan (by decide) (h _ _ _ _ _ _ _ hparse rfl hspan).unchanged

end TtlockBle.LogPages
