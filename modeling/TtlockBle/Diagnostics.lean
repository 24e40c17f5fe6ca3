import TtlockBle.Code.Diagnostics
import TtlockBle.Lock
import TtlockBle.PasscodeList
import TtlockBle.Payloads

/-!
# Credentials in diagnostics

Two replies that differ in their credentials only: what is logged, and what is raised where both
raise, is the same. So it is for whole scans, whose last line counts the entries.
-/

open TtlockBle.Lib

namespace TtlockBle.Diagnostics

open Parsers PasscodeList

/-! ## What a lock keeps to itself -/

/-- A byte of `new_pwd` or `pwd`, which can be cut off by the end of the data, or behind the trailer. -/
def PasscodeByte (data : Bytes) (i : Nat) : Prop :=
  (7 ≤ i ∧ i < 7 + newPwdLength data) ∨ (8 + newPwdLength data ≤ i ∧ i < trailerOffset data) ∨
    ∃ pwdType n, KeyboardPwdType.trailerLength (data.getD 5 0) = some (pwdType, n) ∧ trailerOffset data + n ≤ i

/-- A byte of `card_id`. In data of another length than that of an entry, every byte is one. -/
def CardByte (data : Bytes) (i : Nat) : Prop :=
  ∀ n, cardIdLength data.length = some n → 4 ≤ i ∧ i < 4 + n

/-- The same length, echo and status, and after a success the same bytes but for the credentials. -/
def SameButFor (credential : Bytes → Nat → Prop) (x y : Bytes) : Prop :=
  x.length = y.length ∧ x.take 2 = y.take 2 ∧
    (x.getD 1 0 = responseSuccess → ∀ i, ¬ credential (x.drop 2) i → (x.drop 2)[i]? = (y.drop 2)[i]?)

/-- Nothing tells the two replies apart that is logged, or raised for both. -/
structure SameDiagnostics {α : Type} (label : String) (parser turn : Bytes → Logged α) (x y : Bytes) : Prop where
  parserLines : (parser x).lines = (parser y).lines
  turnLines : (turn x).lines = (turn y).lines
  errors : ∀ e e', (parser x).outcome = .error e → (parser y).outcome = .error e' →
    e.text = e'.text ∧ ∀ plain ∈ [x, y],
      (turn plain).outcome = .error (ttLockError (s!"Failed to {label}: " ++ e.text))

/-! ## Logging changes nothing else -/

section Logged

variable {α β : Type}

@[simp]
theorem outcome_bind (x : Logged α) (f : α → Logged β) :
    (x >>= f).outcome = x.outcome >>= fun a => (f a).outcome := by
  show (x.bind f).outcome = _
  unfold Logged.bind
  cases x.outcome <;> rfl

@[simp]
theorem outcome_pure (a : α) : (pure a : Logged α).outcome = pure a := rfl

@[simp]
theorem outcome_raise (e : PyExc) : (Logged.raise e : Logged α).outcome = throw e := rfl

@[simp]
theorem outcome_lift (x : Py α) : (liftM x : Logged α).outcome = x := rfl

@[simp]
theorem outcome_ite (c : Prop) [Decidable c] (x y : Logged α) :
    (if c then x else y).outcome = if c then x.outcome else y.outcome := by
  split <;> rfl

end Logged

theorem parsePasscodeListResponse_outcome (plaintext : Bytes) :
    (Logged.parsePasscodeListResponse plaintext).outcome = parsePasscodeListResponse plaintext := by
  unfold Logged.parsePasscodeListResponse parsePasscodeListResponse
  rw [outcome_bind]
  refine bind_congr fun envelope => ?_
  simp
  split
  · split
    · rfl
    split
    · rfl
    refine bind_congr fun value => ?_
    cases KeyboardPwdType.trailerLength value with
    | none => rfl
    | some found => simp
  · rfl

theorem lines_bind_ok {α β : Type} (x : Logged α) (f : α → Logged β) (a : α) (h : x.outcome = .ok a) :
    (x >>= f).lines = x.lines ++ (f a).lines := by
  show (x.bind f).lines = _
  rw [Logged.bind, h]

theorem lines_bind_quiet {α β : Type} (x : Logged α) (f : α → Logged β) (hx : x.lines = [])
    (hf : ∀ a, (f a).lines = []) : (x >>= f).lines = [] := by
  show (x.bind f).lines = _
  unfold Logged.bind
  cases x.outcome with
  | error e => exact hx
  | ok a => simp [hx, hf a]

def skippedLine : LogRecord :=
  ⟨.warning, "Skipping a keypad code entry: no confirmed trailer layout for its type"⟩

theorem parsePasscodeListResponse_lines (echo status : UInt8) (data : Bytes) :
    (Logged.parsePasscodeListResponse (echo :: status :: data)).lines =
      if status = responseSuccess ∧ 8 ≤ data.length ∧ KeyboardPwdType.trailerLength (data.getD 5 0) = none then
        [skippedLine] else [] := by
  unfold Logged.parsePasscodeListResponse
  rw [lines_bind_ok _ _ (echo, status, data) rfl]
  show [] ++ (if status ≠ responseSuccess then _ else _ : Logged _).lines = _
  rw [List.nil_append]
  by_cases hstatus : status = responseSuccess
  swap
  · rw [if_pos hstatus]
    simp [hstatus]
    rfl
  rw [if_neg (not_not.mpr hstatus)]
  rcases Nat.lt_or_ge data.length 8 with hshort | hlong
  · have hitem : (data.drop 4).length < 4 := by
      rw [List.length_drop]
      omega
    have hshort : ¬ 8 ≤ data.length := by omega
    simp only [if_pos hitem, hshort, false_and, and_false, if_false]
    split <;> rfl
  have hheader : ¬ data.length < 4 := by omega
  have hitem : ¬ (data.drop 4).length < 4 := by
    rw [List.length_drop]
    omega
  simp only [if_neg hheader, if_neg hitem]
  rw [lines_bind_ok _ _ (data.getD 5 0) (byteAt_drop data 4 1 (by omega))]
  cases KeyboardPwdType.trailerLength (data.getD 5 0) with
  | none => simp [hstatus, hlong]; rfl
  | some found =>
    simp only [reduceCtorEq, and_false, if_false]
    refine lines_bind_quiet _ _ rfl fun newPwdLength => ?_
    split
    · rfl
    refine lines_bind_quiet _ _ rfl fun pwdLength => ?_
    split
    · rfl
    refine lines_bind_quiet _ _ rfl fun validity => ?_
    exact lines_bind_quiet _ _ rfl fun passcode => rfl

/-! ## One turn of a loop -/

section Turn

variable {α : Type} (what label : String) (parser : Bytes → Logged α)

theorem turn_lines (plain : Bytes) : (Logged.turn what label parser plain).lines =
    ⟨.debug, s!"{what} response: length={plain.length}"⟩ :: (parser plain).lines := rfl

theorem turn_outcome (plain : Bytes) : (Logged.turn what label parser plain).outcome =
    raiseAsTTLockError PyExc.isRuntimeOrValueError (s!"Failed to {label}: " ++ ·) (parser plain).outcome := rfl

theorem sameDiagnostics_turn (x y : Bytes) (hlength : x.length = y.length)
    (hlines : (parser x).lines = (parser y).lines)
    (hraises : ∀ plain, Raises IsRuntimeOrValueError (parser plain).outcome)
    (herrors : ∀ e e', (parser x).outcome = .error e → (parser y).outcome = .error e' → e = e') :
    SameDiagnostics label parser (Logged.turn what label parser) x y := by
  refine ⟨hlines, ?_, ?_⟩
  · rw [turn_lines, turn_lines, hlength, hlines]
  · intro e e' hx hy
    obtain rfl := herrors e e' hx hy
    refine ⟨rfl, fun plain hplain => ?_⟩
    have hplain : (parser plain).outcome = .error e := by
      rcases List.mem_pair.mp hplain with rfl | rfl
      · exact hx
      · exact hy
    rw [turn_outcome, hplain]
    exact if_pos (hraises plain e hplain)

end Turn

theorem passcodePages_turn (self : TTLockClient) (attempts sequence : Nat) (entries : List PasscodeEntry) :
    self.passcodePages (attempts + 1) sequence entries = (do
      let plain ← self.roundTrip cmdGetPasscodes (← payloadPasscodeList sequence) "get_passcodes"
      let parsed ← (Logged.getPasscodesTurn plain).outcome
      if parsed.2 = 0 then
        return entries ++ parsed.1.toList
      self.passcodePages attempts parsed.2 (entries ++ parsed.1.toList)) := by
  rw [TTLockClient.passcodePages]
  simp only [Logged.getPasscodesTurn, turn_outcome, parsePasscodeListResponse_outcome]
  rfl

theorem listingPages_turn (self : TTLockClient) (left index : Nat) (entries : List CardEntry) :
    self.listingPages TTLockClient.cardListing (left + 1) index entries = (do
      let plain ← self.roundTrip cmdManageIcCard (← payloadCardList index) "get_cards"
      let entry ← (Logged.getCardsTurn plain).outcome
      entry.elim (return entries) fun entry =>
        self.listingPages TTLockClient.cardListing left (index + 1) (entries ++ [entry])) := by
  rw [TTLockClient.listingPages]
  refine bind_congr fun request => bind_congr fun plain => bind_congr fun entry => ?_
  cases entry <;> rfl

/-! ## The scans of the client -/

/-- The replies to a command come in this order. -/
structure Numbered (client : TTLockClient) (lock : Lock Nat) (command : Int) (reply : Nat → Bytes) :
    Prop where
  replies : ∀ k payload, lock.Replies client k command payload (reply k)
  next : ∀ k payload, lock.next k command payload = k + 1

section Scans

variable {client : TTLockClient} {lock : Lock Nat} {reply : Nat → Bytes}

theorem play_passcodePages (h : Numbered client lock cmdGetPasscodes reply) (left sequence : Nat)
    (hsequence : sequence < 65536) (s : Session Nat) (entries : List PasscodeEntry) :
    (lock.play s (client.passcodePages left sequence entries)).2 =
      some (Logged.scanPages Logged.passcodeScan reply left s.lock entries).outcome := by
  induction left generalizing s sequence entries with
  | zero => rfl
  | succ left ih =>
    have hpayload : payloadPasscodeList sequence = .ok (toBytesBig 2 sequence) :=
      Payloads.intToBytesBe_two sequence hsequence
    rw [passcodePages_turn, Lock.play_lift_bind hpayload,
      Lock.play_bind (Lock.play_roundTrip_replies (h.replies _ _) _), Logged.scanPages, outcome_bind]
    cases hpage : (Logged.getPasscodesTurn (reply s.lock)).outcome with
    | error e =>
      rw [show (Logged.passcodeScan.turn (reply s.lock)).outcome = .error e from hpage]
      rfl
    | ok page =>
      rw [show (Logged.passcodeScan.turn (reply s.lock)).outcome = .ok page from hpage, Lock.play_lift_bind rfl]
      obtain ⟨entry, nextSequence⟩ := page
      show _ = some (if decide (nextSequence = 0) then _ else _ : Logged _).outcome
      by_cases hlast : nextSequence = 0
      · rw [if_pos hlast, if_pos (decide_eq_true hlast)]
        rfl
      · have hparse : parsePasscodeListResponse (reply s.lock) = .ok (entry, nextSequence) := by
          rw [Logged.getPasscodesTurn, turn_outcome, parsePasscodeListResponse_outcome] at hpage
          exact (raiseAsTTLockError_eq_ok _ _ _ _).mp hpage
        have hnext : nextSequence < 65536 := parsePasscodeListResponse_sequence _ _ hparse
        rw [if_neg hlast, if_neg (by simpa using hlast), ih nextSequence hnext]
        show some (Logged.scanPages _ _ left (lock.next s.lock _ _) _).outcome = _
        rw [h.next]
        rfl

theorem play_cardPages (h : Numbered client lock cmdManageIcCard reply) (left index : Nat)
    (hindex : index + left ≤ 65536) (s : Session Nat) (entries : List CardEntry) :
    (lock.play s (client.listingPages TTLockClient.cardListing left index entries)).2 =
      some (Logged.scanPages Logged.cardScan reply left s.lock entries).outcome := by
  induction left generalizing s index entries with
  | zero => rfl
  | succ left ih =>
    have hpayload : payloadCardList index = .ok (cardListOperation :: toBytesBig 2 index) :=
      Payloads.payloadIndexed_eq cardListOperation index (by omega)
    rw [listingPages_turn, Lock.play_lift_bind hpayload,
      Lock.play_bind (Lock.play_roundTrip_replies (h.replies _ _) _), Logged.scanPages, outcome_bind]
    cases hpage : (Logged.getCardsTurn (reply s.lock)).outcome with
    | error e =>
      rw [show (Logged.cardScan.turn (reply s.lock)).outcome = .error e from hpage]
      rfl
    | ok page =>
      rw [show (Logged.cardScan.turn (reply s.lock)).outcome = .ok page from hpage, Lock.play_lift_bind rfl]
      cases page with
      | none =>
        show some (Except.ok entries : Py _) = some (Except.ok (entries ++ []))
        rw [List.append_nil]
      | some entry =>
        refine (ih (index + 1) (by omega) _ _).trans ?_
        show some (Logged.scanPages _ _ left (lock.next s.lock _ _) _).outcome = _
        rw [h.next]
        rfl

theorem runScan_outcome {α β : Type} (scan : Logged.Scan α β) :
    (Logged.runScan scan reply).outcome = (Logged.scanPages scan reply scan.cap 0 []).outcome := by
  unfold Logged.runScan
  rw [outcome_bind]
  cases (Logged.scanPages scan reply scan.cap 0 []).outcome <;> rfl

theorem play_getPasscodes (h : Numbered client lock cmdGetPasscodes reply) {s : Session Nat}
    {sent : List (Int × Bytes)} (hhandshake : lock.play s client.adminHandshake = (⟨0, sent⟩, some (.ok ()))) :
    (lock.play s client.getPasscodes).2 = some (Logged.getPasscodes reply).outcome := by
  unfold TTLockClient.getPasscodes Logged.getPasscodes
  rw [Lock.play_withCommandLock, Lock.play_bind hhandshake, runScan_outcome]
  exact play_passcodePages h _ 0 (by decide) _ _

theorem play_getCards (h : Numbered client lock cmdManageIcCard reply) {s : Session Nat}
    {sent : List (Int × Bytes)} (hhandshake : lock.play s client.adminHandshake = (⟨0, sent⟩, some (.ok ()))) :
    (lock.play s client.getCards).2 = some (Logged.getCards reply).outcome := by
  unfold TTLockClient.getCards TTLockClient.getListing Logged.getCards
  rw [Lock.play_withCommandLock, Lock.play_bind hhandshake, runScan_outcome]
  exact play_cardPages h _ 0 (by decide) _ _

end Scans

/-! ## Two scans -/

section SameRun

variable {α β : Type}

/-- The same lines, and the same exception or lists of the same length. -/
structure SameRun (x y : Logged (List β)) : Prop where
  lines : x.lines = y.lines
  errors : ∀ e, x.outcome = .error e ↔ y.outcome = .error e
  lengths : ∀ L L', x.outcome = .ok L → y.outcome = .ok L' → L.length = L'.length

/-- Two pages that a scan treats alike. -/
structure SamePage (scan : Logged.Scan α β) (x y : Bytes) : Prop where
  lines : (scan.turn x).lines = (scan.turn y).lines
  errors : ∀ e, (scan.turn x).outcome = .error e ↔ (scan.turn y).outcome = .error e
  pages : ∀ p q, (scan.turn x).outcome = .ok p → (scan.turn y).outcome = .ok q →
    (scan.entry p).isSome = (scan.entry q).isSome ∧ scan.last p = scan.last q

theorem lines_bind_error (x : Logged α) (f : α → Logged β) (e : PyExc) (h : x.outcome = .error e) :
    (x >>= f).lines = x.lines := by
  show (x.bind f).lines = _
  rw [Logged.bind, h]

theorem sameRun_bind {x y : Logged α} {f g : α → Logged (List β)} (hlines : x.lines = y.lines)
    (herrors : ∀ e, x.outcome = .error e ↔ y.outcome = .error e)
    (hok : ∀ p q, x.outcome = .ok p → y.outcome = .ok q → SameRun (f p) (g q)) :
    SameRun (x >>= f) (y >>= g) := by
  cases hx : x.outcome with
  | error e =>
    have hy := (herrors e).mp hx
    constructor
    · rw [lines_bind_error x f e hx, lines_bind_error y g e hy, hlines]
    · intro e'
      rw [outcome_bind, outcome_bind, hx, hy]
      rfl
    · intro L L' hL
      rw [outcome_bind, hx] at hL
      cases hL
  | ok p =>
    cases hy : y.outcome with
    | error e => exact absurd ((herrors e).mpr hy) (by rw [hx]; nofun)
    | ok q =>
      obtain ⟨hlines', herrors', hlengths'⟩ := hok p q hx hy
      constructor
      · rw [lines_bind_ok x f p hx, lines_bind_ok y g q hy, hlines, hlines']
      · intro e
        rw [outcome_bind, outcome_bind, hx, hy]
        exact herrors' e
      · intro L L' hL hL'
        rw [outcome_bind, hx] at hL
        rw [outcome_bind, hy] at hL'
        exact hlengths' L L' hL hL'

theorem sameRun_scanPages {scan : Logged.Scan α β} {reply reply' : Nat → Bytes}
    (h : ∀ k, SamePage scan (reply k) (reply' k)) (left k : Nat) (entries entries' : List β)
    (hlength : entries.length = entries'.length) :
    SameRun (Logged.scanPages scan reply left k entries) (Logged.scanPages scan reply' left k entries') := by
  induction left generalizing k entries entries' with
  | zero => exact ⟨rfl, fun _ => Iff.rfl, fun _ _ hL => by cases hL⟩
  | succ left ih =>
    apply sameRun_bind (h k).lines (h k).errors
    intro p q hp hq
    obtain ⟨hentry, hlast⟩ := (h k).pages p q hp hq
    have hlength' : (entries ++ (scan.entry p).toList).length =
        (entries' ++ (scan.entry q).toList).length := by
      rw [List.length_append, List.length_append, hlength, Option.length_toList, Option.length_toList, hentry]
    simp only [hlast]
    split
    · exact ⟨rfl, fun _ => by constructor <;> nofun, fun _ _ hL hL' => by cases hL; cases hL'; exact hlength'⟩
    · exact ih (k + 1) _ _ hlength'

theorem sameRun_runScan {scan : Logged.Scan α β} {reply reply' : Nat → Bytes}
    (h : ∀ k, SamePage scan (reply k) (reply' k)) :
    SameRun (Logged.runScan scan reply) (Logged.runScan scan reply') := by
  obtain ⟨hlines, herrors, hlengths⟩ := sameRun_scanPages h scan.cap 0 [] [] rfl
  apply sameRun_bind hlines herrors
  intro L L' hL hL'
  have hlength := hlengths L L' hL hL'
  constructor
  · show [LogRecord.mk _ s!"fetched {L.length} {scan.what}"] ++ [] = _
    rw [hlength]
    rfl
  · intro e
    constructor <;> nofun
  · intro M M' hM hM'
    cases hM
    cases hM'
    exact hlength

end SameRun

/-! ## Two replies -/

theorem short_or_split (x y : Bytes) (hlength : x.length = y.length) (henvelope : x.take 2 = y.take 2) :
    (x.length < 2 ∧ x = y) ∨
      ∃ echo status data data', x = echo :: status :: data ∧ y = echo :: status :: data' := by
  rcases Nat.lt_or_ge x.length 2 with hshort | hlong
  · left
    rw [List.take_of_length_le (by omega), List.take_of_length_le (by omega)] at henvelope
    exact ⟨hshort, henvelope⟩
  · right
    match x, y with
    | echo :: status :: data, echo' :: status' :: data' =>
      simp only [List.take_succ_cons, List.take_zero, List.cons.injEq, and_true] at henvelope
      exact ⟨echo, status, data, data', rfl, by rw [henvelope.1, henvelope.2]⟩

section Passcodes

variable {data data' : Bytes}

theorem getD_same_of {i : Nat} (h : data[i]? = data'[i]?) : data'.getD i 0 = data.getD i 0 := by
  rw [List.getD_eq_getElem?_getD, List.getD_eq_getElem?_getD, h]

theorem slice_same_of (offset n : Nat)
    (h : ∀ i, offset ≤ i ∧ i < offset + n → data[i]? = data'[i]?) :
    slice data' offset (offset + n) = slice data offset (offset + n) := by
  apply List.ext_getElem?
  intro i
  rcases Nat.lt_or_ge i n with hi | hi
  · rw [getElem?_slice _ _ _ _ (by omega), getElem?_slice _ _ _ _ (by omega), h _ ⟨by omega, by omega⟩]
  · rw [List.getElem?_eq_none (by rw [slice_length]; omega),
      List.getElem?_eq_none (by rw [slice_length]; omega)]

theorem front_public (i : Nat) (hi : i < 7) : ¬ PasscodeByte data i := by
  rintro (h | h | ⟨pwdType, n, -, h⟩)
  · omega
  · omega
  · unfold trailerOffset at h
    omega

theorem pwdLength_public : ¬ PasscodeByte data (7 + newPwdLength data) := by
  rintro (h | h | ⟨pwdType, n, -, h⟩)
  · omega
  · omega
  · unfold trailerOffset at h
    omega

theorem trailer_public {pwdType : KeyboardPwdType} {n : Nat}
    (hn : KeyboardPwdType.trailerLength (data.getD 5 0) = some (pwdType, n)) (i : Nat)
    (hi : trailerOffset data ≤ i ∧ i < trailerOffset data + n) : ¬ PasscodeByte data i := by
  rintro (h | h | ⟨pwdType', n', hn', h⟩)
  · unfold trailerOffset at hi
    omega
  · omega
  · obtain ⟨-, rfl⟩ := Prod.mk.inj (Option.some.inj (hn.symm.trans hn'))
    omega

variable (hsame : ∀ i, ¬ PasscodeByte data i → data[i]? = data'[i]?)

include hsame

theorem type_same : data'.getD 5 0 = data.getD 5 0 := getD_same_of (hsame 5 (front_public 5 (by omega)))

theorem newPwdLength_same : newPwdLength data' = newPwdLength data := by
  unfold newPwdLength
  rw [getD_same_of (hsame 6 (front_public 6 (by omega)))]

theorem trailerOffset_same : trailerOffset data' = trailerOffset data := by
  unfold trailerOffset pwdLength
  rw [newPwdLength_same hsame, getD_same_of (hsame _ pwdLength_public)]

theorem sequence_same : slice data' 2 4 = slice data 2 4 :=
  slice_same_of 2 2 fun i hi => hsame i (front_public i (by omega))

theorem trailer_same {pwdType : KeyboardPwdType} {n : Nat}
    (hn : KeyboardPwdType.trailerLength (data.getD 5 0) = some (pwdType, n)) :
    slice data' (trailerOffset data) (trailerOffset data + n) =
      slice data (trailerOffset data) (trailerOffset data + n) :=
  slice_same_of _ n fun i hi => hsame i (trailer_public hn i hi)

omit hsame in
theorem decodePasscode_error (raw : Bytes) (e : PyExc) (h : decodePasscode raw = .error e) :
    e = valueError "passcode list passcode is not valid ASCII" := by
  unfold decodePasscode at h
  split at h
  · cases h
  · exact (Except.error.inj h).symm

omit hsame in
theorem decodeItem_error {pwdType : KeyboardPwdType} {n : Nat}
    {validity : Option DateTime × Option DateTime × Option CyclicSchedule} (e : PyExc)
    (hvalidity : decodeValidity pwdType (slice data (trailerOffset data) (trailerOffset data + n)) = .ok validity)
    (h : decodeItem data pwdType n = .error e) : e = valueError "passcode list passcode is not valid ASCII" := by
  unfold decodeItem at h
  rw [hvalidity] at h
  cases hpasscode : decodePasscode (slice data 7 (7 + newPwdLength data)) with
  | error e₀ =>
    simp only [hpasscode, bind, Except.bind] at h
    obtain rfl := Except.error.inj h
    exact decodePasscode_error _ _ hpasscode
  | ok passcode =>
    simp only [hpasscode, bind, Except.bind] at h
    cases h

theorem decodeItem_errors {pwdType : KeyboardPwdType} {n : Nat}
    (hn : KeyboardPwdType.trailerLength (data.getD 5 0) = some (pwdType, n)) (e e' : PyExc)
    (h : decodeItem data pwdType n = .error e) (h' : decodeItem data' pwdType n = .error e') : e = e' := by
  have hsameTrailer : slice data' (trailerOffset data') (trailerOffset data' + n) =
      slice data (trailerOffset data) (trailerOffset data + n) := by
    rw [trailerOffset_same hsame, trailer_same hsame hn]
  cases hvalidity : decodeValidity pwdType (slice data (trailerOffset data) (trailerOffset data + n)) with
  | error e₀ =>
    unfold decodeItem at h h'
    rw [hsameTrailer] at h'
    rw [hvalidity] at h h'
    obtain rfl := Except.error.inj h
    exact Except.error.inj h'
  | ok validity =>
    rw [decodeItem_error e hvalidity h, decodeItem_error e' (hsameTrailer ▸ hvalidity) h']

theorem passcode_errors (echo : UInt8) (hlength : data.length = data'.length) (e e' : PyExc)
    (h : parsePasscodeListResponse (echo :: responseSuccess :: data) = .error e)
    (h' : parsePasscodeListResponse (echo :: responseSuccess :: data') = .error e') : e = e' := by
  rcases Nat.lt_or_ge data.length 8 with hshort | hlong
  · rw [parsePasscodeListResponse_short echo data hshort] at h
    cases h
  rw [parsePasscodeListResponse_item echo _ hlong] at h
  rw [parsePasscodeListResponse_item echo _ (hlength ▸ hlong), type_same hsame, newPwdLength_same hsame,
    trailerOffset_same hsame, ← hlength] at h'
  cases hfound : KeyboardPwdType.trailerLength (data.getD 5 0) with
  | none =>
    rw [hfound] at h
    cases h
  | some found =>
    rw [hfound, Option.elim_some] at h h'
    split at h
    · rename_i hpasscode
      rw [if_pos hpasscode] at h'
      exact (Except.error.inj h).symm.trans (Except.error.inj h')
    rename_i hpasscode
    rw [if_neg hpasscode] at h'
    split at h
    · rename_i htrailer
      rw [if_pos htrailer] at h'
      exact (Except.error.inj h).symm.trans (Except.error.inj h')
    rename_i htrailer
    rw [if_neg htrailer] at h'
    exact decodeItem_errors hsame hfound e e' h h'

end Passcodes

theorem sameDiagnostics_passcodes (x y : Bytes) (h : SameButFor PasscodeByte x y) :
    SameDiagnostics "get_passcodes" Logged.parsePasscodeListResponse Logged.getPasscodesTurn x y := by
  obtain ⟨hlength, henvelope, hsame⟩ := h
  refine sameDiagnostics_turn _ _ _ x y hlength ?_ ?_ ?_
  · rcases short_or_split x y hlength henvelope with ⟨-, rfl⟩ | ⟨echo, status, data, data', rfl, rfl⟩
    · rfl
    · simp only [List.length_cons, Nat.add_right_cancel_iff] at hlength
      rw [parsePasscodeListResponse_lines, parsePasscodeListResponse_lines, hlength]
      by_cases hstatus : status = responseSuccess
      · have htype : data'.getD 5 0 = data.getD 5 0 := type_same (hsame hstatus)
        rw [htype]
      · simp [hstatus]
  · intro plain
    rw [parsePasscodeListResponse_outcome]
    exact parsePasscodeListResponse_raises plain
  · simp only [parsePasscodeListResponse_outcome]
    intro e e' hx hy
    rcases short_or_split x y hlength henvelope with ⟨-, rfl⟩ | ⟨echo, status, data, data', rfl, rfl⟩
    · exact Except.error.inj (hx.symm.trans hy)
    · simp only [List.length_cons, Nat.add_right_cancel_iff] at hlength
      by_cases hstatus : status = responseSuccess
      · subst hstatus
        exact passcode_errors (hsame rfl) echo hlength e e' hx hy
      · rw [parsePasscodeListResponse_failed echo status _ hstatus] at hx hy
        rw [← Except.error.inj hx, ← Except.error.inj hy, hlength]

theorem parseCardListResponse_error (echo status : UInt8) (data : Bytes) (e : PyExc)
    (h : parseCardListResponse (echo :: status :: data) = .error e) :
    e = if status ≠ responseSuccess then
      runtimeError s!"card list FAILED: status={hexNumber status.toNat} data_length={data.length}"
    else valueError s!"card list unexpected data length {data.length}" := by
  unfold parseCardListResponse at h
  rw [parseResponseStatus_cons] at h
  simp only [bind, Except.bind] at h
  split at h
  · rename_i hstatus
    rw [if_pos hstatus]
    exact (Except.error.inj h).symm
  rename_i hstatus
  rw [if_neg hstatus]
  split at h
  · cases h
  split at h
  · exact (Except.error.inj h).symm
  · cases h

theorem sameDiagnostics_cards (x y : Bytes) (h : SameButFor CardByte x y) :
    SameDiagnostics "get_cards" Logged.parseCardListResponse Logged.getCardsTurn x y := by
  obtain ⟨hlength, henvelope, -⟩ := h
  refine sameDiagnostics_turn _ _ _ x y hlength rfl parseCardListResponse_raises ?_
  intro e e' hx hy
  rcases short_or_split x y hlength henvelope with ⟨-, rfl⟩ | ⟨echo, status, data, data', rfl, rfl⟩
  · exact Except.error.inj (hx.symm.trans hy)
  · simp only [List.length_cons, Nat.add_right_cancel_iff] at hlength
    rw [parseCardListResponse_error echo status data e hx, parseCardListResponse_error echo status data' e' hy,
      hlength]

/-! ## The pages of two scans -/

/-- Either both raise or neither does. -/
def RaiseAlike {α : Type} (parser : Bytes → Logged α) (x y : Bytes) : Prop :=
  (∃ e, (parser x).outcome = .error e) ↔ ∃ e, (parser y).outcome = .error e

section Pages

variable {α β : Type} {what label : String} {parser : Bytes → Logged α} {x y : Bytes}

theorem turn_error {e : PyExc} (h : (Logged.turn what label parser x).outcome = .error e) :
    ∃ e₀, (parser x).outcome = .error e₀ := by
  rw [turn_outcome] at h
  cases hx : (parser x).outcome with
  | error e₀ => exact ⟨e₀, rfl⟩
  | ok a =>
    rw [hx] at h
    cases h

theorem turn_errors (hsame : SameDiagnostics label parser (Logged.turn what label parser) x y)
    (halike : RaiseAlike parser x y) (e : PyExc) :
    (Logged.turn what label parser x).outcome = .error e ↔
      (Logged.turn what label parser y).outcome = .error e := by
  constructor
  · intro h
    obtain ⟨e₁, hx⟩ := turn_error h
    obtain ⟨e₂, hy⟩ := halike.mp ⟨e₁, hx⟩
    obtain ⟨-, hboth⟩ := hsame.errors e₁ e₂ hx hy
    rw [hboth y (by simp), ← hboth x (by simp), h]
  · intro h
    obtain ⟨e₂, hy⟩ := turn_error h
    obtain ⟨e₁, hx⟩ := halike.mpr ⟨e₂, hy⟩
    obtain ⟨-, hboth⟩ := hsame.errors e₁ e₂ hx hy
    rw [hboth x (by simp), ← hboth y (by simp), h]

theorem samePage {scan : Logged.Scan α β} (hturn : scan.turn = Logged.turn what label parser)
    (hsame : SameDiagnostics label parser (Logged.turn what label parser) x y) (halike : RaiseAlike parser x y)
    (hpages : ∀ p q, (parser x).outcome = .ok p → (parser y).outcome = .ok q →
      (scan.entry p).isSome = (scan.entry q).isSome ∧ scan.last p = scan.last q) : SamePage scan x y := by
  constructor <;> rw [hturn]
  · exact hsame.turnLines
  · exact turn_errors hsame halike
  · intro p q hp hq
    rw [turn_outcome] at hp hq
    exact hpages p q ((raiseAsTTLockError_eq_ok _ _ _ _).mp hp) ((raiseAsTTLockError_eq_ok _ _ _ _).mp hq)

end Pages

theorem decodeItem_page {data : Bytes} {pwdType : KeyboardPwdType} {n : Nat} {entry : Option PasscodeEntry}
    {nextSequence : Nat} (h : decodeItem data pwdType n = .ok (entry, nextSequence)) :
    entry.isSome = true ∧ nextSequence = fromBytesBig (slice data 2 4) := by
  unfold decodeItem at h
  cases hvalidity : decodeValidity pwdType (slice data (trailerOffset data) (trailerOffset data + n)) with
  | error e =>
    rw [hvalidity] at h
    cases h
  | ok validity =>
    cases hpasscode : decodePasscode (slice data 7 (7 + newPwdLength data)) with
    | error e =>
      simp only [hvalidity, hpasscode, bind, Except.bind] at h
      cases h
    | ok passcode =>
      simp only [hvalidity, hpasscode, bind, Except.bind] at h
      cases h
      exact ⟨rfl, rfl⟩

theorem passcode_page (echo : UInt8) (data : Bytes) (entry : Option PasscodeEntry) (nextSequence : Nat)
    (h : parsePasscodeListResponse (echo :: responseSuccess :: data) = .ok (entry, nextSequence)) :
    entry.isSome = (decide (8 ≤ data.length) && (KeyboardPwdType.trailerLength (data.getD 5 0)).isSome) ∧
      nextSequence = if data.length < 4 then 0 else fromBytesBig (slice data 2 4) := by
  rcases Nat.lt_or_ge data.length 8 with hshort | hlong
  · rw [parsePasscodeListResponse_short echo data hshort] at h
    cases h
    simp [hshort]
  rw [parsePasscodeListResponse_item echo data hlong] at h
  rw [if_neg (by omega), decide_eq_true hlong, Bool.true_and]
  cases hfound : KeyboardPwdType.trailerLength (data.getD 5 0) with
  | none =>
    rw [hfound] at h
    cases h
    exact ⟨rfl, rfl⟩
  | some found =>
    rw [hfound, Option.elim_some] at h
    split at h
    · cases h
    split at h
    · cases h
    exact decodeItem_page h

theorem samePage_passcodes (x y : Bytes) (h : SameButFor PasscodeByte x y)
    (halike : RaiseAlike Logged.parsePasscodeListResponse x y) : SamePage Logged.passcodeScan x y := by
  apply samePage rfl (sameDiagnostics_passcodes x y h) halike
  simp only [parsePasscodeListResponse_outcome]
  rintro ⟨entry, nextSequence⟩ ⟨entry', nextSequence'⟩ hx hy
  obtain ⟨hlength, henvelope, hsame⟩ := h
  rcases short_or_split x y hlength henvelope with ⟨-, rfl⟩ | ⟨echo, status, data, data', rfl, rfl⟩
  · obtain ⟨rfl, rfl⟩ := Prod.mk.inj (Except.ok.inj (hx.symm.trans hy))
    exact ⟨rfl, rfl⟩
  · simp only [List.length_cons, Nat.add_right_cancel_iff] at hlength
    by_cases hstatus : status = responseSuccess
    · subst hstatus
      obtain ⟨hentry, hnext⟩ := passcode_page echo data entry nextSequence hx
      obtain ⟨hentry', hnext'⟩ := passcode_page echo data' entry' nextSequence' hy
      have hsame : ∀ i, ¬ PasscodeByte data i → data[i]? = data'[i]? := hsame rfl
      rw [type_same hsame, ← hlength] at hentry'
      rw [sequence_same hsame, ← hlength] at hnext'
      refine ⟨hentry.trans hentry'.symm, ?_⟩
      show decide (nextSequence = 0) = decide (nextSequence' = 0)
      rw [hnext, hnext']
    · rw [parsePasscodeListResponse_failed echo status data hstatus] at hx
      cases hx

theorem card_page (echo status : UInt8) (data : Bytes) (entry : Option CardEntry)
    (h : parseCardListResponse (echo :: status :: data) = .ok entry) :
    entry.isSome = (cardIdLength data.length).isSome := by
  unfold parseCardListResponse at h
  rw [parseResponseStatus_cons] at h
  simp only [bind, Except.bind] at h
  split at h
  · cases h
  split at h
  · rename_i hend
    cases h
    have hfour : data.length = 4 := by simpa using (Bool.and_eq_true_iff.mp hend).1
    rw [hfour]
    rfl
  split at h
  · cases h
  · rename_i hlength
    cases h
    rw [hlength]
    rfl

theorem samePage_cards (x y : Bytes) (h : SameButFor CardByte x y)
    (halike : RaiseAlike Logged.parseCardListResponse x y) : SamePage Logged.cardScan x y := by
  apply samePage rfl (sameDiagnostics_cards x y h) halike
  intro entry entry' hx hy
  obtain ⟨hlength, henvelope, -⟩ := h
  rcases short_or_split x y hlength henvelope with ⟨-, rfl⟩ | ⟨echo, status, data, data', rfl, rfl⟩
  · obtain rfl := Except.ok.inj (hx.symm.trans hy)
    exact ⟨rfl, rfl⟩
  · simp only [List.length_cons, Nat.add_right_cancel_iff] at hlength
    have hsome : entry.isSome = entry'.isSome := by
      rw [card_page echo status data entry hx, card_page echo status data' entry' hy, hlength]
    refine ⟨hsome, ?_⟩
    show entry.isNone = entry'.isNone
    rw [← Option.not_isSome, ← Option.not_isSome, hsome]

/-- **Credential bytes do not reach diagnostics.** -/
theorem diagnostics_public :
    (∀ x y, SameButFor PasscodeByte x y →
      SameDiagnostics "get_passcodes" Logged.parsePasscodeListResponse Logged.getPasscodesTurn x y) ∧
    (∀ x y, SameButFor CardByte x y →
      SameDiagnostics "get_cards" Logged.parseCardListResponse Logged.getCardsTurn x y) ∧
    (∀ reply reply' : Nat → Bytes,
      (∀ k, SameButFor PasscodeByte (reply k) (reply' k) ∧
        RaiseAlike Logged.parsePasscodeListResponse (reply k) (reply' k)) →
      SameRun (Logged.getPasscodes reply) (Logged.getPasscodes reply')) ∧
    ∀ reply reply' : Nat → Bytes,
      (∀ k, SameButFor CardByte (reply k) (reply' k) ∧
        RaiseAlike Logged.parseCardListResponse (reply k) (reply' k)) →
      SameRun (Logged.getCards reply) (Logged.getCards reply') :=
  ⟨sameDiagnostics_passcodes, sameDiagnostics_cards,
    fun _ _ h => sameRun_runScan fun k => samePage_passcodes _ _ (h k).1 (h k).2,
    fun _ _ h => sameRun_runScan fun k => samePage_cards _ _ (h k).1 (h k).2⟩

/-- The last page of a passcode list, and a card. -/
def passcodeReply (digits : Bytes) : Bytes :=
  [0x07, 0x01] ++ ([0x50, 0x01, 0x00, 0x00, 0x00, 0x01, 0x04] ++ digits ++ [0x00, 0x00, 0x01, 0x1F, 0x0E, 0x00])

def cardReply (cardId : Bytes) : Bytes :=
  [0x05, 0x01] ++ ([0x50, 0x01, 0x00, 0x01] ++ cardId ++
    [0x00, 0x01, 0x01, 0x00, 0x00, 0x63, 0x01, 0x01, 0x00, 0x00])

/-- One card, and then the end. -/
def cardReplies (cardId : Bytes) (k : Nat) : Bytes :=
  if k = 0 then cardReply cardId else [0x05, 0x01, 0x50, 0x01, 0xFF, 0xFF]

theorem sameButFor_middle {credential : Bytes → Nat → Prop} {head front middle middle' back : Bytes}
    (hhead : head.length = 2) (hlength : middle.length = middle'.length)
    (h : ∀ i, front.length ≤ i → i < front.length + middle.length → credential (front ++ middle ++ back) i) :
    SameButFor credential (head ++ (front ++ middle ++ back)) (head ++ (front ++ middle' ++ back)) := by
  refine ⟨by simp [hlength], ?_, fun _ i hi => ?_⟩
  · rw [List.take_left' hhead, List.take_left' hhead]
  · rw [List.drop_left' hhead] at hi ⊢
    rw [List.drop_left' hhead]
    have hout : ¬ (front.length ≤ i ∧ i < front.length + middle.length) := fun hin => hi (h i hin.1 hin.2)
    grind

theorem diagnostics_public_replies :
    SameDiagnostics "get_passcodes" Logged.parsePasscodeListResponse Logged.getPasscodesTurn
        (passcodeReply [0x31, 0x32, 0x33, 0x34]) (passcodeReply [0x39, 0x38, 0x37, 0x36]) ∧
      SameDiagnostics "get_cards" Logged.parseCardListResponse Logged.getCardsTurn
        (cardReply [1, 2, 3, 4]) (cardReply [5, 6, 7, 8]) ∧
      SameRun (Logged.getPasscodes fun _ => passcodeReply [0x31, 0x32, 0x33, 0x34])
        (Logged.getPasscodes fun _ => passcodeReply [0x39, 0x38, 0x37, 0x36]) ∧
      SameRun (Logged.getCards (cardReplies [1, 2, 3, 4])) (Logged.getCards (cardReplies [5, 6, 7, 8])) := by
  obtain ⟨hpasscodes, hcards, hpasscodeScan, hcardScan⟩ := diagnostics_public
  have hpasscode : SameButFor PasscodeByte (passcodeReply [0x31, 0x32, 0x33, 0x34])
      (passcodeReply [0x39, 0x38, 0x37, 0x36]) :=
    sameButFor_middle rfl rfl fun i hle hlt => .inl ⟨hle, hlt⟩
  have hcard : SameButFor CardByte (cardReply [1, 2, 3, 4]) (cardReply [5, 6, 7, 8]) := by
    refine sameButFor_middle rfl rfl fun i hle hlt n hn => ?_
    obtain rfl : 4 = n := Option.some.inj hn
    exact ⟨hle, hlt⟩
  refine ⟨hpasscodes _ _ hpasscode, hcards _ _ hcard, hpasscodeScan _ _ fun _ => ⟨hpasscode, ?_⟩,
    hcardScan _ _ fun k => ?_⟩
  · exact iff_of_false (by rintro ⟨e, ⟨⟩⟩) (by rintro ⟨e, ⟨⟩⟩)
  · cases k with
    | zero => exact ⟨hcard, iff_of_false (by rintro ⟨e, ⟨⟩⟩) (by rintro ⟨e, ⟨⟩⟩)⟩
    | succ k => exact ⟨⟨rfl, rfl, fun _ _ _ => rfl⟩, Iff.rfl⟩

end TtlockBle.Diagnostics
