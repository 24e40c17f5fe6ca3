import TtlockBle.Contract
import TtlockBle.Lib.Paging

/-!
# Inventories

The loops of `get_fingerprints`, `get_cards` and `get_passcodes` are paged listings. A lock that
answers each request with a reply of its own gets a complete list out of them, or an error.
-/

open TtlockBle.Lib

namespace TtlockBle.Inventory

open Contract Parsers Payloads Paging Program Raises

/-! ## The lock -/

/-- A lock that lets the admin handshake through, and has one reply for each request. -/
structure Responds (client : TTLockClient) (command : Int) (request reply : Nat → Bytes)
    (answer : (op : ClientOp) → Py op.Answer) : Prop where
  acquires : answer .acquire = .ok ()
  releases : answer .release = .ok ()
  authorizes : client.adminHandshake.outcome answer = some (.ok ())
  replies : ∀ n < 65536, ∃ resp : Frame, answer (.exchange command (request n)) = .ok resp ∧
    aesDecrypt client.aes resp.data client.aesKey = .ok (reply n)

def indexRequest (operation : UInt8) (index : Nat) : Bytes := operation :: toBytesBig 2 index

section Outcomes

variable {self : TTLockClient} {answer : (op : ClientOp) → Py op.Answer} {α β : Type}

theorem outcome_lift (x : Py α) (f : α → ClientProgram β) :
    ((liftM x : ClientProgram α) >>= f).outcome answer =
      match x with
      | .ok a => (f a).outcome answer
      | .error e => some (.error e) := by
  cases x <;> rfl

theorem outcome_withCommandLock (hacquire : answer .acquire = .ok ()) (hrelease : answer .release = .ok ())
    (body : ClientProgram α) : (withCommandLock body).outcome answer = body.outcome answer := by
  have htake : (Program.perform ClientOp.acquire : ClientProgram Unit).outcome answer = some (.ok ()) :=
    (outcome_perform answer .acquire).trans (congrArg some hacquire)
  have hgive : (Program.perform ClientOp.release : ClientProgram Unit).outcome answer = some (.ok ()) :=
    (outcome_perform answer .release).trans (congrArg some hrelease)
  show ((Program.perform ClientOp.acquire : ClientProgram Unit) >>= fun _ =>
    body.andFinally (Program.perform ClientOp.release : ClientProgram Unit)).outcome answer = _
  rw [outcome_bind, htake]
  exact outcome_andFinally answer body _ hgive

theorem outcome_roundTrip {command : Int} {payload : Bytes} {label : String} {resp : Frame} {plain : Bytes}
    (hanswer : answer (.exchange command payload) = .ok resp)
    (hplain : aesDecrypt self.aes resp.data self.aesKey = .ok plain) (f : Bytes → ClientProgram β) :
    (self.roundTrip command payload label >>= f).outcome answer = (f plain).outcome answer := by
  have hdecrypt : self.decryptResponse resp label = .ok plain := (self.decryptResponse_eq_ok _ _ _).mpr hplain
  have hexchange : (exchange command payload).outcome answer = some (.ok resp) :=
    (outcome_perform answer (.exchange command payload)).trans (congrArg some hanswer)
  have hround : (self.roundTrip command payload label).outcome answer = some (.ok plain) := by
    unfold TTLockClient.roundTrip
    rw [outcome_bind, hexchange]
    show (Program.ofExcept (self.decryptResponse resp label) : ClientProgram Bytes).outcome answer = _
    rw [outcome_ofExcept, hdecrypt]
  rw [outcome_bind, hround]
  rfl

end Outcomes

/-! ## The loops -/

section Loops

variable {self : TTLockClient} {answer : (op : ClientOp) → Py op.Answer} {reply : Nat → Bytes}

def readEntry {α : Type} (l : TTLockClient.Listing α) (reply : Nat → Bytes) (index : Nat) : Py (Option α) :=
  raiseAsTTLockError PyExc.isRuntimeOrValueError (s!"Failed to {l.label}: " ++ ·) (l.parser (reply index))

def capExceeded {α : Type} (l : TTLockClient.Listing α) : PyExc :=
  ttLockError (s!"Failed to {l.label}: exceeded safety cap of {l.cap} " ++
    "entries without an end-of-list response")

theorem listingPages_collects {α : Type} (l : TTLockClient.Listing α) {operation : UInt8}
    (hl : l.payload = payloadIndexed operation)
    (h : Responds self l.command (indexRequest operation) reply answer) (left index : Nat)
    (hindex : index + left < 65536) (entries : List α) :
    (self.listingPages l left index entries).outcome answer =
      some (collect (byIndex (readEntry l reply)) (capExceeded l) left index entries) := by
  induction left generalizing index entries with
  | zero => rfl
  | succ left ih =>
    obtain ⟨resp, hanswer, hplain⟩ := h.replies index (by omega)
    unfold TTLockClient.listingPages
    rw [hl, payloadIndexed_eq operation index (by omega), outcome_lift]
    simp only
    rw [show operation :: toBytesBig 2 index = indexRequest operation index from rfl,
      outcome_roundTrip hanswer hplain, outcome_lift]
    rw [show raiseAsTTLockError PyExc.isRuntimeOrValueError _ (l.parser (reply index)) =
      readEntry l reply index from rfl]
    rcases hread : readEntry l reply index with e | _ | entry
    · rw [collect_error (byIndex_error _ _ _ hread)]
    · rw [collect_last ((byIndex_last _ _ _).mpr ⟨hread, rfl⟩), List.append_nil]
      rfl
    · rw [collect_more ((byIndex_more _ _ _ _).mpr ⟨entry, hread, rfl, rfl⟩)]
      exact ih (index + 1) (by omega) _

def readPage (reply : Nat → Bytes) : Fetch PyExc Nat PasscodeEntry := fun sequence => do
  let (entry, nextSequence) ← raiseAsTTLockError PyExc.isRuntimeOrValueError
    ("Failed to get_passcodes: " ++ ·) (parsePasscodeListResponse (reply sequence))
  return (entry.toList, if nextSequence = 0 then none else some nextSequence)

def passcodeCapExceeded : PyExc :=
  ttLockError (s!"Failed to get_passcodes: exceeded safety cap of {TTLockClient.maxPasscodeEntries} " ++
    "entries without the lock's cursor reaching 0")

theorem passcodePages_collects (h : Responds self cmdGetPasscodes (toBytesBig 2) reply answer)
    (attempts sequence : Nat) (hsequence : sequence < 65536) (entries : List PasscodeEntry) :
    (self.passcodePages attempts sequence entries).outcome answer =
      some (collect (readPage reply) passcodeCapExceeded attempts sequence entries) := by
  induction attempts generalizing sequence entries with
  | zero => rfl
  | succ attempts ih =>
    obtain ⟨resp, hanswer, hplain⟩ := h.replies sequence hsequence
    unfold TTLockClient.passcodePages payloadPasscodeList
    rw [intToBytesBe_two sequence hsequence, outcome_lift]
    simp only
    rw [outcome_roundTrip hanswer hplain, outcome_lift]
    cases hpage : raiseAsTTLockError PyExc.isRuntimeOrValueError ("Failed to get_passcodes: " ++ ·)
        (parsePasscodeListResponse (reply sequence)) with
    | error e =>
      have hread : readPage reply sequence = .error e := by
        unfold readPage
        rw [hpage]
        rfl
      rw [collect_error hread]
    | ok page =>
      obtain ⟨entry, nextSequence⟩ := page
      have hnext : nextSequence < 65536 :=
        parsePasscodeListResponse_sequence _ _ ((raiseAsTTLockError_eq_ok _ _ _ _).mp hpage)
      have hread : readPage reply sequence =
          .ok (entry.toList, if nextSequence = 0 then none else some nextSequence) := by
        unfold readPage
        rw [hpage]
        rfl
      simp only
      split
      · rename_i hzero
        rw [if_pos hzero] at hread
        rw [collect_last hread]
        rfl
      · rename_i hzero
        rw [if_neg hzero] at hread
        rw [collect_more hread]
        exact ih nextSequence hnext _

theorem outcome_behindHandshake {α : Type} {command : Int} {request : Nat → Bytes}
    (h : Responds self command request reply answer) (body : ClientProgram α) :
    (withCommandLock do
      self.adminHandshake
      body).outcome answer = body.outcome answer := by
  rw [outcome_withCommandLock h.acquires h.releases, outcome_bind, h.authorizes]
  rfl

end Loops

/-! ## Complete lists -/

def EndOfList (operation : UInt8) (plain : Bytes) : Prop :=
  ∃ echo data, parseResponseStatus plain = .ok (echo, responseSuccess, data) ∧ endOfList operation data

theorem parseFingerprintListResponse_none (plain : Bytes) :
    parseFingerprintListResponse plain = .ok none ↔ EndOfList fingerprintListOperation plain := by
  constructor
  · have h : Returns (fun r => r = none → EndOfList fingerprintListOperation plain)
        (parseFingerprintListResponse plain) := by
      unfold parseFingerprintListResponse EndOfList
      simp
      intro echo status data hstatus hs hend
      exact ⟨echo, data, hs ▸ hstatus, hend⟩
    exact fun hnone => h none hnone rfl
  · rintro ⟨echo, data, hstatus, hend⟩
    unfold parseFingerprintListResponse
    rw [hstatus]
    simp [Bind.bind, Except.bind, hend]
    rfl

theorem parseCardListResponse_none (plain : Bytes) :
    parseCardListResponse plain = .ok none ↔ EndOfList cardListOperation plain := by
  constructor
  · have h : Returns (fun r => r = none → EndOfList cardListOperation plain)
        (parseCardListResponse plain) := by
      unfold parseCardListResponse EndOfList
      simp
      intro echo status data hstatus hs
      refine ⟨fun hend => ⟨echo, data, hs ▸ hstatus, hend⟩, fun _ => ?_⟩
      split <;> simp
    exact fun hnone => h none hnone rfl
  · rintro ⟨echo, data, hstatus, hend⟩
    unfold parseCardListResponse
    rw [hstatus]
    simp [Bind.bind, Except.bind, hend]
    rfl

/-- The entries of the indices below the first one that is answered with the end marker. -/
def IndexListing {α : Type} (operation : UInt8) (parser : Bytes → Py (Option α)) (reply : Nat → Bytes)
    (entries : List α) : Prop :=
  ∃ k < 300, EndOfList operation (reply k) ∧ entries.length = k ∧
    ∀ i (h : i < entries.length), parser (reply i) = .ok (some entries[i])

/-- A page of the passcode list: its entry, if it is decodable, and the cursor of the next page. -/
def passcodePage (reply : Nat → Bytes) : Fetch PyExc Nat PasscodeEntry := fun sequence => do
  let (entry, nextSequence) ← parsePasscodeListResponse (reply sequence)
  return (entry.toList, if nextSequence = 0 then none else some nextSequence)

/-- The entries along the cursor, from 0 until it is 0 again. -/
def CursorListing (reply : Nat → Bytes) (entries : List PasscodeEntry) : Prop :=
  ∃ n ≤ 300, Chain (passcodePage reply) 0 n entries

/-- The outcome is a list of `P`, or a `TTLockError` where there is none. -/
def ReturnsExactly {α : Type} (o : Option (Py (List α))) (P : List α → Prop) : Prop :=
  (∀ entries, o = some (.ok entries) ↔ P entries) ∧
    ((∀ entries, ¬ P entries) → ∃ e, o = some (.error e) ∧ IsTTLockError e)

theorem returnsExactly_collect {Cursor α : Type} {P : List α → Prop} {fetch : Fetch PyExc Cursor α}
    {exceeded : PyExc} {cap : Nat} {cursor : Cursor} (hexceeded : IsTTLockError exceeded)
    (hfetch : ∀ cursor, Raises IsTTLockError (fetch cursor))
    (hP : ∀ entries, P entries ↔ ∃ n ≤ cap, Chain fetch cursor n entries) :
    ReturnsExactly (some (collect fetch exceeded cap cursor [])) P := by
  have hiff : ∀ entries, some (collect fetch exceeded cap cursor []) = some (.ok entries) ↔ P entries := by
    intro entries
    rw [Option.some.injEq, collect_eq_ok, hP]
    simp
  refine ⟨hiff, fun hnone => ?_⟩
  cases hcollect : collect fetch exceeded cap cursor [] with
  | error e => exact ⟨e, rfl, collect_raises hexceeded hfetch cap cursor [] e hcollect⟩
  | ok entries => exact absurd ((hiff entries).mp (congrArg some hcollect)) (hnone entries)

theorem readPage_ok (reply : Nat → Bytes) (sequence : Nat) (r : List PasscodeEntry × Option Nat) :
    readPage reply sequence = .ok r ↔ passcodePage reply sequence = .ok r := by
  unfold readPage passcodePage
  cases hpage : parsePasscodeListResponse (reply sequence) with
  | ok page => rfl
  | error e =>
    refine iff_of_false (fun h => ?_) nofun
    cases hcatch : e.isRuntimeOrValueError <;> simp [raiseAsTTLockError, hcatch, Bind.bind, Except.bind] at h

theorem getListing_returns {α : Type} {self : TTLockClient} {answer : (op : ClientOp) → Py op.Answer}
    {reply : Nat → Bytes} (l : TTLockClient.Listing α) {operation : UInt8}
    (hl : l.payload = payloadIndexed operation) (hcap : l.cap = 300)
    (hend : ∀ plain, l.parser plain = .ok none ↔ EndOfList operation plain)
    (hparser : ∀ plain, Raises IsRuntimeOrValueError (l.parser plain))
    (h : Responds self l.command (indexRequest operation) reply answer) :
    ReturnsExactly ((self.getListing l).outcome answer) (IndexListing operation l.parser reply) := by
  unfold TTLockClient.getListing
  rw [outcome_behindHandshake h, listingPages_collects l hl h _ _ (by omega)]
  refine returnsExactly_collect rfl (fun index => ?_) fun entries => ?_
  · unfold byIndex readEntry
    rw [raises_bind]
    refine ⟨raiseAsTTLockError_raises (fun _ => id) _ _ (hparser _), ?_⟩
    rintro (_ | entry) - <;> simp
  · simp only [chain_byIndex, readEntry, raiseAsTTLockError_eq_ok, hend, Nat.zero_add, hcap, IndexListing]
    constructor
    · rintro ⟨k, hk, hmarker, rfl, hentries⟩
      exact ⟨_, hk, rfl, hmarker, hentries⟩
    · rintro ⟨n, hn, rfl, hmarker, hentries⟩
      exact ⟨_, hn, hmarker, rfl, hentries⟩

/-- **Inventories are complete.** Each of the three returns the list that the lock's replies make
up, and where they make up none it raises a `TTLockError`. -/
theorem inventories_complete (self : TTLockClient) (fingerprints cards passcodes : Nat → Bytes)
    (answerFingerprints answerCards answerPasscodes : (op : ClientOp) → Py op.Answer)
    (hfingerprints : Responds self cmdManageFingerprint (indexRequest fingerprintListOperation) fingerprints
      answerFingerprints)
    (hcards : Responds self cmdManageIcCard (indexRequest cardListOperation) cards answerCards)
    (hpasscodes : Responds self cmdGetPasscodes (toBytesBig 2) passcodes answerPasscodes) :
    ReturnsExactly (self.getFingerprints.outcome answerFingerprints)
        (IndexListing fingerprintListOperation parseFingerprintListResponse fingerprints) ∧
      ReturnsExactly (self.getCards.outcome answerCards)
        (IndexListing cardListOperation parseCardListResponse cards) ∧
      ReturnsExactly (self.getPasscodes.outcome answerPasscodes) (CursorListing passcodes) := by
  refine ⟨?_, ?_, ?_⟩
  · exact getListing_returns TTLockClient.fingerprintListing rfl rfl parseFingerprintListResponse_none
      parseFingerprintListResponse_raises hfingerprints
  · exact getListing_returns TTLockClient.cardListing rfl rfl parseCardListResponse_none
      parseCardListResponse_raises hcards
  · unfold TTLockClient.getPasscodes
    rw [outcome_behindHandshake hpasscodes, passcodePages_collects hpasscodes _ _ (by decide)]
    refine returnsExactly_collect rfl (fun sequence => ?_) fun entries => ?_
    · unfold readPage
      rw [raises_bind]
      refine ⟨raiseAsTTLockError_raises (fun _ => id) _ _ (parsePasscodeListResponse_raises _), ?_⟩
      simp
    · unfold CursorListing
      simp only [chain_congr (readPage_ok passcodes)]
      rfl

/-- The replies of a lock with two fingerprints, two cards, and two passcodes on two pages: what it
says to the handshake, and then list by list, each with its end. -/
def inventoryTable : List (Bytes × Bytes) :=
  [([0x41, 0x01, 0x00, 0x00, 0x10, 0x00],
      [0xA9, 0xC6, 0x76, 0x13, 0xEE, 0xC6, 0x55, 0xDD, 0xB7, 0x6A, 0x9E, 0xEE, 0x7B, 0xCB, 0xD2, 0x78]),
    ([0x30, 0x01],
      [0xC5, 0xCF, 0xA9, 0x6F, 0xCB, 0x41, 0x77, 0xBA, 0x2D, 0xB1, 0xBD, 0xD3, 0x08, 0x19, 0x04, 0x3A]),
    ([0x06, 0x01, 0x50, 0x06, 0x00, 0x01, 0xA1, 0xB2, 0xC3, 0xD4, 0x00, 0x01, 0x00, 0x01, 0x01, 0x00,
      0x00, 0x63, 0x01, 0x01, 0x00, 0x00],
      [0x8A, 0xC4, 0xF0, 0x04, 0x4F, 0xB7, 0x07, 0xA0, 0x72, 0x9E, 0x85, 0x42, 0xC3, 0xB1, 0x2D, 0x60,
      0x8D, 0xAC, 0xEF, 0x94, 0xC1, 0xC8, 0x16, 0x2E, 0x85, 0xAD, 0x24, 0xAE, 0xCF, 0xE7, 0x80, 0x7A]),
    ([0x06, 0x01, 0x50, 0x06, 0x00, 0x02, 0xA1, 0xB2, 0xC3, 0xD5, 0x00, 0x02, 0x18, 0x03, 0x01, 0x08,
      0x00, 0x1A, 0x07, 0x0F, 0x0C, 0x1E],
      [0xC6, 0xB2, 0x1E, 0x72, 0xDE, 0xE4, 0x4A, 0x1C, 0x78, 0xDD, 0x38, 0xB6, 0xB8, 0x62, 0xA7, 0x86,
      0x8C, 0x45, 0x44, 0xC6, 0x3D, 0xBF, 0xD3, 0x50, 0xFE, 0x4A, 0x4B, 0x18, 0x13, 0xE6, 0x8F, 0x31]),
    ([0x06, 0x01, 0x50, 0x06, 0xFF, 0xFF],
      [0x47, 0xF8, 0xC7, 0x35, 0xE0, 0x48, 0x08, 0xFD, 0x31, 0xD9, 0xC4, 0xA5, 0x0D, 0x00, 0xD7, 0xA6]),
    ([0x05, 0x01, 0x50, 0x01, 0x00, 0x01, 0x01, 0x02, 0x03, 0x04, 0x00, 0x01, 0x01, 0x00, 0x00, 0x63,
      0x01, 0x01, 0x00, 0x00],
      [0x44, 0x02, 0x89, 0xE0, 0x99, 0x82, 0xD2, 0xCA, 0x44, 0x23, 0x85, 0x86, 0x30, 0xAE, 0x73, 0x51,
      0xA5, 0xE5, 0x21, 0x49, 0xA9, 0x2E, 0x9D, 0xF4, 0x86, 0xCA, 0x70, 0x24, 0x6B, 0xA6, 0x9D, 0x5C]),
    ([0x05, 0x01, 0x50, 0x01, 0x00, 0x02, 0x01, 0x02, 0x03, 0x04, 0x05, 0x06, 0x07, 0x08, 0x18, 0x03,
      0x01, 0x08, 0x00, 0x1A, 0x07, 0x0F, 0x0C, 0x1E],
      [0xB3, 0x25, 0x00, 0x83, 0x4E, 0xB5, 0x6C, 0xD1, 0xBB, 0x5E, 0x0C, 0xFE, 0xC9, 0x2D, 0x60, 0x51,
      0x69, 0x44, 0xB9, 0xFC, 0xD9, 0x67, 0x86, 0xA5, 0xA1, 0xFE, 0x80, 0x5E, 0x7B, 0xDD, 0xFA, 0x90]),
    ([0x05, 0x01, 0x50, 0x01, 0xFF, 0xFF],
      [0x0C, 0x59, 0x18, 0xAC, 0x90, 0xED, 0x2F, 0x72, 0x81, 0xF8, 0xC7, 0xBA, 0x8D, 0xAB, 0x93, 0xA8]),
    ([0x07, 0x01, 0x50, 0x02, 0x00, 0x07, 0x00, 0x01, 0x04, 0x31, 0x32, 0x33, 0x34, 0x00, 0x18, 0x03,
      0x01, 0x08, 0x00],
      [0xB8, 0x38, 0xB2, 0x36, 0x99, 0x14, 0x20, 0x55, 0x8D, 0xE7, 0x0E, 0xBA, 0x46, 0x03, 0xEB, 0xC8,
      0x95, 0x96, 0xA4, 0xB2, 0xFD, 0xDD, 0xE2, 0xF5, 0x1D, 0x0B, 0x77, 0xA2, 0xFE, 0xFC, 0x2B, 0xD0]),
    ([0x07, 0x01, 0x50, 0x02, 0x00, 0x00, 0x00, 0x03, 0x04, 0x35, 0x36, 0x37, 0x38, 0x00, 0x18, 0x03,
      0x01, 0x08, 0x00, 0x1A, 0x07, 0x0F, 0x0C, 0x1E],
      [0x40, 0xB3, 0x82, 0x37, 0x78, 0x16, 0x25, 0xBD, 0x2F, 0x2C, 0x14, 0xB3, 0x28, 0xEF, 0x3F, 0xF2,
      0xD2, 0x16, 0x39, 0x54, 0xE5, 0xA8, 0x47, 0x0D, 0x3B, 0xAB, 0x91, 0xA0, 0xBB, 0xEF, 0xB4, 0x75])]

/-- The message that answers a request: the cursor of the second passcode is 7. -/
def inventoryRow (command : Int) (payload : Bytes) : Nat :=
  if command = cmdCheckAdmin then 0
  else if command = cmdCheckRandom then 1
  else if command = cmdManageFingerprint then 2 + min (fromBytesBig (payload.drop 1)) 2
  else if command = cmdManageIcCard then 5 + min (fromBytesBig (payload.drop 1)) 2
  else if fromBytesBig payload = 0 then 8 else 9

def inventoryMessage (row : Nat) : Bytes × Bytes := inventoryTable.getD row ([], [])

def inventoryAnswer : (op : ClientOp) → Py op.Answer
  | .acquire | .release | .restartKeepAlive => .ok ()
  | .exchange command payload => .ok (lockFrame (inventoryMessage (inventoryRow command payload)).2)
  | .now => .ok (0 : Int)
  | .readOptionalChar _ => .ok none

theorem inventoryMessage_decrypts : ∀ row < 10, aesDecrypt (makeClient inventoryTable).aes
    (lockFrame (inventoryMessage row).2).data (makeClient inventoryTable).aesKey =
      .ok (inventoryMessage row).1 := by
  decide +kernel

theorem responds_inventory {command : Int} {request : Nat → Bytes} {row : Nat → Nat}
    (hrow : ∀ n < 65536, inventoryRow command (request n) = row n) (hlt : ∀ n, row n < 10) :
    Responds (makeClient inventoryTable) command request (fun n => (inventoryMessage (row n)).1) inventoryAnswer where
  acquires := rfl
  releases := rfl
  authorizes := by decide +kernel
  replies n hn := by
    refine ⟨_, rfl, ?_⟩
    rw [hrow n hn]
    exact inventoryMessage_decrypts _ (hlt n)

theorem fromBytesBig_indexRequest (operation : UInt8) (n : Nat) (hn : n < 65536) :
    fromBytesBig ((indexRequest operation n).drop 1) = n :=
  fromBytesBig_toBytesBig 2 n hn

def march : DateTime := ⟨2024, 3, 1, 8, 0, 0, 0, by decide⟩

def july : DateTime := ⟨2026, 7, 15, 12, 30, 0, 0, by decide⟩

def twoFingerprints : List FingerprintEntry :=
  [⟨[0xA1, 0xB2, 0xC3, 0xD4], 1, none, none⟩, ⟨[0xA1, 0xB2, 0xC3, 0xD5], 2, some march, some july⟩]

/-- The id of the second card has eight bytes. -/
def twoCards : List CardEntry :=
  [⟨[1, 2, 3, 4], none, none⟩, ⟨[1, 2, 3, 4, 5, 6, 7, 8], some march, some july⟩]

def twoPasscodes : List PasscodeEntry :=
  [⟨"1234", .permanent, some march, none, none⟩,
    ⟨"5678", .period, some march, some july, none⟩]

theorem inventories_complete_twoEach :
    (makeClient inventoryTable).getFingerprints.outcome inventoryAnswer = some (.ok twoFingerprints) ∧
      (makeClient inventoryTable).getCards.outcome inventoryAnswer = some (.ok twoCards) ∧
      (makeClient inventoryTable).getPasscodes.outcome inventoryAnswer = some (.ok twoPasscodes) := by
  obtain ⟨⟨hf, -⟩, ⟨hc, -⟩, ⟨hp, -⟩⟩ := inventories_complete (makeClient inventoryTable)
    (fun n => (inventoryMessage (2 + min n 2)).1) (fun n => (inventoryMessage (5 + min n 2)).1)
    (fun n => (inventoryMessage (if n = 0 then 8 else 9)).1) inventoryAnswer inventoryAnswer inventoryAnswer
    (responds_inventory (fun n hn => by
      show 2 + min (fromBytesBig _) 2 = _
      rw [fromBytesBig_indexRequest _ n hn]) fun n => by omega)
    (responds_inventory (fun n hn => by
      show 5 + min (fromBytesBig _) 2 = _
      rw [fromBytesBig_indexRequest _ n hn]) fun n => by omega)
    (responds_inventory (fun n hn => by
      show (if fromBytesBig _ = 0 then 8 else 9) = _
      rw [fromBytesBig_toBytesBig 2 n hn]) fun n => by split <;> omega)
  have hchain : Chain (passcodePage fun n => (inventoryMessage (if n = 0 then 8 else 9)).1) 0 2 twoPasscodes :=
    .more (show _ = Except.ok (twoPasscodes.take 1, some 7) by rfl)
      (.last (show _ = Except.ok (twoPasscodes.drop 1, none) by rfl))
  refine ⟨(hf _).mpr ⟨2, by decide, ⟨0x06, [0x50, 0x06, 0xFF, 0xFF], rfl, rfl⟩, rfl, ?_⟩,
    (hc _).mpr ⟨2, by decide, ⟨0x05, [0x50, 0x01, 0xFF, 0xFF], rfl, rfl⟩, rfl, ?_⟩,
    (hp _).mpr ⟨2, by decide, hchain⟩⟩
  · rintro (_ | _ | i) h
    · rfl
    · rfl
    · exact absurd h (by simp [twoFingerprints])
  · rintro (_ | _ | i) h
    · rfl
    · rfl
    · exact absurd h (by simp [twoCards])

end TtlockBle.Inventory
