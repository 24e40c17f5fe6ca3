import TtlockBle.Contract
import TtlockBle.Lib.Firsts
import TtlockBle.Lock
import TtlockBle.LogPages

/-!
# The operation log

Whatever pages a lock answers with, `get_operation_log` stops and returns each record once, as it
first came. A rejected request looks like an empty page, so it ends the log as well.
-/

open TtlockBle.Lib

namespace TtlockBle.OperationLog

open Contract Parsers Payloads Program

/-! ## The lock -/

/-- A lock with a sequence of replies: an exchange gets the next one, whatever it asks for. -/
def answering (replies : Nat → Frame) (k : Nat) : (op : ClientOp) → Py op.Answer := replying (replies k)

/-- How many exchanges there have been. -/
def countExchange (k : Nat) : ClientOp → Nat
  | .exchange _ _ => k + 1
  | _ => k

/-- The replies decode as the pages, and one frame carries each plaintext. -/
def Carries (client : TTLockClient) (replies : Nat → Frame) (pages : Nat → List LogEntry × Nat) : Prop :=
  ∀ k, ∃ plain, aesDecrypt client.aes (replies k).data client.aesKey = .ok plain ∧ plain.length ≤ 255 ∧
    parseOperateLogResponse plain = .ok (pages k)

/-- The records of the first `n` pages. -/
def received (pages : Nat → List LogEntry × Nat) (n : Nat) : List LogEntry :=
  (List.range n).flatMap fun k => (pages k).1

theorem received_succ (pages : Nat → List LogEntry × Nat) (n : Nat) :
    received pages (n + 1) = received pages n ++ (pages n).1 := by
  unfold received
  rw [List.range_succ, List.flatMap_append, List.flatMap_singleton]

/-! ## One turn of the loop -/

theorem operationLogPages_turn {τ : Type} {answer : τ → (op : ClientOp) → Py op.Answer} {next : τ → ClientOp → τ}
    {client : TTLockClient} {s s' : τ} {nextSeq : Int} {payload plain : Bytes} {page : List LogEntry × Nat}
    (hpayload : payloadOperateLogRequest nextSeq = .ok payload)
    (hround : (client.roundTrip cmdGetOperateLog payload "operate_log").play answer next s =
      (s', some (.ok plain)))
    (hparse : parseOperateLogResponse plain = .ok page) (maxEntries : Option Int) (fuel : Nat) (seen : List Int)
    (entries : List LogEntry) :
    let new := page.1.filter fun e => e.recordNumber ∉ seen
    (client.operationLogPages maxEntries (fuel + 1) nextSeq seen entries).play answer next s =
      (if new = [] then pure entries
      else if ∃ n ∈ maxEntries, ((entries ++ new).length : Int) ≥ n then
        pure (TTLockClient.sliceTo (entries ++ new) (maxEntries.getD 0))
      else if (page.2 : Int) = 0 ∨ (page.2 : Int) = nextSeq then pure (entries ++ new)
      else client.operationLogPages maxEntries fuel page.2 (seen ++ new.map (·.recordNumber)) (entries ++ new) :
        ClientProgram (List LogEntry)).play answer next s' := by
  intro new
  have hpage : (liftM (raiseAsTTLockError PyExc.isValueError ("Failed to parse operate_log response: " ++ ·)
      (parseOperateLogResponse plain)) : ClientProgram (List LogEntry × Nat)).play answer next s' =
        (s', some (.ok page)) := by
    rw [hparse]
    rfl
  rw [TTLockClient.operationLogPages, hpayload]
  refine (play_bind hround _).trans ((play_bind hpage _).trans ?_)
  by_cases hempty : page.1 = []
  · have hnew : new = [] := by simp [new, hempty]
    simp only [hempty, if_true, hnew]
  · simp only [hempty, if_false]
    rfl

/-! ## First arrivals -/

abbrev firstEntries (entries : List LogEntry) : List LogEntry := firsts (·.recordNumber) entries

theorem page_nodup (plain : Bytes) (page : List LogEntry × Nat) (h : parseOperateLogResponse plain = .ok page) :
    (page.1.map (·.recordNumber)).Nodup := by
  have hnumbered := (parseOperateLogResponse_numbered plain page h).1
  rw [hnumbered]
  exact recordNumbers_nodup _ _

theorem firstEntries_page (earlier : List LogEntry) (plain : Bytes) (page : List LogEntry × Nat)
    (h : parseOperateLogResponse plain = .ok page) :
    firstEntries (earlier ++ page.1) = firstEntries earlier ++
      page.1.filter fun e => e.recordNumber ∉ (firstEntries earlier).map (·.recordNumber) :=
  firsts_append _ _ _ (page_nodup plain page h)

/-! ## The loop comes to an end -/

section Complete

variable {client : TTLockClient} {replies : Nat → Frame} {pages : Nat → List LogEntry × Nat}
  (hpages : Carries client replies pages)
include hpages

theorem logPage_turn (fuel k : Nat) (nextSeq : Int) (hnext : 0 ≤ nextSeq ∧ nextSeq < 65536) (seen : List Int)
    (entries : List LogEntry) :
    let new := (pages k).1.filter fun e => e.recordNumber ∉ seen
    (client.operationLogPages none (fuel + 1) nextSeq seen entries).play (answering replies) countExchange k =
      (if new = [] then pure entries
      else if ((pages k).2 : Int) = 0 ∨ ((pages k).2 : Int) = nextSeq then pure (entries ++ new)
      else client.operationLogPages none fuel (pages k).2 (seen ++ new.map (·.recordNumber)) (entries ++ new) :
        ClientProgram (List LogEntry)).play (answering replies) countExchange (k + 1) := by
  intro new
  obtain ⟨plain, hplain, -, hparse⟩ := hpages k
  have hpayload := intToBytesBe_eq nextSeq 2 hnext.1 (by omega)
  have hround : (client.roundTrip cmdGetOperateLog (toBytesBig 2 nextSeq.toNat) "operate_log").play
      (answering replies) countExchange k = (k + 1, some (.ok plain)) := by
    have hexchange : (exchange cmdGetOperateLog (toBytesBig 2 nextSeq.toNat)).play (answering replies)
        countExchange k = (k + 1, some (.ok (replies k))) := play_perform k _
    have hdecrypt : client.decryptResponse (replies k) "operate_log" = .ok plain :=
      (client.decryptResponse_eq_ok _ _ _).mpr hplain
    unfold TTLockClient.roundTrip
    rw [play_bind hexchange]
    show (Program.ofExcept (client.decryptResponse (replies k) "operate_log")).play _ _ _ = _
    rw [play_ofExcept, hdecrypt]
  refine (operationLogPages_turn hpayload hround hparse none fuel seen entries).trans ?_
  simp only [Option.not_mem_none, false_and, exists_const, if_false]
  rfl

/-- Each turn but the last sees a record number for the first time, and `left` of them are left. -/
theorem operationLogPages_play (left k : Nat) (nextSeq : Int) (hnext : 0 ≤ nextSeq ∧ nextSeq < 65536)
    (hseen : Seen 255 ((firstEntries (received pages k)).map (·.recordNumber)))
    (hleft : 65536 + 255 ≤ left + (firstEntries (received pages k)).length) :
    ∃ n, ∀ fuel ≥ left, (client.operationLogPages none fuel nextSeq
        ((firstEntries (received pages k)).map (·.recordNumber)) (firstEntries (received pages k))).play
        (answering replies) countExchange k = (n, some (.ok (firstEntries (received pages n)))) := by
  induction left generalizing k nextSeq with
  | zero =>
    have := seen_length _ hseen
    rw [List.length_map] at this
    omega
  | succ left ih =>
    obtain ⟨plain, -, hlength, hparse⟩ := hpages k
    have hlast := parseOperateLogResponse_sequence plain _ hparse
    have hseen' := seen_page _ hseen plain hlength _ _ hparse
    have hfirst := firstEntries_page (received pages k) plain _ hparse
    rw [← List.map_append, ← hfirst, ← received_succ] at hseen'
    rw [← received_succ] at hfirst
    -- One turn, down to what the loop does with the page.
    have hturn (fuel : Nat) := logPage_turn hpages fuel k nextSeq hnext
      ((firstEntries (received pages k)).map (·.recordNumber)) (firstEntries (received pages k))
    by_cases hnew : ((pages k).1.filter fun e => e.recordNumber ∉
        (firstEntries (received pages k)).map (·.recordNumber)) = []
    · rw [hnew, List.append_nil] at hfirst
      refine ⟨k + 1, fun fuel hfuel => ?_⟩
      obtain ⟨fuel, rfl⟩ := Nat.exists_eq_add_of_lt (Nat.lt_of_lt_of_le (Nat.succ_pos left) hfuel)
      rw [Nat.zero_add, hturn, if_pos hnew, hfirst]
      rfl
    by_cases hstop : ((pages k).2 : Int) = 0 ∨ ((pages k).2 : Int) = nextSeq
    · refine ⟨k + 1, fun fuel hfuel => ?_⟩
      obtain ⟨fuel, rfl⟩ := Nat.exists_eq_add_of_lt (Nat.lt_of_lt_of_le (Nat.succ_pos left) hfuel)
      rw [Nat.zero_add, hturn, if_neg hnew, if_pos hstop, ← hfirst]
      rfl
    · have hmore := List.length_pos_of_ne_nil hnew
      have hlen := congrArg List.length hfirst
      rw [List.length_append] at hlen
      obtain ⟨n, hn⟩ := ih (k + 1) (pages k).2 (by simp only at hlast; omega) hseen' (by omega)
      refine ⟨n, fun fuel hfuel => ?_⟩
      obtain ⟨fuel, rfl⟩ := Nat.exists_eq_add_of_lt (Nat.lt_of_lt_of_le (Nat.succ_pos left) hfuel)
      rw [Nat.zero_add, hturn, if_neg hnew, if_neg hstop, ← List.map_append, ← hfirst]
      exact hn fuel (by omega)

/-- **The log is complete and free of duplicates.** It takes finitely many exchanges. -/
theorem getOperationLog_complete (fromSequence : Int) (hfrom : 0 ≤ fromSequence ∧ fromSequence ≤ 65535) :
    ∃ n entries, (∀ fuel ≥ 65536 + 255,
        (client.getOperationLog fuel none fromSequence).play (answering replies) countExchange 0 =
          (n, some (.ok entries))) ∧
      (entries.map (·.recordNumber)).Nodup ∧ entries = firstEntries (received pages n) := by
  have hseen : Seen 255 ((firstEntries (received pages 0)).map (·.recordNumber)) :=
    ⟨List.nodup_nil, by simp [received, firsts, firstsAfter]⟩
  obtain ⟨n, hn⟩ :=
    operationLogPages_play hpages (65536 + 255) 0 fromSequence (by omega) hseen (Nat.le_add_right _ _)
  exact ⟨n, _, fun fuel hfuel =>
    (Lock.play_locked (fun _ => ⟨rfl, rfl⟩) (fun _ => ⟨rfl, rfl⟩) _ _).trans (hn fuel hfuel), firsts_nodup _ _, rfl⟩

end Complete

/-- The cipher for a page with one record, and for a rejection. -/
def logTable : List (Bytes × Bytes) :=
  [([0x25, 0x01, 0x00, 0x09, 0x00, 0x05, 0x08, 0x1A, 0x1A, 0x07, 0x0E, 0x0C, 0x1E, 0x05, 0x5A],
    [0x45, 0x1E, 0x23, 0x10, 0x3A, 0x66, 0xE6, 0x17, 0x36, 0xDA, 0xE7, 0x27, 0x93, 0x0F, 0x67, 0xC1]),
    ([0x25, 0x00, 0x01],
    [0x14, 0xE7, 0xA6, 0x1F, 0x36, 0x64, 0x68, 0x1E, 0x04, 0xBD, 0x72, 0x84, 0x4B, 0xFF, 0x99, 0x41])]

def logReply (i : Nat) : Frame := lockFrame (logTable.getD i ([], [])).2

/-- A lock that answers every request with the same page. -/
theorem getOperationLog_complete_repeated :
    ∃ n entries, (∀ fuel ≥ 65536 + 255,
        ((makeClient logTable).getOperationLog fuel none 0xFFFF).play (answering fun _ => logReply 0)
          countExchange 0 = (n, some (.ok entries))) ∧
      (entries.map (·.recordNumber)).Nodup := by
  let records : List Bytes := [[0x1A, 0x1A, 0x07, 0x0E, 0x0C, 0x1E, 0x05, 0x5A]]
  have hrecords : ∀ record ∈ records, 8 ≤ record.length ∧ record.length ≤ 255 := by decide
  obtain ⟨page, hpage, -⟩ :=
    LogPages.parseOperateLogResponse_page 0x25 9 5 records (by decide) (by decide) hrecords
  have hcarries : Carries (makeClient logTable) (fun _ => logReply 0) fun _ => (page, 5) :=
    fun _ => ⟨(logTable.getD 0 ([], [])).1, rfl, by decide, hpage⟩
  obtain ⟨n, entries, hplay, hnodup, -⟩ := getOperationLog_complete hcarries 0xFFFF (by decide)
  exact ⟨n, entries, hplay, hnodup⟩

/-! ## A rejected request -/

section Rejected

variable (client : TTLockClient)

/-- The lock answers a request for the log with a status other than SUCCESS. -/
def Rejects : CallEvent → Prop
  | ⟨.exchange command _, .ok resp⟩ => command = cmdGetOperateLog ∧ ∃ plain echo status data,
    aesDecrypt client.aes (resp : Frame).data client.aesKey = .ok plain ∧
      parseResponseStatus plain = .ok (echo, status, data) ∧ status ≠ responseSuccess
  | _ => False

/-- The records that came with an event. -/
def recordsOf : CallEvent → List LogEntry
  | ⟨.exchange _ _, .ok resp⟩ =>
    match (do parseOperateLogResponse (← aesDecrypt client.aes (resp : Frame).data client.aesKey) : Py _) with
    | .ok page => page.1
    | .error _ => []
  | _ => []

/-- The state is the records that came so far, and whether a request was rejected. A rejection leaves
nothing to do but to give the lock back, which does not fail. -/
def logMonitor : Monitor ClientOp ClientOp.Answer PyExc (List LogEntry × Prop) where
  allows s op := s.2 → op = .release
  admits _ op r := op = .release → ∀ e, r ≠ .error e
  next s op r := (s.1 ++ recordsOf client ⟨op, r⟩, s.2 ∨ Rejects client ⟨op, r⟩)
  cuts s := ¬ s.2

/-- After a rejection the call returns what came before it. -/
def EndsLog (s : List LogEntry × Prop) (o : Py (List LogEntry)) : Prop := s.2 → o = .ok (firstEntries s.1)

/-- The state after the reply to a request for the log. -/
def replied (earlier : List LogEntry) (payload : Bytes) (resp : Frame) : List LogEntry × Prop :=
  (logMonitor client).next (earlier, False) (.exchange cmdGetOperateLog payload) (.ok resp)

theorem replied_received (earlier : List LogEntry) (payload : Bytes) (resp : Frame) (plain : Bytes)
    (page : List LogEntry × Nat) (hplain : aesDecrypt client.aes resp.data client.aesKey = .ok plain)
    (hparse : parseOperateLogResponse plain = .ok page) :
    (replied client earlier payload resp).1 = earlier ++ page.1 := by
  show earlier ++ recordsOf client ⟨.exchange cmdGetOperateLog payload, .ok resp⟩ = _
  unfold recordsOf
  simp only [hplain, Bind.bind, Except.bind, hparse]

theorem replied_rejected (earlier : List LogEntry) (payload : Bytes) (resp : Frame) :
    (replied client earlier payload resp).2 ↔
      Rejects client ⟨.exchange cmdGetOperateLog payload, .ok resp⟩ := by
  show (False ∨ _) ↔ _
  rw [false_or]

variable {client}

theorem endsLog_of_not {s : List LogEntry × Prop} (h : ¬ s.2) (o : Py (List LogEntry)) : EndsLog s o :=
  fun hs => absurd hs h

theorem parse_rejected (plain : Bytes) (echo status : UInt8) (data : Bytes)
    (henvelope : parseResponseStatus plain = .ok (echo, status, data)) (hstatus : status ≠ responseSuccess) :
    parseOperateLogResponse plain = .ok ([], 0) := by
  unfold parseOperateLogResponse
  rw [henvelope]
  exact if_pos (Or.inl hstatus)

theorem sat_lift {α : Type} {s : List LogEntry × Prop} (hs : ¬ s.2) {x : Py α}
    {f : α → ClientProgram (List LogEntry)} (hf : ∀ a, x = .ok a → Sat (logMonitor client) EndsLog s (f a)) :
    Sat (logMonitor client) EndsLog s ((liftM x : ClientProgram α) >>= f) := by
  cases x with
  | error e => exact endsLog_of_not hs _
  | ok a => exact hf a rfl

theorem operationLogPages_sat (maxEntries : Option Int) (fuel : Nat) (nextSeq : Int) (earlier : List LogEntry) :
    Sat (logMonitor client) EndsLog (earlier, False) (client.operationLogPages maxEntries fuel nextSeq
      ((firstEntries earlier).map (·.recordNumber)) (firstEntries earlier)) := by
  induction fuel generalizing nextSeq earlier with
  | zero => exact id
  | succ fuel ih =>
    unfold TTLockClient.operationLogPages
    refine sat_lift id fun payload _ => ?_
    refine ⟨False.elim, ?_⟩
    rintro (e | resp) -
    · exact endsLog_of_not (by simp [logMonitor, Rejects]) _
    show Sat _ _ (replied client earlier payload resp)
      ((liftM (client.decryptResponse resp "operate_log") : ClientProgram Bytes) >>= fun plain => _)
    have hreceived := replied_received client earlier payload resp
    have hrejected := replied_rejected client earlier payload resp
    generalize replied client earlier payload resp = state at hreceived hrejected ⊢
    by_cases hrejects : Rejects client ⟨.exchange cmdGetOperateLog payload, .ok resp⟩
    · -- The parser gives the rejection out as an empty page.
      obtain ⟨-, plain, echo, status, data, hplain, henvelope, hstatus⟩ := hrejects
      have hparse := parse_rejected plain echo status data henvelope hstatus
      have hdecrypt : client.decryptResponse resp "operate_log" = .ok plain :=
        (client.decryptResponse_eq_ok _ _ _).mpr hplain
      rw [hdecrypt]
      show Sat _ _ state ((liftM (raiseAsTTLockError PyExc.isValueError _ (parseOperateLogResponse plain)) :
        ClientProgram (List LogEntry × Nat)) >>= fun page => _)
      rw [hparse]
      intro _
      rw [hreceived plain _ hplain hparse, List.append_nil]
    · have hquiet : ¬ state.2 := fun h => hrejects (hrejected.mp h)
      refine sat_lift hquiet fun plain hdecrypt => ?_
      refine sat_lift hquiet fun page hpage => ?_
      have hparse := (raiseAsTTLockError_eq_ok _ _ _ _).mp hpage
      have hall := hreceived plain page ((raiseAsTTLockError_eq_ok _ _ _ _).mp hdecrypt) hparse
      obtain ⟨page, lastSeq⟩ := page
      simp only
      split
      · exact endsLog_of_not hquiet _
      split
      · exact endsLog_of_not hquiet _
      split
      · exact endsLog_of_not hquiet _
      split
      · exact endsLog_of_not hquiet _
      have hstate : state = (earlier ++ page, False) := Prod.ext hall (eq_false hquiet)
      rw [hstate, ← List.map_append, ← firstEntries_page earlier plain _ hparse]
      exact ih lastSeq (earlier ++ page)

theorem next_release (s : List LogEntry × Prop) (given : Py ClientOp.release.Answer) :
    (logMonitor client).next s .release given = s := by
  simp [logMonitor, Rejects, recordsOf]

theorem getOperationLog_sat (maxEntries : Option Int) (fuel : Nat) (fromSequence : Int) :
    Sat (logMonitor client) EndsLog ([], False) (client.getOperationLog fuel maxEntries fromSequence) := by
  apply withCommandLock_sat _ False.elim
  · exact fun e _ => endsLog_of_not (by simp [logMonitor, Rejects]) _
  have hstate : (logMonitor client).next ([], False) .acquire (.ok ()) = ([], False) := by
    simp [logMonitor, Rejects, recordsOf]
  rw [hstate]
  refine sat_mono _ ?_ (operationLogPages_sat maxEntries fuel fromSequence [])
  intro s o hs
  refine ⟨fun _ => rfl, fun e hr => absurd rfl (hr rfl e), fun _ => ?_⟩
  rwa [next_release]

theorem after_logMonitor (s : List LogEntry × Prop) (es : List CallEvent) :
    ((logMonitor client).after s es).1 = s.1 ++ es.flatMap (recordsOf client) ∧
      (((logMonitor client).after s es).2 ↔ s.2 ∨ ∃ ev ∈ es, Rejects client ev) := by
  induction es generalizing s with
  | nil => simp [Monitor.after]
  | cons ev es ih =>
    obtain ⟨hreceived, hrejected⟩ := ih ((logMonitor client).next s ev.1 ev.2)
    constructor
    · rw [List.flatMap_cons, ← List.append_assoc]
      exact hreceived
    · refine hrejected.trans ?_
      show (s.2 ∨ Rejects client ev) ∨ _ ↔ _
      simp [or_assoc]

theorem admitsAll_logMonitor (s : List LogEntry × Prop) (es : List CallEvent)
    (h : ∀ e, ⟨.release, .error e⟩ ∉ es) : (logMonitor client).AdmitsAll s es := by
  apply Monitor.admitsAll_of_forall
  rintro ⟨op, r⟩ hev - rfl e hr
  exact h e (hr ▸ hev)

/-- **A rejection ends the log as an empty page does**: what is left of the call returns what came
before the rejection. -/
theorem rejected_log_returns (client : TTLockClient) (fuel : Nat) (maxEntries : Option Int) (fromSequence : Int)
    (es : List CallEvent) (rest : ClientProgram (List LogEntry))
    (hrun : Runs (client.getOperationLog fuel maxEntries fromSequence) es rest)
    (hrelease : ∀ e, ⟨.release, .error e⟩ ∉ es) (hrejects : ∃ ev ∈ es, Rejects client ev)
    (answer : (op : ClientOp) → Py op.Answer) (hanswer : answer .release = .ok ()) :
    rest.outcome answer = some (.ok (firstEntries (es.flatMap (recordsOf client)))) := by
  have hsat := sat_run _ (getOperationLog_sat maxEntries fuel fromSequence) hrun
    (admitsAll_logMonitor _ es hrelease)
  obtain ⟨hreceived, hrejected⟩ := @after_logMonitor client ([], False) es
  have hcalls (s : List LogEntry × Prop) (op : ClientOp)
      (hs : s.1 = es.flatMap (recordsOf client) ∧ s.2) (hop : (logMonitor client).allows s op) :
      (logMonitor client).admits s op (answer op) ∧ ((logMonitor client).next s op (answer op)).1 =
        es.flatMap (recordsOf client) ∧ ((logMonitor client).next s op (answer op)).2 := by
    obtain rfl := hop hs.2
    refine ⟨fun _ e he => ?_, by rwa [next_release]⟩
    rw [hanswer] at he
    cases he
  obtain ⟨s', o, houtcome, hs', ho⟩ := sat_outcome _ answer hcalls (fun s hs hcut => hcut hs.2)
    ⟨hreceived, hrejected.mpr (.inr hrejects)⟩ hsat
  rw [houtcome, ho hs'.2, hs'.1]

end Rejected

/-- The lock rejects the first request. -/
def rejectedRun : List CallEvent :=
  [⟨.acquire, .ok ()⟩, ⟨.exchange cmdGetOperateLog [0xFF, 0xFF], .ok (logReply 1)⟩, ⟨.release, .ok ()⟩]

theorem runs_rejectedRun :
    Runs ((makeClient logTable).getOperationLog 1 none 0xFFFF) rejectedRun (Program.ofExcept (.ok [])) :=
  .call (.call (.call (.done _)))

theorem rejects_rejectedRun : ∃ ev ∈ rejectedRun, Rejects (makeClient logTable) ev := by
  refine ⟨_, List.mem_cons_of_mem _ List.mem_cons_self, rfl, [0x25, 0x00, 0x01], 0x25, 0x00, [0x01], rfl, rfl, ?_⟩
  decide

theorem rejected_log_returns_first :
    (Program.ofExcept (.ok []) : ClientProgram (List LogEntry)).outcome (replying (logReply 1)) =
      some (.ok (firstEntries (rejectedRun.flatMap (recordsOf (makeClient logTable))))) := by
  apply rejected_log_returns (makeClient logTable) 1 none 0xFFFF rejectedRun _ runs_rejectedRun _
    rejects_rejectedRun
  · rfl
  · simp [rejectedRun]

/-- A rejected request makes an empty log. -/
theorem rejected_log_is_empty :
    ¬ ∀ (client : TTLockClient) (fuel : Nat) (maxEntries : Option Int) (fromSequence : Int) (es : List CallEvent)
      (outcome : Py (List LogEntry)),
      Runs (client.getOperationLog fuel maxEntries fromSequence) es (Program.ofExcept outcome) →
      (∃ ev ∈ es, Rejects client ev) → ∃ e, outcome = .error e ∧ IsTTLockError e := by
  intro h
  obtain ⟨e, he, -⟩ := h (makeClient logTable) 1 none 0xFFFF rejectedRun _ runs_rejectedRun rejects_rejectedRun
  cases he

end TtlockBle.OperationLog
