import TtlockBle.Cipher
import TtlockBle.Contract
import TtlockBle.Interleaving
import TtlockBle.Lib.Descent
import TtlockBle.Wire

/-!
# Calls that end

The command lock is not re-entrant, and `get_operation_log` goes on for as long as there is something new.
Still no call waits for ever: in whatever order the calls of a client go on, and whatever they are
answered, they all come to an end and the lock is free.
-/

open TtlockBle.Lib

namespace TtlockBle.Ending

open Cipher Contract Interleaving Parsers Payloads Program Raises Returns

/-! ## What a call does with the lock -/

/-- The state is whether the call holds the lock. No reply has more than `bound` bytes of plaintext, and
nothing may be cut. -/
def monitor (client : TTLockClient) (bound : Nat) : Monitor ClientOp ClientOp.Answer PyExc Bool where
  allows held
    | .acquire => held = false
    | .release | .exchange _ _ => held = true
    | _ => True
  admits _
    | .release, r => r = .ok ()
    | .exchange _ _, .ok resp => Returns (·.length ≤ bound) (aesDecrypt client.aes (resp : Frame).data client.aesKey)
    | _, _ => True
  next held
    | .acquire, .ok _ => true
    | .release, _ => false
    | _, _ => held
  cuts _ := False

/-- The program ends with the lock as it was. -/
def Stays {α : Type} (client : TTLockClient) (bound : Nat) (held : Bool) (p : ClientProgram α) : Prop :=
  Sat (monitor client bound) (fun held' _ => held' = held) held p

section Rules

variable {client : TTLockClient} {bound : Nat} {held : Bool} {α β : Type}

theorem stays_pure (a : α) : Stays client bound held (pure a : ClientProgram α) := (sat_pure _ _ _ _).mpr rfl

theorem stays_ofExcept (x : Py α) : Stays client bound held (Program.ofExcept x : ClientProgram α) :=
  (sat_ofExcept _ _ _ _).mpr rfl

theorem stays_bind {p : ClientProgram α} {f : α → ClientProgram β} (hp : Stays client bound held p)
    (hf : ∀ a, Stays client bound held (f a)) : Stays client bound held (p >>= f) := by
  refine sat_bind _ hp ?_ fun _ _ h => h
  rintro _ a rfl
  exact hf a

theorem stays_lift {x : Py α} {f : α → ClientProgram β} (hf : ∀ a, x = .ok a → Stays client bound held (f a)) :
    Stays client bound held ((liftM x : ClientProgram α) >>= f) := by
  cases x with
  | ok a => exact hf a rfl
  | error e => exact stays_ofExcept (.error e)

theorem stays_discard {p : ClientProgram α} (h : Stays client bound held p) : Stays client bound held p.discard :=
  stays_bind h fun _ => stays_pure ()

theorem stays_withCommandLock {body : ClientProgram α} (h : Stays client bound true body) :
    Stays client bound false (withCommandLock body) := by
  refine withCommandLock_sat _ rfl (fun _ _ => rfl) (sat_mono _ ?_ h)
  rintro _ o rfl
  exact ⟨rfl, fun _ _ => rfl, fun _ => rfl⟩

theorem stays_exchange (command : Int) (payload : Bytes) : Stays client bound true (exchange command payload) := by
  refine ⟨rfl, ?_⟩
  rintro (e | resp) -
  · exact stays_ofExcept (.error e)
  · exact stays_ofExcept (.ok resp)

theorem stays_roundTrip (command : Int) (payload : Bytes) (label : String) :
    Stays client bound true (client.roundTrip command payload label) :=
  stays_bind (stays_exchange _ _) fun _ => stays_ofExcept _

theorem stays_read (command : Int) (payload : Bytes) (label : String) (use : Bytes → Py α) :
    Stays client bound true (do use (← client.roundTrip command payload label)) :=
  stays_bind (stays_roundTrip _ _ _) fun _ => stays_ofExcept _

theorem stays_perform {op : ClientOp} (hallows : ∀ held, (monitor client bound).allows held op)
    (hnext : ∀ held r, (monitor client bound).next held op r = held) :
    Stays client bound held (Program.perform op : ClientProgram op.Answer) :=
  ⟨hallows held, fun r _ => (sat_ofExcept _ _ _ _).mpr (hnext held r)⟩

end Rules

/-! ## Every command -/

section Commands

variable {client : TTLockClient} {bound : Nat}

theorem stays_adminHandshake : Stays client bound true client.adminHandshake := by
  unfold TTLockClient.adminHandshake
  split
  · exact stays_ofExcept (.error _)
  refine stays_lift fun payload _ => stays_bind (stays_roundTrip _ _ _) fun plain => ?_
  refine stays_lift fun ps _ => stays_lift fun random _ => ?_
  exact stays_read _ _ _ _

theorem stays_gated {α : Type} {body : ClientProgram α} (h : Stays client bound true body) :
    Stays client bound true (do client.adminHandshake; body) :=
  stays_bind stays_adminHandshake fun _ => h

theorem stays_moveBolt (opcode : Int) (label : String) : Stays client bound false (client.moveBolt opcode label) := by
  unfold TTLockClient.moveBolt
  refine stays_bind (stays_withCommandLock ?_) fun _ => stays_perform (fun _ => trivial) fun _ _ => rfl
  refine stays_bind (stays_lift fun payload _ => stays_read _ _ _ _) fun ps => ?_
  refine stays_bind (stays_perform (fun _ => trivial) fun _ _ => rfl) fun now => ?_
  exact stays_lift fun payload _ => stays_read _ _ _ _

theorem stays_calibrateTime (localTime : DateTime) : Stays client bound false (client.calibrateTime localTime) := by
  unfold TTLockClient.calibrateTime
  rw [payloadTimeCalibrate_eq]
  refine stays_withCommandLock (stays_gated (stays_lift fun payload _ => ?_))
  refine stays_bind (stays_roundTrip _ _ _) fun plain => stays_lift fun envelope _ => ?_
  obtain ⟨_, status, data⟩ := envelope
  simp only
  split
  · exact stays_ofExcept (.error _)
  · exact stays_pure ()

theorem stays_getLockTime : Stays client bound false client.getLockTime :=
  stays_withCommandLock (stays_read _ _ _ _)

theorem stays_syncTime (localTime : DateTime) (driftThreshold : Int) :
    Stays client bound false (client.syncTime localTime driftThreshold) := by
  refine stays_bind stays_getLockTime fun lockTime => ?_
  simp only
  split
  · exact stays_bind (stays_calibrateTime localTime) fun _ => stays_pure _
  · exact stays_pure _

theorem stays_autoLockExchange (payload : Bytes) (label : String) :
    Stays client bound true (client.autoLockExchange payload label) :=
  stays_bind (stays_gated (stays_roundTrip _ _ _)) fun _ => stays_ofExcept _

theorem stays_passcodePages (attempts sequence : Nat) (entries : List PasscodeEntry) :
    Stays client bound true (client.passcodePages attempts sequence entries) := by
  induction attempts generalizing sequence entries with
  | zero => exact stays_ofExcept (.error _)
  | succ attempts ih =>
    unfold TTLockClient.passcodePages
    refine stays_lift fun payload _ => stays_bind (stays_roundTrip _ _ _) fun plain => stays_lift fun page _ => ?_
    obtain ⟨entry, nextSequence⟩ := page
    simp only
    split
    · exact stays_pure _
    · exact ih nextSequence _

theorem stays_listingPages {α : Type} (l : TTLockClient.Listing α) (left index : Nat) (entries : List α) :
    Stays client bound true (client.listingPages l left index entries) := by
  induction left generalizing index entries with
  | zero => exact stays_ofExcept (.error _)
  | succ left ih =>
    unfold TTLockClient.listingPages
    refine stays_lift fun payload _ => stays_bind (stays_roundTrip _ _ _) fun plain => stays_lift fun entry _ => ?_
    cases entry with
    | none => exact stays_pure entries
    | some entry => exact ih (index + 1) _

/-- Each page has a record that was not seen before, and there are no more than `65535 + bound` of them. -/
theorem stays_operationLogPages (maxEntries : Option Int) (fuel : Nat) (nextSeq : Int) (seen : List Int)
    (entries : List LogEntry) (hseen : Seen bound seen) (hfuel : 65536 + bound ≤ fuel + seen.length) :
    Stays client bound true (client.operationLogPages maxEntries fuel nextSeq seen entries) := by
  induction fuel generalizing nextSeq seen entries with
  | zero =>
    have hlength := seen_length seen hseen
    omega
  | succ fuel ih =>
    unfold TTLockClient.operationLogPages
    refine stays_lift fun payload _ => ⟨rfl, ?_⟩
    rintro (e | resp) hadmitted
    · exact stays_ofExcept (.error e)
    refine stays_lift fun plain hplain => stays_lift fun page hpage => ?_
    obtain ⟨page, lastSeq⟩ := page
    have hlength := hadmitted plain ((client.decryptResponse_eq_ok _ _ _).mp hplain)
    have hseen' := seen_page seen hseen plain hlength page lastSeq ((raiseAsTTLockError_eq_ok _ _ _ _).mp hpage)
    simp only
    split
    · exact stays_pure _
    split
    · exact stays_pure _
    rename_i hnew
    split
    · exact stays_pure _
    split
    · exact stays_pure _
    apply ih lastSeq _ _ hseen'
    have hpos := List.length_pos_of_ne_nil hnew
    rw [List.length_append, List.length_map]
    omega

theorem stays_deviceProperties : Stays client bound true client.deviceProperties := by
  unfold TTLockClient.deviceProperties
  iterate 6 refine stays_bind (stays_roundTrip _ _ _) fun plain => stays_lift fun _ _ => ?_
  exact stays_pure _

theorem stays_program (fuel : Nat) (hfuel : 65536 + bound ≤ fuel) (command : Command) :
    Stays client bound false (client.program fuel command) := by
  cases command with
  | unlock => exact stays_moveBolt _ _
  | lock => exact stays_moveBolt _ _
  | calibrateTime localTime => exact stays_calibrateTime localTime
  | getLockTime => exact stays_discard stays_getLockTime
  | syncTime localTime driftThreshold => exact stays_discard (stays_syncTime localTime driftThreshold)
  | queryState => exact stays_discard (stays_withCommandLock (stays_read _ _ _ _))
  | getAutoLockTime =>
    exact stays_discard (stays_withCommandLock (stays_bind (stays_autoLockExchange _ _) fun _ => stays_pure _))
  | setAutoLockTime seconds =>
    exact stays_withCommandLock (stays_lift fun payload _ => stays_discard (stays_autoLockExchange payload _))
  | getAutoLockLimits =>
    exact stays_discard (stays_withCommandLock (stays_bind (stays_gated (stays_roundTrip _ _ _)) fun _ =>
      stays_ofExcept _))
  | addPasscode code pwdType startDate endDate =>
    exact stays_withCommandLock (stays_lift fun payload _ => stays_gated (stays_read _ _ _ _))
  | deletePasscode code pwdType =>
    exact stays_withCommandLock (stays_lift fun payload _ => stays_gated (stays_read _ _ _ _))
  | clearPasscodes => exact stays_withCommandLock (stays_gated (stays_read _ _ _ _))
  | getPasscodes => exact stays_discard (stays_withCommandLock (stays_gated (stays_passcodePages _ _ _)))
  | getOperationLog maxEntries fromSequence =>
    refine stays_discard (stays_withCommandLock ?_)
    exact stays_operationLogPages maxEntries fuel fromSequence [] [] ⟨List.nodup_nil, by simp⟩ (by simpa using hfuel)
  | getFingerprints => exact stays_discard (stays_withCommandLock (stays_gated (stays_listingPages _ _ _ _)))
  | getCards => exact stays_discard (stays_withCommandLock (stays_gated (stays_listingPages _ _ _ _)))
  | getLockSound => exact stays_discard (stays_withCommandLock (stays_gated (stays_read _ _ _ _)))
  | setLockSound enabled => exact stays_withCommandLock (stays_gated (stays_read _ _ _ _))
  | setLockVolume level =>
    exact stays_lift fun payload _ => stays_withCommandLock (stays_gated (stays_read _ _ _ _))
  | getDeviceFeatures => exact stays_discard (stays_withCommandLock (stays_gated (stays_read _ _ _ _)))
  | getDeviceInfo =>
    refine stays_discard (stays_withCommandLock ?_)
    iterate 6 refine stays_bind (stays_perform (fun _ => trivial) fun _ _ => rfl) fun _ => ?_
    exact stays_pure _
  | getDeviceProperties =>
    refine stays_discard (stays_withCommandLock (stays_gated ?_))
    unfold Stays
    rw [sat_handle]
    refine sat_mono _ ?_ stays_deviceProperties
    rintro _ o rfl
    exact stays_ofExcept _
  | pokeLock => exact stays_withCommandLock (stays_discard (stays_exchange _ _))

end Commands

/-! ## Steps -/

/-- The call that an event is about. -/
def subject : CallsEvent → Nat
  | .acquired i | .notAcquired i _ | .released i | .send i | .answer i _ | .clock i _ | .keepAliveRestarted i _
  | .charRead i _ => i

/-- The wait for the lock ends without it. -/
def GivesUp : CallsEvent → Prop
  | .notAcquired _ _ => True
  | _ => False

/-- A call has sent its request, or its operation is over. -/
def Advances (c' c : Call) : Prop :=
  Prod.Lex Program.After (· > ·) (c'.left, c'.waiting) (c.left, c.waiting)

theorem advances_wellFounded : WellFounded Advances :=
  InvImage.wf (fun c : Call => (c.left, c.waiting)) (after_wellFounded.prod_lex wellFounded_gt)

theorem advances_send {s : Calls} {i : Nat} (hwaiting : ¬ (s.calls i).waiting) (opcode : Int) (payload : Bytes) :
    Advances ((s.send i opcode payload).calls i) (s.calls i) := by
  have hcall : (s.send i opcode payload).calls i = { s.calls i with waiting := true } := if_pos rfl
  rw [hcall]
  refine Prod.Lex.right _ ?_
  rw [Bool.eq_false_of_not_eq_true hwaiting]
  exact (by decide : true > false)

theorem advances_finish {s : Calls} {i : Nat} {op : ClientOp} {next : Py op.Answer → ClientProgram Unit}
    (hleft : (s.calls i).left = .call op next) (outcome : Py op.Answer) :
    Advances ((s.finish i op next outcome).calls i) (s.calls i) := by
  have hcall : (s.finish i op next outcome).calls i = ⟨next outcome, false⟩ := if_pos rfl
  rw [hcall]
  refine Prod.Lex.left _ _ ?_
  rw [hleft]
  exact .answered op next outcome

theorem step_others {s s' : Calls} {e : CallsEvent} (h : s.step e = some s') {j : Nat} (hj : j ≠ subject e) :
    s'.calls j = s.calls j := by
  unfold Calls.step at h
  cases e <;> (simp only at h; split at h) <;> (try split at h) <;> cases h
  all_goals exact if_neg hj

theorem advances_subject {s s' : Calls} {e : CallsEvent} {i : Nat} (h : s.step e = some s')
    (hi : Advances (s'.calls i) (s.calls i)) : i = subject e := by
  by_contra hne
  rw [step_others h hne] at hi
  exact advances_wellFounded.irrefl.irrefl _ hi

/-- The call that an event is about goes on, and no other one does. -/
theorem step_descends {s s' : Calls} {e : CallsEvent} {n : Nat} (hn : subject e < n) (h : s.step e = some s') :
    Descends Calls.calls Advances n s' s := by
  obtain ⟨i, hi⟩ : ∃ i, Advances (s'.calls i) (s.calls i) := by
    rcases step_cases s s' e h with ⟨i, opcode, payload, next, hleft, hwaiting, rfl⟩ |
      ⟨i, op, next, outcome, hleft, hfits, rfl⟩
    · exact ⟨i, advances_send hwaiting opcode payload⟩
    · exact ⟨i, advances_finish hleft outcome⟩
  obtain rfl := advances_subject h hi
  exact ⟨subject e, hn, hi, fun j => step_others h⟩

/-! ## Runs -/

/-- No frame that has come is longer than a frame can be. -/
def Framed (log : List LogItem) : Prop :=
  ∀ call opcode payload resp, .answered call opcode payload (.ok resp) ∈ log → resp.data.length ≤ 255

/-- What is left of each call gives the lock back if it has it. -/
structure Inv (client : TTLockClient) (n : Nat) (s : Calls) : Prop where
  calls : ∀ i, Sat (monitor client 255) (fun held _ => held = false) (decide (s.owner = some i)) (s.calls i).left
  owner : ∀ i, s.owner = some i → i < n

section Runs

variable {client : TTLockClient} (hcipher : PaddedCipher client.aes client.aesKey) {n : Nat}
include hcipher

theorem admits_finish {s : Calls} {i : Nat} {op : ClientOp} {outcome : Py op.Answer} {held : Bool}
    (hfits : Fits s.owner (s.calls i).waiting op outcome) (hframed : Framed (Calls.logged i op outcome)) :
    (monitor client 255).admits held op outcome := by
  cases op with
  | release => exact hfits
  | exchange opcode payload =>
    rcases outcome with e | resp
    · trivial
    intro plain hplain
    have hlength := aesDecrypt_length hcipher _ plain hplain
    have hframe := hframed i opcode payload resp List.mem_cons_self
    omega
  | _ => trivial

omit hcipher in
theorem owner_mine (owner : Option Nat) (i : Nat) (op : ClientOp) (outcome : Py op.Answer) :
    (monitor client 255).next (decide (owner = some i)) op outcome =
      decide (Calls.ownerAfter owner i op outcome = some i) := by
  cases op with
  | acquire =>
    rcases outcome with e | ⟨⟩
    · rfl
    · exact (decide_eq_true rfl).symm
  | release => exact (decide_eq_false (by simp [Calls.ownerAfter])).symm
  | _ => rfl

omit hcipher in
theorem owner_others {owner : Option Nat} {i j : Nat} {op : ClientOp} {outcome : Py op.Answer} {waiting : Bool}
    (hj : j ≠ i) (hfits : Fits owner waiting op outcome)
    (hallows : (monitor client 255).allows (decide (owner = some i)) op) :
    Calls.ownerAfter owner i op outcome = some j ↔ owner = some j := by
  cases op with
  | acquire =>
    rcases outcome with e | ⟨⟩
    · rfl
    · rw [show owner = none from hfits]
      simp [Calls.ownerAfter, Ne.symm hj]
  | release =>
    rw [of_decide_eq_true hallows]
    simp [Calls.ownerAfter, Ne.symm hj]
  | _ => rfl

theorem inv_finish {s : Calls} {i : Nat} {op : ClientOp} {next : Py op.Answer → ClientProgram Unit}
    {outcome : Py op.Answer} (h : Inv client n s) (hi : i < n) (hleft : (s.calls i).left = .call op next)
    (hfits : Fits s.owner (s.calls i).waiting op outcome) (hframed : Framed (Calls.logged i op outcome)) :
    Inv client n (s.finish i op next outcome) := by
  obtain ⟨hallows, hnext⟩ := (sat_call _ _ _ _ _).mp (hleft ▸ h.calls i)
  constructor
  · intro j
    by_cases hj : j = i
    · subst hj
      have hcall : (s.finish j op next outcome).calls j = ⟨next outcome, false⟩ := if_pos rfl
      rw [hcall]
      exact owner_mine s.owner j op outcome ▸ hnext outcome (admits_finish hcipher hfits hframed)
    · have hcall : (s.finish i op next outcome).calls j = s.calls j := if_neg hj
      have howner : (s.finish i op next outcome).owner = some j ↔ s.owner = some j := owner_others hj hfits hallows
      rw [hcall, decide_eq_decide.mpr howner]
      exact h.calls j
  · intro j howner
    by_cases hj : j = i
    · exact hj ▸ hi
    · exact h.owner j ((owner_others hj hfits hallows).mp howner)

omit hcipher in
theorem inv_send {s : Calls} (h : Inv client n s) (i : Nat) (opcode : Int) (payload : Bytes) :
    Inv client n (s.send i opcode payload) := by
  refine ⟨fun j => ?_, h.owner⟩
  have hleft : ((s.send i opcode payload).calls j).left = (s.calls j).left := by
    unfold Calls.send
    simp only
    split_ifs with hj
    · rw [hj]
    · rfl
  rw [hleft]
  exact h.calls j

omit hcipher in
theorem log_grows {s s' : Calls} {e : CallsEvent} (h : s.step e = some s') : s.log <+: s'.log := by
  rcases step_cases s s' e h with ⟨i, opcode, payload, next, -, -, rfl⟩ | ⟨i, op, next, outcome, -, -, rfl⟩
  · exact List.prefix_append _ _
  · exact List.prefix_append _ _

theorem inv_step {s s' : Calls} {e : CallsEvent} (hn : subject e < n) (hframed : Framed s'.log) (h : Inv client n s)
    (hstep : s.step e = some s') : Inv client n s' := by
  rcases step_cases s s' e hstep with ⟨i, opcode, payload, next, -, -, rfl⟩ |
    ⟨i, op, next, outcome, hleft, hfits, rfl⟩
  · exact inv_send h i opcode payload
  · have hi : i < n := advances_subject hstep (advances_finish hleft outcome) ▸ hn
    refine inv_finish hcipher h hi hleft hfits fun call opcode payload resp hmem => ?_
    exact hframed call opcode payload resp (List.mem_append_right _ hmem)

/-- While only the first `n` calls go on, they are all on the way to an end. -/
theorem inv_run {fuel : Nat} (hfuel : 65536 + 255 ≤ fuel) (commands : Nat → Command) {es : List CallsEvent} {s : Calls}
    (hrun : (Calls.machine client fuel commands).Reaches es s) (hes : ∀ e ∈ es, subject e < n)
    (hframed : Framed s.log) :
    Inv client n s := by
  refine Machine.run_history _ (I := fun es s => (∀ e ∈ es, subject e < n) → Framed s.log → Inv client n s)
    ?_ ?_ hrun hes hframed
  · intro _ _
    exact ⟨fun i => stays_program fuel hfuel (commands i), fun i h => by cases h⟩
  · intro es s e s' _ ih hstep hes hframed
    refine inv_step hcipher (hes e (by simp)) hframed ?_ hstep
    refine ih (fun e he => hes e (List.mem_append_left _ he)) fun call opcode payload resp hmem => ?_
    exact hframed call opcode payload resp ((log_grows hstep).subset hmem)

omit hcipher in
theorem goes_on {s : Calls} {i : Nat} {op : ClientOp} {next : Py op.Answer → ClientProgram Unit}
    (hleft : (s.calls i).left = .call op next) (hop : op = .acquire → s.owner = none) :
    ∃ e, subject e = i ∧ ¬ GivesUp e ∧ s.step e ≠ none := by
  cases op with
  | acquire => exact ⟨.acquired i, rfl, id, by simp [Calls.step, hleft, hop rfl]⟩
  | release => exact ⟨.released i, rfl, id, by simp [Calls.step, hleft]⟩
  | exchange opcode payload =>
    exact ⟨.answer i (.error Channel.timedOut), rfl, id, by simp [Calls.step, hleft, Except.isOk, Except.toBool]⟩
  | now => exact ⟨.clock i (.ok 0), rfl, id, by simp [Calls.step, hleft]⟩
  | restartKeepAlive => exact ⟨.keepAliveRestarted i (.ok ()), rfl, id, by simp [Calls.step, hleft]⟩
  | readOptionalChar uuid => exact ⟨.charRead i (.ok none), rfl, id, by simp [Calls.step, hleft]⟩

omit hcipher in
/-- Where no call can go on, no call waits for another one. -/
theorem ended_of_stuck {s : Calls} (h : Inv client n s)
    (hstuck : ∀ e, subject e < n → ¬ GivesUp e → s.step e = none) :
    s.owner = none ∧ ∀ i < n, ∃ outcome, (s.calls i).left = Program.ofExcept outcome := by
  have hends (i : Nat) (hi : i < n) (hwaits : ∀ next, (s.calls i).left = .call .acquire next → s.owner = none) :
      ∃ outcome, (s.calls i).left = Program.ofExcept outcome := by
    have hcall := h.calls i
    cases hleft : (s.calls i).left with
    | ret a => exact ⟨.ok a, rfl⟩
    | raise e => exact ⟨.error e, rfl⟩
    | cut =>
      rw [hleft] at hcall
      exact hcall.elim
    | call op next =>
      obtain ⟨e, rfl, hgoes, hstep⟩ := goes_on hleft fun hop => by
        subst hop
        exact hwaits next hleft
      exact absurd (hstuck e hi hgoes) hstep
  have howner : s.owner = none := by
    by_contra hsome
    obtain ⟨i, hi⟩ := Option.ne_none_iff_exists'.mp hsome
    have hcall := h.calls i
    rw [decide_eq_true hi] at hcall
    obtain ⟨outcome, hleft⟩ := hends i (h.owner i hi) fun next hleft => by
      rw [hleft] at hcall
      exact absurd hcall.1 (by simp [monitor])
    rw [hleft, sat_ofExcept] at hcall
    cases hcall
  exact ⟨howner, fun i hi => hends i hi fun _ _ => howner⟩

/-- **No call waits for ever.** However the first `n` calls go on, they cannot go on for ever. And where none
of them can go on any more, unless it gives up the wait for the lock, all have ended and the lock is
free. -/
theorem calls_end (fuel : Nat) (hfuel : 65536 + 255 ≤ fuel) (commands : Nat → Command) (n : Nat) :
    (∀ (events : Nat → CallsEvent) (states : Nat → Calls), (∀ k, subject (events k) < n) →
      ∃ k, (Calls.machine client fuel commands).step (states k) (events k) ≠ some (states (k + 1))) ∧
    ∀ es s, (Calls.machine client fuel commands).Reaches es s → (∀ e ∈ es, subject e < n) → Framed s.log →
      (∀ e, subject e < n → ¬ GivesUp e → s.step e = none) →
      s.owner = none ∧ ∀ i < n, ∃ outcome, (s.calls i).left = Program.ofExcept outcome := by
  constructor
  · exact Machine.run_stops _ (P := (subject · < n)) advances_wellFounded fun s e s' => step_descends
  · intro es s hrun hes hframed hstuck
    exact ended_of_stuck (inv_run hcipher hfuel commands hrun hes hframed) hstuck

end Runs

theorem step_ended {s : Calls} {e : CallsEvent} (h : (s.calls (subject e)).left.Ended) : s.step e = none := by
  by_contra hstep
  obtain ⟨s', hs'⟩ := Option.ne_none_iff_exists'.mp hstep
  rcases step_cases s s' e hs' with ⟨i, opcode, payload, next, hleft, hwaiting, rfl⟩ |
    ⟨i, op, next, outcome, hleft, hfits, rfl⟩
  · rw [← advances_subject hs' (advances_send hwaiting opcode payload), hleft] at h
    exact h
  · rw [← advances_subject hs' (advances_finish hleft outcome), hleft] at h
    exact h

def queryAndPoke (call : Nat) : Command := if call = 0 then .queryState else .pokeLock

/-- A query that is not answered in time, and behind it the poke that has waited for the lock. -/
def queryThenPoke : List CallsEvent :=
  [.acquired 0, .send 0, .answer 0 (.error Channel.timedOut), .released 0, .acquired 1, .send 1,
    .answer 1 (.ok (lockFrame [])), .released 1]

theorem calls_end_queryThenPoke :
    ∃ s, (Calls.machine Wire.wireClient 65791 queryAndPoke).Reaches queryThenPoke s ∧ s.owner = none ∧
      ∀ i < 2, ∃ outcome, (s.calls i).left = Program.ofExcept outcome := by
  obtain ⟨s, hrun, hfirst, hsecond, hlog⟩ := (Machine.exists_reaches (Calls.machine Wire.wireClient 65791 queryAndPoke)
    queryThenPoke fun s => (s.calls 0).left.Ended ∧ (s.calls 1).left.Ended ∧ s.log =
      [.sent 0 cmdQueryState payloadQueryState,
        .answered 0 cmdQueryState payloadQueryState (.error Channel.timedOut),
        .sent 1 cmdQueryState payloadQueryState,
        .answered 1 cmdQueryState payloadQueryState (.ok (lockFrame []))]).mpr (by decide +kernel)
  refine ⟨s, hrun, (calls_end Wire.paddedCipher_wireClient 65791 (by decide) queryAndPoke 2).2 queryThenPoke s hrun
    (by decide) ?_ fun e he _ => step_ended ?_⟩
  · rw [hlog]
    intro call opcode payload resp hmem
    simp at hmem
    rw [hmem.2.2.2]
    decide
  · obtain he | he : subject e = 0 ∨ subject e = 1 := by omega
    · rwa [he]
    · rwa [he]

end TtlockBle.Ending
