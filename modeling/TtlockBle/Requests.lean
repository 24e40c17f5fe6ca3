import TtlockBle.Payloads

/-!
# What a command sends, and what it does not catch

The requests of a command are short, but for one: `add_passcode` takes dates of any length into its
payload. And an exception that is neither a `RuntimeError` nor a `ValueError` passes through a
command as it is: all that the command still does is to give back the lock.
-/

open TtlockBle.Lib

namespace TtlockBle.Requests

open Payloads Program Returns

/-- The longest payload whose ciphertext has a length that one byte can declare. -/
def maxPayload : Nat := 239

/-- The request is an `add_passcode` with dates that one frame has no room for. -/
def Oversized (opcode : Int) : Command → Prop
  | .addPasscode code pwdType startDate endDate =>
    opcode = cmdManageKeyboardPassword ∧
      maxPayload < 3 + code.length + (startDate.length + 1) / 2 +
        if pwdType = .permanent then 0 else (endDate.length + 1) / 2
  | _ => False

def Sends (command : Command) : ClientOp → Prop
  | .exchange opcode payload =>
    (0 ≤ opcode ∧ opcode ≤ 255) ∧ (maxPayload < payload.length ↔ Oversized opcode command)
  | _ => True

/-! ## Triples -/

/-- An exception that nothing in a command catches. -/
abbrev Uncaught := { e : PyExc // ¬ e.isRuntimeOrValueError }

section Rules

variable (command : Command)

/-- The state is the exception that is on its way through the command. -/
def monitor : Monitor ClientOp ClientOp.Answer PyExc (Option Uncaught) where
  allows s op := Sends command op ∧ (s ≠ none → op = .release)
  admits _ _ _ := True
  next s _
    | .ok _ => s
    | .error e => if h : e.isRuntimeOrValueError then none else some ⟨e, h⟩

def Watched {α : Type} (p : ClientProgram α) : Prop :=
  Sat (monitor command) (fun s o => ∀ e ∈ s, o = .error e.val) none p

variable {command} {α β : Type}

theorem watched_pure (a : α) : Watched command (pure a : ClientProgram α) := by
  simp [Watched]

theorem watched_ofExcept (x : Py α) : Watched command (Program.ofExcept x : ClientProgram α) := by
  simp [Watched]

theorem watched_bind {p : ClientProgram α} {f : α → ClientProgram β} (hp : Watched command p)
    (hf : ∀ a, Watched command (f a)) : Watched command (p >>= f) := by
  refine sat_bind _ hp ?_ ?_
  · intro s a h
    have hnone : s = none := by
      apply Option.eq_none_iff_forall_not_mem.mpr
      intro e he
      cases h e he
    rw [hnone]
    exact hf a
  · intro s e h e' he'
    have := h e' he'
    simpa using this

theorem watched_lift {x : Py α} {f : α → ClientProgram β} (hf : ∀ a, x = .ok a → Watched command (f a)) :
    Watched command ((liftM x : ClientProgram α) >>= f) := by
  cases x with
  | ok a => exact hf a rfl
  | error e => exact watched_ofExcept (.error e)

omit command in
theorem raised_lasts (e : PyExc) :
    ∀ e' ∈ (if h : e.isRuntimeOrValueError then none else some ⟨e, h⟩ : Option Uncaught),
      (.error e : Py α) = .error e'.val := by
  split <;> simp

theorem watched_perform {op : ClientOp} (h : Sends command op) :
    Watched command (Program.perform op : ClientProgram op.Answer) := by
  refine ⟨⟨h, fun hs => absurd rfl hs⟩, ?_⟩
  rintro (e | a) -
  · exact raised_lasts e
  · exact (sat_ofExcept _ _ _ _).mpr (by simp [monitor])

theorem watched_withCommandLock {body : ClientProgram α} (h : Watched command body) :
    Watched command (withCommandLock body) := by
  apply withCommandLock_sat (monitor command) ⟨trivial, fun hs => absurd rfl hs⟩
  · exact fun e _ => raised_lasts e
  refine sat_mono _ ?_ h
  exact fun s o hs => ⟨⟨trivial, fun _ => rfl⟩, fun e _ => raised_lasts e, fun _ => hs⟩

theorem watched_discard {p : ClientProgram α} (h : Watched command p) : Watched command p.discard :=
  watched_bind h fun _ => watched_pure ()

theorem not_oversized {opcode : Int} (h : opcode ≠ cmdManageKeyboardPassword) : ¬ Oversized opcode command := by
  cases command <;> simp [Oversized, h]

theorem sends_short {opcode : Int} {payload : Bytes} (hopcode : 0 ≤ opcode ∧ opcode ≤ 255)
    (hfits : ¬ Oversized opcode command) (hlength : payload.length ≤ maxPayload) :
    Sends command (.exchange opcode payload) :=
  ⟨hopcode, iff_of_false (Nat.not_lt.mpr hlength) hfits⟩

theorem watched_roundTrip {client : TTLockClient} {opcode : Int} {payload : Bytes} {label : String}
    (h : Sends command (.exchange opcode payload)) :
    Watched command (client.roundTrip opcode payload label) :=
  watched_bind (watched_perform h) fun _ => watched_ofExcept _

theorem watched_short {client : TTLockClient} {opcode : Int} {payload : Bytes} {label : String}
    (hopcode : (0 ≤ opcode ∧ opcode ≤ 255) ∧ opcode ≠ cmdManageKeyboardPassword)
    (hlength : payload.length ≤ maxPayload) : Watched command (client.roundTrip opcode payload label) :=
  watched_roundTrip (sends_short hopcode.1 (not_oversized hopcode.2) hlength)

end Rules

/-! ## Commands -/

section Commands

variable {client : TTLockClient} {command : Command}

theorem watched_checkUserTime : Watched command client.checkUserTime := by
  unfold TTLockClient.checkUserTime
  refine watched_lift fun payload hpayload => ?_
  have hlength := payloadCheckUserTime_length _ _ payload hpayload
  refine watched_bind (watched_short (by decide) (Eq.trans_le hlength (by decide))) fun plain => ?_
  exact watched_ofExcept _

theorem watched_adminHandshake : Watched command client.adminHandshake := by
  unfold TTLockClient.adminHandshake
  split
  · exact watched_ofExcept (.error _)
  refine watched_lift fun payload hpayload => ?_
  have hlength := payloadCheckAdmin_length _ _ _ payload hpayload
  refine watched_bind (watched_short (by decide) (Eq.trans_le hlength (by decide))) fun plain => ?_
  refine watched_lift fun ps _ => ?_
  refine watched_lift fun payload hpayload => ?_
  have hlength := payloadCheckRandom_length _ _ payload hpayload
  refine watched_bind (watched_short (by decide) (Eq.trans_le hlength (by decide))) fun plain => ?_
  exact watched_ofExcept _

theorem watched_moveBolt (opcode : Int) (hopcode : opcode = cmdUnlock ∨ opcode = cmdLock) (label : String) :
    Watched command (client.moveBolt opcode label) := by
  unfold TTLockClient.moveBolt
  refine watched_bind (watched_withCommandLock ?_) fun _ => watched_perform trivial
  refine watched_bind watched_checkUserTime fun ps => ?_
  refine watched_bind (watched_perform trivial) fun now => ?_
  refine watched_lift fun payload hpayload => ?_
  have hlength := payloadUnlock_length _ _ _ _ payload hpayload
  refine watched_bind (watched_short ?_ (Eq.trans_le hlength (by decide))) fun plain => watched_ofExcept _
  rcases hopcode with rfl | rfl <;> decide

theorem watched_calibrateTime (localTime : DateTime) : Watched command (client.calibrateTime localTime) := by
  unfold TTLockClient.calibrateTime
  apply watched_withCommandLock
  refine watched_bind watched_adminHandshake fun _ => ?_
  rw [payloadTimeCalibrate_eq]
  refine watched_lift fun payload hpayload => ?_
  obtain rfl := Except.ok.inj hpayload
  refine watched_bind (watched_short (by decide) (by simp [maxPayload])) fun plain => ?_
  refine watched_lift fun envelope _ => ?_
  obtain ⟨_, status, data⟩ := envelope
  simp only
  split
  · exact watched_ofExcept (.error _)
  · exact watched_pure ()

theorem watched_getLockTime : Watched command client.getLockTime := by
  apply watched_withCommandLock
  refine watched_bind (watched_short (by decide) (by decide)) fun plain => ?_
  exact watched_ofExcept _

theorem watched_syncTime (localTime : DateTime) (driftThreshold : Int) :
    Watched command (client.syncTime localTime driftThreshold) := by
  refine watched_bind watched_getLockTime fun lockTime => ?_
  simp only
  split
  · exact watched_bind (watched_calibrateTime localTime) fun _ => watched_pure _
  · exact watched_pure _

theorem watched_queryState : Watched command client.queryState := by
  apply watched_withCommandLock
  refine watched_bind (watched_short (by decide) (by decide)) fun plain => ?_
  exact watched_ofExcept _

section Gated

variable {opcode : Int} {payload : Bytes} {label : String} (h : Sends command (.exchange opcode payload))
include h

theorem watched_gatedWrite : Watched command (client.gatedWrite opcode payload label) := by
  refine watched_bind watched_adminHandshake fun _ => ?_
  exact watched_bind (watched_roundTrip h) fun plain => watched_ofExcept _

theorem watched_gatedRead {α : Type} {parser : Bytes → Py α} :
    Watched command (client.gatedRead opcode payload label parser) := by
  refine watched_withCommandLock (watched_bind watched_adminHandshake fun _ => ?_)
  exact watched_bind (watched_roundTrip h) fun plain => watched_ofExcept _

end Gated

theorem watched_autoLockRoundTrip {payload : Bytes} {label : String} (hlength : payload.length ≤ maxPayload) :
    Watched command (client.autoLockRoundTrip payload label) :=
  watched_bind watched_adminHandshake fun _ =>
    watched_short (by decide) hlength

theorem watched_autoLockExchange {payload : Bytes} {label : String} (hlength : payload.length ≤ maxPayload) :
    Watched command (client.autoLockExchange payload label) :=
  watched_bind (watched_autoLockRoundTrip hlength) fun _ => watched_ofExcept _

theorem watched_deviceProperties : Watched command client.deviceProperties := by
  have hexchange : ∀ step, Watched command (client.devicePropertyExchange step) :=
    fun step => watched_short (by decide) (by simp [payloadDeviceProperty, maxPayload])
  unfold TTLockClient.deviceProperties
  iterate 6 refine watched_bind (hexchange _) fun plain => watched_lift fun _ _ => ?_
  exact watched_pure _

/-- The handler that re-raises catches `RuntimeError` and `ValueError` only. -/
theorem watched_getDeviceProperties : Watched command client.getDeviceProperties := by
  refine watched_withCommandLock (watched_bind watched_adminHandshake fun _ => ?_)
  unfold Watched
  rw [sat_handle]
  refine sat_mono _ ?_ watched_deviceProperties
  intro s o hs
  rw [sat_ofExcept]
  intro e he
  simp [hs e he, raiseAsTTLockError, e.property]

theorem watched_passcodePages (attempts sequence : Nat) (entries : List PasscodeEntry) :
    Watched command (client.passcodePages attempts sequence entries) := by
  induction attempts generalizing sequence entries with
  | zero => exact watched_ofExcept (.error _)
  | succ attempts ih =>
    unfold TTLockClient.passcodePages
    refine watched_lift fun payload hpayload => ?_
    have hlength := intToBytesBe_length _ _ payload hpayload
    refine watched_bind (watched_short (by decide) (Eq.trans_le hlength (by decide))) fun plain => ?_
    refine watched_lift fun page _ => ?_
    obtain ⟨entry, nextSequence⟩ := page
    simp only
    split
    · exact watched_pure _
    · exact ih nextSequence _

theorem watched_listingPages {α : Type} (l : TTLockClient.Listing α)
    (hopcode : (0 ≤ l.command ∧ l.command ≤ 255) ∧ l.command ≠ cmdManageKeyboardPassword)
    (hpayload : ∀ index, Returns (·.length = 3) (l.payload index)) (left index : Nat) (entries : List α) :
    Watched command (client.listingPages l left index entries) := by
  induction left generalizing index entries with
  | zero => exact watched_ofExcept (.error _)
  | succ left ih =>
    unfold TTLockClient.listingPages
    refine watched_lift fun payload hp => ?_
    have hlength := hpayload _ payload hp
    refine watched_bind (watched_short hopcode (Eq.trans_le hlength (by decide))) fun plain => ?_
    refine watched_lift fun entry _ => ?_
    cases entry with
    | none => exact watched_pure entries
    | some entry => exact ih (index + 1) _

theorem watched_operationLogPages (maxEntries : Option Int) (fuel : Nat) (nextSeq : Int) (seen : List Int)
    (entries : List LogEntry) :
    Watched command (client.operationLogPages maxEntries fuel nextSeq seen entries) := by
  induction fuel generalizing nextSeq seen entries with
  | zero => trivial
  | succ fuel ih =>
    unfold TTLockClient.operationLogPages
    refine watched_lift fun payload hpayload => ?_
    have hlength := intToBytesBe_length _ _ payload hpayload
    refine watched_bind (watched_short (by decide) (Eq.trans_le hlength (by decide))) fun plain => ?_
    refine watched_lift fun page _ => ?_
    obtain ⟨page, lastSeq⟩ := page
    simp only
    split
    · exact watched_pure _
    split
    · exact watched_pure _
    split
    · exact watched_pure _
    split
    · exact watched_pure _
    exact ih lastSeq _ _

theorem toInt_permanent_iff (pwdType : KeyboardPwdType) :
    pwdType.toInt = KeyboardPwdType.permanent.toInt ↔ pwdType = .permanent := by
  cases pwdType <;> decide

/-- **Every command**, whatever its arguments are. -/
theorem watched_program (fuel : Nat) (command : Command) : Watched command (client.program fuel command) := by
  cases command with
  | unlock => exact watched_moveBolt _ (.inl rfl) _
  | lock => exact watched_moveBolt _ (.inr rfl) _
  | calibrateTime localTime => exact watched_calibrateTime localTime
  | getLockTime => exact watched_discard watched_getLockTime
  | syncTime localTime driftThreshold => exact watched_discard (watched_syncTime localTime driftThreshold)
  | queryState => exact watched_discard watched_queryState
  | getAutoLockTime =>
    apply watched_discard
    apply watched_withCommandLock
    exact watched_bind (watched_autoLockExchange (by decide)) fun _ => watched_pure _
  | setAutoLockTime seconds =>
    refine watched_withCommandLock (watched_lift fun payload hpayload => ?_)
    have hlength := payloadAutoLockSet_length seconds payload hpayload
    exact watched_discard (watched_autoLockExchange (Eq.trans_le hlength (by decide)))
  | getAutoLockLimits =>
    apply watched_discard
    apply watched_withCommandLock
    exact watched_bind (watched_autoLockRoundTrip (by decide)) fun _ => watched_ofExcept _
  | addPasscode code pwdType startDate endDate =>
    refine watched_withCommandLock (watched_lift fun payload hpayload => watched_gatedWrite ⟨by decide, ?_⟩)
    have hlength := payloadPasscodeAdd_length _ _ _ _ payload hpayload
    simp [hlength, Oversized, toInt_permanent_iff]
  | deletePasscode code pwdType =>
    refine watched_withCommandLock (watched_lift fun payload hpayload => watched_gatedWrite ?_)
    have hlength := payloadPasscodeDelete_length _ _ payload hpayload
    exact sends_short (by decide) id (hlength.trans (by decide))
  | clearPasscodes => exact watched_withCommandLock (watched_gatedWrite (sends_short (by decide) id (by decide)))
  | getPasscodes =>
    exact watched_discard (watched_withCommandLock (watched_bind watched_adminHandshake fun _ =>
      watched_passcodePages _ 0 []))
  | getOperationLog maxEntries fromSequence =>
    exact watched_discard (watched_withCommandLock (watched_operationLogPages maxEntries fuel fromSequence [] []))
  | getFingerprints =>
    exact watched_discard (watched_withCommandLock (watched_bind watched_adminHandshake fun _ =>
      watched_listingPages _ (by decide) (payloadIndexed_length _) _ 0 []))
  | getCards =>
    exact watched_discard (watched_withCommandLock (watched_bind watched_adminHandshake fun _ =>
      watched_listingPages _ (by decide) (payloadIndexed_length _) _ 0 []))
  | getLockSound => exact watched_discard (watched_gatedRead (sends_short (by decide) id (by decide)))
  | setLockSound enabled =>
    apply watched_withCommandLock
    exact watched_gatedWrite (sends_short (by decide) id (by simp [payloadSetLockSound, maxPayload]))
  | setLockVolume level =>
    refine watched_lift fun payload hpayload => watched_withCommandLock (watched_gatedWrite ?_)
    have hlength := payloadSetLockVolume_length level payload hpayload
    exact sends_short (by decide) id (Eq.trans_le hlength (by decide))
  | getDeviceFeatures => exact watched_discard (watched_gatedRead (sends_short (by decide) id (by decide)))
  | getDeviceInfo =>
    refine watched_discard (watched_withCommandLock ?_)
    iterate 6 refine watched_bind (watched_perform trivial) fun _ => ?_
    exact watched_pure _
  | getDeviceProperties => exact watched_discard watched_getDeviceProperties
  | pokeLock =>
    apply watched_withCommandLock
    exact watched_discard (watched_perform (sends_short (by decide) id (by decide)))

/-! ## Uncaught exceptions -/

/-- The operation raised what a command does not catch. -/
def Raised (ev : Event ClientOp ClientOp.Answer PyExc) : Prop :=
  ∃ err, ev.2 = .error err ∧ ¬ err.isRuntimeOrValueError

omit client in
theorem after_raised {α : Type} {Q : Option Uncaught → Py α → Prop} {s : Option Uncaught}
    {p q : ClientProgram α} {es : List (Event ClientOp ClientOp.Answer PyExc)}
    (hp : Sat (monitor command) Q s p) (hrun : Runs p es q)
    (hrelease : ∀ e, ⟨.release, .error e⟩ ∉ es) (hraised : s ≠ none ∨ ∃ ev ∈ es, Raised ev) :
    (monitor command).after s es ≠ none := by
  induction hrun generalizing s with
  | done p => simpa [Monitor.after] using hraised
  | @call op next r es q hrun ih =>
    refine ih (hp.2 r trivial) (fun e he => hrelease e (List.mem_cons_of_mem _ he)) ?_
    rcases hraised with hs | ⟨ev, hev, hraised⟩
    · obtain rfl := hp.1.2 hs
      rcases r with err | ⟨⟩
      · exact absurd List.mem_cons_self (hrelease err)
      · exact .inl hs
    · rcases List.mem_cons.mp hev with rfl | hev
      · obtain ⟨err, hr, huncaught⟩ := hraised
        left
        simp only at hr
        simp [monitor, hr, huncaught]
      · exact .inr ⟨ev, hev, hraised⟩

theorem raised_escapes (fuel : Nat) (command : Command) (es : List (Event ClientOp ClientOp.Answer PyExc))
    (outcome : Py Unit) (hrun : Runs (client.program fuel command) es (Program.ofExcept outcome))
    (hrelease : ∀ e, ⟨.release, .error e⟩ ∉ es) (hraised : ∃ ev ∈ es, Raised ev) :
    ∃ err, outcome = .error err ∧ ¬ err.isRuntimeOrValueError := by
  have hsat : Watched command (client.program fuel command) := watched_program fuel command
  have hadmits : (monitor command).AdmitsAll none es := Monitor.admitsAll_of_forall (fun _ _ _ => trivial) none
  have hlasts := after_raised hsat hrun hrelease (.inr hraised)
  obtain ⟨err, herr⟩ := Option.ne_none_iff_exists'.mp hlasts
  have hend := (sat_ofExcept _ _ _ _).mp (sat_run _ hsat hrun hadmits)
  exact ⟨err.val, hend err herr, err.property⟩

end Commands

end TtlockBle.Requests
