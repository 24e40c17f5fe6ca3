import Mathlib.Order.Interval.Finset.Defs
import Mathlib.Data.Int.Interval
import TtlockBle.Code.Conftest
import TtlockBle.Payloads
import TtlockBle.Transport

/-!
# What escapes a command

On an open link an exchange returns a frame or raises a `TTLockError`. Whatever the frames decrypt
to, a command then ends the same way, with two exceptions: a page of the operation log with a
short record, and a host clock that four bytes cannot hold.
-/

open TtlockBle.Lib

namespace TtlockBle.Contract

open Parsers Payloads Program Raises Transport

def IsTTLockError (e : PyExc) : Prop := e.type = .ttLockError

theorem isRuntimeOrValueError_of_ttLockError (e : PyExc) (h : IsTTLockError e) :
    IsRuntimeOrValueError e := by
  obtain ⟨type, text⟩ := e
  obtain rfl : type = .ttLockError := h
  rfl

/-! ## The open link -/

section OpenLink

variable (isResponse : Frame → Int → Bool)

/-- The exchanges that are over returned a frame or raised a `TTLockError`. -/
def EndedWell (c : Channel) : Prop := ∀ y ∈ c.ended, Raises IsTTLockError y.outcome

theorem endedWell_end (c : Channel) (x : Exchange) (outcome : Py Arrival)
    (h : EndedWell c) (ho : Raises IsTTLockError outcome) : EndedWell (c.endExchange x outcome) := by
  intro y hy
  rcases List.mem_append.mp hy with hy | hy
  · exact h y hy
  · obtain rfl := List.mem_singleton.mp hy
    exact ho

theorem endedWell_writeNext (c : Channel) (l : Link) (x : Exchange) (chunks : List Bytes)
    (hclient : l.client.isSome) (h : EndedWell c) : EndedWell (c.writeNext l x chunks) := by
  obtain ⟨client, hclient⟩ := Option.isSome_iff_exists.mp hclient
  unfold Channel.writeNext
  split
  · exact h
  · simp only [hclient]
    exact h

theorem endedWell_notify (c : Channel) (data : Bytes) (h : EndedWell c) : EndedWell (c.onNotify data) := by
  refine List.foldlRecOn (motive := EndedWell) _ Channel.dispatch ?_ ?_
  · exact h
  · intro c hc frame _
    rwa [EndedWell, dispatch_ended]

/-- The link has its client and its characteristic, and nobody cancels the exchange. -/
structure Open (l : Link) (e : ChannelEvent) : Prop where
  client : l.client.isSome
  writeChar : l.writeChar.isSome
  going : e ≠ .cancel

theorem endedWell_step (l : Link) (c c' : Channel) (e : ChannelEvent) (hopen : Open l e)
    (h : EndedWell c) (hs : c.step isResponse l e = some c') : EndedWell c' := by
  obtain ⟨hclient, hchar, hgoing⟩ := hopen
  cases step_effect isResponse l c c' e hs with
  | notify data => exact endedWell_notify c data h
  | exchange frame hx =>
    unfold Channel.beginExchange
    have hnone : ¬ (l.client.isNone ∨ l.writeChar.isNone) := by
      simp [← Option.not_isSome, hclient, hchar]
    simp only [if_neg hnone]
    exact endedWell_writeNext _ l _ _ hclient h
  | wrote x client rest hx => exact endedWell_writeNext c l x rest hclient h
  | take x a rest hx ha =>
    unfold Channel.take
    simp only
    split
    · exact endedWell_end _ _ _ h ((raises_ok _).mpr trivial)
    · exact h
  | fail x e err hx hfails =>
    apply endedWell_end _ _ _ h
    rw [raises_error]
    cases e with
    | writeFailed text => exact hfails.2 ▸ rfl
    | timeout => exact hfails.2 ▸ rfl
    | cancel => exact absurd rfl hgoing
    | _ => exact hfails.elim

/-- Why `Admitted` asks no more of an exchange: on an open link it ends with a reply or with a
`TTLockError`. -/
theorem run_endedWell (address : String) (device : Option String) (es : List TransportEvent)
    (t : BleTransport) (hrun : (BleTransport.machine isResponse address device).Reaches es t)
    (hopen : (BleTransport.machine isResponse address device).EveryStep
      (fun t e => ∀ c, e = .channel c → Open t.link c) es) : EndedWell t.channel := by
  refine Machine.run_history _ (I := fun es t => (BleTransport.machine isResponse address device).EveryStep
    (fun t e => ∀ c, e = .channel c → Open t.link c) es → EndedWell t.channel) ?_ ?_ hrun hopen
  · intro _ y hy
    cases hy
  · rintro es t e t' hreach ih hs hopen
    obtain ⟨hbefore, hnow⟩ := (Machine.everyStep_concat _ _ t es e hreach).mp hopen
    cases e with
    | link e =>
      obtain ⟨l, -, rfl⟩ := Option.map_eq_some_iff.mp hs
      exact ih hbefore
    | channel e =>
      obtain ⟨c, hc, rfl⟩ := Option.map_eq_some_iff.mp hs
      exact endedWell_step isResponse t.link t.channel c e (hnow e rfl) (ih hbefore) hc

end OpenLink

/-! ## The events of a call -/

abbrev CallEvent := Event ClientOp ClientOp.Answer PyExc

section Events

variable (self : TTLockClient) (bound : Nat)

/-- What the operations of a call can end with on an open link. No reply has more than `bound` bytes
of plaintext. -/
def Admitted : CallEvent → Prop
  | ⟨.exchange _ _, .ok resp⟩ =>
    Returns (·.length ≤ bound) (aesDecrypt self.aes (resp : Frame).data self.aesKey)
  | ⟨.exchange _ _, .error e⟩ => IsTTLockError e
  | ⟨_, .ok _⟩ => True
  | ⟨_, .error _⟩ => False

/-- A page with a short record, or a time that cannot be sent. -/
def Breaks : CallEvent → Prop
  | ⟨.exchange command _, .ok resp⟩ => command = cmdGetOperateLog ∧
    ¬ Returns (fun plain => ¬ shortPage plain) (aesDecrypt self.aes (resp : Frame).data self.aesKey)
  | ⟨.now, .ok now⟩ => ¬ SecondsFit now
  | _ => False

/-- The state is whether an event so far breaks the call. -/
def monitor : Monitor ClientOp ClientOp.Answer PyExc Prop :=
  Monitor.watch (Admitted self bound) (Breaks self)

/-! ## Contracts -/

/-- `p` ends, and raises something other than `P` exactly if an event breaks it. -/
def Keeps {α : Type} (P : PyExc → Prop) (p : ClientProgram α) : Prop :=
  Sat (monitor self bound) (fun s o => s ↔ ¬ Raises P o) False p

variable {self bound} {α β : Type} {P : PyExc → Prop}

theorem keeps_pure (a : α) : Keeps self bound P (pure a : ClientProgram α) := by
  simp [Keeps]

theorem keeps_ofExcept {x : Py α} (h : Raises P x) :
    Keeps self bound P (Program.ofExcept x : ClientProgram α) := by
  simp [Keeps, h]

theorem keeps_throw {e : PyExc} {f : α → ClientProgram β} (h : P e) :
    Keeps self bound P ((throw e : ClientProgram α) >>= f) := by
  show Sat _ _ _ (throw e : ClientProgram β)
  simp [h]

theorem keeps_bind {p : ClientProgram α} {f : α → ClientProgram β} (hp : Keeps self bound P p)
    (hf : ∀ a, Keeps self bound P (f a)) : Keeps self bound P (p >>= f) := by
  refine sat_bind _ hp ?_ ?_
  · intro s a h
    rw [raises_ok, not_true_eq_false, iff_false] at h
    rw [eq_false h]
    exact hf a
  · intro s e h
    simpa using h

theorem keeps_lift {x : Py α} {f : α → ClientProgram β} (hx : Raises P x)
    (hf : ∀ a, x = .ok a → Keeps self bound P (f a)) :
    Keeps self bound P ((liftM x : ClientProgram α) >>= f) := by
  cases x with
  | ok a => exact hf a rfl
  | error e => exact keeps_ofExcept (x := .error e) ((raises_error e).mpr ((raises_error e).mp hx))

theorem sat_of_keeps {s : Prop} {p : ClientProgram α} (hs : ¬ s) (h : Keeps self bound P p) :
    Sat (monitor self bound) (fun s o => s ↔ ¬ Raises P o) s p := by
  rwa [eq_false hs]

theorem broken_lift {e : PyExc} {s : Prop} {x : Py α} {f : α → ClientProgram β} (hx : x = .error e) (hs : s)
    (he : ¬ P e) :
    Sat (monitor self bound) (fun s o => s ↔ ¬ Raises P o) s ((liftM x : ClientProgram α) >>= f) := by
  rw [hx]
  show s ↔ ¬ Raises P (.error e)
  simp [hs, he]

theorem keeps_perform {op : ClientOp}
    (h : ∀ r, Admitted self bound ⟨op, r⟩ → ¬ Breaks self ⟨op, r⟩ ∧ Raises P r) :
    Keeps self bound P (Program.perform op : ClientProgram op.Answer) := by
  refine ⟨trivial, fun r hr => ?_⟩
  obtain ⟨hbreaks, hraises⟩ := h r hr
  rw [sat_ofExcept]
  show (False ∨ Breaks self ⟨op, r⟩) ↔ _
  simp [hbreaks, hraises]

theorem keeps_quiet (op : ClientOp) (herror : ∀ e, ¬ Admitted self bound ⟨op, .error e⟩)
    (hok : ∀ a, ¬ Breaks self ⟨op, .ok a⟩) :
    Keeps self bound P (Program.perform op : ClientProgram op.Answer) := by
  apply keeps_perform
  rintro (e | a) h
  · exact absurd h (herror e)
  · exact ⟨hok a, (raises_ok a).mpr trivial⟩

theorem keeps_exchange {command : Int} {payload : Bytes} (hcommand : command ≠ cmdGetOperateLog)
    (hP : ∀ e, IsTTLockError e → P e) : Keeps self bound P (exchange command payload) := by
  apply keeps_perform
  rintro (e | resp) h
  · exact ⟨id, (raises_error e).mpr (hP e h)⟩
  · exact ⟨fun hbreaks => hcommand hbreaks.1, (raises_ok resp).mpr trivial⟩

theorem sat_withCommandLock {breaks : CallEvent → Prop} (hacquire : ∀ r, ¬ breaks ⟨.acquire, r⟩)
    (hrelease : ∀ r, ¬ breaks ⟨.release, r⟩) {Q : Prop → Py α → Prop} {s : Prop} {body : ClientProgram α}
    (h : Sat (Monitor.watch (Admitted self bound) breaks) Q s body) :
    Sat (Monitor.watch (Admitted self bound) breaks) Q s (withCommandLock body) := by
  apply withCommandLock_sat _ trivial
  · exact fun _ hr => hr.elim
  show Sat _ _ (s ∨ breaks ⟨.acquire, .ok ()⟩) body
  rw [eq_false (hacquire _), or_false]
  refine sat_mono _ ?_ h
  intro s o hs
  refine ⟨trivial, fun _ hr => hr.elim, fun _ => ?_⟩
  show Q (s ∨ breaks ⟨.release, .ok ()⟩) o
  rwa [eq_false (hrelease _), or_false]

theorem keeps_withCommandLock {body : ClientProgram α} (h : Keeps self bound P body) :
    Keeps self bound P (withCommandLock body) :=
  sat_withCommandLock (fun _ => id) (fun _ => id) h

theorem keeps_discard {p : ClientProgram α} (h : Keeps self bound P p) : Keeps self bound P p.discard :=
  keeps_bind h fun _ => keeps_pure ()

end Events

/-! ## Replies -/

section Replies

variable {self : TTLockClient} {bound : Nat} {P : PyExc → Prop} (hP : ∀ e, IsTTLockError e → P e)
include hP

theorem raiseAsTTLockError_raises {α : Type} (catches : PyExc → Bool) (text : String → String) {x : Py α}
    (h : Raises (fun e => catches e) x) : Raises P (raiseAsTTLockError catches text x) := by
  cases x with
  | ok a => simp [raiseAsTTLockError]
  | error e =>
    have he : catches e := h e rfl
    simp [raiseAsTTLockError, he]
    exact hP _ rfl

theorem decryptResponse_raises (resp : Frame) (label : String) :
    Raises P (self.decryptResponse resp label) := by
  apply raiseAsTTLockError_raises hP
  unfold aesDecrypt checkKey
  simp [self.aesKey_length]
  split
  · simp
  · simp
    rfl

theorem parseResponseEnvelope_raises (plain : Bytes) (label : String) :
    Raises P (TTLockClient.parseResponseEnvelope plain label) :=
  raiseAsTTLockError_raises hP _ _ (parseResponseStatus_raises plain)

theorem requireSuccess_raises (plain : Bytes) (label : String) :
    Raises P (TTLockClient.requireSuccess plain label) := by
  unfold TTLockClient.requireSuccess
  simp [parseResponseEnvelope_raises hP]
  exact fun _ _ _ _ _ => hP _ rfl

omit hP in
theorem requireSuccess_rejected (echo : UInt8) {status : UInt8} (data : Bytes) (label : String)
    (h : status ≠ responseSuccess) :
    ∃ e, TTLockClient.requireSuccess (echo :: status :: data) label = .error e ∧ IsTTLockError e := by
  unfold TTLockClient.requireSuccess TTLockClient.parseResponseEnvelope
  rw [parseResponseStatus_cons]
  exact ⟨_, if_pos h, rfl⟩

theorem keeps_roundTrip {command : Int} {payload : Bytes} {label : String}
    (hcommand : command ≠ cmdGetOperateLog) :
    Keeps self bound P (self.roundTrip command payload label) := by
  refine keeps_bind (keeps_exchange hcommand hP) fun resp => ?_
  exact keeps_ofExcept (decryptResponse_raises hP resp label)

end Replies

/-! ## Commands -/

section Commands

variable {self : TTLockClient} (hkey : WellFormedKey self.key) {bound : Nat}
include hkey

omit hkey in
theorem keeps_checkUserTime (huid : 0 ≤ self.key.uid ∧ self.key.uid < 256 ^ 4) :
    Keeps self bound IsTTLockError self.checkUserTime := by
  obtain ⟨payload, hpayload⟩ := payloadCheckUserTime_returns self.key.uid self.key.lockFlagPos huid
  unfold TTLockClient.checkUserTime
  rw [hpayload]
  refine keeps_lift (by simp) fun payload _ => ?_
  refine keeps_bind (keeps_roundTrip (fun _ => id) (by decide)) fun plain => ?_
  exact keeps_ofExcept (raiseAsTTLockError_raises (fun _ => id) _ _ (parseToken_raises _ plain))

theorem keeps_adminHandshake : Keeps self bound IsTTLockError self.adminHandshake := by
  obtain ⟨unlockKey, hunlockKey⟩ := hkey.unlockKey
  unfold TTLockClient.adminHandshake
  split
  · exact keeps_throw rfl
  rename_i hdigit
  obtain ⟨payload, hpayload⟩ := payloadCheckAdmin_returns self.key hkey.uid (hkey.adminPs (not_not.mp hdigit))
  refine keeps_lift (by simp [hpayload]) fun payload _ => ?_
  refine keeps_bind (keeps_roundTrip (fun _ => id) (by decide)) fun plain => ?_
  refine keeps_lift (raiseAsTTLockError_raises (fun _ => id) _ _ (parseToken_raises _ plain)) fun ps _ => ?_
  refine keeps_lift (by simp [payloadCheckRandom_eq _ _ _ hunlockKey]) fun payload _ => ?_
  refine keeps_bind (keeps_roundTrip (fun _ => id) (by decide)) fun plain => ?_
  exact keeps_ofExcept (requireSuccess_raises (fun _ => id) plain _)

omit hkey in
theorem keeps_controlLock {unlockKey : Int} (hunlockKey : parseInt self.key.unlockKey = .ok unlockKey)
    (opcode : Int) (hopcode : opcode ≠ cmdGetOperateLog) (ps : Nat) (label : String) :
    Keeps self bound IsTTLockError (self.controlLock opcode ps label) := by
  refine ⟨trivial, ?_⟩
  rintro (e | now) hadmitted
  · exact hadmitted.elim
  by_cases hnow : SecondsFit now
  · have hstate : (False ∨ ¬ SecondsFit now) = False := by simp [hnow]
    show Sat _ _ (False ∨ ¬ SecondsFit now) _
    rw [hstate]
    refine keeps_lift (by simp [payloadUnlock_eq _ _ _ _ hunlockKey hnow]) fun payload _ => ?_
    refine keeps_bind (keeps_roundTrip (fun _ => id) hopcode) fun plain => ?_
    exact keeps_ofExcept (requireSuccess_raises (fun _ => id) plain _)
  · obtain ⟨text, hpayload⟩ := payloadUnlock_refuses ps _ _ _ hunlockKey hnow
    exact broken_lift hpayload (Or.inr hnow) (by simp [IsTTLockError, overflowError])

omit hkey in
theorem keeps_moveBolt (huid : 0 ≤ self.key.uid ∧ self.key.uid < 256 ^ 4)
    (hunlockKey : ∃ n, parseInt self.key.unlockKey = .ok n) (opcode : Int)
    (hopcode : opcode ≠ cmdGetOperateLog) (label : String) :
    Keeps self bound IsTTLockError (self.moveBolt opcode label) := by
  obtain ⟨unlockKey, hunlockKey⟩ := hunlockKey
  unfold TTLockClient.moveBolt
  refine keeps_bind (keeps_withCommandLock ?_) fun _ => ?_
  · exact keeps_bind (keeps_checkUserTime huid) fun ps =>
      keeps_controlLock hunlockKey opcode hopcode ps label
  · exact keeps_quiet .restartKeepAlive (fun _ => id) (fun _ => id)

theorem keeps_calibrateTime (localTime : DateTime) :
    Keeps self bound IsTTLockError (self.calibrateTime localTime) := by
  unfold TTLockClient.calibrateTime
  apply keeps_withCommandLock
  refine keeps_bind (keeps_adminHandshake hkey) fun _ => ?_
  rw [payloadTimeCalibrate_eq]
  refine keeps_lift (by simp) fun payload _ => ?_
  refine keeps_bind (keeps_roundTrip (fun _ => id) (by decide)) fun plain => ?_
  refine keeps_lift (parseResponseEnvelope_raises (fun _ => id) plain _) fun envelope _ => ?_
  obtain ⟨_, status, data⟩ := envelope
  simp only
  split
  · exact keeps_ofExcept (x := .error _) ((raises_error _).mpr rfl)
  · exact keeps_pure ()

omit hkey in
theorem keeps_getLockTime : Keeps self bound IsTTLockError self.getLockTime := by
  apply keeps_withCommandLock
  refine keeps_bind (keeps_roundTrip (fun _ => id) (by decide)) fun plain => ?_
  exact keeps_ofExcept (raiseAsTTLockError_raises (fun _ => id) _ _ (parseGetLockTimeResponse_raises plain))

theorem keeps_syncTime (localTime : DateTime) (driftThreshold : Int) :
    Keeps self bound IsTTLockError (self.syncTime localTime driftThreshold) := by
  refine keeps_bind keeps_getLockTime fun lockTime => ?_
  simp only
  split
  · exact keeps_bind (keeps_calibrateTime hkey localTime) fun _ => keeps_pure _
  · exact keeps_pure _

omit hkey in
theorem keeps_queryState : Keeps self bound IsTTLockError self.queryState := by
  apply keeps_withCommandLock
  refine keeps_bind (keeps_roundTrip (fun _ => id) (by decide)) fun plain => ?_
  refine keeps_ofExcept (raiseAsTTLockError_raises (fun _ => id) _ _ ?_)
  have hstatus := parseLockStatus_raises plain
  have hbattery := parseStateBattery_raises plain
  simp
  exact ⟨hstatus, fun _ _ => hbattery⟩

theorem keeps_gated {α : Type} (command : Int) (hcommand : command ≠ cmdGetOperateLog) (payload : Bytes)
    (label : String) (use : Bytes → Py α) (huse : ∀ plain, Raises IsTTLockError (use plain)) :
    Keeps self bound IsTTLockError (do
      self.adminHandshake
      let plain ← self.roundTrip command payload label
      use plain) := by
  refine keeps_bind (keeps_adminHandshake hkey) fun _ => ?_
  refine keeps_bind (keeps_roundTrip (fun _ => id) hcommand) fun plain => ?_
  exact keeps_ofExcept (huse plain)

theorem keeps_gatedWrite (command : Int) (hcommand : command ≠ cmdGetOperateLog) (payload : Bytes)
    (label : String) : Keeps self bound IsTTLockError (self.gatedWrite command payload label) :=
  keeps_gated hkey command hcommand payload label _ fun plain =>
    requireSuccess_raises (fun _ => id) plain label

theorem keeps_gatedRead {α : Type} (command : Int) (hcommand : command ≠ cmdGetOperateLog) (payload : Bytes)
    (label : String) (parser : Bytes → Py α)
    (hparser : ∀ plain, Raises IsRuntimeOrValueError (parser plain)) :
    Keeps self bound IsTTLockError (self.gatedRead command payload label parser) :=
  keeps_withCommandLock (keeps_gated hkey command hcommand payload label _ fun plain =>
    raiseAsTTLockError_raises (fun _ => id) _ _ (hparser plain))

theorem keeps_autoLockRoundTrip (payload : Bytes) (label : String) :
    Keeps self bound IsTTLockError (self.autoLockRoundTrip payload label) :=
  keeps_bind (keeps_adminHandshake hkey) fun _ => keeps_roundTrip (fun _ => id) (by decide)

theorem keeps_autoLockExchange (payload : Bytes) (label : String) :
    Keeps self bound IsTTLockError (self.autoLockExchange payload label) := by
  refine keeps_bind (keeps_autoLockRoundTrip hkey payload label) fun plain => ?_
  exact keeps_ofExcept (raiseAsTTLockError_raises (fun _ => id) _ _ (parseAutoLockResponse_raises plain))

theorem keeps_getAutoLockTime : Keeps self bound IsTTLockError self.getAutoLockTime :=
  keeps_withCommandLock (keeps_bind (keeps_autoLockExchange hkey _ _) fun _ => keeps_pure _)

theorem keeps_getAutoLockLimits : Keeps self bound IsTTLockError self.getAutoLockLimits := by
  refine keeps_withCommandLock (keeps_bind (keeps_autoLockRoundTrip hkey _ _) fun plain => ?_)
  exact keeps_ofExcept (raiseAsTTLockError_raises (fun _ => id) _ _
    (parseAutoLockLimitsResponse_raises plain))

omit hkey in
theorem keeps_deviceProperties : Keeps self bound IsRuntimeOrValueError self.deviceProperties := by
  have hexchange : ∀ step, Keeps self bound IsRuntimeOrValueError (self.devicePropertyExchange step) :=
    fun step => keeps_roundTrip isRuntimeOrValueError_of_ttLockError (by decide)
  unfold TTLockClient.deviceProperties
  refine keeps_bind (hexchange 1) fun plain => ?_
  refine keeps_lift (parseDevicePropertyString_raises plain) fun _ _ => ?_
  refine keeps_bind (hexchange 2) fun plain => ?_
  refine keeps_lift (parseDevicePropertyString_raises plain) fun _ _ => ?_
  refine keeps_bind (hexchange 3) fun plain => ?_
  refine keeps_lift (parseDevicePropertyString_raises plain) fun _ _ => ?_
  refine keeps_bind (hexchange 4) fun plain => ?_
  refine keeps_lift (parseDevicePropertyString_raises plain) fun _ _ => ?_
  refine keeps_bind (hexchange 5) fun plain => ?_
  refine keeps_lift (parseDevicePropertyMac_raises plain) fun _ _ => ?_
  refine keeps_bind (hexchange 6) fun plain => ?_
  refine keeps_lift (parseDevicePropertyClock_raises plain) fun _ _ => ?_
  exact keeps_pure _

theorem keeps_getDeviceProperties : Keeps self bound IsTTLockError self.getDeviceProperties := by
  refine keeps_withCommandLock (keeps_bind (keeps_adminHandshake hkey) fun _ => ?_)
  unfold Keeps
  rw [sat_handle]
  refine sat_mono _ ?_ keeps_deviceProperties
  intro s o hs
  rw [sat_ofExcept, hs, not_iff_not]
  rcases o with e | a
  · by_cases he : IsRuntimeOrValueError e
    · simp [raiseAsTTLockError, he, show e.isRuntimeOrValueError = true from he]
      rfl
    · have hne : ¬ IsTTLockError e := fun h => he (isRuntimeOrValueError_of_ttLockError e h)
      simp [raiseAsTTLockError, he, show ¬ e.isRuntimeOrValueError = true from he, hne]
  · simp [raiseAsTTLockError]

/-! ## Listings -/

omit hkey in
theorem keeps_listingPages {α : Type} (l : TTLockClient.Listing α) (hcommand : l.command ≠ cmdGetOperateLog)
    (hpayload : ∀ index : Nat, index < l.cap → ∃ payload, l.payload index = .ok payload)
    (hparser : ∀ plain, Raises IsRuntimeOrValueError (l.parser plain)) (left index : Nat)
    (hindex : index + left = l.cap) (entries : List α) :
    Keeps self bound IsTTLockError (self.listingPages l left index entries) := by
  induction left generalizing index entries with
  | zero => exact keeps_ofExcept (x := .error _) ((raises_error _).mpr rfl)
  | succ left ih =>
    obtain ⟨payload, hp⟩ := hpayload index (by omega)
    unfold TTLockClient.listingPages
    rw [hp]
    refine keeps_lift (by simp) fun payload _ => ?_
    refine keeps_bind (keeps_roundTrip (fun _ => id) hcommand) fun plain => ?_
    refine keeps_lift (raiseAsTTLockError_raises (fun _ => id) _ _ (hparser plain)) fun entry _ => ?_
    cases entry with
    | none => exact keeps_pure entries
    | some entry => exact ih (index + 1) (by omega) _

theorem keeps_getListing {α : Type} (l : TTLockClient.Listing α) (hcommand : l.command ≠ cmdGetOperateLog)
    (hpayload : ∀ index : Nat, index < l.cap → ∃ payload, l.payload index = .ok payload)
    (hparser : ∀ plain, Raises IsRuntimeOrValueError (l.parser plain)) :
    Keeps self bound IsTTLockError (self.getListing l) :=
  keeps_withCommandLock (keeps_bind (keeps_adminHandshake hkey) fun _ =>
    keeps_listingPages l hcommand hpayload hparser l.cap 0 (by omega) [])

theorem keeps_getFingerprints : Keeps self bound IsTTLockError self.getFingerprints := by
  refine keeps_getListing hkey _ (by decide) (fun index hindex => ?_) parseFingerprintListResponse_raises
  exact ⟨_, payloadIndexed_eq _ index (hindex.trans (by decide))⟩

theorem keeps_getCards : Keeps self bound IsTTLockError self.getCards := by
  refine keeps_getListing hkey _ (by decide) (fun index hindex => ?_) parseCardListResponse_raises
  exact ⟨_, payloadIndexed_eq _ index (hindex.trans (by decide))⟩

omit hkey in
theorem keeps_passcodePages (attempts sequence : Nat) (hsequence : sequence < 65536)
    (entries : List PasscodeEntry) :
    Keeps self bound IsTTLockError (self.passcodePages attempts sequence entries) := by
  induction attempts generalizing sequence entries with
  | zero => exact keeps_ofExcept (x := .error _) ((raises_error _).mpr rfl)
  | succ attempts ih =>
    unfold TTLockClient.passcodePages payloadPasscodeList
    rw [intToBytesBe_two sequence hsequence]
    refine keeps_lift (by simp) fun payload _ => ?_
    refine keeps_bind (keeps_roundTrip (fun _ => id) (by decide)) fun plain => ?_
    refine keeps_lift (raiseAsTTLockError_raises (fun _ => id) _ _
      (parsePasscodeListResponse_raises plain)) fun page hpage => ?_
    obtain ⟨entry, nextSequence⟩ := page
    have hnext : nextSequence < 65536 :=
      parsePasscodeListResponse_sequence plain _ ((raiseAsTTLockError_eq_ok _ _ _ _).mp hpage)
    simp only
    split
    · exact keeps_pure _
    · exact ih nextSequence hnext _

theorem keeps_getPasscodes : Keeps self bound IsTTLockError self.getPasscodes :=
  keeps_withCommandLock (keeps_bind (keeps_adminHandshake hkey) fun _ =>
    keeps_passcodePages _ 0 (by decide) [])

/-! ## The operation log -/

omit hkey in
theorem keeps_logPage {β : Type} (payload : Bytes) (f : List LogEntry × Nat → ClientProgram β)
    (hf : ∀ plain page, plain.length ≤ bound → parseOperateLogResponse plain = .ok page →
      Keeps self bound IsTTLockError (f page)) :
    Keeps self bound IsTTLockError (do
      let plain ← self.roundTrip cmdGetOperateLog payload "operate_log"
      let page ← raiseAsTTLockError PyExc.isValueError ("Failed to parse operate_log response: " ++ ·)
        (parseOperateLogResponse plain)
      f page) := by
  refine ⟨trivial, ?_⟩
  rintro (e | resp) hadmitted
  · show (False ∨ False) ↔ _
    simp [show IsTTLockError e from hadmitted]
  show Sat _ _ (False ∨ Breaks self ⟨.exchange cmdGetOperateLog payload, .ok resp⟩)
    ((liftM (self.decryptResponse resp "operate_log") : ClientProgram Bytes) >>= fun plain => _)
  have hlength : Returns (·.length ≤ bound) (aesDecrypt self.aes (resp : Frame).data self.aesKey) := hadmitted
  have hbreaks : Breaks self ⟨.exchange cmdGetOperateLog payload, .ok resp⟩ ↔
      ¬ Returns (fun plain => ¬ shortPage plain) (aesDecrypt self.aes (resp : Frame).data self.aesKey) :=
    ⟨And.right, fun h => ⟨rfl, h⟩⟩
  rw [hbreaks, false_or]
  cases hplain : aesDecrypt self.aes (resp : Frame).data self.aesKey with
  | error e =>
    refine sat_of_keeps (by simp) (keeps_lift (decryptResponse_raises (fun _ => id) resp _) ?_)
    intro plain hok
    have := (raiseAsTTLockError_eq_ok _ _ _ _).mp hok
    simp [hplain] at this
  | ok plain =>
    rw [hplain, Returns.returns_ok] at hlength
    have hok : self.decryptResponse resp "operate_log" = .ok plain :=
      (self.decryptResponse_eq_ok _ _ _).mpr hplain
    rw [hok, Returns.returns_ok]
    obtain ⟨hshort, hvalue⟩ := parseOperateLogResponse_result plain
    by_cases hs : shortPage plain
    · exact broken_lift (x := raiseAsTTLockError _ _ (parseOperateLogResponse plain)) (by rw [hshort hs]; rfl)
        (by simp [hs]) (by simp [IsTTLockError])
    · refine sat_of_keeps (by simp [hs]) (keeps_lift (by simp) fun plain' hplain' => ?_)
      obtain rfl := Except.ok.inj hplain'
      refine keeps_lift (raiseAsTTLockError_raises (fun _ => id) _ _ (hvalue hs)) fun page hpage => ?_
      exact hf plain page hlength ((raiseAsTTLockError_eq_ok _ _ _ _).mp hpage)

/-- What the loop has seen: different record numbers, of which there are `65535 + bound`. -/
structure Seen (bound : Nat) (seen : List Int) : Prop where
  nodup : seen.Nodup
  range : ∀ n ∈ seen, -(bound : Int) ≤ n ∧ n < 65535

omit hkey in
theorem seen_length (seen : List Int) (h : Seen bound seen) : seen.length ≤ 65535 + bound := by
  have hsub : seen.toFinset ⊆ Finset.Ico (-(bound : Int)) 65535 := by
    intro n hn
    rw [Finset.mem_Ico]
    exact h.range n (List.mem_toFinset.mp hn)
  have hcard := Finset.card_le_card hsub
  rw [List.toFinset_card_of_nodup h.nodup, Int.card_Ico] at hcard
  omega

omit hkey in
theorem seen_page (seen : List Int) (h : Seen bound seen) (plain : Bytes) (hplain : plain.length ≤ bound)
    (page : List LogEntry) (lastSeq : Nat) (hpage : parseOperateLogResponse plain = .ok (page, lastSeq)) :
    Seen bound (seen ++ ((page.filter fun e => e.recordNumber ∉ seen).map (·.recordNumber))) := by
  obtain ⟨hnumbers, hroom⟩ := parseOperateLogResponse_numbered plain _ hpage
  have hlast := parseOperateLogResponse_sequence plain _ hpage
  have hnew : ∀ n ∈ (page.filter fun e => e.recordNumber ∉ seen).map (·.recordNumber),
      n ∉ seen ∧ n ∈ recordNumbers lastSeq page.length := by
    intro n hn
    obtain ⟨e, he, rfl⟩ := List.mem_map.mp hn
    rw [List.mem_filter, decide_eq_true_eq] at he
    exact ⟨he.2, hnumbers ▸ List.mem_map_of_mem he.1⟩
  constructor
  · rw [List.nodup_append]
    refine ⟨h.nodup, ?_, fun n hn m hm => ?_⟩
    · have hsub : ((page.filter fun e => e.recordNumber ∉ seen).map (·.recordNumber)).Sublist
          (page.map (·.recordNumber)) := List.filter_sublist.map _
      exact hsub.nodup (hnumbers ▸ recordNumbers_nodup _ _)
    · rintro rfl
      exact (hnew n hm).1 hn
  · intro n hn
    rcases List.mem_append.mp hn with hn | hn
    · exact h.range n hn
    · have := (mem_recordNumbers _ _ _).mp (hnew n hn).2
      simp only at hlast hroom
      omega

omit hkey in
/-- Every turn that is not the last one sees a new record number, so the turns run out. -/
theorem keeps_operationLogPages (maxEntries : Option Int) (fuel : Nat) (nextSeq : Int) (seen : List Int)
    (entries : List LogEntry) (hnext : 0 ≤ nextSeq ∧ nextSeq < 65536) (hseen : Seen bound seen)
    (hfuel : 65536 + bound ≤ fuel + seen.length) :
    Keeps self bound IsTTLockError (self.operationLogPages maxEntries fuel nextSeq seen entries) := by
  induction fuel generalizing nextSeq seen entries with
  | zero =>
    have := seen_length seen hseen
    omega
  | succ fuel ih =>
    unfold TTLockClient.operationLogPages payloadOperateLogRequest
    rw [intToBytesBe_eq nextSeq 2 hnext.1 (by omega)]
    refine keeps_lift (by simp) fun payload _ => ?_
    refine keeps_logPage payload _ fun plain page hplain hpage => ?_
    obtain ⟨page, lastSeq⟩ := page
    have hlast := parseOperateLogResponse_sequence plain _ hpage
    have hseen' := seen_page seen hseen plain hplain page lastSeq hpage
    simp only at hlast ⊢
    split
    · exact keeps_pure _
    split
    · exact keeps_pure _
    split
    · exact keeps_pure _
    split
    · exact keeps_pure _
    rename_i hnew _ _
    apply ih lastSeq _ _ ⟨by omega, by omega⟩ hseen'
    have := List.length_pos_of_ne_nil hnew
    rw [List.length_append, List.length_map]
    omega

omit hkey in
theorem keeps_getOperationLog (fuel : Nat) (hfuel : 65536 + bound ≤ fuel) (maxEntries : Option Int)
    (fromSequence : Int) (hfrom : 0 ≤ fromSequence ∧ fromSequence < 65536) :
    Keeps self bound IsTTLockError (self.getOperationLog fuel maxEntries fromSequence) :=
  keeps_withCommandLock (keeps_operationLogPages maxEntries fuel fromSequence [] []
    hfrom ⟨List.nodup_nil, by simp⟩ (by simpa using hfuel))

/-! ## Every command -/

theorem keeps_program (fuel : Nat) (hfuel : 65536 + bound ≤ fuel) (command : Command)
    (haccepted : Accepted command) : Keeps self bound IsTTLockError (self.program fuel command) := by
  obtain ⟨argument, hargument⟩ := haccepted
  cases command with
  | unlock => exact keeps_moveBolt hkey.uid hkey.unlockKey _ (by decide) _
  | lock => exact keeps_moveBolt hkey.uid hkey.unlockKey _ (by decide) _
  | calibrateTime localTime => exact keeps_calibrateTime hkey localTime
  | getLockTime => exact keeps_discard keeps_getLockTime
  | syncTime localTime driftThreshold => exact keeps_discard (keeps_syncTime hkey localTime driftThreshold)
  | queryState => exact keeps_discard keeps_queryState
  | getAutoLockTime => exact keeps_discard (keeps_getAutoLockTime hkey)
  | setAutoLockTime seconds =>
    apply keeps_withCommandLock
    refine keeps_lift (by rw [show payloadAutoLockSet seconds = _ from hargument]; simp) fun payload _ => ?_
    exact keeps_discard (keeps_autoLockExchange hkey payload _)
  | getAutoLockLimits => exact keeps_discard (keeps_getAutoLockLimits hkey)
  | addPasscode code pwdType startDate endDate =>
    apply keeps_withCommandLock
    refine keeps_lift (by rw [show payloadPasscodeAdd _ code startDate endDate = _ from hargument]; simp)
      fun payload _ => ?_
    exact keeps_gatedWrite hkey _ (by decide) payload _
  | deletePasscode code pwdType =>
    apply keeps_withCommandLock
    refine keeps_lift (by rw [show payloadPasscodeDelete _ code = _ from hargument]; simp) fun payload _ => ?_
    exact keeps_gatedWrite hkey _ (by decide) payload _
  | clearPasscodes => exact keeps_withCommandLock (keeps_gatedWrite hkey _ (by decide) _ _)
  | getPasscodes => exact keeps_discard (keeps_getPasscodes hkey)
  | getOperationLog maxEntries fromSequence =>
    refine keeps_discard (keeps_getOperationLog fuel hfuel maxEntries fromSequence ?_)
    by_contra hrange
    obtain ⟨text, herror⟩ := intToBytesBe_refuses fromSequence 2 hrange
    rw [argumentPayload, payloadOperateLogRequest, herror] at hargument
    cases hargument
  | getFingerprints => exact keeps_discard (keeps_getFingerprints hkey)
  | getCards => exact keeps_discard (keeps_getCards hkey)
  | getLockSound =>
    exact keeps_discard (keeps_gatedRead hkey _ (by decide) _ _ _ parseLockSoundResponse_raises)
  | setLockSound enabled => exact keeps_withCommandLock (keeps_gatedWrite hkey _ (by decide) _ _)
  | setLockVolume level =>
    refine keeps_lift (by rw [show payloadSetLockVolume level = _ from hargument]; simp) fun payload _ => ?_
    exact keeps_withCommandLock (keeps_gatedWrite hkey _ (by decide) payload _)
  | getDeviceFeatures =>
    exact keeps_discard (keeps_gatedRead hkey _ (by decide) _ _ _ parseDeviceFeatureResponse_raises)
  | getDeviceInfo =>
    have hread : ∀ uuid, Keeps self bound IsTTLockError
        (Program.perform (ClientOp.readOptionalChar uuid) : ClientProgram (Option String)) :=
      fun uuid => keeps_quiet (.readOptionalChar uuid) (fun _ => id) (fun _ => id)
    refine keeps_discard (keeps_withCommandLock ?_)
    iterate 6 refine keeps_bind (hread _) fun _ => ?_
    exact keeps_pure _
  | getDeviceProperties => exact keeps_discard (keeps_getDeviceProperties hkey)
  | pokeLock =>
    exact keeps_withCommandLock (keeps_discard (keeps_exchange (by decide) fun _ => id))

omit hkey in
theorem refuses_lift {α β : Type} {e : PyExc} {s : Prop} {x : Py α} {f : α → ClientProgram β}
    (hx : x = .error e) (he : e.type ≠ .ttLockError) :
    Sat (monitor self bound) (fun _ o => ¬ Raises IsTTLockError o) s ((liftM x : ClientProgram α) >>= f) := by
  rw [hx]
  exact (raises_error e).not.mpr he

omit hkey in
theorem refuses_program (fuel : Nat) (hfuel : 65536 + bound ≤ fuel) (command : Command)
    (hrefused : ¬ Accepted command) :
    Sat (monitor self bound) (fun _ o => ¬ Raises IsTTLockError o) False (self.program fuel command) := by
  obtain ⟨e, he⟩ : ∃ e, argumentPayload command = .error e := by
    cases h : argumentPayload command with
    | error e => exact ⟨e, rfl⟩
    | ok payload => exact absurd ⟨payload, h⟩ hrefused
  have htype := argumentPayload_raises command e he
  cases command with
  | setAutoLockTime seconds => exact sat_withCommandLock (fun _ => id) (fun _ => id) (refuses_lift he htype)
  | addPasscode code pwdType startDate endDate =>
    exact sat_withCommandLock (fun _ => id) (fun _ => id) (refuses_lift he htype)
  | deletePasscode code pwdType => exact sat_withCommandLock (fun _ => id) (fun _ => id) (refuses_lift he htype)
  | setLockVolume level => exact refuses_lift he htype
  | getOperationLog maxEntries fromSequence =>
    obtain ⟨fuel, rfl⟩ : ∃ n, fuel = n + 1 := ⟨fuel - 1, by omega⟩
    refine sat_bind _ (sat_withCommandLock (fun _ => id) (fun _ => id) (refuses_lift he htype)) ?_ ?_
    · intro s a h
      simp at h
    · intro s e h
      simpa using h
  | _ => cases he

/-- An accepted command ends, and raises a `TTLockError` if anything, unless an event breaks it. -/
theorem accepted_run (fuel : Nat) (hfuel : 65536 + bound ≤ fuel) (command : Command)
    (haccepted : Accepted command) (es : List CallEvent) (rest : ClientProgram Unit)
    (hrun : Runs (self.program fuel command) es rest) (hended : rest.Ended)
    (hadmitted : ∀ ev ∈ es, Admitted self bound ev) :
    ∃ outcome, rest = Program.ofExcept outcome ∧
      (Raises IsTTLockError outcome ↔ ∀ ev ∈ es, ¬ Breaks self ev) := by
  obtain ⟨outcome, hrest, hiff⟩ :=
    watch_run (keeps_program hkey fuel hfuel command haccepted) hrun hended hadmitted
  refine ⟨outcome, hrest, ?_⟩
  rw [← not_iff_not, ← hiff]
  simp

omit hkey in
theorem refused_run (fuel : Nat) (hfuel : 65536 + bound ≤ fuel) (command : Command)
    (hrefused : ¬ Accepted command) (es : List CallEvent) (outcome : Py Unit)
    (hrun : Runs (self.program fuel command) es (Program.ofExcept outcome))
    (hadmitted : ∀ ev ∈ es, Admitted self bound ev) : ¬ Raises IsTTLockError outcome := by
  have hended : (Program.ofExcept outcome : ClientProgram Unit).Ended := by
    cases outcome <;> trivial
  obtain ⟨outcome', heq, hraises⟩ :=
    watch_run (refuses_program fuel hfuel command hrefused) hrun hended hadmitted
  exact ofExcept_injective heq ▸ hraises

/-- **What escapes a command.** It ends, and returns or raises a `TTLockError` exactly if its arguments
are accepted, no page of the operation log that it gets has a short record, and the host clock
can be sent. -/
theorem only_ttLockError_iff (fuel : Nat) (hfuel : 65536 + bound ≤ fuel) (command : Command)
    (es : List CallEvent) (rest : ClientProgram Unit) (hrun : Runs (self.program fuel command) es rest)
    (hended : rest.Ended) (hadmitted : ∀ ev ∈ es, Admitted self bound ev) :
    (∃ outcome, rest = Program.ofExcept outcome ∧ Raises IsTTLockError outcome) ↔
      Accepted command ∧ ∀ ev ∈ es, ¬ Breaks self ev := by
  constructor
  · rintro ⟨outcome, rfl, hraises⟩
    by_cases haccepted : Accepted command
    · obtain ⟨outcome', heq, hiff⟩ := accepted_run hkey fuel hfuel command haccepted es _ hrun hended hadmitted
      obtain rfl := ofExcept_injective heq
      exact ⟨haccepted, hiff.mp hraises⟩
    · exact absurd hraises (refused_run fuel hfuel command haccepted es outcome hrun hadmitted)
  · rintro ⟨haccepted, hbreaks⟩
    obtain ⟨outcome, hrest, hiff⟩ := accepted_run hkey fuel hfuel command haccepted es _ hrun hended hadmitted
    exact ⟨outcome, hrest, hiff.mpr hbreaks⟩

end Commands

/-- The cipher for a page whose only record has two bytes. -/
def shortTable : List (Bytes × Bytes) :=
  [([0x25, 0x01, 0x00, 0x01, 0x00, 0x05, 0x02, 0x01, 0x1A],
    [0x59, 0x59, 0x05, 0xE1, 0x0D, 0x09, 0xFF, 0xAD, 0x9B, 0x7D, 0x9F, 0x22, 0x53, 0xB7, 0x39, 0x9A])]

def shortReply : Frame := lockFrame (shortTable.getD 0 ([], [])).2

theorem wellFormedKey_makeVirtualKey : WellFormedKey makeVirtualKey where
  uid := by decide
  unlockKey := ⟨246813579, by rfl⟩
  adminPs _ := ⟨135792468, by rfl, by decide, by decide⟩

def indexError : PyExc := ⟨.indexError, "index out of range"⟩

theorem run_replying {α : Type} (client : TTLockClient) (bound : Nat) (reply : Frame)
    (hreply : Returns (·.length ≤ bound) (aesDecrypt client.aes reply.data client.aesKey))
    (p : ClientProgram α) (outcome : Py α) (h : p.outcome (replying reply) = some outcome) :
    ∃ es, Runs p es (Program.ofExcept outcome) ∧ ∀ ev ∈ es, Admitted client bound ev := by
  obtain ⟨es, hrun, hanswers⟩ := runs_outcome (replying reply) p outcome h
  refine ⟨es, hrun, fun ev hev => ?_⟩
  have hanswer := hanswers ev hev
  obtain ⟨op, r⟩ := ev
  obtain rfl : r = replying reply op := hanswer
  cases op with
  | exchange command payload => exact hreply
  | _ => trivial

theorem run_shortReply :
    ∃ es, Runs ((makeClient shortTable).program 65552 (.getOperationLog none 0xFFFF)) es
        (Program.ofExcept (.error indexError)) ∧
      ∀ ev ∈ es, Admitted (makeClient shortTable) 16 ev := by
  refine run_replying (makeClient shortTable) 16 shortReply ?_ _ _ (by decide +kernel)
  intro plain hplain
  obtain rfl : (shortTable.getD 0 ([], [])).1 = plain := Except.ok.inj hplain
  decide

/-- The lock answers with the page, and an `IndexError` escapes. -/
theorem index_error_escapes :
    ∃ es, Runs ((makeClient shortTable).program 65552 (.getOperationLog none 0xFFFF)) es
        (Program.ofExcept (.error indexError)) ∧
      (∀ ev ∈ es, Admitted (makeClient shortTable) 16 ev) ∧ WellFormedKey makeVirtualKey ∧
      Accepted (.getOperationLog none 0xFFFF) ∧ ¬ IsTTLockError indexError := by
  obtain ⟨es, hrun, hadmitted⟩ := run_shortReply
  exact ⟨es, hrun, hadmitted, wellFormedKey_makeVirtualKey, ⟨[0xFF, 0xFF], by rfl⟩,
    by simp [IsTTLockError, indexError]⟩

theorem only_ttLockError_iff_shortReply :
    ∃ es, Runs ((makeClient shortTable).program 65552 (.getOperationLog none 0xFFFF)) es
        (Program.ofExcept (.error indexError)) ∧
      (∀ ev ∈ es, Admitted (makeClient shortTable) 16 ev) ∧
      ((∃ outcome, (Program.ofExcept (.error indexError) : ClientProgram Unit) = Program.ofExcept outcome ∧
          Raises IsTTLockError outcome) ↔
        Accepted (.getOperationLog none 0xFFFF) ∧ ∀ ev ∈ es, ¬ Breaks (makeClient shortTable) ev) := by
  obtain ⟨es, hrun, hadmitted⟩ := run_shortReply
  exact ⟨es, hrun, hadmitted, only_ttLockError_iff wellFormedKey_makeVirtualKey 65552 (by decide)
    (.getOperationLog none 0xFFFF) es _ hrun trivial hadmitted⟩

end TtlockBle.Contract
