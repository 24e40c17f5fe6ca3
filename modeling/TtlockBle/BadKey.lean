import TtlockBle.Contract
import TtlockBle.Interleaving

/-!
# A bad key

The builders of the handshakes apply `int` and a four byte encoding to what the key carries. The check
before them is `isdigit` on the admin password, which lets more through than `int` takes, and there
is none for the unlock key and the uid.
-/

open TtlockBle.Lib

namespace TtlockBle.BadKey

open Contract Parsers Payloads Program Raises
open Handshake (Token Decrypts)
open Interleaving (tokenTable tokenReply)

/-! ## What a key has to be -/

def FourBytes (n : Int) : Prop := 0 ≤ n ∧ n < 256 ^ 4

/-- `int(s)` returns. -/
def IsInt (s : String) : Prop := ∃ n, parseInt s = .ok n

/-- CHECK_ADMIN can be built, or the password is refused with a `TTLockError`. -/
def AdminStarts (key : VirtualKey) : Prop :=
  isDigit key.adminPs → (∃ n, parseInt key.adminPs = .ok n ∧ FourBytes n) ∧ FourBytes key.uid

/-- The first payload of the handshake can be built. -/
def Starts (key : VirtualKey) : Command → Prop
  | .unlock | .lock => FourBytes key.uid
  | .syncTime _ _ => True
  | _ => AdminStarts key

/-- The commands with a handshake: the bolt and the admin-gated ones. -/
def TakesHandshake : Command → Prop
  | .getLockTime | .queryState | .getOperationLog _ _ | .getDeviceInfo | .pokeLock => False
  | _ => True

section Breaks

variable (self : TTLockClient)

/-- The reply says that the clock of the lock is off by more than the threshold of `sync_time`. -/
def Drifts (resp : Frame) : Command → Prop
  | .syncTime localTime driftThreshold => ∃ plain lockTime, Decrypts self resp plain ∧
    parseGetLockTimeResponse plain = .ok lockTime ∧ |lockTime.sub localTime| > driftThreshold
  | _ => False

/-- The reply makes the call go on to a payload that cannot be built from the key: with a token it goes
on to the unlock key, and with a drift to the admin handshake. -/
def KeyBreaks (command : Command) : CallEvent → Prop
  | ⟨.exchange opcode _, .ok resp⟩ =>
    (opcode = cmdCheckUserTime ∨ opcode = cmdCheckAdmin) ∧ (∃ t, Token self resp t) ∧
        ¬ IsInt self.key.unlockKey ∨
      opcode = cmdGetLockTime ∧ Drifts self resp command ∧ ¬ AdminStarts self.key
  | _ => False

end Breaks

/-! ## Replies -/

section Replies

variable (self : TTLockClient) {α β : Type}

/-- A reply, decrypted and parsed. -/
def readReply (resp : Frame) (label : String) (text : String → String) (parser : Bytes → Py α) : Py α := do
  raiseAsTTLockError PyExc.isRuntimeOrValueError text (parser (← self.decryptResponse resp label))

variable {self} {resp : Frame} {label : String} {text : String → String} {parser : Bytes → Py α}

theorem roundTrip_read (opcode : Int) (payload : Bytes) :
    (self.roundTrip opcode payload label >>= fun plain =>
      (liftM (raiseAsTTLockError PyExc.isRuntimeOrValueError text (parser plain)) : ClientProgram α)) =
    exchange opcode payload >>= fun resp =>
      (liftM (readReply self resp label text parser) : ClientProgram α) := by
  unfold TTLockClient.roundTrip
  rw [Program.bind_assoc]
  congr
  funext resp
  unfold readReply
  cases self.decryptResponse resp label with
  | error e => rfl
  | ok plain => rfl

theorem readReply_eq_ok (a : α) :
    readReply self resp label text parser = .ok a ↔
      ∃ plain, Decrypts self resp plain ∧ parser plain = .ok a := by
  unfold readReply
  constructor
  · intro h
    cases hplain : self.decryptResponse resp label with
    | error e =>
      rw [hplain] at h
      cases h
    | ok plain =>
      rw [hplain] at h
      exact ⟨plain, (raiseAsTTLockError_eq_ok _ _ _ _).mp hplain, (raiseAsTTLockError_eq_ok _ _ _ _).mp h⟩
  · rintro ⟨plain, hplain, hparse⟩
    have hdecrypt : self.decryptResponse resp label = .ok plain := (self.decryptResponse_eq_ok _ _ _).mpr hplain
    rw [hdecrypt]
    exact (raiseAsTTLockError_eq_ok _ _ _ _).mpr hparse

theorem readReply_raises (hparser : ∀ plain, Raises IsRuntimeOrValueError (parser plain)) :
    Raises IsTTLockError (readReply self resp label text parser) := by
  unfold readReply
  rw [raises_bind]
  refine ⟨decryptResponse_raises (fun _ => id) resp label, fun plain _ => ?_⟩
  exact raiseAsTTLockError_raises (fun _ => id) _ _ (hparser plain)

theorem readToken_eq_ok (name : String) (t : Nat) :
    readReply self resp label text (parseToken name) = .ok t ↔ Token self resp t := by
  rw [readReply_eq_ok]
  constructor
  · rintro ⟨plain, hplain, hparse⟩
    obtain ⟨data, hdata, hlength, rfl⟩ := Handshake.parseToken_ok name plain t hparse
    exact ⟨plain, data, hplain, hdata, hlength, rfl⟩
  · rintro ⟨plain, data, hplain, ⟨echo, hdata⟩, hlength, rfl⟩
    exact ⟨plain, hplain, parseToken_eq name hdata hlength⟩

end Replies

/-! ## Calls that cannot succeed -/

section Fails

variable (self : TTLockClient) (bound : Nat) (command : Command)

/-- Watches for what breaks a call, the key included. -/
def monitor : Monitor ClientOp ClientOp.Answer PyExc Prop :=
  Monitor.watch (Admitted self bound) fun ev => Breaks self ev ∨ KeyBreaks self command ev

/-- `p` raises, and something other than a `TTLockError` exactly if it cannot start or an event breaks it. -/
def Fails {α : Type} (starts : Prop) (p : ClientProgram α) : Prop :=
  Sat (monitor self bound command) (fun s o => ∃ e, o = .error e ∧ (IsTTLockError e ↔ starts ∧ ¬ s)) False p

/-- `p` raises something other than a `TTLockError`, behind an event that breaks it. -/
def Breaking {α : Type} (p : ClientProgram α) : Prop :=
  Sat (monitor self bound command) (fun s o => s ∧ ∃ e, o = .error e ∧ ¬ IsTTLockError e) True p

variable {self bound command} {α β : Type} {starts : Prop}

theorem breaking_lift {x : Py α} {e : PyExc} (hx : x = .error e) (he : ¬ IsTTLockError e)
    (f : α → ClientProgram β) : Breaking self bound command ((liftM x : ClientProgram α) >>= f) := by
  rw [hx]
  exact ⟨trivial, e, rfl, he⟩

theorem breaking_bind {p : ClientProgram α} (h : Breaking self bound command p) (f : α → ClientProgram β) :
    Breaking self bound command (p >>= f) := by
  refine sat_bind _ h ?_ ?_
  · rintro s a ⟨-, e, h, -⟩
    cases h
  · rintro s e ⟨hs, e', h, he⟩
    exact ⟨hs, e', by rw [Except.error.inj h], he⟩

theorem breaking_withCommandLock {body : ClientProgram α} (h : Breaking self bound command body) :
    Breaking self bound command (withCommandLock body) :=
  sat_withCommandLock (fun _ => not_or.mpr ⟨id, id⟩) (fun _ => not_or.mpr ⟨id, id⟩) h

theorem fails_bind {p : ClientProgram α} (h : Fails self bound command starts p)
    (f : α → ClientProgram β) : Fails self bound command starts (p >>= f) := by
  refine sat_bind _ h ?_ ?_
  · rintro s a ⟨e, h, -⟩
    cases h
  · rintro s e ⟨e', h, hiff⟩
    exact ⟨e', by rw [Except.error.inj h], hiff⟩

theorem fails_withCommandLock {body : ClientProgram α} (h : Fails self bound command starts body) :
    Fails self bound command starts (withCommandLock body) :=
  sat_withCommandLock (fun _ => not_or.mpr ⟨id, id⟩) (fun _ => not_or.mpr ⟨id, id⟩) h

theorem fails_lift {x : Py α} {e : PyExc} (hx : x = .error e) (he : ¬ IsTTLockError e) (hstarts : ¬ starts)
    (f : α → ClientProgram β) : Fails self bound command starts ((liftM x : ClientProgram α) >>= f) := by
  rw [hx]
  exact ⟨e, rfl, by simp [he, hstarts]⟩

theorem fails_token (opcode : Int) (hopcode : opcode = cmdCheckUserTime ∨ opcode = cmdCheckAdmin)
    (hunlockKey : ¬ IsInt self.key.unlockKey) (hstarts : starts) (payload : Bytes) (label name : String)
    (text : String → String) (f : Nat → ClientProgram α) (hf : ∀ t, Breaking self bound command (f t)) :
    Fails self bound command starts (self.roundTrip opcode payload label >>= fun plain =>
      (liftM (raiseAsTTLockError PyExc.isRuntimeOrValueError text (parseToken name plain)) :
        ClientProgram Nat) >>= f) := by
  have hcommand : opcode ≠ cmdGetOperateLog ∧ opcode ≠ cmdGetLockTime := by
    rcases hopcode with rfl | rfl <;> decide
  rw [← Program.bind_assoc, roundTrip_read]
  refine ⟨trivial, ?_⟩
  rintro (e | resp) hadmitted
  · exact ⟨e, rfl, iff_of_true hadmitted ⟨hstarts, by rintro (h | h | h) <;> exact h⟩⟩
  have hbreaks : (False ∨ Breaks self ⟨.exchange opcode payload, .ok resp⟩ ∨
      KeyBreaks self command ⟨.exchange opcode payload, .ok resp⟩) = ∃ t, Token self resp t := by
    simp [Breaks, KeyBreaks, hcommand, hopcode, hunlockKey]
  show Sat _ _ (False ∨ Breaks self ⟨.exchange opcode payload, .ok resp⟩ ∨
    KeyBreaks self command ⟨.exchange opcode payload, .ok resp⟩)
    ((liftM (readReply self resp label text (parseToken name)) : ClientProgram Nat) >>= f)
  rw [hbreaks]
  cases hreply : readReply self resp label text (parseToken name) with
  | error e =>
    refine ⟨e, rfl, iff_of_true (readReply_raises (parseToken_raises name) e hreply) ⟨hstarts, ?_⟩⟩
    rintro ⟨t, ht⟩
    rw [(readToken_eq_ok name t).mpr ht] at hreply
    cases hreply
  | ok t =>
    have htoken : ∃ t, Token self resp t := ⟨t, (readToken_eq_ok name t).mp hreply⟩
    show Sat _ _ (∃ t, Token self resp t) (f t)
    rw [eq_true htoken]
    refine sat_mono _ ?_ (hf t)
    rintro s o ⟨hs, e, ho, he⟩
    exact ⟨e, ho, iff_of_false he fun h => h.2 hs⟩

/-! ## The handshakes -/

theorem fails_adminHandshake (hkey : ¬ WellFormedKey self.key) :
    Fails self bound command (AdminStarts self.key) self.adminHandshake := by
  unfold TTLockClient.adminHandshake
  split
  · rename_i hdigit
    exact ⟨_, rfl, iff_of_true rfl ⟨fun h => absurd h hdigit, id⟩⟩
  rename_i hdigit
  by_cases hstarts : AdminStarts self.key
  · obtain ⟨hadminPs, huid⟩ := hstarts (not_not.mp hdigit)
    have hunlockKey : ¬ IsInt self.key.unlockKey := fun h => hkey ⟨huid, h, fun _ => hadminPs⟩
    obtain ⟨payload, hpayload⟩ := payloadCheckAdmin_returns self.key huid hadminPs
    rw [hpayload]
    refine fails_token cmdCheckAdmin (.inr rfl) hunlockKey hstarts payload _ _ _ _ fun t => ?_
    obtain ⟨text, herror⟩ := payloadCheckRandom_refuses t self.key.unlockKey hunlockKey
    exact breaking_lift herror (by simp [IsTTLockError, valueError]) _
  · obtain ⟨e, herror, he⟩ := payloadCheckAdmin_refuses self.key fun h => hstarts fun _ => h
    exact fails_lift herror he hstarts _

theorem breaking_adminHandshake (hstarts : ¬ AdminStarts self.key) :
    Breaking self bound command self.adminHandshake := by
  have hdigit : isDigit self.key.adminPs := by
    by_contra h
    exact hstarts fun hdigit => absurd hdigit h
  obtain ⟨e, herror, he⟩ := payloadCheckAdmin_refuses self.key fun h => hstarts fun _ => h
  unfold TTLockClient.adminHandshake
  rw [if_neg (not_not_intro hdigit)]
  exact breaking_lift herror he _

theorem breaking_controlLock (hunlockKey : ¬ IsInt self.key.unlockKey) (opcode : Int) (ps : Nat)
    (label : String) : Breaking self bound command (self.controlLock opcode ps label) := by
  refine ⟨trivial, ?_⟩
  rintro (e | now) hadmitted
  · exact hadmitted.elim
  obtain ⟨text, herror⟩ := payloadUnlock_noInt ps self.key.unlockKey now hunlockKey
  show Sat _ _ (True ∨ _) _
  rw [true_or]
  exact breaking_lift herror (by simp [IsTTLockError, valueError]) _

theorem fails_moveBolt (hkey : ¬ (FourBytes self.key.uid ∧ IsInt self.key.unlockKey)) (opcode : Int)
    (label : String) : Fails self bound command (FourBytes self.key.uid) (self.moveBolt opcode label) := by
  unfold TTLockClient.moveBolt
  refine fails_bind (fails_withCommandLock ?_) _
  unfold TTLockClient.checkUserTime
  by_cases huid : FourBytes self.key.uid
  · have hunlockKey : ¬ IsInt self.key.unlockKey := fun h => hkey ⟨huid, h⟩
    obtain ⟨payload, hpayload⟩ := payloadCheckUserTime_returns self.key.uid self.key.lockFlagPos huid
    rw [hpayload]
    show Fails self bound command _ ((self.roundTrip cmdCheckUserTime payload "check_user_time" >>= _) >>= _)
    rw [Program.bind_assoc]
    exact fails_token cmdCheckUserTime (.inl rfl) hunlockKey huid payload _ _ _ _ fun t =>
      breaking_controlLock hunlockKey opcode t label
  · obtain ⟨text, herror⟩ := payloadCheckUserTime_refuses self.key.uid self.key.lockFlagPos huid
    refine fails_bind ?_ _
    exact fails_lift herror (by simp [IsTTLockError, overflowError]) huid _

end Fails

/-! ## Every command -/

section Commands

variable {self : TTLockClient} {bound : Nat}

/-- What a call ends with: not with a `TTLockError` exactly if it could not start or an event broke it. -/
def Ends (key : VirtualKey) (command : Command) (s : Prop) (o : Py Unit) : Prop :=
  Raises IsTTLockError o ↔ Starts key command ∧ ¬ s

theorem ends_of_fails {command : Command} {p : ClientProgram Unit}
    (h : Fails self bound command (Starts self.key command) p) :
    Sat (monitor self bound command) (Ends self.key command) False p := by
  refine sat_mono _ ?_ h
  rintro s o ⟨e, rfl, hiff⟩
  exact (raises_error e).trans hiff

variable (hkey : ¬ WellFormedKey self.key)
include hkey

omit hkey in
theorem sat_getLockTime (localTime : DateTime) (driftThreshold : Int) :
    Sat (monitor self bound (.syncTime localTime driftThreshold)) (fun s o => Raises IsTTLockError o ∧
        (s ↔ ∃ lockTime, o = .ok lockTime ∧ |lockTime.sub localTime| > driftThreshold ∧ ¬ AdminStarts self.key))
      False self.getLockTime := by
  refine sat_withCommandLock (fun _ => not_or.mpr ⟨id, id⟩) (fun _ => not_or.mpr ⟨id, id⟩) ?_
  rw [roundTrip_read]
  have hbreaks (label : String) (text : String → String) (resp : Frame) :
      (False ∨ Breaks self ⟨.exchange cmdGetLockTime payloadGetLockTime, .ok resp⟩ ∨
        KeyBreaks self (.syncTime localTime driftThreshold)
          ⟨.exchange cmdGetLockTime payloadGetLockTime, .ok resp⟩) ↔
      ∃ lockTime, readReply self resp label text parseGetLockTimeResponse = .ok lockTime ∧
        |lockTime.sub localTime| > driftThreshold ∧ ¬ AdminStarts self.key := by
    have hother : ¬ (cmdGetLockTime = cmdCheckUserTime ∨ cmdGetLockTime = cmdCheckAdmin) ∧
        cmdGetLockTime ≠ cmdGetOperateLog := by decide
    simp only [readReply_eq_ok, Breaks, KeyBreaks, Drifts, hother, false_and, false_or, true_and]
    constructor
    · rintro ⟨⟨plain, lockTime, hplain, hparse, hdrift⟩, hstarts⟩
      exact ⟨lockTime, ⟨plain, hplain, hparse⟩, hdrift, hstarts⟩
    · rintro ⟨lockTime, ⟨plain, hplain, hparse⟩, hdrift, hstarts⟩
      exact ⟨⟨plain, lockTime, hplain, hparse, hdrift⟩, hstarts⟩
  refine ⟨trivial, ?_⟩
  rintro (e | resp) hadmitted
  · refine ⟨(raises_error e).mpr hadmitted, iff_of_false (by rintro (h | h | h) <;> exact h) ?_⟩
    rintro ⟨lockTime, h, -⟩
    cases h
  exact (sat_ofExcept _ _ _ _).mpr ⟨readReply_raises parseGetLockTimeResponse_raises, hbreaks _ _ resp⟩

theorem sat_calibrateTime {α : Type} (command : Command) (localTime : DateTime) (f : Unit → ClientProgram α)
    {s : Prop} (hs : s ↔ ¬ AdminStarts self.key) :
    Sat (monitor self bound command) (fun s o => Raises IsTTLockError o ↔ ¬ s) s
      (self.calibrateTime localTime >>= f) := by
  by_cases hstarts : AdminStarts self.key
  · have hfails : Fails self bound command (AdminStarts self.key) (self.calibrateTime localTime >>= f) :=
      fails_bind (fails_withCommandLock (fails_bind (fails_adminHandshake hkey) _)) f
    rw [eq_false (hs.not.mpr (not_not_intro hstarts))]
    refine sat_mono _ ?_ hfails
    rintro s o ⟨e, rfl, hiff⟩
    rw [raises_error, hiff]
    exact and_iff_right hstarts
  · rw [eq_true (hs.mpr hstarts)]
    refine sat_mono _ ?_
      (breaking_bind (breaking_withCommandLock (breaking_bind (breaking_adminHandshake hstarts) _)) f)
    rintro s o ⟨hs, e, rfl, he⟩
    rw [raises_error]
    exact iff_of_false he (not_not_intro hs)

theorem sat_syncTime (localTime : DateTime) (driftThreshold : Int) :
    Sat (monitor self bound (.syncTime localTime driftThreshold)) (fun s o => Raises IsTTLockError o ↔ ¬ s)
      False (self.syncTime localTime driftThreshold) := by
  refine sat_bind _ (sat_getLockTime localTime driftThreshold) ?_ ?_
  · rintro s lockTime ⟨-, hs⟩
    have hdrift : s ↔ |lockTime.sub localTime| > driftThreshold ∧ ¬ AdminStarts self.key := by
      rw [hs]
      simp
    simp only
    split
    · rename_i h
      exact sat_calibrateTime hkey _ localTime _ (hdrift.trans (and_iff_right h))
    · rename_i h
      exact iff_of_true ((raises_ok _).mpr trivial) (hdrift.not.mpr fun hbroken => h hbroken.1)
  · rintro s e ⟨he, hs⟩
    refine iff_of_true ((raises_error e).mpr ((raises_error e).mp he)) (hs.not.mpr ?_)
    rintro ⟨lockTime, h, -⟩
    cases h

theorem ends_syncTime (localTime : DateTime) (driftThreshold : Int) :
    Sat (monitor self bound (.syncTime localTime driftThreshold))
      (Ends self.key (.syncTime localTime driftThreshold)) False
      (self.syncTime localTime driftThreshold).discard := by
  refine sat_bind _ (sat_syncTime hkey localTime driftThreshold) ?_ ?_
  · rintro s drift h
    exact iff_of_true ((raises_ok ()).mpr trivial) ⟨trivial, h.mp ((raises_ok drift).mpr trivial)⟩
  · rintro s e h
    rw [raises_error] at h
    rw [Ends, raises_error, h]
    exact (and_iff_right trivial).symm

theorem ends_program (fuel : Nat) (command : Command) (hgated : TakesHandshake command)
    (hbolt : ¬ (FourBytes self.key.uid ∧ IsInt self.key.unlockKey) ∨ (command ≠ .unlock ∧ command ≠ .lock))
    (haccepted : Accepted command) :
    Sat (monitor self bound command) (Ends self.key command) False (self.program fuel command) := by
  have hadmin : ∀ {command : Command} {α : Type} (f : Unit → ClientProgram α),
      Fails self bound command (AdminStarts self.key) (self.adminHandshake >>= f) :=
    fun f => fails_bind (fails_adminHandshake hkey) f
  obtain ⟨argument, hargument⟩ := haccepted
  cases command with
  | unlock => exact ends_of_fails (fails_moveBolt (hbolt.resolve_right (by simp)) _ _)
  | lock => exact ends_of_fails (fails_moveBolt (hbolt.resolve_right (by simp)) _ _)
  | calibrateTime localTime => exact ends_of_fails (fails_withCommandLock (hadmin _))
  | syncTime localTime driftThreshold => exact ends_syncTime hkey localTime driftThreshold
  | getAutoLockTime =>
    exact ends_of_fails (fails_bind (fails_withCommandLock (fails_bind (fails_bind (hadmin _) _) _)) _)
  | setAutoLockTime seconds =>
    refine ends_of_fails (fails_withCommandLock ?_)
    rw [show payloadAutoLockSet seconds = _ from hargument]
    exact fails_bind (fails_bind (hadmin _) _) _
  | getAutoLockLimits =>
    exact ends_of_fails (fails_bind (fails_withCommandLock (fails_bind (hadmin _) _)) _)
  | addPasscode code pwdType startDate endDate =>
    refine ends_of_fails (fails_withCommandLock ?_)
    rw [show payloadPasscodeAdd _ code startDate endDate = _ from hargument]
    exact hadmin _
  | deletePasscode code pwdType =>
    refine ends_of_fails (fails_withCommandLock ?_)
    rw [show payloadPasscodeDelete _ code = _ from hargument]
    exact hadmin _
  | clearPasscodes => exact ends_of_fails (fails_withCommandLock (hadmin _))
  | getPasscodes => exact ends_of_fails (fails_bind (fails_withCommandLock (hadmin _)) _)
  | getFingerprints => exact ends_of_fails (fails_bind (fails_withCommandLock (hadmin _)) _)
  | getCards => exact ends_of_fails (fails_bind (fails_withCommandLock (hadmin _)) _)
  | getLockSound => exact ends_of_fails (fails_bind (fails_withCommandLock (hadmin _)) _)
  | setLockSound enabled => exact ends_of_fails (fails_withCommandLock (hadmin _))
  | setLockVolume level =>
    refine ends_of_fails ?_
    show Fails self bound _ _ ((liftM (payloadSetLockVolume level) : ClientProgram Bytes) >>= _)
    rw [show payloadSetLockVolume level = _ from hargument]
    exact fails_withCommandLock (hadmin _)
  | getDeviceFeatures => exact ends_of_fails (fails_bind (fails_withCommandLock (hadmin _)) _)
  | getDeviceProperties => exact ends_of_fails (fails_bind (fails_withCommandLock (hadmin _)) _)
  | _ => exact hgated.elim

omit hkey in
theorem starts_of_wellFormedKey (hkey : WellFormedKey self.key) (command : Command) :
    Starts self.key command := by
  cases command with
  | unlock => exact hkey.uid
  | lock => exact hkey.uid
  | syncTime localTime driftThreshold => trivial
  | _ => exact fun hdigit => ⟨hkey.adminPs hdigit, hkey.uid⟩

omit hkey in
theorem not_keyBreaks (hunlockKey : IsInt self.key.unlockKey) (command : Command)
    (hdrifts : ∀ resp, Drifts self resp command → AdminStarts self.key) (ev : CallEvent) :
    ¬ KeyBreaks self command ev := by
  obtain ⟨op, r⟩ := ev
  rintro h
  cases op with
  | exchange opcode payload =>
    rcases r with e | resp
    · exact h
    rcases h with ⟨-, -, h⟩ | ⟨-, h, hstarts⟩
    · exact h hunlockKey
    · exact hstarts (hdrifts resp h)
  | _ => exact h

omit hkey in
theorem program_fuel (fuel fuel' : Nat) (command : Command) (hgated : TakesHandshake command) :
    self.program fuel command = self.program fuel' command := by
  cases command with
  | getOperationLog maxEntries fromSequence => exact hgated.elim
  | _ => rfl

end Commands

section Runs

variable {self : TTLockClient} {bound fuel : Nat} {command : Command} {es : List CallEvent}
  {rest : ClientProgram Unit}

theorem outcome_of_keeps (hkeeps : Keeps self bound IsTTLockError (self.program fuel command))
    (hstarts : Starts self.key command) (hnever : ∀ ev, ¬ KeyBreaks self command ev)
    (hrun : Runs (self.program fuel command) es rest) (hended : rest.Ended)
    (hadmitted : ∀ ev ∈ es, Admitted self bound ev) :
    ∃ outcome, rest = Program.ofExcept outcome ∧
      Ends self.key command (∃ ev ∈ es, Breaks self ev ∨ KeyBreaks self command ev) outcome := by
  obtain ⟨outcome, hrest, hiff⟩ := watch_run hkeeps hrun hended hadmitted
  refine ⟨outcome, hrest, ?_⟩
  unfold Ends
  rw [← not_iff_not, ← hiff]
  simp [hstarts, hnever]

theorem accepted_outcome (hgated : TakesHandshake command) (haccepted : Accepted command)
    (hrun : Runs (self.program fuel command) es rest) (hended : rest.Ended)
    (hadmitted : ∀ ev ∈ es, Admitted self bound ev) :
    ∃ outcome, rest = Program.ofExcept outcome ∧
      Ends self.key command (∃ ev ∈ es, Breaks self ev ∨ KeyBreaks self command ev) outcome := by
  by_cases hbolt : (FourBytes self.key.uid ∧ IsInt self.key.unlockKey) ∧ (command = .unlock ∨ command = .lock)
  · obtain ⟨⟨huid, hunlockKey⟩, rfl | rfl⟩ := hbolt
    · exact outcome_of_keeps (keeps_moveBolt huid hunlockKey _ (by decide) _) huid
        (not_keyBreaks hunlockKey _ fun _ h => h.elim) hrun hended hadmitted
    · exact outcome_of_keeps (keeps_moveBolt huid hunlockKey _ (by decide) _) huid
        (not_keyBreaks hunlockKey _ fun _ h => h.elim) hrun hended hadmitted
  by_cases hkey : WellFormedKey self.key
  · rw [program_fuel fuel (65536 + bound) command hgated] at hrun
    exact outcome_of_keeps (keeps_program hkey _ le_rfl command haccepted)
      (starts_of_wellFormedKey hkey command)
      (not_keyBreaks hkey.unlockKey command fun _ _ hdigit => ⟨hkey.adminPs hdigit, hkey.uid⟩)
      hrun hended hadmitted
  · rw [not_and_or, not_or] at hbolt
    exact watch_run (ends_program hkey fuel command hgated hbolt haccepted) hrun hended hadmitted

/-- **Bad keys.** A call with a handshake ends, and returns or raises a `TTLockError` exactly if its
arguments are accepted, the first payload of the handshake can be built from the key, and no event of
the call breaks it: the host clock can be sent, the lock gives no token where `int` refuses the
unlock key, and no drift calls for an admin handshake that cannot start. -/
theorem bad_key_iff (hgated : TakesHandshake command) (hrun : Runs (self.program fuel command) es rest)
    (hended : rest.Ended) (hadmitted : ∀ ev ∈ es, Admitted self bound ev) :
    (∃ outcome, rest = Program.ofExcept outcome ∧ Raises IsTTLockError outcome) ↔
      Accepted command ∧ Starts self.key command ∧
        ∀ ev ∈ es, ¬ Breaks self ev ∧ ¬ KeyBreaks self command ev := by
  have hbreaks : (¬ ∃ ev ∈ es, Breaks self ev ∨ KeyBreaks self command ev) ↔
      ∀ ev ∈ es, ¬ Breaks self ev ∧ ¬ KeyBreaks self command ev := by
    simp only [not_exists, not_and, not_or]
  rw [← hbreaks]
  constructor
  · rintro ⟨outcome, rfl, hraises⟩
    by_cases haccepted : Accepted command
    · obtain ⟨outcome', heq, hends⟩ := accepted_outcome hgated haccepted hrun hended hadmitted
      obtain rfl := ofExcept_injective heq
      exact ⟨haccepted, hends.mp hraises⟩
    · rw [program_fuel fuel (65536 + bound) command hgated] at hrun
      exact absurd hraises (refused_run _ le_rfl command haccepted es outcome hrun hadmitted)
  · rintro ⟨haccepted, hends'⟩
    obtain ⟨outcome, hrest, hends⟩ := accepted_outcome hgated haccepted hrun hended hadmitted
    exact ⟨outcome, hrest, hends.mpr hends'⟩

end Runs

/-! ## Two keys -/

def superscriptClient : TTLockClient :=
  { makeClient [] with key := { makeVirtualKey with adminPs := "\u00B2" } }

def wordClient : TTLockClient :=
  { makeClient tokenTable with key := { makeVirtualKey with unlockKey := "abc" } }

def literalError (s : String) : PyExc := valueError (invalidLiteral 10 s)

/-- A superscript two is a digit, and `int` refuses it. -/
theorem value_error_escapes :
    ∃ es, Runs (superscriptClient.program 0 .clearPasscodes) es
        (Program.ofExcept (.error (literalError "\u00B2"))) ∧
      (∀ ev ∈ es, Admitted superscriptClient 0 ev) ∧ isDigit superscriptClient.key.adminPs ∧
      TakesHandshake .clearPasscodes ∧ Accepted .clearPasscodes ∧ ¬ IsTTLockError (literalError "\u00B2") := by
  obtain ⟨es, hrun, hadmitted⟩ := run_replying superscriptClient 0 (lockFrame [])
    (by intro plain hplain; cases hplain) (superscriptClient.program 0 .clearPasscodes)
    (.error (literalError "\u00B2")) (by decide +kernel)
  exact ⟨es, hrun, hadmitted, by decide +kernel, trivial, ⟨[], rfl⟩,
    by simp [IsTTLockError, literalError, valueError]⟩

theorem bad_key_iff_word :
    ∃ es, Runs (wordClient.program 0 .unlock) es (Program.ofExcept (.error (literalError "abc"))) ∧
      (∀ ev ∈ es, Admitted wordClient 16 ev) ∧
      ((∃ outcome, (Program.ofExcept (.error (literalError "abc")) : ClientProgram Unit) =
          Program.ofExcept outcome ∧ Raises IsTTLockError outcome) ↔
        Accepted .unlock ∧ Starts wordClient.key .unlock ∧
          ∀ ev ∈ es, ¬ Breaks wordClient ev ∧ ¬ KeyBreaks wordClient .unlock ev) := by
  obtain ⟨es, hrun, hadmitted⟩ := run_replying wordClient 16 tokenReply
    (by intro plain hplain; obtain rfl : (tokenTable.getD 0 ([], [])).1 = plain := Except.ok.inj hplain; decide)
    (wordClient.program 0 .unlock) (.error (literalError "abc")) (by decide +kernel)
  exact ⟨es, hrun, hadmitted, bad_key_iff trivial hrun trivial hadmitted⟩

end TtlockBle.BadKey
