import Mathlib.Tactic.Common
import TtlockBle.Payloads

/-!
# The exchanges of one call

What a call may send, given the exchanges since it took the command lock: a gated command behind its
admin handshake, a bolt command behind its CHECK_USER_TIME, and nothing behind a failed exchange.
-/

open TtlockBle.Lib

namespace TtlockBle.Handshake

open Payloads Program Returns

structure Exchanged where
  opcode : Int
  payload : Bytes
  outcome : Py Frame

/-! ## Replies -/

def Success (plain data : Bytes) : Prop :=
  ∃ echo, parseResponseStatus plain = .ok (echo, responseSuccess, data)

section Replies

variable (self : TTLockClient)

def Decrypts (resp : Frame) (plain : Bytes) : Prop := aesDecrypt self.aes resp.data self.aesKey = .ok plain

/-- The reply is a SUCCESS. -/
def Granted (resp : Frame) : Prop := ∃ plain data, Decrypts self resp plain ∧ Success plain data

/-- The reply is a SUCCESS with the token `t`. -/
def Token (resp : Frame) (t : Nat) : Prop :=
  ∃ plain data, Decrypts self resp plain ∧ Success plain data ∧ 4 ≤ data.length ∧
    t = fromBytesBig (data.take 4)

/-- The plaintext is one that the parser of its command accepts. -/
def Reads (opcode : Int) (payload plain : Bytes) : Prop :=
  if opcode = cmdCheckUserTime then ∃ t, parseCheckUserTimeResponse plain = .ok t
  else if opcode = cmdCheckAdmin then ∃ t, parseCheckAdminResponse plain = .ok t
  else if opcode = cmdGetLockTime then ∃ t, parseGetLockTimeResponse plain = .ok t
  else if opcode = cmdGetPasscodes then ∃ page, parsePasscodeListResponse plain = .ok page
  else if opcode = cmdManageFingerprint then ∃ entry, parseFingerprintListResponse plain = .ok entry
  else if opcode = cmdManageIcCard then ∃ entry, parseCardListResponse plain = .ok entry
  else if opcode = cmdGetOperateLog then ∃ page, parseOperateLogResponse plain = .ok page
  else if opcode = cmdGetDeviceProperties then
    if payload = payloadDeviceProperty 5 then ∃ mac, parseDevicePropertyMac plain = .ok mac
    else if payload = payloadDeviceProperty 6 then ∃ t, parseDevicePropertyClock plain = .ok t
    else ∃ text, parseDevicePropertyString plain = .ok text
  else True

/-- The exchange returned a SUCCESS that its parser accepts. -/
def Passed (x : Exchanged) : Prop :=
  ∃ resp plain data, x.outcome = .ok resp ∧ Decrypts self resp plain ∧ Success plain data ∧
    Reads x.opcode x.payload plain

end Replies

theorem parseToken_ok (name : String) (plain : Bytes) :
    Returns (fun t => ∃ data, Success plain data ∧ 4 ≤ data.length ∧ t = fromBytesBig (data.take 4))
      (parseToken name plain) := by
  unfold parseToken Success
  simp
  intro echo status data h hstatus hlen
  obtain rfl := hstatus
  exact ⟨data, ⟨echo, h⟩, hlen, rfl⟩

theorem requireSuccess_ok (plain : Bytes) (label : String) :
    Returns (fun _ => ∃ data, Success plain data) (TTLockClient.requireSuccess plain label) := by
  unfold TTLockClient.requireSuccess TTLockClient.parseResponseEnvelope Success
  simp
  intro echo status data h hstatus
  obtain rfl := hstatus
  exact ⟨data, echo, h⟩

theorem success_of_bind {α : Type} (plain : Bytes) (k : UInt8 × UInt8 × Bytes → Py α)
    (hk : ∀ echo status data, status ≠ responseSuccess → Returns (fun _ => False) (k (echo, status, data))) :
    Returns (fun _ => ∃ data, Success plain data) (parseResponseStatus plain >>= k) := by
  rw [returns_bind]
  rintro ⟨echo, status, data⟩ h a ha
  by_cases hstatus : status = responseSuccess
  · exact ⟨data, echo, hstatus ▸ h⟩
  · exact (hk echo status data hstatus a ha).elim

theorem parseGetLockTimeResponse_ok (plain : Bytes) :
    Returns (fun _ => ∃ data, Success plain data) (parseGetLockTimeResponse plain) := by
  unfold parseGetLockTimeResponse
  exact success_of_bind plain _ fun _ _ _ h => by simp [h]

theorem parsePasscodeListResponse_ok (plain : Bytes) :
    Returns (fun _ => ∃ data, Success plain data) (parsePasscodeListResponse plain) := by
  unfold parsePasscodeListResponse
  exact success_of_bind plain _ fun _ _ _ h => by simp [h]

theorem parseFingerprintListResponse_ok (plain : Bytes) :
    Returns (fun _ => ∃ data, Success plain data) (parseFingerprintListResponse plain) := by
  unfold parseFingerprintListResponse
  exact success_of_bind plain _ fun _ _ _ h => by simp [h]

theorem parseCardListResponse_ok (plain : Bytes) :
    Returns (fun _ => ∃ data, Success plain data) (parseCardListResponse plain) := by
  unfold parseCardListResponse
  exact success_of_bind plain _ fun _ _ _ h => by simp [h]

theorem propertyData_ok (plain : Bytes) :
    Returns (fun _ => ∃ data, Success plain data) (propertyData plain) := by
  unfold propertyData
  exact success_of_bind plain _ fun _ _ _ h => by simp [h]

theorem property_ok {α : Type} (plain : Bytes) (f : Bytes → Py α) :
    Returns (fun _ => ∃ data, Success plain data) (propertyData plain >>= f) := by
  rw [returns_bind]
  exact fun data h a _ => propertyData_ok plain data h

theorem parseOperateLogResponse_ok (plain : Bytes) :
    Returns (fun r => r.1 ≠ [] → ∃ data, Success plain data) (parseOperateLogResponse plain) := by
  unfold parseOperateLogResponse
  rw [returns_bind]
  rintro ⟨echo, status, data⟩ h
  by_cases hstatus : status = responseSuccess
  · exact fun _ _ _ => ⟨data, echo, hstatus ▸ h⟩
  · simp [hstatus]

/-! ## The rule for sending -/

/-- The commands that the lock takes from an administrator only. -/
def gatedOpcodes : List Int := [0x01, 0x03, 0x05, 0x06, 0x07, 0x36, 0x43, 0x62, 0x90]

def pagedOpcodes : List Int := [cmdManageIcCard, cmdManageFingerprint, cmdGetPasscodes, cmdGetOperateLog]

section Monitor

variable (self : TTLockClient) (unlockKey : Int)

/-- An admin handshake has gone through, and nothing but `opcode` has been sent since. -/
def Authorized (opcode : Int) (block : List Exchanged) : Prop :=
  ∃ payload resp t resp' pages,
    block = ⟨cmdCheckAdmin, payload, .ok resp⟩ ::
      ⟨cmdCheckRandom, toBytesBig 4 (tokenSum t unlockKey), .ok resp'⟩ :: pages ∧
    Token self resp t ∧ Granted self resp' ∧ ∀ x ∈ pages, x.opcode = opcode

/-- A CHECK_USER_TIME has gone through, and its token is at the start of `payload`. -/
def Validated (payload : Bytes) (block : List Exchanged) : Prop :=
  ∃ payload' resp t, block = [⟨cmdCheckUserTime, payload', .ok resp⟩] ∧ Token self resp t ∧
    payload.take 4 = toBytesBig 4 (tokenSum t unlockKey)

/-- What a call has done: whether it holds the command lock, how often it has taken it, whether
all its exchanges have passed, and the exchanges since it last took the lock. -/
structure Progress where
  held : Prop
  taken : Nat
  passed : Prop
  block : List Exchanged

structure MaySend (client : TTLockClient) (unlockKey : Int) (s : Progress) (opcode : Int)
    (payload : Bytes) : Prop where
  held : s.held
  passed : s.passed
  gated : opcode ∈ gatedOpcodes → Authorized client unlockKey opcode s.block
  bolt : opcode = cmdUnlock ∨ opcode = cmdLock → Validated client unlockKey payload s.block
  paged : opcode ∈ pagedOpcodes → s.taken = 1

def Progress.start : Progress := ⟨False, 0, True, []⟩

def Progress.take (s : Progress) : Progress := ⟨True, s.taken + 1, s.passed, []⟩

def Progress.give (s : Progress) : Progress := { s with held := False, block := [] }

def Progress.push (s : Progress) (x : Exchanged) : Progress :=
  { s with passed := s.passed ∧ Passed self x, block := s.block ++ [x] }

def monitor : Monitor ClientOp ClientOp.Answer PyExc Progress where
  allows s
    | .acquire => ¬ s.held
    | .release => s.held
    | .exchange opcode payload => MaySend self unlockKey s opcode payload
    | _ => True
  admits _
    | .release, r => r = .ok ()
    | _, _ => True
  next s
    | .acquire, .ok _ => s.take
    | .release, _ => s.give
    | .exchange opcode payload, r => s.push self ⟨opcode, payload, r⟩
    | _, _ => s

end Monitor

/-! ## Rules -/

section Rules

variable {self : TTLockClient} {unlockKey : Int} {α β : Type}

theorem passed_push {s : Progress} {opcode : Int} {payload : Bytes} {resp : Frame} {plain : Bytes}
    (hs : s.passed) (hresp : Decrypts self resp plain) (hplain : ∃ data, Success plain data)
    (hreads : Reads opcode payload plain) : (s.push self ⟨opcode, payload, .ok resp⟩).passed := by
  obtain ⟨data, hdata⟩ := hplain
  exact ⟨hs, resp, plain, data, rfl, hresp, hdata, hreads⟩

theorem sat_lift {Q : Progress → Py β → Prop} {s : Progress} {x : Py α} {f : α → ClientProgram β}
    (herr : ∀ e, Q s (.error e)) (hok : ∀ a, x = .ok a → Sat (monitor self unlockKey) Q s (f a)) :
    Sat (monitor self unlockKey) Q s ((liftM x : ClientProgram α) >>= f) := by
  cases x with
  | ok a => exact hok a rfl
  | error e => exact herr e

theorem sat_withCommandLock {Q : Progress → Py α → Prop} {s : Progress} {body : ClientProgram α}
    (hs : ¬ s.held) (herr : ∀ e, Q s (.error e))
    (hbody : Sat (monitor self unlockKey) (fun s' o => s'.held ∧ Q s'.give o) s.take body) :
    Sat (monitor self unlockKey) Q s (withCommandLock body) := by
  apply withCommandLock_sat _ hs
  · exact fun e _ => herr e
  refine sat_mono _ ?_ hbody
  rintro s' o ⟨hheld, hQ⟩
  refine ⟨hheld, fun e hr => ?_, fun _ => hQ⟩
  cases (hr : (.error e : Py Unit) = .ok ())

theorem sat_roundTrip {s : Progress} {opcode : Int} {payload : Bytes} {label : String}
    (hs : MaySend self unlockKey s opcode payload) :
    Sat (monitor self unlockKey) (fun s' o => s'.held ∧ ∀ plain, o = .ok plain →
        ∃ resp, Decrypts self resp plain ∧ s' = s.push self ⟨opcode, payload, .ok resp⟩)
      s (self.roundTrip opcode payload label) := by
  refine ⟨hs, ?_⟩
  rintro (e | resp) -
  · exact ⟨hs.held, fun _ h => by cases h⟩
  · show Sat _ _ (s.push self ⟨opcode, payload, .ok resp⟩) (Program.ofExcept (self.decryptResponse resp label))
    rw [sat_ofExcept]
    exact ⟨hs.held, fun plain h => ⟨resp, (raiseAsTTLockError_eq_ok _ _ _ _).mp h, rfl⟩⟩

theorem sat_exchange {Q : Progress → Py β → Prop} {s : Progress} {opcode : Int} {payload : Bytes}
    {label : String} {use : Bytes → Py α} {f : α → ClientProgram β}
    (hs : MaySend self unlockKey s opcode payload)
    (herr : ∀ s' e, s'.held → Q s' (.error e))
    (hok : ∀ resp plain a, Decrypts self resp plain → use plain = .ok a →
      Sat (monitor self unlockKey) Q (s.push self ⟨opcode, payload, .ok resp⟩) (f a)) :
    Sat (monitor self unlockKey) Q s (do
      let plain ← self.roundTrip opcode payload label
      let a ← use plain
      f a) := by
  refine sat_bind _ (sat_roundTrip hs) ?_ fun s' e h => herr s' e h.1
  rintro s' plain ⟨hheld, h⟩
  obtain ⟨resp, hresp, rfl⟩ := h plain rfl
  exact sat_lift (fun e => herr _ e hheld) fun a ha => hok resp plain a hresp ha

theorem sat_last {s : Progress} {opcode : Int} {payload : Bytes} {label : String}
    {k : Bytes → ClientProgram α} (hs : MaySend self unlockKey s opcode payload)
    (hk : ∀ s' plain, s'.held → Sat (monitor self unlockKey) (fun s' _ => s'.held) s' (k plain)) :
    Sat (monitor self unlockKey) (fun s' _ => s'.held) s (self.roundTrip opcode payload label >>= k) :=
  sat_bind _ (sat_roundTrip hs) (fun s' plain h => hk s' plain h.1) fun _ _ h => h.1

theorem held_ofExcept {s : Progress} (hs : s.held) (x : Py α) :
    Sat (monitor self unlockKey) (fun s' _ => s'.held) s (liftM x : ClientProgram α) :=
  (sat_ofExcept _ _ _ _).mpr hs

end Rules

/-! ## The handshakes -/

section Handshakes

variable {self : TTLockClient} {unlockKey : Int} {s : Progress}

/-- Behind `async with`, before the first exchange. -/
structure Entered (s : Progress) : Prop where
  held : s.held
  passed : s.passed
  block : s.block = []

theorem entered_take (s : Progress) (h : s.passed) : Entered s.take := ⟨trivial, h, rfl⟩

theorem maySend_plain (hheld : s.held) (hpassed : s.passed) {opcode : Int} (payload : Bytes)
    (hgated : opcode ∉ gatedOpcodes) (hbolt : ¬ (opcode = cmdUnlock ∨ opcode = cmdLock))
    (hpaged : opcode ∉ pagedOpcodes) : MaySend self unlockKey s opcode payload :=
  ⟨hheld, hpassed, fun h => absurd h hgated, fun h => absurd h hbolt, fun h => absurd h hpaged⟩

theorem sat_checkUserTime (h : Entered s) :
    Sat (monitor self unlockKey) (fun s' o => s'.held ∧ ∀ t, o = .ok t → s'.passed ∧
        ∃ payload resp, s'.block = [⟨cmdCheckUserTime, payload, .ok resp⟩] ∧ Token self resp t)
      s self.checkUserTime := by
  refine sat_lift (fun e => ⟨h.held, fun _ h => by cases h⟩) fun payload _ => ?_
  have hmay : MaySend self unlockKey s cmdCheckUserTime payload :=
    maySend_plain h.held h.passed payload (by decide) (by decide) (by decide)
  refine sat_bind _ (sat_roundTrip hmay) ?_ fun s' e hs' => ⟨hs'.1, fun _ h => by cases h⟩
  rintro s' plain ⟨hheld, hs'⟩
  obtain ⟨resp, hresp, rfl⟩ := hs' plain rfl
  refine (sat_ofExcept _ _ _ _).mpr ⟨hheld, fun t ht => ?_⟩
  have hparse := (raiseAsTTLockError_eq_ok _ _ _ _).mp ht
  obtain ⟨data, hdata, hlen, rfl⟩ := parseToken_ok _ _ _ hparse
  refine ⟨passed_push h.passed hresp ⟨data, hdata⟩ ⟨_, hparse⟩, payload, resp, ?_, plain, data, hresp, hdata,
    hlen, rfl⟩
  simp [Progress.push, h.block]

structure Admitted (client : TTLockClient) (unlockKey : Int) (s : Progress) : Prop where
  held : s.held
  passed : s.passed
  authorized : ∀ opcode, Authorized client unlockKey opcode s.block

theorem sat_adminHandshake (hkey : parseInt self.key.unlockKey = .ok unlockKey) (h : Entered s) :
    Sat (monitor self unlockKey)
      (fun s' o => s'.held ∧ (o = .ok () → Admitted self unlockKey s' ∧ s'.taken = s.taken))
      s self.adminHandshake := by
  have herr : ∀ (s' : Progress) (e : PyExc), s'.held → s'.held ∧
      ((.error e : Py Unit) = .ok () → Admitted self unlockKey s' ∧ s'.taken = s.taken) :=
    fun s' e hs' => ⟨hs', fun h => by cases h⟩
  unfold TTLockClient.adminHandshake
  split
  · exact herr s _ h.held
  refine sat_lift (fun e => herr s e h.held) fun payload _ => ?_
  have hmay : MaySend self unlockKey s cmdCheckAdmin payload :=
    maySend_plain h.held h.passed payload (by decide) (by decide) (by decide)
  refine sat_exchange hmay herr fun resp plain t hresp ht => ?_
  have hparse := (raiseAsTTLockError_eq_ok _ _ _ _).mp ht
  obtain ⟨data, hdata, hlen, rfl⟩ := parseToken_ok _ _ _ hparse
  let s₁ := s.push self ⟨cmdCheckAdmin, payload, .ok resp⟩
  have hpassed : s₁.passed := passed_push h.passed hresp ⟨data, hdata⟩ ⟨_, hparse⟩
  rw [payloadCheckRandom_eq _ _ _ hkey]
  refine sat_lift (fun e => herr _ e h.held) ?_
  rintro _ ⟨⟩
  have hmay' : MaySend self unlockKey s₁ cmdCheckRandom
      (toBytesBig 4 (tokenSum (fromBytesBig (data.take 4)) unlockKey)) :=
    maySend_plain (show s₁.held from h.held) hpassed _ (by decide) (by decide) (by decide)
  refine sat_bind _ (sat_roundTrip hmay') ?_ fun s' e hs' => herr s' e hs'.1
  rintro s' plain' ⟨hheld, hs'⟩
  obtain ⟨resp', hresp', rfl⟩ := hs' plain' rfl
  refine (sat_ofExcept _ _ _ _).mpr ⟨hheld, fun hok => ?_⟩
  obtain ⟨data', hdata'⟩ := requireSuccess_ok plain' _ () hok
  refine ⟨⟨hheld, passed_push hpassed hresp' ⟨data', hdata'⟩ trivial, fun opcode => ?_⟩, rfl⟩
  refine ⟨payload, resp, _, resp', [], ?_, ⟨plain, data, hresp, hdata, hlen, rfl⟩,
    ⟨plain', data', hresp', hdata'⟩, by simp⟩
  simp [Progress.push, h.block]

/-- Behind the handshake, with nothing but `opcode` sent since. -/
structure Between (client : TTLockClient) (unlockKey : Int) (opcode : Int) (s : Progress) : Prop where
  held : s.held
  passed : s.passed
  authorized : Authorized client unlockKey opcode s.block
  once : opcode ∈ pagedOpcodes → s.taken = 1

theorem between_of_admitted {opcode : Int} (h : Admitted self unlockKey s)
    (honce : opcode ∈ pagedOpcodes → s.taken = 1) : Between self unlockKey opcode s :=
  ⟨h.held, h.passed, h.authorized opcode, honce⟩

theorem maySend_between {opcode : Int} (h : Between self unlockKey opcode s) (payload : Bytes)
    (hbolt : ¬ (opcode = cmdUnlock ∨ opcode = cmdLock)) : MaySend self unlockKey s opcode payload :=
  ⟨h.held, h.passed, fun _ => h.authorized, fun h => absurd h hbolt, h.once⟩

theorem between_push {opcode : Int} {payload : Bytes} {resp : Frame} (h : Between self unlockKey opcode s)
    (hpassed : (s.push self ⟨opcode, payload, .ok resp⟩).passed) :
    Between self unlockKey opcode (s.push self ⟨opcode, payload, .ok resp⟩) := by
  obtain ⟨payload', resp', t, resp'', pages, hblock, htoken, hgranted, hpages⟩ := h.authorized
  refine ⟨h.held, hpassed, ⟨payload', resp', t, resp'', pages ++ [⟨opcode, payload, .ok resp⟩], ?_, htoken,
    hgranted, ?_⟩, h.once⟩
  · simp [Progress.push, hblock]
  · intro x hx
    rcases List.mem_append.mp hx with hx | hx
    · exact hpages x hx
    · rw [List.mem_singleton.mp hx]

theorem sat_page {α β : Type} {Q : Progress → Py β → Prop} {opcode : Int} {payload : Bytes} {label : String}
    {use : Bytes → Py α} {f : α → ClientProgram β} (h : Between self unlockKey opcode s)
    (hbolt : ¬ (opcode = cmdUnlock ∨ opcode = cmdLock))
    (hreads : ∀ plain a, use plain = .ok a → (∃ data, Success plain data) ∧ Reads opcode payload plain)
    (herr : ∀ s' e, s'.held → Q s' (.error e))
    (hok : ∀ s' a, Between self unlockKey opcode s' → Sat (monitor self unlockKey) Q s' (f a)) :
    Sat (monitor self unlockKey) Q s (do
      let plain ← self.roundTrip opcode payload label
      let a ← use plain
      f a) := by
  refine sat_exchange (maySend_between h payload hbolt) herr fun resp plain a hresp ha => ?_
  obtain ⟨hsuccess, hread⟩ := hreads plain a ha
  exact hok _ a (between_push h (passed_push h.passed hresp hsuccess hread))

end Handshakes

/-! ## Commands -/

section Commands

variable {self : TTLockClient} {unlockKey : Int} (hkey : parseInt self.key.unlockKey = .ok unlockKey)
  {s : Progress}

/-- Where a command ends, the lock is not held. -/
def Ends (self : TTLockClient) (unlockKey : Int) {α : Type} (s : Progress) (p : ClientProgram α) : Prop :=
  Sat (monitor self unlockKey) (fun s' _ => ¬ s'.held) s p

theorem ends_withCommandLock {α : Type} {body : ClientProgram α} (hs : ¬ s.held)
    (hbody : Sat (monitor self unlockKey) (fun s' _ => s'.held) s.take body) :
    Ends self unlockKey s (withCommandLock body) :=
  sat_withCommandLock hs (fun _ => hs) (sat_mono _ (fun _ _ h => ⟨h, id⟩) hbody)

theorem ends_discard {α : Type} {p : ClientProgram α} (h : Ends self unlockKey s p) :
    Ends self unlockKey s p.discard :=
  sat_bind_inv _ h fun _ _ h => h

include hkey

theorem held_behindHandshake {α : Type} {body : ClientProgram α} (h : Entered s)
    (hbody : ∀ s', Admitted self unlockKey s' → s'.taken = s.taken →
      Sat (monitor self unlockKey) (fun s' _ => s'.held) s' body) :
    Sat (monitor self unlockKey) (fun s' _ => s'.held) s (do
      self.adminHandshake
      body) := by
  refine sat_bind _ (sat_adminHandshake hkey h) ?_ fun _ _ h => h.1
  rintro s' _ ⟨-, hs'⟩
  obtain ⟨hadmitted, htaken⟩ := hs' rfl
  exact hbody s' hadmitted htaken

theorem ends_moveBolt (opcode : Int) (hopcode : opcode = cmdUnlock ∨ opcode = cmdLock) (label : String)
    (hs : ¬ s.held) (hpassed : s.passed) : Ends self unlockKey s (self.moveBolt opcode label) := by
  have hungated : opcode ∉ gatedOpcodes ∧ opcode ∉ pagedOpcodes := by
    rcases hopcode with rfl | rfl <;> decide
  refine sat_bind_inv _ (ends_withCommandLock hs ?_) fun s' _ hs' => ⟨trivial, ?_⟩
  · refine sat_bind _ (sat_checkUserTime (entered_take s hpassed)) ?_ fun _ _ h => h.1
    rintro s' ps ⟨hheld, hs'⟩
    obtain ⟨hpassed', payload', resp, hblock, htoken⟩ := hs' ps rfl
    refine ⟨trivial, ?_⟩
    rintro (e | now) -
    · exact hheld
    refine sat_lift (fun _ => hheld) fun payload hpayload => sat_last ?_ fun s plain h => held_ofExcept h _
    refine ⟨hheld, hpassed', fun h => absurd h hungated.1, fun _ => ?_, fun h => absurd h hungated.2⟩
    exact ⟨payload', resp, ps, hblock, htoken, payloadUnlock_take ps _ _ now hkey payload hpayload⟩
  · exact fun r _ => (sat_ofExcept _ _ _ _).mpr hs'

theorem held_gated {α : Type} (opcode : Int) (payload : Bytes) (label : String) (k : Bytes → ClientProgram α)
    (hbolt : ¬ (opcode = cmdUnlock ∨ opcode = cmdLock)) (hpaged : opcode ∉ pagedOpcodes) (h : Entered s)
    (hk : ∀ s' plain, s'.held → Sat (monitor self unlockKey) (fun s' _ => s'.held) s' (k plain)) :
    Sat (monitor self unlockKey) (fun s' _ => s'.held) s (do
      self.adminHandshake
      let plain ← self.roundTrip opcode payload label
      k plain) := by
  apply held_behindHandshake hkey h
  intro s' hadmitted _
  exact sat_last (maySend_between (between_of_admitted hadmitted fun h => absurd h hpaged) payload hbolt) hk

theorem ends_calibrateTime (localTime : DateTime) (hs : ¬ s.held) (hpassed : s.passed) :
    Ends self unlockKey s (self.calibrateTime localTime) := by
  unfold TTLockClient.calibrateTime
  rw [payloadTimeCalibrate_eq]
  refine ends_withCommandLock hs (held_gated hkey cmdTimeCalibrate _ _ _ (by decide) (by decide)
    (entered_take s hpassed) fun s' plain h => ?_)
  refine sat_lift (fun _ => h) fun envelope _ => ?_
  obtain ⟨_, status, data⟩ := envelope
  simp only
  split
  · exact h
  · exact h

omit hkey in
theorem held_plain {α : Type} (opcode : Int) (payload : Bytes) (label : String) (k : Bytes → ClientProgram α)
    (hopcode : opcode ∉ gatedOpcodes ∧ ¬ (opcode = cmdUnlock ∨ opcode = cmdLock) ∧ opcode ∉ pagedOpcodes)
    (h : Entered s)
    (hk : ∀ s' plain, s'.held → Sat (monitor self unlockKey) (fun s' _ => s'.held) s' (k plain)) :
    Sat (monitor self unlockKey) (fun s' _ => s'.held) s (self.roundTrip opcode payload label >>= k) :=
  sat_last (maySend_plain h.held h.passed payload hopcode.1 hopcode.2.1 hopcode.2.2) hk

omit hkey in
theorem sat_getLockTime (hs : ¬ s.held) (hpassed : s.passed) :
    Sat (monitor self unlockKey) (fun s' o => ¬ s'.held ∧ ∀ t, o = .ok t → s'.passed) s self.getLockTime := by
  refine sat_withCommandLock hs (fun _ => ⟨hs, fun _ h => by cases h⟩) ?_
  have h := entered_take s hpassed
  have hmay : MaySend self unlockKey s.take cmdGetLockTime payloadGetLockTime :=
    maySend_plain h.held h.passed _ (by decide) (by decide) (by decide)
  refine sat_bind _ (sat_roundTrip hmay) ?_ fun s' e hs' => ⟨hs'.1, id, fun _ h => by cases h⟩
  rintro s' plain ⟨hheld, hs'⟩
  obtain ⟨resp, hresp, rfl⟩ := hs' plain rfl
  refine (sat_ofExcept _ _ _ _).mpr ⟨hheld, id, fun t ht => ?_⟩
  have hparse := (raiseAsTTLockError_eq_ok _ _ _ _).mp ht
  exact passed_push h.passed hresp (parseGetLockTimeResponse_ok plain t hparse) ⟨t, hparse⟩

theorem ends_syncTime (localTime : DateTime) (driftThreshold : Int) (hs : ¬ s.held) (hpassed : s.passed) :
    Ends self unlockKey s (self.syncTime localTime driftThreshold) := by
  refine sat_bind _ (sat_getLockTime hs hpassed) ?_ fun _ _ h => h.1
  rintro s' lockTime ⟨hs', hpassed'⟩
  simp only
  split
  · exact sat_bind_inv _ (ends_calibrateTime hkey localTime hs' (hpassed' lockTime rfl)) fun _ _ h => h
  · exact hs'

theorem ends_gated {α : Type} (opcode : Int) (payload : Bytes) (label : String) (k : Bytes → ClientProgram α)
    (hbolt : ¬ (opcode = cmdUnlock ∨ opcode = cmdLock)) (hpaged : opcode ∉ pagedOpcodes) (hs : ¬ s.held)
    (hpassed : s.passed)
    (hk : ∀ s' plain, s'.held → Sat (monitor self unlockKey) (fun s' _ => s'.held) s' (k plain)) :
    Ends self unlockKey s (withCommandLock do
      self.adminHandshake
      let plain ← self.roundTrip opcode payload label
      k plain) :=
  ends_withCommandLock hs (held_gated hkey opcode payload label k hbolt hpaged (entered_take s hpassed) hk)

theorem held_gatedWrite (opcode : Int) (payload : Bytes) (label : String)
    (hbolt : ¬ (opcode = cmdUnlock ∨ opcode = cmdLock)) (hpaged : opcode ∉ pagedOpcodes) (h : Entered s) :
    Sat (monitor self unlockKey) (fun s' _ => s'.held) s (self.gatedWrite opcode payload label) :=
  held_gated hkey opcode payload label _ hbolt hpaged h fun _ _ h => held_ofExcept h _

theorem held_autoLockRoundTrip (payload : Bytes) (label : String) (h : Entered s) :
    Sat (monitor self unlockKey) (fun s' _ => s'.held) s (self.autoLockRoundTrip payload label) := by
  apply held_behindHandshake hkey h
  intro s' hadmitted _
  have hbetween : Between self unlockKey cmdAutoLockManage s' :=
    between_of_admitted hadmitted fun h => absurd h (by decide)
  exact sat_mono _ (fun _ _ h => h.1) (sat_roundTrip (maySend_between hbetween payload (by decide)))

theorem held_autoLockExchange (payload : Bytes) (label : String) (h : Entered s) :
    Sat (monitor self unlockKey) (fun s' _ => s'.held) s (self.autoLockExchange payload label) :=
  sat_bind_inv _ (held_autoLockRoundTrip hkey payload label h) fun _ _ h => held_ofExcept h _

/-! ### Listings -/

omit hkey in
theorem held_listingPages {α : Type} (l : TTLockClient.Listing α)
    (hbolt : ¬ (l.command = cmdUnlock ∨ l.command = cmdLock))
    (hreads : ∀ payload plain entry, l.parser plain = .ok entry →
      (∃ data, Success plain data) ∧ Reads l.command payload plain)
    (left index : Nat) (entries : List α) (h : Between self unlockKey l.command s) :
    Sat (monitor self unlockKey) (fun s' _ => s'.held) s (self.listingPages l left index entries) := by
  induction left generalizing s index entries with
  | zero => exact h.held
  | succ left ih =>
    unfold TTLockClient.listingPages
    refine sat_lift (fun _ => h.held) fun payload _ => ?_
    refine sat_page h hbolt (fun plain entry hentry => hreads payload plain entry
      ((raiseAsTTLockError_eq_ok _ _ _ _).mp hentry)) (fun _ _ h => h) fun s' entry h' => ?_
    cases entry with
    | none => exact h'.held
    | some entry => exact ih _ _ h'

omit hkey in
theorem held_passcodePages (attempts sequence : Nat) (entries : List PasscodeEntry)
    (h : Between self unlockKey cmdGetPasscodes s) :
    Sat (monitor self unlockKey) (fun s' _ => s'.held) s (self.passcodePages attempts sequence entries) := by
  induction attempts generalizing s sequence entries with
  | zero => exact h.held
  | succ attempts ih =>
    unfold TTLockClient.passcodePages
    refine sat_lift (fun _ => h.held) fun payload _ => ?_
    refine sat_page h (by decide) (fun plain page hpage => ?_) (fun _ _ h => h) fun s' page h' => ?_
    · have hparse := (raiseAsTTLockError_eq_ok _ _ _ _).mp hpage
      exact ⟨parsePasscodeListResponse_ok plain page hparse, page, hparse⟩
    obtain ⟨entry, nextSequence⟩ := page
    simp only
    split
    · exact h'.held
    · exact ih _ _ h'

theorem ends_pages {α : Type} (opcode : Int) (body : ClientProgram α)
    (hbody : ∀ s', Between self unlockKey opcode s' →
      Sat (monitor self unlockKey) (fun s' _ => s'.held) s' body)
    (hs : ¬ s.held) (hpassed : s.passed) (htaken : s.taken = 0) :
    Ends self unlockKey s (withCommandLock do
      self.adminHandshake
      body) := by
  apply ends_withCommandLock hs
  apply held_behindHandshake hkey (entered_take s hpassed)
  intro s' hadmitted htaken'
  refine hbody s' (between_of_admitted hadmitted fun _ => ?_)
  rw [htaken', Progress.take, htaken]

omit hkey in
/-- A page is followed by another one only if it was not empty, so that it was a SUCCESS. -/
theorem held_operationLogPages (maxEntries : Option Int) (fuel : Nat) (nextSeq : Int) (seen : List Int)
    (entries : List LogEntry) (hheld : s.held) (hpassed : s.passed) (htaken : s.taken = 1) :
    Sat (monitor self unlockKey) (fun s' _ => s'.held) s
      (self.operationLogPages maxEntries fuel nextSeq seen entries) := by
  induction fuel generalizing s nextSeq seen entries with
  | zero => trivial
  | succ fuel ih =>
    unfold TTLockClient.operationLogPages
    refine sat_lift (fun _ => hheld) fun payload _ => ?_
    have hmay : MaySend self unlockKey s cmdGetOperateLog payload :=
      ⟨hheld, hpassed, fun h => absurd h (by decide), fun h => absurd h (by decide), fun _ => htaken⟩
    refine sat_exchange hmay (fun _ _ h => h) fun resp plain page hresp hpage => ?_
    have hparse := (raiseAsTTLockError_eq_ok _ _ _ _).mp hpage
    obtain ⟨page, lastSeq⟩ := page
    simp only
    split
    · exact hheld
    rename_i hne
    have hnext : (s.push self ⟨cmdGetOperateLog, payload, .ok resp⟩).passed :=
      passed_push hpassed hresp (parseOperateLogResponse_ok plain _ hparse hne) ⟨_, hparse⟩
    split
    · exact hheld
    split
    · exact hheld
    split
    · exact hheld
    exact ih _ _ _ hheld hnext htaken

/-! ### Properties -/

omit hkey in
theorem held_deviceProperties (h : Between self unlockKey cmdGetDeviceProperties s) :
    Sat (monitor self unlockKey) (fun s' _ => s'.held) s self.deviceProperties := by
  unfold TTLockClient.deviceProperties TTLockClient.devicePropertyExchange
  refine sat_page h (by decide) (fun plain a ha => ⟨property_ok plain _ a ha, a, ha⟩) (fun _ _ h => h)
    fun s _ h => ?_
  refine sat_page h (by decide) (fun plain a ha => ⟨property_ok plain _ a ha, a, ha⟩) (fun _ _ h => h)
    fun s _ h => ?_
  refine sat_page h (by decide) (fun plain a ha => ⟨property_ok plain _ a ha, a, ha⟩) (fun _ _ h => h)
    fun s _ h => ?_
  refine sat_page h (by decide) (fun plain a ha => ⟨property_ok plain _ a ha, a, ha⟩) (fun _ _ h => h)
    fun s _ h => ?_
  refine sat_page h (by decide) (fun plain a ha => ⟨property_ok plain _ a ha, a, ha⟩) (fun _ _ h => h)
    fun s _ h => ?_
  refine sat_page h (by decide) (fun plain a ha => ⟨property_ok plain _ a ha, a, ha⟩) (fun _ _ h => h)
    fun s _ h => ?_
  exact h.held

omit hkey in
theorem ends_getDeviceInfo (hs : ¬ s.held) : Ends self unlockKey s TTLockClient.getDeviceInfo := by
  have hread (uuid : String) (s : Progress) (h : s.held) : Sat (monitor self unlockKey) (fun s' _ => s'.held) s
      (Program.perform (ClientOp.readOptionalChar uuid) : ClientProgram (Option String)) :=
    ⟨trivial, fun _ _ => (sat_ofExcept _ _ _ _).mpr h⟩
  apply ends_withCommandLock hs
  refine sat_bind_inv _ (hread _ _ trivial) fun s _ h => ?_
  refine sat_bind_inv _ (hread _ _ h) fun s _ h => ?_
  refine sat_bind_inv _ (hread _ _ h) fun s _ h => ?_
  refine sat_bind_inv _ (hread _ _ h) fun s _ h => ?_
  refine sat_bind_inv _ (hread _ _ h) fun s _ h => ?_
  exact sat_bind_inv _ (hread _ _ h) fun _ _ h => h

/-! ### Every command -/

theorem ends_program (fuel : Nat) (command : Command) :
    Ends self unlockKey Progress.start (self.program fuel command) := by
  have hs : ¬ Progress.start.held := id
  have hpassed : Progress.start.passed := trivial
  have hentered := entered_take Progress.start hpassed
  cases command with
  | unlock => exact ends_moveBolt hkey _ (.inl rfl) _ hs hpassed
  | lock => exact ends_moveBolt hkey _ (.inr rfl) _ hs hpassed
  | calibrateTime localTime => exact ends_calibrateTime hkey localTime hs hpassed
  | getLockTime => exact ends_discard (sat_mono _ (fun _ _ h => h.1) (sat_getLockTime hs hpassed))
  | syncTime localTime driftThreshold =>
    exact ends_discard (ends_syncTime hkey localTime driftThreshold hs hpassed)
  | queryState =>
    exact ends_discard (ends_withCommandLock hs (held_plain _ _ _ _ (by decide) hentered
      fun _ _ h => held_ofExcept h _))
  | getAutoLockTime =>
    exact ends_discard (ends_withCommandLock hs (sat_bind_inv _ (held_autoLockExchange hkey _ _ hentered)
      fun _ _ h => h))
  | setAutoLockTime seconds =>
    refine ends_withCommandLock hs (sat_lift (fun _ => hentered.held) fun payload _ => ?_)
    exact sat_bind_inv _ (held_autoLockExchange hkey payload _ hentered) fun _ _ h => h
  | getAutoLockLimits =>
    exact ends_discard (ends_withCommandLock hs (sat_bind_inv _ (held_autoLockRoundTrip hkey _ _ hentered)
      fun _ _ h => held_ofExcept h _))
  | addPasscode code pwdType startDate endDate =>
    refine ends_withCommandLock hs (sat_lift (fun _ => hentered.held) fun payload _ => ?_)
    exact held_gatedWrite hkey _ payload _ (by decide) (by decide) hentered
  | deletePasscode code pwdType =>
    refine ends_withCommandLock hs (sat_lift (fun _ => hentered.held) fun payload _ => ?_)
    exact held_gatedWrite hkey _ payload _ (by decide) (by decide) hentered
  | clearPasscodes =>
    exact ends_withCommandLock hs (held_gatedWrite hkey _ _ _ (by decide) (by decide) hentered)
  | getPasscodes =>
    exact ends_discard
      (ends_pages hkey cmdGetPasscodes _ (fun _ h => held_passcodePages _ _ _ h) hs hpassed rfl)
  | getOperationLog maxEntries fromSequence =>
    exact ends_discard (ends_withCommandLock hs (held_operationLogPages _ _ _ _ _ trivial hpassed rfl))
  | getFingerprints =>
    refine ends_discard (ends_pages hkey cmdManageFingerprint _ (fun _ h =>
      held_listingPages TTLockClient.fingerprintListing (by decide) ?_ _ _ _ h) hs hpassed rfl)
    exact fun _ plain entry h => ⟨parseFingerprintListResponse_ok plain entry h, entry, h⟩
  | getCards =>
    refine ends_discard (ends_pages hkey cmdManageIcCard _ (fun _ h =>
      held_listingPages TTLockClient.cardListing (by decide) ?_ _ _ _ h) hs hpassed rfl)
    exact fun _ plain entry h => ⟨parseCardListResponse_ok plain entry h, entry, h⟩
  | getLockSound =>
    exact ends_discard
      (ends_gated hkey _ _ _ _ (by decide) (by decide) hs hpassed fun _ _ h => held_ofExcept h _)
  | setLockSound enabled =>
    exact ends_withCommandLock hs (held_gatedWrite hkey _ _ _ (by decide) (by decide) hentered)
  | setLockVolume level =>
    refine sat_lift (fun _ => hs) fun payload _ => ?_
    exact ends_withCommandLock hs (held_gatedWrite hkey _ payload _ (by decide) (by decide) hentered)
  | getDeviceFeatures =>
    exact ends_discard
      (ends_gated hkey _ _ _ _ (by decide) (by decide) hs hpassed fun _ _ h => held_ofExcept h _)
  | getDeviceInfo => exact ends_discard (ends_getDeviceInfo hs)
  | getDeviceProperties =>
    refine ends_discard (ends_pages hkey cmdGetDeviceProperties _ (fun s' h => ?_) hs hpassed rfl)
    rw [sat_handle]
    exact sat_mono _ (fun _ _ h => held_ofExcept h _) (held_deviceProperties h)
  | pokeLock =>
    refine ends_withCommandLock hs ⟨maySend_plain hentered.held hentered.passed _ (by decide) (by decide)
      (by decide), ?_⟩
    rintro (e | resp) -
    · exact hentered.held
    · exact hentered.held

end Commands

end TtlockBle.Handshake
