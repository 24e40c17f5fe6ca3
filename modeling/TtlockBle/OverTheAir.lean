import TtlockBle.Clock
import TtlockBle.Conversation

/-!
# Commands over the air

Commands one after the other, on a link that holds. The lock is asked as if it were called, and what is true of
calls is true of the bytes that go back and forth.
-/

open TtlockBle.Lib

namespace TtlockBle.OverTheAir

open Cipher Conversation LogPages Payloads Program

/-! ## Commands one after the other -/

variable (client : TTLockClient) (fuel : Nat)

/-- The next command comes whatever the last one ended with. -/
def inTurn : List Command → ClientProgram Unit
  | [] => pure ()
  | command :: rest => (client.program fuel command).handle fun _ => inTurn rest

/-- Its requests fit a frame. -/
def Fits (command : Command) : Prop := ∀ opcode, ¬ Requests.Oversized opcode command

def ShortRequest : ClientOp → Prop
  | .exchange command payload => (0 ≤ command ∧ command ≤ 255) ∧ payload.length ≤ Requests.maxPayload
  | _ => True

theorem short_program {command : Command} (h : Fits command) : Only ShortRequest (client.program fuel command) := by
  apply only_of_sat _ _ _ (Requests.watched_program fuel command)
  · intro s op hallows
    cases op with
    | exchange opcode payload =>
      obtain ⟨⟨hopcode, hlong⟩, -⟩ := hallows
      exact ⟨hopcode, Nat.le_of_not_lt (mt hlong.mp (h opcode))⟩
    | _ => trivial
  · exact fun _ _ _ => trivial

theorem short_inTurn (commands : List Command) (h : ∀ command ∈ commands, Fits command) :
    Only ShortRequest (inTurn client fuel commands) := by
  induction commands with
  | nil => exact only_ofExcept (.ok ())
  | cons command rest ih =>
    rw [List.forall_mem_cons] at h
    exact only_handle (short_program client fuel h.1) fun _ => ih h.2

variable {client fuel} {σ : Type}

/-- A lock that answers each of these requests with a frame that fits the wire and echoes the request. -/
def Answers (client : TTLockClient) (lock : Lock σ) (p : ClientProgram Unit) : Prop :=
  ∀ s command payload, Asks p command payload →
    ∃ reply, lock.reply s command payload = .ok reply ∧ RoundTrip.Fits reply ∧ client.answers reply command

theorem understood_of_short {lock : Lock σ} {p : ClientProgram Unit} (hversion : Wire.FitsHeader client.key.lockVersion)
    (hcipher : PaddedCipher client.aes client.aesKey) (hshort : Only ShortRequest p)
    (hanswers : Answers client lock p) : Understood client lock p := by
  refine ⟨hversion, hcipher, ?_, hanswers⟩
  rintro command payload ⟨es, next, hrun⟩
  have hrequest : ShortRequest (.exchange command payload) := only_runs hshort hrun
  exact hrequest

theorem state_ended {lock : Lock σ} {p : ClientProgram Unit} {s₀ : σ} {sent : List Frame} {c : Conversation σ}
    (h : Stage client lock p s₀ sent c) (hended : c.task.left.Ended) : Idle client lock p s₀ sent c := by
  rcases h with h | ⟨x, command, payload, next, h⟩ | ⟨x, command, payload, next, reply, h⟩
  · exact h
  · rw [h.left] at hended
    exact hended.elim
  · rw [h.left] at hended
    exact hended.elim

theorem stage_sound {lock : Lock σ} {p : ClientProgram Unit} {s₀ : σ} {sent : List Frame} {c : Conversation σ}
    (h : Stage client lock p s₀ sent c) : Sound lock p s₀ c := by
  rcases h with h | ⟨x, command, payload, next, h⟩ | ⟨x, command, payload, next, reply, h⟩
  · exact h.toSound
  · exact h.toSound
  · exact h.toSound

/-! ### A lock that echoes -/

/-- It answers a request with its opcode and these bytes. -/
def echoing (answer : σ → Int → Bytes → Bytes) (next : σ → Int → Bytes → σ) : Lock σ where
  reply s command payload := .ok (lockFrame (Clock.clockClient.aes.encrypt Clock.clockClient.aesKey
    (UInt8.ofInt command :: answer s command payload)))
  next := next

variable {answer : σ → Int → Bytes → Bytes} {next : σ → Int → Bytes → σ}

theorem replies_echoing (s : σ) (command : Int) (payload : Bytes) :
    (echoing answer next).Replies Clock.clockClient s command payload
      (UInt8.ofInt command :: answer s command payload) :=
  ⟨_, rfl, (aesDecrypt_eq_ok_iff Clock.paddedCipher_clockClient _ _).mpr rfl⟩

theorem answers_echoing {p : ClientProgram Unit} (hshort : Only ShortRequest p)
    (hanswer : ∀ s command payload, (answer s command payload).length < Requests.maxPayload) :
    Answers Clock.clockClient (echoing answer next) p := by
  rintro s command payload ⟨es, rest, hrun⟩
  have hcommand : 0 ≤ command ∧ command ≤ 255 := (only_runs hshort hrun).1
  have hlength : (UInt8.ofInt command :: answer s command payload).length ≤ Requests.maxPayload :=
    hanswer s command payload
  refine ⟨_, rfl, ?_, ?_⟩
  · exact fits_forLock Wire.fitsHeader_makeVirtualKey (by decide)
      ((Wire.cipher_length_le Clock.paddedCipher_clockClient).mpr hlength)
  · have hdecrypt : aesDecrypt Clock.clockClient.aes
        (lockFrame (Clock.clockClient.aes.encrypt Clock.clockClient.aesKey
          (UInt8.ofInt command :: answer s command payload))).data Clock.clockClient.aesKey =
        .ok (UInt8.ofInt command :: answer s command payload) :=
      (aesDecrypt_eq_ok_iff Clock.paddedCipher_clockClient _ _).mpr rfl
    unfold TTLockClient.answers
    rw [hdecrypt]
    cases hrest : answer s command payload with
    | nil => rfl
    | cons status data => exact decide_eq_true (RoundTrip.low_toNat_of_fits command hcommand)

/-- With a clock. -/
def echoLock : Lock Bytes :=
  echoing (fun clock command _ => responseSuccess :: if command = cmdGetLockTime then clock.take 6 else [0, 0, 0, 7])
    fun clock command payload => if command = cmdTimeCalibrate then payload else clock

theorem answers_echoLock (p : ClientProgram Unit) (hshort : Only ShortRequest p) :
    Answers Clock.clockClient echoLock p := by
  refine answers_echoing hshort fun clock command _ => ?_
  rw [List.length_cons]
  unfold Requests.maxPayload
  split
  · have htake := List.length_take_le 6 clock
    omega
  · decide

def openTransport : BleTransport where
  link := { Link.new "" none with client := some ⟨0, true⟩, writeChar := some ⟨0, 0⟩ }
  channel := .new

theorem open_openTransport : Open openTransport := ⟨rfl, rfl, rfl, rfl, rfl, rfl⟩

/-- A request of two chunks, each got before the next one, and a reply in two notifications. -/
def exchangeEvents : List ConversationEvent :=
  [.task .exchange, .hear, .task (.channel .wrote), .hear, .task (.channel .wrote), .notify 7, .notify 24,
    .task (.channel .take)]

def readEvents : List ConversationEvent := [.task .acquired] ++ exchangeEvents ++ [.task .released]

section Commands

variable {lock : Lock σ} {s₀ : σ} {transport : BleTransport} {commands : List Command}

/-- **Over the air the commands are answered as by the lock itself**, however their bytes are cut and whatever the lock
pushes in between. -/
theorem commands_served (hversion : Wire.FitsHeader client.key.lockVersion)
    (hcipher : PaddedCipher client.aes client.aesKey) (hfits : ∀ command ∈ commands, Fits command)
    (hanswers : Answers client lock (inTurn client fuel commands)) (hopen : Open transport)
    (es : List ConversationEvent) (c : Conversation σ) (hundisturbed : Undisturbed es)
    (hpush : ∀ frame, .push frame ∈ es → Unasked client (inTurn client fuel commands) frame)
    (hrun : (machine client lock transport s₀ (inTurn client fuel commands)).Reaches es c) :
    Runs (inTurn client fuel commands) c.task.finished c.task.left ∧ lock.serving.AdmitsAll s₀ c.task.finished ∧
      (c.task.left.Ended → c.lock = lock.serving.after s₀ c.task.finished) := by
  have hu := understood_of_short hversion hcipher (short_inTurn client fuel commands hfits) hanswers
  have hstage := stage_run hu hopen hundisturbed hpush hrun
  have hsound := stage_sound hstage
  exact ⟨hsound.runs, hsound.admitted, fun hended => (state_ended hstage hended).state⟩

theorem commands_served_read :
    ∃ c, (machine Clock.clockClient echoLock openTransport [24, 3, 1, 0, 0, 2]
        (inTurn Clock.clockClient 0 [.getLockTime])).Reaches readEvents c ∧ c.task.left.Ended ∧
      Runs (inTurn Clock.clockClient 0 [.getLockTime]) c.task.finished c.task.left ∧
      echoLock.serving.AdmitsAll [24, 3, 1, 0, 0, 2] c.task.finished ∧
      (c.task.left.Ended → c.lock = echoLock.serving.after [24, 3, 1, 0, 0, 2] c.task.finished) := by
  have hfits : ∀ command ∈ [Command.getLockTime], Fits command := by simp [Fits, Requests.Oversized]
  obtain ⟨c, hreaches, hended⟩ := ((machine Clock.clockClient echoLock openTransport [24, 3, 1, 0, 0, 2]
    (inTurn Clock.clockClient 0 [.getLockTime])).exists_reaches readEvents fun c => c.task.left.Ended).mpr
      (by decide +kernel)
  exact ⟨c, hreaches, hended, commands_served Wire.fitsHeader_makeVirtualKey Clock.paddedCipher_clockClient hfits
    (answers_echoLock _ (short_inTurn _ _ _ hfits)) open_openTransport readEvents c (by decide)
    (by simp [readEvents, exchangeEvents]) hreaches⟩

end Commands

/-! ## Setting the clock over the air -/

def Timeless : ClientOp → Prop
  | .now | .readOptionalChar _ => False
  | _ => True

theorem serving_of_play {α : Type} {lock : Lock σ} {p : ClientProgram α} (htimeless : Only Timeless p)
    {s s' : Session σ} {o : Py α} (hplay : lock.play s p = (s', some o)) :
    Program.Sat lock.serving (fun t x => t = s'.lock ∧ x = o) s.lock p := by
  induction p generalizing s with
  | ret a =>
    obtain ⟨rfl, rfl⟩ := (Prod.mk.inj hplay).imp_right Option.some.inj
    exact ⟨rfl, rfl⟩
  | raise e =>
    obtain ⟨rfl, rfl⟩ := (Prod.mk.inj hplay).imp_right Option.some.inj
    exact ⟨rfl, rfl⟩
  | cut => cases hplay
  | call op next ih =>
    obtain ⟨hop, hnext⟩ := only_call.mp htimeless
    refine ⟨trivial, fun r hr => ?_⟩
    have hunit (r : Py Unit) (hr : r.isOk) : r = .ok () := by
      cases r with
      | error e => cases hr
      | ok _ => rfl
    cases op with
    | exchange command payload =>
      obtain rfl : r = lock.reply s.lock command payload := hr
      exact ih _ (hnext _) (s := lock.send s command payload) hplay
    | acquire =>
      obtain rfl : r = .ok () := hunit r hr
      exact ih _ (hnext _) hplay
    | release =>
      obtain rfl : r = .ok () := hunit r hr
      exact ih _ (hnext _) hplay
    | restartKeepAlive =>
      obtain rfl : r = .ok () := hunit r hr
      exact ih _ (hnext _) hplay
    | now => exact hop.elim
    | readOptionalChar uuid => exact hop.elim

section Timeless

variable {α : Type} {client : TTLockClient}

theorem timeless_lift (x : Py α) : Only Timeless (liftM x : ClientProgram α) := only_ofExcept x

theorem only_withCommandLock {P : ClientOp → Prop} (hacquire : P .acquire) (hrelease : P .release)
    {body : ClientProgram α} (h : Only P body) : Only P (withCommandLock body) :=
  only_bind (only_perform hacquire) fun _ =>
    only_handle h fun x => only_bind (only_perform hrelease) fun _ => only_ofExcept x

theorem timeless_withCommandLock {body : ClientProgram α} (h : Only Timeless body) :
    Only Timeless (withCommandLock body) :=
  only_withCommandLock trivial trivial h

theorem timeless_roundTrip (command : Int) (payload : Bytes) (label : String) :
    Only Timeless (client.roundTrip command payload label) :=
  only_bind (only_perform trivial) fun _ => timeless_lift _

theorem timeless_adminHandshake : Only Timeless client.adminHandshake := by
  unfold TTLockClient.adminHandshake
  split
  · exact timeless_lift (.error _)
  · refine only_bind (timeless_lift _) fun _ => only_bind (timeless_roundTrip _ _ _) fun _ => ?_
    refine only_bind (timeless_lift _) fun _ => only_bind (timeless_lift _) fun _ => ?_
    exact only_bind (timeless_roundTrip _ _ _) fun _ => timeless_lift _

theorem timeless_calibrateTime (localTime : DateTime) : Only Timeless (client.calibrateTime localTime) := by
  unfold TTLockClient.calibrateTime
  refine timeless_withCommandLock (only_bind timeless_adminHandshake fun _ => ?_)
  rw [Payloads.payloadTimeCalibrate_eq]
  refine only_bind (timeless_lift _) fun payload => ?_
  refine only_bind (timeless_roundTrip _ _ _) fun plain => ?_
  refine only_bind (timeless_lift _) fun envelope => ?_
  obtain ⟨_, status, data⟩ := envelope
  simp only
  split_ifs
  · exact only_ofExcept (.error _)
  · exact only_ofExcept (.ok _)

theorem timeless_getLockTime : Only Timeless client.getLockTime :=
  timeless_withCommandLock (only_bind (timeless_roundTrip _ _ _) fun _ => timeless_lift _)

theorem timeless_syncTime (localTime : DateTime) (driftThreshold : Int) :
    Only Timeless (client.syncTime localTime driftThreshold) := by
  refine only_bind timeless_getLockTime fun lockTime => ?_
  simp only
  split_ifs
  · exact only_bind (timeless_calibrateTime _) fun _ => only_ofExcept (.ok _)
  · exact only_ofExcept (.ok _)

end Timeless

section Sync

variable {client : TTLockClient} {lock : Lock σ} {clock : σ → Bytes}

/-- **A clock that is far off is set, however the bytes travel.** The call can always finish, and then it has
returned. -/
theorem syncTime_sets_clock (hlock : Clock.StoresClock client lock clock) (hkey : WellFormedKey client.key)
    (hadmin : isDigit client.key.adminPs) (hversion : Wire.FitsHeader client.key.lockVersion)
    (hcipher : PaddedCipher client.aes client.aesKey) (t : DateTime) (ht : 2000 ≤ t.year ∧ t.year ≤ 2099)
    (threshold : Int) (hanswers : Answers client lock (client.program 0 (.syncTime t threshold)))
    (transport : BleTransport) (hopen : Open transport) (start : σ) (date : DateTime)
    (hdate : EncodesSecond (clock start) date) (es : List ConversationEvent) (c : Conversation σ)
    (hundisturbed : Undisturbed es)
    (hpush : ∀ frame, .push frame ∈ es → Unasked client (client.program 0 (.syncTime t threshold)) frame)
    (hrun : (machine client lock transport start (client.program 0 (.syncTime t threshold))).Reaches es c) :
    (∃ c', CanReach client lock c c' ∧ c'.task.left.Ended) ∧
      (c.task.left.Ended → c.task.left = .ret () ∧
        EncodesSecond (clock c.lock) (if |date.sub t| > threshold then Clock.withoutMicroseconds t else date)) := by
  obtain ⟨s', hplay, -, hclock⟩ := Clock.play_syncTime hlock hkey hadmin t ht threshold hdate
  have hplayed : lock.play ⟨start, []⟩ (client.program 0 (.syncTime t threshold)) = (s', some (.ok ())) :=
    Lock.play_bind hplay fun _ => .ret ()
  have htimeless : Only Timeless (client.program 0 (.syncTime t threshold)) :=
    only_bind (timeless_syncTime t threshold) fun _ => only_ofExcept (.ok ())
  have hshort : Only ShortRequest (client.program 0 (.syncTime t threshold)) := short_program client 0 fun _ h => h
  have hu := understood_of_short hversion hcipher hshort hanswers
  have hstage := stage_run hu hopen hundisturbed hpush hrun
  obtain ⟨c', hreach, -, hends⟩ := stage_finishes hu hstage
  refine ⟨⟨c', hreach, hends⟩, fun hended => ?_⟩
  have hidle := state_ended hstage hended
  have hserved := sat_run _ (serving_of_play htimeless hplayed) hidle.runs hidle.admitted
  rcases ended_cases hended with ⟨outcome, houtcome⟩ | hcut
  · rw [houtcome, sat_ofExcept] at hserved
    obtain ⟨hlock', rfl⟩ := hserved
    refine ⟨houtcome, ?_⟩
    rw [hidle.state, hlock']
    exact hclock
  · rw [hcut] at hserved
    exact hserved.elim

theorem storesClock_echoLock : Clock.StoresClock Clock.clockClient echoLock (·.take 6) where
  checkAdmin s payload := ⟨_, [0, 0, 0, 7], by decide, replies_echoing s cmdCheckAdmin payload⟩
  checkRandom s payload := ⟨_, [0, 0, 0, 7], replies_echoing s cmdCheckRandom payload⟩
  getLockTime s payload := ⟨UInt8.ofInt cmdGetLockTime, [], by
    rw [List.append_nil]
    exact replies_echoing s cmdGetLockTime payload⟩
  timeCalibrate s payload hlength := ⟨⟨_, [0, 0, 0, 7], replies_echoing s cmdTimeCalibrate payload⟩,
    List.take_of_length_le hlength.le⟩
  stands s command payload h := congrArg (List.take 6) (if_neg h)

def syncEvents : List ConversationEvent :=
  readEvents ++ [.task .acquired] ++ exchangeEvents ++ exchangeEvents ++ exchangeEvents ++ [.task .released]

theorem syncTime_sets_clock_leapDay :
    ∃ c, (machine Clock.clockClient echoLock openTransport [24, 3, 1, 0, 0, 2]
        (Clock.clockClient.program 0 (.syncTime Clock.leapDay 2000000))).Reaches syncEvents c ∧
      c.task.left = .ret () ∧ EncodesSecond (c.lock.take 6)
        (if |Clock.nextDay.sub Clock.leapDay| > 2000000 then Clock.withoutMicroseconds Clock.leapDay
          else Clock.nextDay) := by
  obtain ⟨c, hreaches, hended⟩ := ((machine Clock.clockClient echoLock openTransport [24, 3, 1, 0, 0, 2]
    (Clock.clockClient.program 0 (.syncTime Clock.leapDay 2000000))).exists_reaches syncEvents
      fun c => c.task.left.Ended).mpr (by decide +kernel)
  exact ⟨c, hreaches, (syncTime_sets_clock storesClock_echoLock Contract.wellFormedKey_makeVirtualKey
    (by decide +kernel) Wire.fitsHeader_makeVirtualKey Clock.paddedCipher_clockClient Clock.leapDay (by decide) 2000000
    (answers_echoLock _ (short_program _ _ fun _ h => h)) openTransport open_openTransport [24, 3, 1, 0, 0, 2]
    Clock.nextDay ⟨24, 3, 1, 0, 0, 2, rfl, rfl, rfl, rfl, rfl, rfl, rfl, rfl⟩ syncEvents c
    (by decide) (by simp [syncEvents, readEvents, exchangeEvents]) hreaches).2 hended⟩

end Sync

end TtlockBle.OverTheAir
