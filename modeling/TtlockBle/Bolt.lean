import TtlockBle.Handshake
import TtlockBle.Lib.Simulation
import TtlockBle.OverTheAir

/-!
# Who moves the bolt

The lock answers a CHECK_USER_TIME with a token, and moves its bolt for the sum of that token and its own unlock
key. So the calls of a client move it exactly if the two keys agree modulo `2 ^ 32`.
-/

open TtlockBle.Lib

namespace TtlockBle.Bolt

open Contract Conversation Lock OverTheAir Parsers Payloads Program

/-! ## A lock in a good state -/

section Watched

variable {σ α β : Type}

/-- The lock on its own, which is to be in a state of `G` all along. -/
def watched (lock : Lock σ) (G : σ → Prop) (time : Int → Prop) (mayCut : Prop) :
    Monitor ClientOp ClientOp.Answer PyExc σ where
  allows s _ := G s
  admits s
    | .exchange command payload, r => r = lock.reply s command payload
    | .now, r => ∃ now, r = .ok now ∧ time now
    | _, r => r.isOk
  next := lock.serving.next
  cuts s := mayCut ∧ G s

variable {client : TTLockClient} {lock : Lock σ} {G : σ → Prop} {time : Int → Prop} {mayCut : Prop}
  {p : ClientProgram Unit} {s₀ : σ} {c : Conversation σ}

theorem sat_good {Q : σ → Py α → Prop} (hQ : ∀ s o, Q s o → G s) {s : σ} {p : ClientProgram α}
    (h : Sat (watched lock G time mayCut) Q s p) : G s := by
  cases p with
  | ret a => exact hQ s _ h
  | raise e => exact hQ s _ h
  | call op next => exact h.1
  | cut => exact h.2

theorem watched_admitsAll {es : List (Program.Event ClientOp ClientOp.Answer PyExc)} {s : σ}
    (h : lock.serving.AdmitsAll s es) (htime : ∀ now, ⟨.now, .ok now⟩ ∈ es → time now) :
    (watched lock G time mayCut).AdmitsAll s es := by
  induction es generalizing s with
  | nil => trivial
  | cons ev es ih =>
    refine ⟨?_, ih h.2 fun now hnow => htime now (List.mem_cons_of_mem _ hnow)⟩
    obtain ⟨op, r⟩ := ev
    have hadmits := h.1
    cases op with
    | now =>
      cases r with
      | error e => cases hadmits
      | ok now => exact ⟨now, rfl, htime now List.mem_cons_self⟩
    | exchange command payload => exact hadmits
    | acquire | release | restartKeepAlive | readOptionalChar _ => exact hadmits

/-- What a triple says of the lock holds at every moment over the air. -/
theorem stage_good {Q : σ → Py Unit → Prop} (hQ : ∀ s o, Q s o → G s)
    (hp : Sat (watched lock G time mayCut) Q s₀ p) {sent : List Frame} (hstage : Stage client lock p s₀ sent c)
    (htime : ∀ now, ⟨.now, .ok now⟩ ∈ c.task.finished → time now) : G c.lock := by
  have hsound := stage_sound hstage
  have hleft := sat_run _ hp hsound.runs (watched_admitsAll hsound.admitted htime)
  rcases hstage with h | ⟨x, command, payload, next, h⟩ | ⟨x, command, payload, next, reply, h⟩
  · rw [h.state]
    exact sat_good hQ hleft
  · rw [h.state]
    exact sat_good hQ hleft
  · rw [h.left] at hleft
    rw [h.state]
    exact sat_good hQ (hleft.2 (.ok reply) h.replied.symm)

/-! ### The host clock -/

theorem mem_answer {t : Task} {op : ClientOp} {next : Py op.Answer → ClientProgram Unit} {outcome : Py op.Answer}
    {now : Int} (h : ⟨.now, .ok now⟩ ∈ (t.answer op next outcome).finished) :
    ⟨.now, .ok now⟩ ∈ t.finished ∨ (⟨.now, .ok now⟩ : Program.Event ClientOp ClientOp.Answer PyExc) = ⟨op, outcome⟩ :=
  (List.mem_append.mp h).imp_right List.mem_singleton.mp

theorem mem_advance {t : Task} {channel : Channel} {now : Int} (h : ⟨.now, .ok now⟩ ∈ (t.advance channel).finished) :
    ⟨.now, .ok now⟩ ∈ t.finished := by
  unfold Task.advance at h
  split at h
  · rcases mem_answer h with h | h
    · exact h
    · cases h
  · exact h

theorem step_clock {t t' : Task} {e : TaskEvent} {now : Int} (h : t.step client e = some t')
    (hnow : ⟨.now, .ok now⟩ ∈ t'.finished) : ⟨.now, .ok now⟩ ∈ t.finished ∨ e = .clock now := by
  cases e with
  | link e =>
    obtain ⟨l, -, rfl⟩ := Option.map_eq_some_iff.mp h
    exact .inl hnow
  | exchange =>
    unfold Task.step at h
    simp only at h
    split at h
    · split at h
      · obtain rfl := Option.some.inj h
        rcases mem_answer hnow with h | h
        · exact .inl h
        · cases h
      · obtain rfl := Option.some.inj h
        exact .inl (mem_advance (t := { t with writes := [] :: t.writes }) hnow)
    · cases h
  | channel e =>
    have hchannel (h : (t.transport.channel.step client.answers t.transport.link e).map
        (if t.transport.channel.exchange.isSome then t.advance else t.setChannel) = some t') :
        ⟨.now, .ok now⟩ ∈ t.finished := by
      obtain ⟨channel, -, rfl⟩ := Option.map_eq_some_iff.mp h
      split_ifs at hnow
      · exact mem_advance hnow
      · exact hnow
    cases e with
    | exchange _ | cancel => cases h
    | notify _ | wrote | writeFailed _ | take | timeout => exact .inl (hchannel h)
  | clock now' =>
    unfold Task.step at h
    simp only at h
    split at h
    · obtain rfl := Option.some.inj h
      rcases mem_answer hnow with h | h
      · exact .inl h
      · cases h
        exact .inr rfl
    · cases h
  | acquired | released | keepAliveRestarted | charRead _ =>
    unfold Task.step at h
    simp only at h
    split at h
    · obtain rfl := Option.some.inj h
      rcases mem_answer hnow with h | h
      · exact .inl h
      · cases h
    · cases h

theorem run_clock {transport : BleTransport} {es : List ConversationEvent}
    (hrun : (machine client lock transport s₀ p).Reaches es c) {now : Int}
    (hnow : ⟨.now, .ok now⟩ ∈ c.task.finished) : .task (.clock now) ∈ es := by
  refine Machine.run_history _ (I := fun es c => ⟨.now, .ok now⟩ ∈ c.task.finished → .task (.clock now) ∈ es)
    ?_ ?_ hrun hnow
  · intro h
    cases h
  intro es c e c' _ ih hstep hnow
  cases e with
  | task e =>
    obtain ⟨t, ht, rfl⟩ := step_task (show c.step client lock (.task e) = some c' from hstep)
    rcases step_clock ht hnow with h | rfl
    · exact List.mem_append_left _ (ih h)
    · exact List.mem_append_right _ List.mem_cons_self
  | hear =>
    obtain ⟨chunk, -, rfl⟩ := Option.map_eq_some_iff.mp hstep
    rw [(hear_kept client lock c chunk.2).1] at hnow
    exact List.mem_append_left _ (ih hnow)
  | notify n =>
    have hnotified : (c.task.step client (.channel (.notify (c.air.take n)))).map (fun t =>
        { c with task := t, air := c.air.drop n }) = some c' := hstep
    obtain ⟨t, ht, rfl⟩ := Option.map_eq_some_iff.mp hnotified
    rcases step_clock ht hnow with h | h
    · exact List.mem_append_left _ (ih h)
    · cases h
  | push frame =>
    obtain rfl := Option.some.inj hstep
    exact List.mem_append_left _ (ih hnow)

/-! ### Rules -/

theorem sat_locked {Q : σ → Py α → Prop} (hQ : ∀ s o, Q s o → G s) {s : σ} {body : ClientProgram α}
    (h : Sat (watched lock G time mayCut) Q s body) : Sat (watched lock G time mayCut) Q s (withCommandLock body) := by
  apply withCommandLock_sat _ (sat_good hQ h)
  · intro e he
    cases he
  refine sat_mono _ ?_ h
  intro s' o ho
  refine ⟨hQ s' o ho, fun e he => ?_, fun _ => ho⟩
  cases he

theorem sat_lift_bind {Q : σ → Py β → Prop} {s : σ} {x : Py α} {a : α} (hx : x = .ok a) {f : α → ClientProgram β}
    (h : Sat (watched lock G time mayCut) Q s (f a)) :
    Sat (watched lock G time mayCut) Q s ((liftM x : ClientProgram α) >>= f) := by
  rw [hx]
  exact h

theorem sat_replies {Q : σ → Py β → Prop} {s : σ} {command : Int} {payload plain : Bytes} {label : String} (hG : G s)
    (hreplies : lock.Replies client s command payload plain) {f : Bytes → ClientProgram β}
    (h : Sat (watched lock G time mayCut) Q (lock.next s command payload) (f plain)) :
    Sat (watched lock G time mayCut) Q s (client.roundTrip command payload label >>= f) := by
  obtain ⟨resp, hreply, hplain⟩ := hreplies
  refine ⟨hG, fun r hr => ?_⟩
  obtain rfl : r = .ok resp := hr.trans hreply
  exact sat_lift_bind ((client.decryptResponse_eq_ok _ _ _).mpr hplain) h

end Watched

/-! ## The door -/

structure Door where
  bolt : LockState
  battery : UInt8
  deriving DecidableEq

inductive Call where
  | unlock
  | lock
  | queryState
  | pokeLock

inductive Answer where
  | done
  | state (bolt : Option LockState) (battery : Option UInt8)
  deriving DecidableEq

namespace Door

/-- `none` is a refusal. -/
def move (d : Door) (opens : Bool) (target : LockState) : Option Answer × Door :=
  if opens then (some .done, { d with bolt := target }) else (none, d)

def step (opens : Bool) (d : Door) : Call → Option Answer × Door
  | .unlock => d.move opens .unlocked
  | .lock => d.move opens .locked
  | .queryState => (some (.state d.bolt d.battery), d)
  | .pokeLock => (some .done, d)

end Door

def Agrees : Py Answer → Option Answer → Prop
  | .ok a, some b => a = b
  | .error e, none => IsTTLockError e
  | _, _ => False

/-! ## The lock -/

def opcodeTo : LockState → Int
  | .locked => cmdLock
  | .unlocked => cmdUnlock

def boltByte : LockState → UInt8
  | .locked => 0
  | .unlocked => 1

def controlPayload (sum seconds : Nat) : Bytes := toBytesBig 4 sum ++ toBytesBig 4 seconds

/-- The lock lets in who it likes. Whom it lets in it gives a token, and for the sum of token and key it moves. -/
structure Guards {σ : Type} (client : TTLockClient) (lock : Lock σ) (door : σ → Door) (token : σ → Option Nat)
    (secret : Int) (lets : Bytes → Bool) : Prop where
  challenges : ∀ s payload, lets payload → ∃ t < 2 ^ 32,
    Accepts client lock door s cmdCheckUserTime payload (toBytesBig 4 t <+: ·) (door s) ∧
      token (lock.next s cmdCheckUserTime payload) = some t
  turnsAway : ∀ s payload, ¬ lets payload → Rejects client lock door s cmdCheckUserTime payload
  moves : ∀ s t target seconds, token s = some t → seconds < 2 ^ 32 →
    Accepts client lock door s (opcodeTo target) (controlPayload (tokenSum t secret) seconds) (fun _ => True)
      { door s with bolt := target }
  refuses : ∀ s t target sum seconds, token s = some t → sum < 2 ^ 32 → seconds < 2 ^ 32 → sum ≠ tokenSum t secret →
    Rejects client lock door s (opcodeTo target) (controlPayload sum seconds)
  reads : ∀ s, Accepts client lock door s cmdQueryState payloadQueryState
    (fun d => ∃ rest, d = (door s).battery :: boltByte (door s).bolt :: rest) (door s)

/-- The lock lets the user of the key in, and the keys agree. -/
def opens (key : VirtualKey) (secret : Int) (lets : Bytes → Bool) : Bool :=
  match payloadCheckUserTime key.uid defaultStartDate defaultEndDate key.lockFlagPos, parseInt key.unlockKey with
  | .ok payload, .ok unlockKey => lets payload && (unlockKey - secret) % 2 ^ 32 = 0
  | _, _ => false

theorem tokenSum_eq_iff (t : Nat) (unlockKey secret : Int) :
    tokenSum t unlockKey = tokenSum t secret ↔ (unlockKey - secret) % 2 ^ 32 = 0 := by
  unfold tokenSum
  omega

theorem toBytesBig_injective {a b : Nat} (ha : a < 2 ^ 32) (hb : b < 2 ^ 32) (h : toBytesBig 4 a = toBytesBig 4 b) :
    a = b := by
  have hback := congrArg fromBytesBig h
  rwa [fromBytesBig_toBytesBig 4 a ha, fromBytesBig_toBytesBig 4 b hb] at hback

/-! ## The calls -/

def ask (client : TTLockClient) : Call → ClientProgram Answer
  | .unlock => do client.unlock; return .done
  | .lock => do client.lock; return .done
  | .queryState => do
    let (bolt, battery) ← client.queryState
    return .state bolt battery
  | .pokeLock => do TTLockClient.pokeLock; return .done

section Calls

variable {σ : Type} {client : TTLockClient} {lock : Lock σ} {door : σ → Door} {token : σ → Option Nat} {secret : Int}
  {lets : Bytes → Bool} (hlock : Guards client lock door token secret lets) (hkey : WellFormedKey client.key)
  {P : Door → Prop} {mayCut : Prop}

theorem parseToken_rejected (name : String) (echo : UInt8) {status : UInt8} (data : Bytes)
    (h : status ≠ responseSuccess) :
    ∃ e, parseToken name (echo :: status :: data) = .error e ∧ IsRuntimeOrValueError e := by
  unfold parseToken
  rw [parseResponseStatus_cons]
  exact ⟨_, if_pos h, rfl⟩

include hlock

theorem sat_checkUserTime {payload : Bytes}
    (hpayload : payloadCheckUserTime client.key.uid defaultStartDate defaultEndDate client.key.lockFlagPos =
      .ok payload)
    {s : σ} (hP : P (door s)) :
    Sat (watched lock (fun s => P (door s)) SecondsFit mayCut) (fun s' o => door s' = door s ∧
        if lets payload then ∃ t, o = .ok t ∧ token s' = some t else ∃ e, o = .error e ∧ IsTTLockError e)
      s client.checkUserTime := by
  unfold TTLockClient.checkUserTime
  refine sat_lift_bind hpayload ?_
  split_ifs with hlets
  · obtain ⟨t, ht, ⟨echo, d, hd, hreplies, hdoor⟩, htoken⟩ := hlock.challenges s payload hlets
    refine sat_replies (G := fun s => P (door s)) hP hreplies ?_
    obtain ⟨rest, rfl⟩ := hd
    have hlength : 4 ≤ (toBytesBig 4 t ++ rest).length := by
      rw [List.length_append, toBytesBig_length]
      omega
    have hparse := parseToken_eq "checkUserTime" (parseResponseStatus_cons echo responseSuccess _) hlength
    rw [List.take_left' (toBytesBig_length 4 t), fromBytesBig_toBytesBig 4 t ht] at hparse
    rw [parseCheckUserTimeResponse, hparse]
    exact ⟨hdoor, t, rfl, htoken⟩
  · obtain ⟨echo, status, d, hstatus, hreplies, hdoor⟩ := hlock.turnsAway s payload hlets
    refine sat_replies (G := fun s => P (door s)) hP hreplies ?_
    obtain ⟨e, herror, he⟩ := parseToken_rejected "checkUserTime" echo d hstatus
    rw [parseCheckUserTimeResponse, herror, raiseAsTTLockError, if_pos (show e.isRuntimeOrValueError = true from he)]
    exact ⟨hdoor, _, rfl, rfl⟩

theorem sat_controlLock {unlockKey : Int} (hunlockKey : parseInt client.key.unlockKey = .ok unlockKey) {s : σ} {t : Nat}
    (htoken : token s = some t) (hP : P (door s)) (target : LockState) (label : String) :
    Sat (watched lock (fun s => P (door s)) SecondsFit mayCut) (fun s' o =>
        Agrees (o.map fun _ => .done) ((door s).move ((unlockKey - secret) % 2 ^ 32 = 0) target).1 ∧
          door s' = ((door s).move ((unlockKey - secret) % 2 ^ 32 = 0) target).2)
      s (client.controlLock (opcodeTo target) t label) := by
  refine ⟨hP, ?_⟩
  rintro _ ⟨(now : Int), rfl, hnow⟩
  refine sat_lift_bind (payloadUnlock_eq t _ unlockKey now hunlockKey hnow) ?_
  have hseconds : (now / 1000).toNat < 2 ^ 32 := by
    have := hnow.1
    have := hnow.2
    omega
  have hsum : tokenSum t unlockKey < 2 ^ 32 := by exact_mod_cast tokenSum_lt t unlockKey
  by_cases hagree : (unlockKey - secret) % 2 ^ 32 = 0
  · obtain ⟨echo, d, -, hreplies, hdoor⟩ := hlock.moves s t target _ htoken hseconds
    rw [← (tokenSum_eq_iff t unlockKey secret).mpr hagree] at hreplies hdoor
    refine sat_replies (G := fun s => P (door s)) hP hreplies ?_
    simp only [hagree, Door.move, decide_true, if_true]
    exact ⟨rfl, hdoor⟩
  · obtain ⟨echo, status, d, hstatus, hreplies, hdoor⟩ :=
      hlock.refuses s t target _ _ htoken hsum hseconds (mt (tokenSum_eq_iff t unlockKey secret).mp hagree)
    refine sat_replies (G := fun s => P (door s)) hP hreplies ?_
    obtain ⟨e, herror, he⟩ := requireSuccess_rejected echo d label hstatus
    simp only [hagree, Door.move, decide_false, Bool.false_eq_true, if_false]
    rw [herror]
    exact ⟨he, hdoor⟩

theorem sat_queryState {s : σ} (hP : P (door s)) :
    Sat (watched lock (fun s => P (door s)) SecondsFit mayCut)
      (fun s' o => o = .ok (some (door s).bolt, some (door s).battery) ∧ door s' = door s) s client.queryState := by
  refine sat_locked ?_ ?_
  · rintro s' o ⟨-, hdoor⟩
    exact hdoor ▸ hP
  obtain ⟨echo, d, ⟨rest, rfl⟩, hreplies, hdoor⟩ := hlock.reads s
  refine sat_replies (G := fun s => P (door s)) hP hreplies ⟨?_, hdoor⟩
  cases (door s).bolt <;> rfl

theorem sat_pokeLock {s : σ} (hP : P (door s)) :
    Sat (watched lock (fun s => P (door s)) SecondsFit mayCut) (fun s' o => o = .ok () ∧ door s' = door s) s
      TTLockClient.pokeLock := by
  refine sat_locked ?_ ⟨hP, ?_⟩
  · rintro s' o ⟨-, hdoor⟩
    exact hdoor ▸ hP
  obtain ⟨echo, d, -, ⟨resp, hreply, -⟩, hdoor⟩ := hlock.reads s
  intro r hr
  obtain rfl : r = .ok resp := Eq.trans hr hreply
  exact ⟨rfl, hdoor⟩

include hkey

theorem sat_moveBolt {s : σ} (target : LockState) (label : String) (hP : P (door s))
    (hP' : P ((door s).move (opens client.key secret lets) target).2) :
    Sat (watched lock (fun s => P (door s)) SecondsFit mayCut) (fun s' o =>
        Agrees (o.map fun _ => .done) ((door s).move (opens client.key secret lets) target).1 ∧
          door s' = ((door s).move (opens client.key secret lets) target).2)
      s (client.moveBolt (opcodeTo target) label) := by
  obtain ⟨payload, hpayload⟩ := payloadCheckUserTime_returns client.key.uid client.key.lockFlagPos hkey.uid
  obtain ⟨unlockKey, hunlockKey⟩ := hkey.unlockKey
  have hopens : opens client.key secret lets = (lets payload && (unlockKey - secret) % 2 ^ 32 = 0) := by
    unfold opens
    rw [hpayload, hunlockKey]
  rw [hopens] at hP' ⊢
  refine sat_bind (P := fun s' o => Agrees (o.map fun _ => .done)
      ((door s).move (lets payload && (unlockKey - secret) % 2 ^ 32 = 0) target).1 ∧
      door s' = ((door s).move (lets payload && (unlockKey - secret) % 2 ^ 32 = 0) target).2) _
    (sat_locked ?_ (sat_bind _ (sat_checkUserTime hlock hpayload hP) ?_ ?_)) ?_ fun _ _ h => h
  · rintro s' o ⟨-, hdoor⟩
    exact hdoor ▸ hP'
  · rintro s' ps ⟨hdoor, hcheck⟩
    split_ifs at hcheck with hlets
    · obtain ⟨t, ht, htoken⟩ := hcheck
      obtain rfl := Except.ok.inj ht
      rw [← hdoor, hlets, Bool.true_and]
      exact sat_controlLock hlock hunlockKey htoken (hdoor ▸ hP) target label
    · obtain ⟨e, he, -⟩ := hcheck
      cases he
  · rintro s' e ⟨hdoor, hcheck⟩
    split_ifs at hcheck with hlets
    · obtain ⟨t, ht, -⟩ := hcheck
      cases ht
    · obtain ⟨e', he', htt⟩ := hcheck
      obtain rfl := Except.error.inj he'
      simp only [hlets, Bool.false_and, Door.move, Bool.false_eq_true, if_false]
      exact ⟨htt, hdoor⟩
  · rintro s' ⟨⟩ ⟨hagrees, hdoor⟩
    have hallowed : P (door s') := hdoor ▸ hP'
    refine ⟨hallowed, ?_⟩
    rintro (e | ⟨⟩) hr
    · cases hr
    · exact ⟨hagrees, hdoor⟩

theorem serves_ask (call : Call) :
    Serves (Door.step (opens client.key secret lets)) (watched lock (fun s => P (door s)) SecondsFit mayCut)
      (ask client) (fun s d => door s = d) Agrees P call := by
  rintro s _ rfl hP hP'
  -- What is left of a call that moves is its return.
  have hmoves (target : LockState) (label : String)
      (hP' : P ((door s).move (opens client.key secret lets) target).2) :
      Sat (watched lock (fun s => P (door s)) SecondsFit mayCut) (fun s' o =>
          Agrees o ((door s).move (opens client.key secret lets) target).1 ∧
            door s' = ((door s).move (opens client.key secret lets) target).2)
        s (do client.moveBolt (opcodeTo target) label; return Answer.done) :=
    sat_bind _ (sat_moveBolt hlock hkey target label hP hP') (fun _ _ h => h) fun _ _ h => h
  cases call with
  | unlock => exact hmoves .unlocked "unlock" hP'
  | lock => exact hmoves .locked "lock" hP'
  | queryState =>
    refine sat_bind _ (sat_queryState hlock hP) ?_ ?_
    · rintro s' _ ⟨ho, hdoor⟩
      obtain rfl := Except.ok.inj ho
      exact ⟨rfl, hdoor⟩
    · rintro s' e ⟨ho, -⟩
      cases ho
  | pokeLock =>
    refine sat_bind _ (sat_pokeLock hlock hP) ?_ ?_
    · rintro s' _ ⟨-, hdoor⟩
      exact ⟨rfl, hdoor⟩
    · rintro s' e ⟨ho, -⟩
      cases ho

end Calls

/-! ## Over the air -/

section Air

variable (client : TTLockClient)

/-- The next call comes whatever the last one ended with. -/
def recording (calls : List Call) : ClientProgram (List (Py Answer)) := inOrder (calls.map (ask client))

variable {client}

theorem short_ask (call : Call) : Only ShortRequest (ask client call) := by
  have hreturn (a : Answer) : Only ShortRequest (pure a : ClientProgram Answer) := only_ofExcept (.ok a)
  cases call with
  | unlock => exact only_bind (short_program client 0 (show Fits .unlock from fun _ h => h)) fun _ => hreturn _
  | lock => exact only_bind (short_program client 0 (show Fits .lock from fun _ h => h)) fun _ => hreturn _
  | queryState =>
    exact only_bind (only_of_bind (short_program client 0 (show Fits .queryState from fun _ h => h))) fun _ => hreturn _
  | pokeLock => exact only_bind (short_program client 0 (show Fits .pokeLock from fun _ h => h)) fun _ => hreturn _

theorem short_recording (calls : List Call) : Only ShortRequest (recording client calls).discard := by
  refine only_bind (only_inOrder fun p hp => ?_) fun _ => only_ofExcept (.ok ())
  obtain ⟨call, -, rfl⟩ := List.mem_map.mp hp
  exact short_ask call

variable {σ : Type} {lock : Lock σ} {door : σ → Door} {token : σ → Option Nat} {secret : Int} {lets : Bytes → Bool}

/-- As the calls up to one of them leave the door. -/
def Passed (opens : Bool) (start : Door) (calls : List Call) (d : Door) : Prop :=
  ∃ n ≤ calls.length, d = (outcomes (Door.step opens) start (calls.take n)).2

/-- **The bolt follows the calls of those whose key agrees**, however the bytes travel. At every moment the door is as
some of the calls, from the first on, leave it. They can always finish, and then they have ended with its answers. -/
theorem bolt_follows (hlock : Guards client lock door token secret lets) (hkey : WellFormedKey client.key)
    (hversion : Wire.FitsHeader client.key.lockVersion) (hcipher : Cipher.PaddedCipher client.aes client.aesKey)
    (calls : List Call) (hanswers : OverTheAir.Answers client lock (recording client calls).discard)
    (transport : BleTransport) (hopen : Open transport) (start : σ) (es : List ConversationEvent) (c : Conversation σ)
    (hundisturbed : Undisturbed es)
    (hpush : ∀ frame, .push frame ∈ es → Unasked client (recording client calls).discard frame)
    (hclock : ∀ now, .task (.clock now) ∈ es → SecondsFit now)
    (hrun : (machine client lock transport start (recording client calls).discard).Reaches es c) :
    Passed (opens client.key secret lets) (door start) calls (door c.lock) ∧
      (∃ c', CanReach client lock c c' ∧ c'.task.left.Ended) ∧
      (c.task.left.Ended → ∃ os, Runs (recording client calls) c.task.finished (.ret os) ∧
        List.Forall₂ Agrees os (outcomes (Door.step (opens client.key secret lets)) (door start) calls).1 ∧
        door c.lock = (outcomes (Door.step (opens client.key secret lets)) (door start) calls).2) := by
  have hpassed (n : Nat) (hn : n ≤ calls.length) : Passed (opens client.key secret lets) (door start) calls
      (outcomes (Door.step (opens client.key secret lets)) (door start) (calls.take n)).2 := ⟨n, hn, rfl⟩
  have hsat := sat_inOrder (M := watched lock
    (fun s => Passed (opens client.key secret lets) (door start) calls (door s)) SecondsFit False) calls
    (fun call _ => serves_ask hlock hkey call) (s := start) rfl hpassed
  have hgood (s : σ) (x : Py (List (Py Answer)))
      (h : ∃ os, x = .ok os ∧
        List.Forall₂ Agrees os (outcomes (Door.step (opens client.key secret lets)) (door start) calls).1 ∧
        door s = (outcomes (Door.step (opens client.key secret lets)) (door start) calls).2) :
      Passed (opens client.key secret lets) (door start) calls (door s) := by
    obtain ⟨os, -, -, hdoor⟩ := h
    exact ⟨calls.length, le_rfl, by rw [hdoor, List.take_length]⟩
  have hu := understood_of_short hversion hcipher (short_recording calls) hanswers
  have hstage := stage_run hu hopen hundisturbed hpush hrun
  have htime (now : Int) (hnow : ⟨.now, .ok now⟩ ∈ c.task.finished) : SecondsFit now := hclock now (run_clock hrun hnow)
  have hdiscard := sat_bind _ hsat (f := fun _ => (pure () : ClientProgram Unit)) (fun s os h => hgood s _ h)
    (Q := fun s _ => Passed (opens client.key secret lets) (door start) calls (door s)) fun s e h => hgood s _ h
  obtain ⟨c', hreach, -, hends⟩ := stage_finishes hu hstage
  refine ⟨stage_good (G := fun s => Passed (opens client.key secret lets) (door start) calls (door s)) (fun _ _ h => h)
    hdiscard hstage htime, ⟨c', hreach, hends⟩, fun hended => ?_⟩
  have hidle := state_ended hstage hended
  obtain ⟨o, hruns, hserved⟩ := sat_discard_ended _ hsat (fun _ h => h.1) hidle.runs
    (watched_admitsAll hidle.admitted htime) hended
  obtain ⟨os, rfl, hagrees, hdoor⟩ := hserved
  exact ⟨os, hruns, hagrees, by rw [hidle.state]; exact hdoor⟩

end Air

/-! ## A key that does not agree -/

/-- The bolt moves for the sum of the last token and the key of the lock. -/
structure Refuses {σ : Type} (client : TTLockClient) (lock : Lock σ) (bolt : σ → LockState) (token : σ → Option Nat)
    (secret : Int) : Prop where
  challenges : ∀ s payload resp t, lock.reply s cmdCheckUserTime payload = .ok resp → Handshake.Token client resp t →
    token (lock.next s cmdCheckUserTime payload) = some t
  refuses : ∀ s t command payload, token s = some t → command = cmdUnlock ∨ command = cmdLock →
    payload.take 4 ≠ toBytesBig 4 (tokenSum t secret) → bolt (lock.next s command payload) = bolt s
  stands : ∀ s command payload, ¬ (command = cmdUnlock ∨ command = cmdLock) →
    bolt (lock.next s command payload) = bolt s

section Shut

variable {σ : Type} {client : TTLockClient} {lock : Lock σ} {bolt : σ → LockState} {token : σ → Option Nat}
  {unlockKey secret : Int} (hlock : Refuses client lock bolt token secret)
  (hwrong : (unlockKey - secret) % 2 ^ 32 ≠ 0)

/-- The bolt is where it was, and the token of a CHECK_USER_TIME that has just gone through is the last one. -/
structure Shut (client : TTLockClient) (bolt : σ → LockState) (token : σ → Option Nat) (at₀ : LockState)
    (progress : Handshake.Progress) (s : σ) : Prop where
  bolt : bolt s = at₀
  token : ∀ payload resp t, progress.block = [⟨cmdCheckUserTime, payload, .ok resp⟩] → Handshake.Token client resp t →
    token s = some t

theorem shut_empty {at₀ : LockState} {progress : Handshake.Progress} {s : σ} (hbolt : bolt s = at₀)
    (hblock : progress.block = []) : Shut client bolt token at₀ progress s := by
  refine ⟨hbolt, fun payload resp t hsingle => ?_⟩
  rw [hblock] at hsingle
  cases hsingle

theorem controlled_ne (hwrong : (unlockKey - secret) % 2 ^ 32 ≠ 0) (t : Nat) :
    toBytesBig 4 (tokenSum t unlockKey) ≠ toBytesBig 4 (tokenSum t secret) := by
  intro h
  have hsum := toBytesBig_injective (by exact_mod_cast tokenSum_lt t unlockKey)
    (by exact_mod_cast tokenSum_lt t secret) h
  exact hwrong ((tokenSum_eq_iff t unlockKey secret).mp hsum)

include hlock hwrong

theorem shut_exchange {at₀ : LockState} {progress : Handshake.Progress} {s : σ}
    (h : Shut client bolt token at₀ progress s) {command : Int} {payload : Bytes}
    (hsend : Handshake.MaySend client unlockKey progress command payload) {r : Py Frame}
    (hr : r = lock.reply s command payload) :
    Shut client bolt token at₀ (progress.push client ⟨command, payload, r⟩) (lock.next s command payload) := by
  constructor
  · refine Eq.trans ?_ h.bolt
    by_cases hmoves : command = cmdUnlock ∨ command = cmdLock
    · obtain ⟨payload', resp, t, hblock, htoken, htake⟩ := hsend.bolt hmoves
      exact hlock.refuses s t command payload (h.token payload' resp t hblock htoken) hmoves
        (htake ▸ controlled_ne hwrong t)
    · exact hlock.stands s command payload hmoves
  · intro payload' resp t hblock htoken
    obtain ⟨-, hlast⟩ := List.append_inj' (show progress.block ++ [_] = [] ++ [_] from hblock) rfl
    obtain ⟨rfl, rfl, rfl⟩ := Handshake.Exchanged.mk.inj (List.singleton_inj.mp hlast)
    exact hlock.challenges s payload resp t hr.symm htoken

theorem follows_shut (at₀ : LockState) : (Handshake.monitor client unlockKey).Follows
    (watched lock (fun s => bolt s = at₀) (fun _ => True) True) (Shut client bolt token at₀) where
  allows progress s op h _ := h.bolt
  admits progress s op r h hr := by
    cases op with
    | release =>
      cases r with
      | error e => cases hr
      | ok _ => rfl
    | acquire | exchange _ _ | now | restartKeepAlive | readOptionalChar _ => trivial
  next progress s op r h hsend hr := by
    cases op with
    | exchange command payload => exact shut_exchange hlock hwrong h hsend hr
    | acquire =>
      cases r with
      | error e => cases hr
      | ok _ => exact shut_empty h.bolt rfl
    | release => exact shut_empty h.bolt rfl
    | now | restartKeepAlive | readOptionalChar _ => exact h
  cuts progress s h _ := ⟨trivial, h.bolt⟩

theorem sat_shut (hkey : parseInt client.key.unlockKey = .ok unlockKey) (fuel : Nat) (commands : List Command)
    {at₀ : LockState} {s : σ} (hbolt : bolt s = at₀) :
    Sat (watched lock (fun s => bolt s = at₀) (fun _ => True) True) (fun s _ => bolt s = at₀) s
      (inTurn client fuel commands) := by
  induction commands generalizing s with
  | nil => exact hbolt
  | cons command rest ih =>
    rw [inTurn, sat_handle]
    refine sat_mono _ ?_ (sat_follows (follows_shut hlock hwrong at₀) (Handshake.ends_program hkey fuel command)
      (shut_empty hbolt rfl))
    rintro s' _ ⟨progress, hshut, -⟩
    exact ih hshut.bolt

/-- **A key that does not agree never moves the bolt**, whatever commands its client makes, however the bytes travel,
and at no moment in between. -/
theorem wrong_key_shut (hkey : parseInt client.key.unlockKey = .ok unlockKey)
    (hversion : Wire.FitsHeader client.key.lockVersion) (hcipher : Cipher.PaddedCipher client.aes client.aesKey)
    (fuel : Nat) (commands : List Command) (hfits : ∀ command ∈ commands, Fits command)
    (hanswers : OverTheAir.Answers client lock (inTurn client fuel commands)) (transport : BleTransport)
    (hopen : Open transport) (start : σ) (es : List ConversationEvent) (c : Conversation σ)
    (hundisturbed : Undisturbed es)
    (hpush : ∀ frame, .push frame ∈ es → Unasked client (inTurn client fuel commands) frame)
    (hrun : (machine client lock transport start (inTurn client fuel commands)).Reaches es c) :
    bolt c.lock = bolt start := by
  have hu := understood_of_short hversion hcipher (short_inTurn client fuel commands hfits) hanswers
  exact stage_good (G := fun s => bolt s = bolt start) (fun _ _ h => h) (sat_shut hlock hwrong hkey fuel commands rfl)
    (stage_run hu hopen hundisturbed hpush hrun) fun _ _ => trivial

end Shut

/-! ## A lock that counts its tokens -/

structure Cylinder where
  bolt : LockState
  issued : Nat
  token : Option Nat

namespace Cylinder

def door (s : Cylinder) : Door := ⟨s.bolt, 100⟩

/-- A token is good for one move, and lost with a wrong one. -/
def control (secret : Int) (s : Cylinder) (command : Int) (payload : Bytes) : Bytes × Cylinder :=
  match s.token with
  | some t =>
    if payload.take 4 = toBytesBig 4 (tokenSum t secret) then
      ([responseSuccess], ⟨if command = cmdUnlock then .unlocked else .locked, s.issued, none⟩)
    else ([0x00], { s with token := none })
  | none => ([0x00], s)

def handle (secret : Int) (s : Cylinder) (command : Int) (payload : Bytes) : Bytes × Cylinder :=
  if command = cmdCheckUserTime then
    (responseSuccess :: toBytesBig 4 (s.issued % 2 ^ 32), ⟨s.bolt, s.issued + 1, some (s.issued % 2 ^ 32)⟩)
  else if command = cmdUnlock ∨ command = cmdLock then s.control secret command payload
  else if command = cmdQueryState then ([responseSuccess, 100, boltByte s.bolt], s)
  else ([responseSuccess, 0, 0, 0, 7], s)

def lock (secret : Int) : Lock Cylinder :=
  echoing (fun s command payload => (s.handle secret command payload).1)
    fun s command payload => (s.handle secret command payload).2

variable {secret : Int} {s s' : Cylinder} {command : Int} {payload d : Bytes}

theorem replies_lock (secret : Int) (s : Cylinder) (command : Int) (payload : Bytes) :
    (lock secret).Replies Clock.clockClient s command payload
      (UInt8.ofInt command :: (s.handle secret command payload).1) :=
  replies_echoing s command payload

theorem accepts_of_handle (h : s.handle secret command payload = (responseSuccess :: d, s')) {data : Bytes → Prop}
    (hd : data d) {k : Door} (hk : s'.door = k) :
    Accepts Clock.clockClient (lock secret) door s command payload data k := by
  have hreplies := replies_lock secret s command payload
  rw [h] at hreplies
  refine ⟨_, d, hd, hreplies, ?_⟩
  show (s.handle secret command payload).2.door = k
  rw [h]
  exact hk

theorem handle_control (hcommand : command = cmdUnlock ∨ command = cmdLock) :
    s.handle secret command payload = s.control secret command payload := by
  unfold handle
  rw [if_neg (by rcases hcommand with rfl | rfl <;> decide), if_pos hcommand]

theorem opcodeTo_moves (target : LockState) : opcodeTo target = cmdUnlock ∨ opcodeTo target = cmdLock := by
  cases target
  · exact .inr rfl
  · exact .inl rfl

theorem guards_lock (secret : Int) :
    Guards Clock.clockClient (lock secret) door token secret fun _ => true where
  challenges s payload _ := ⟨s.issued % 2 ^ 32, Nat.mod_lt _ (by decide),
    accepts_of_handle (if_pos rfl) (List.prefix_refl _) rfl, rfl⟩
  turnsAway s payload h := absurd rfl h
  moves s t target seconds htoken hseconds := by
    have hhandle : s.handle secret (opcodeTo target) (controlPayload (tokenSum t secret) seconds) =
        ([responseSuccess], ⟨target, s.issued, none⟩) := by
      rw [handle_control (opcodeTo_moves target)]
      unfold control controlPayload
      rw [htoken]
      simp only [List.take_left' (toBytesBig_length 4 _), if_true]
      cases target <;> rfl
    exact accepts_of_handle hhandle trivial rfl
  refuses s t target sum seconds htoken hsum hseconds hne := by
    have hbytes : (controlPayload sum seconds).take 4 ≠ toBytesBig 4 (tokenSum t secret) := by
      unfold controlPayload
      rw [List.take_left' (toBytesBig_length 4 _)]
      exact fun h => hne (toBytesBig_injective hsum (by exact_mod_cast tokenSum_lt t secret) h)
    have hhandle : s.handle secret (opcodeTo target) (controlPayload sum seconds) =
        ([0x00], { s with token := none }) := by
      rw [handle_control (opcodeTo_moves target)]
      unfold control
      rw [htoken]
      exact if_neg hbytes
    have hreplies := replies_lock secret s (opcodeTo target) (controlPayload sum seconds)
    rw [hhandle] at hreplies
    refine ⟨_, 0x00, [], by decide, hreplies, ?_⟩
    show (s.handle secret (opcodeTo target) (controlPayload sum seconds)).2.door = s.door
    rw [hhandle]
    rfl
  reads s := accepts_of_handle rfl ⟨[], rfl⟩ rfl

theorem refuses_lock (secret : Int) : Refuses Clock.clockClient (lock secret) bolt token secret where
  challenges s payload resp t hreply := by
    rintro ⟨plain, data, hdecrypts, ⟨echo, hstatus⟩, -, rfl⟩
    obtain ⟨resp', hreply', hplain⟩ := replies_lock secret s cmdCheckUserTime payload
    obtain rfl := Except.ok.inj (hreply'.symm.trans hreply)
    obtain rfl := Except.ok.inj (hplain.symm.trans hdecrypts)
    have hdata : data = toBytesBig 4 (s.issued % 2 ^ 32) :=
      (Prod.mk.inj (Prod.mk.inj (Except.ok.inj hstatus)).2).2.symm
    have htake : (toBytesBig 4 (s.issued % 2 ^ 32)).take 4 = toBytesBig 4 (s.issued % 2 ^ 32) :=
      List.take_of_length_le (toBytesBig_length 4 _).le
    have hissued : s.issued % 2 ^ 32 < 256 ^ 4 := Nat.mod_lt _ (by decide)
    rw [hdata, htake, fromBytesBig_toBytesBig 4 _ hissued]
    rfl
  refuses s t command payload htoken hmoves hne := by
    show (s.handle secret command payload).2.bolt = s.bolt
    rw [handle_control hmoves]
    unfold control
    rw [htoken]
    simp only [if_neg hne]
  stands s command payload hmoves := by
    show (s.handle secret command payload).2.bolt = s.bolt
    unfold handle
    rw [if_neg hmoves]
    split_ifs <;> rfl

theorem handle_length (secret : Int) (s : Cylinder) (command : Int) (payload : Bytes) :
    (s.handle secret command payload).1.length < Requests.maxPayload := by
  have hcontrol : (s.control secret command payload).1.length ≤ 1 := by
    unfold control
    split
    · split_ifs <;> exact le_rfl
    · exact le_rfl
  unfold handle Requests.maxPayload
  split_ifs
  · rw [List.length_cons, toBytesBig_length]
    decide
  · omega
  · exact (by decide : 3 < 239)
  · exact (by decide : 5 < 239)

end Cylinder

/-! ### Unlocked and locked again -/

/-- A request of three chunks. -/
def checkUserTimeEvents : List ConversationEvent :=
  [.task .exchange, .hear, .task (.channel .wrote), .hear, .task (.channel .wrote), .hear, .task (.channel .wrote),
    .notify 31, .task (.channel .take)]

def moveEvents : List ConversationEvent :=
  [.task .acquired] ++ checkUserTimeEvents ++ [.task (.clock 1700000000000)] ++ exchangeEvents ++ [.task .released]

def boltEvents : List ConversationEvent :=
  moveEvents ++ [.task .keepAliveRestarted] ++ readEvents ++ moveEvents ++ [.task .keepAliveRestarted]

def someCalls : List Call := [.unlock, .queryState, .lock]

def someAnswers : List (Option Answer) := [some .done, some (.state (some .unlocked) (some 100)), some .done]

/-- The keys differ by `2 ^ 32`. -/
def congruentSecret : Int := 246813579 + 2 ^ 32

theorem bolt_follows_unlock :
    ∃ c os, (machine Clock.clockClient (Cylinder.lock congruentSecret) openTransport ⟨.locked, 7, none⟩
        (recording Clock.clockClient someCalls).discard).Reaches boltEvents c ∧ c.task.left.Ended ∧
      Runs (recording Clock.clockClient someCalls) c.task.finished (.ret os) ∧ List.Forall₂ Agrees os someAnswers ∧
      c.lock.door = ⟨.locked, 100⟩ := by
  obtain ⟨c, hreaches, hended⟩ := ((machine Clock.clockClient (Cylinder.lock congruentSecret) openTransport
    ⟨.locked, 7, none⟩ (recording Clock.clockClient someCalls).discard).exists_reaches boltEvents
      fun c => c.task.left.Ended).mpr (by decide +kernel)
  have hclock : ∀ now, .task (.clock now) ∈ boltEvents → SecondsFit now := by
    simp [boltEvents, moveEvents, checkUserTimeEvents, readEvents, exchangeEvents, SecondsFit]
  obtain ⟨-, -, hends⟩ := bolt_follows (Cylinder.guards_lock congruentSecret) wellFormedKey_makeVirtualKey
    Wire.fitsHeader_makeVirtualKey Clock.paddedCipher_clockClient someCalls
    (answers_echoing (short_recording someCalls) (Cylinder.handle_length congruentSecret)) openTransport
    open_openTransport ⟨.locked, 7, none⟩ boltEvents c (by decide)
    (by simp [boltEvents, moveEvents, checkUserTimeEvents, readEvents, exchangeEvents]) hclock hreaches
  obtain ⟨os, hruns, hagrees, hdoor⟩ := hends hended
  exact ⟨c, os, hreaches, hended, hruns, hagrees, hdoor⟩

/-- The key of the lock is another one. -/
theorem wrong_key_shut_unlock :
    ∃ c, (machine Clock.clockClient (Cylinder.lock 1) openTransport ⟨.locked, 7, none⟩
        (inTurn Clock.clockClient 0 [.unlock])).Reaches moveEvents c ∧ c.task.left.Ended ∧ c.lock.bolt = .locked := by
  have hfits : ∀ command ∈ [Command.unlock], Fits command := by simp [Fits, Requests.Oversized]
  obtain ⟨c, hreaches, hended⟩ := ((machine Clock.clockClient (Cylinder.lock 1) openTransport ⟨.locked, 7, none⟩
    (inTurn Clock.clockClient 0 [.unlock])).exists_reaches moveEvents fun c => c.task.left.Ended).mpr
      (by decide +kernel)
  exact ⟨c, hreaches, hended, wrong_key_shut (Cylinder.refuses_lock 1) (by decide)
    (show parseInt Clock.clockClient.key.unlockKey = .ok 246813579 by rfl) Wire.fitsHeader_makeVirtualKey
    Clock.paddedCipher_clockClient 0 [.unlock] hfits
    (answers_echoing (short_inTurn _ _ _ hfits) (Cylinder.handle_length 1)) openTransport open_openTransport
    ⟨.locked, 7, none⟩ moveEvents c (by decide) (by simp [moveEvents, checkUserTimeEvents, exchangeEvents]) hreaches⟩

end TtlockBle.Bolt
