import TtlockBle.Disconnect
import TtlockBle.Lock

/-!
# A command and the lock at the other end

A lock that reads the wire. It gets the chunks that are written, one at a time and as late as it likes, puts
them together with a reassembler of its own, and answers a request with a frame. It may also send frames
that answer nothing. What it has sent comes in notifications of any size.

The link may also drop, a write may fail, and an exchange may run into its deadline. As long as nothing of this
happens, and however all the rest interleaves, the command is answered as by the lock itself, and it can always
finish. Behind a deadline a late answer may be anybody's.
-/

open TtlockBle.Lib

namespace TtlockBle

/-! ## A lock on its own -/

/-- The requests move the lock on, and it gives the replies. Nothing is cut. -/
def Lock.serving {σ : Type} (lock : Lock σ) : Program.Monitor ClientOp ClientOp.Answer PyExc σ where
  allows _ _ := True
  admits s
    | .exchange command payload, r => r = lock.reply s command payload
    | _, r => r.isOk
  next s
    | .exchange command payload, _ => lock.next s command payload
    | _, _ => s
  cuts _ := False

/-! ## The two ends -/

structure Conversation (σ : Type) where
  task : Task
  lock : σ
  /-- The reassembler of the lock, and how many of the chunks it has got. -/
  heard : FrameReassembler
  got : Nat
  /-- What the lock has sent and the client has not been notified of. -/
  air : Bytes

inductive ConversationEvent where
  | task (e : TaskEvent)
  | hear
  | notify (n : Nat)
  | push (frame : Frame)

namespace Conversation

variable {σ : Type}

/-- What a command does of its own, on a link that holds, in an exchange whose deadline does not pass. -/
def ofCommand : TaskEvent → Bool
  | .acquired | .released | .clock _ | .keepAliveRestarted | .charRead _ | .exchange => true
  | .channel .wrote | .channel .take => true
  | _ => false

/-- Notifications come out of the air only. -/
def fromAir : TaskEvent → Bool
  | .channel (.notify _) => true
  | _ => false

/-- The lock answers a request. -/
def answer (client : TTLockClient) (lock : Lock σ) (c : Conversation σ) (frame : Frame) : Conversation σ :=
  match aesDecrypt client.aes frame.data client.aesKey with
  | .error _ => c
  | .ok payload =>
    { c with
      lock := lock.next c.lock frame.command payload
      air := c.air ++ match lock.reply c.lock frame.command payload with
        | .ok reply => reply.build
        | .error _ => [] }

def hear (client : TTLockClient) (lock : Lock σ) (c : Conversation σ) (chunk : Bytes) : Conversation σ :=
  let (frames, heard) := c.heard.feed chunk
  frames.foldl (answer client lock) { c with heard := heard, got := c.got + 1 }

def step (client : TTLockClient) (lock : Lock σ) (c : Conversation σ) : ConversationEvent → Option (Conversation σ)
  | .task e => if fromAir e then none else (c.task.step client e).map fun t => { c with task := t }
  | .hear => c.task.transport.channel.written[c.got]?.map fun sent => c.hear client lock sent.2
  | .notify n =>
    (c.task.step client (.channel (.notify (c.air.take n)))).map fun t => { c with task := t, air := c.air.drop n }
  | .push frame => some { c with air := c.air ++ frame.build }

/-- A program begins on a link that is up. -/
def start (transport : BleTransport) (s : σ) (p : ClientProgram Unit) : Conversation σ where
  task := ⟨transport, p, [], []⟩
  lock := s
  heard := .new
  got := transport.channel.written.length
  air := []

def machine (client : TTLockClient) (lock : Lock σ) (transport : BleTransport) (s : σ) (p : ClientProgram Unit) :
    Machine (Conversation σ) ConversationEvent where
  start := start transport s p
  step := step client lock

end Conversation

namespace Conversation

open Cipher Program Reassembler

/-! ## Undisturbed runs -/

def undisturbed : ConversationEvent → Bool
  | .task e => ofCommand e
  | _ => true

/-- The link stays as it is, no write fails, and no exchange runs into its deadline. -/
def Undisturbed (es : List ConversationEvent) : Prop := ∀ e ∈ es, undisturbed e

instance (es : List ConversationEvent) : Decidable (Undisturbed es) := inferInstanceAs (Decidable (∀ e ∈ es, _))

theorem undisturbed_append (es es' : List ConversationEvent) :
    Undisturbed (es ++ es') ↔ Undisturbed es ∧ Undisturbed es' := List.forall_mem_append

/-! ## What both ends rely on -/

/-- The program comes to this request. -/
def Asks (p : ClientProgram Unit) (command : Int) (payload : Bytes) : Prop :=
  ∃ es next, Runs p es (.call (.exchange command payload) next)

/-- A frame that no request of the program takes for its answer. -/
def Unasked (client : TTLockClient) (p : ClientProgram Unit) (frame : Frame) : Prop :=
  RoundTrip.Fits frame ∧ ∀ command payload, Asks p command payload → ¬ client.answers frame command

variable {σ : Type}

structure Understood (client : TTLockClient) (lock : Lock σ) (p : ClientProgram Unit) : Prop where
  version : Wire.FitsHeader client.key.lockVersion
  cipher : PaddedCipher client.aes client.aesKey
  requests : ∀ command payload, Asks p command payload →
    (0 ≤ command ∧ command ≤ 255) ∧ payload.length ≤ Requests.maxPayload
  replies : ∀ s command payload, Asks p command payload →
    ∃ reply, lock.reply s command payload = .ok reply ∧ RoundTrip.Fits reply ∧ client.answers reply command

/-- A link that is up, with nothing under way. -/
structure Open (transport : BleTransport) : Prop where
  linked : transport.link.client.isSome
  writeChar : transport.link.writeChar.isSome
  reassembler : transport.channel.reassembler = .new
  inbox : transport.channel.inbox = []
  exchange : transport.channel.exchange = none
  waiting : transport.channel.waitingForResponse = 0

/-! ## The invariant -/

/-- Written chunks that the lock has not got. -/
def unheard (c : Conversation σ) : Bytes := ((c.task.transport.channel.written.drop c.got).map Prod.snd).flatten

def toWrite : ExchangePhase → Bytes
  | .sending _ rest => rest.flatten
  | .receiving => []

/-- How much of a frame is still to be written. -/
def writing : ExchangePhase → Nat
  | .sending _ rest => rest.length + 1
  | .receiving => 0

def inboxFrames (c : Conversation σ) : List Frame := c.task.transport.channel.inbox.map (·.frame)

def pushedFrames (c : Conversation σ) : List Frame := c.task.transport.channel.pushed.map (·.frame)

/-- These frames have reached the client or will. -/
def Coming (c : Conversation σ) (frames : List Frame) : Prop :=
  ∃ later, frameScanner.Carries c.task.transport.channel.reassembler.buf c.air later ∧
    frames = inboxFrames c ++ later

section Invariant

variable (client : TTLockClient) (lock : Lock σ) (p : ClientProgram Unit) (s₀ : σ)

/-- What is true all along. -/
structure Sound (c : Conversation σ) : Prop where
  linked : c.task.transport.link.client.isSome
  writeChar : c.task.transport.link.writeChar.isSome
  runs : Runs p c.task.finished c.task.left
  admitted : lock.serving.AdmitsAll s₀ c.task.finished
  got : c.got ≤ c.task.transport.channel.written.length
  waiting : c.task.transport.channel.waitingForResponse = if c.task.transport.channel.exchange.isSome then 1 else 0

-- What the lock has sent of its own accord.
variable (sent : List Frame)

/-- Nothing is asked. -/
structure Idle (c : Conversation σ) : Prop extends Sound lock p s₀ c where
  exchange : c.task.transport.channel.exchange = none
  state : c.lock = lock.serving.after s₀ c.task.finished
  outward : frameScanner.Carries c.heard.buf (unheard c) []
  inward : ∃ frames, Coming c frames ∧ (∀ frame ∈ frames, Unasked client p frame) ∧
    (pushedFrames c ++ frames).Perm sent

/-- A request is on its way to the lock. -/
structure Asked (c : Conversation σ) (x : Exchange) (command : Int) (payload : Bytes)
    (next : Py Frame → ClientProgram Unit) : Prop extends Sound lock p s₀ c where
  left : c.task.left = .call (.exchange command payload) next
  exchange : c.task.transport.channel.exchange = some x
  built : client.frame command payload = .ok x.frame
  state : c.lock = lock.serving.after s₀ c.task.finished
  outward : frameScanner.Carries c.heard.buf (unheard c ++ toWrite x.phase) [x.frame]
  inward : ∃ frames, Coming c frames ∧ (∀ frame ∈ frames, Unasked client p frame) ∧
    (pushedFrames c ++ frames).Perm sent

/-- The lock has answered, and the answer has not been taken. -/
structure Answered (c : Conversation σ) (x : Exchange) (command : Int) (payload : Bytes)
    (next : Py Frame → ClientProgram Unit) (reply : Frame) : Prop extends Sound lock p s₀ c where
  left : c.task.left = .call (.exchange command payload) next
  exchange : c.task.transport.channel.exchange = some x
  opcode : x.frame.command = command
  replied : lock.reply (lock.serving.after s₀ c.task.finished) command payload = .ok reply
  isAnswer : client.answers reply command
  state : c.lock = lock.next (lock.serving.after s₀ c.task.finished) command payload
  outward : frameScanner.Carries c.heard.buf (unheard c ++ toWrite x.phase) []
  inward : ∃ before after, Coming c (before ++ reply :: after) ∧
    (∀ frame ∈ before ++ after, Unasked client p frame) ∧ (pushedFrames c ++ (before ++ after)).Perm sent

/-- The three stages of a request. -/
def Stage (c : Conversation σ) : Prop :=
  Idle client lock p s₀ sent c ∨
    (∃ x command payload next, Asked client lock p s₀ sent c x command payload next) ∨
    ∃ x command payload next reply, Answered client lock p s₀ sent c x command payload next reply

end Invariant

/-! ## One event -/

section Steps

variable {client : TTLockClient} {lock : Lock σ} {p : ClientProgram Unit} {s₀ : σ} {sent : List Frame}
  {c : Conversation σ}

variable (lock) in
theorem serving_other {op : ClientOp} (hop : ∀ command payload, op ≠ .exchange command payload) (s : σ)
    (r : Py op.Answer) : (lock.serving.admits s op r ↔ r.isOk) ∧ lock.serving.next s op r = s := by
  cases op with
  | exchange command payload => exact absurd rfl (hop command payload)
  | _ => exact ⟨Iff.rfl, rfl⟩

theorem idle_answer (h : Idle client lock p s₀ sent c) {op : ClientOp} {next : Py op.Answer → ClientProgram Unit}
    {outcome : Py op.Answer} (hleft : c.task.left = .call op next)
    (hop : ∀ command payload, op ≠ .exchange command payload) (hok : outcome.isOk) :
    Idle client lock p s₀ sent { c with task := c.task.answer op next outcome } := by
  obtain ⟨hadmits, hnext⟩ := serving_other lock hop (lock.serving.after s₀ c.task.finished) outcome
  refine { h with
    runs := (hleft ▸ h.runs).concat outcome
    admitted := (Monitor.admitsAll_concat _ _ _).mpr ⟨h.admitted, hadmits.mpr hok⟩
    state := ?_ }
  show c.lock = lock.serving.after s₀ (c.task.finished ++ [⟨op, outcome⟩])
  rw [Monitor.after_concat, hnext]
  exact h.state

theorem writeNext_linked (channel : Channel) {link : Link} (hlinked : link.client.isSome) (x : Exchange)
    (chunks : List Bytes) :
    ∃ phase sent, channel.writeNext link x chunks = { channel with
        exchange := some { x with phase := phase }
        written := channel.written ++ sent } ∧
      (sent.map Prod.snd).flatten ++ toWrite phase = chunks.flatten ∧ writing phase = chunks.length := by
  obtain ⟨bleak, hbleak⟩ := Option.isSome_iff_exists.mp hlinked
  cases chunks with
  | nil => exact ⟨.receiving, [], by simp [Channel.writeNext], rfl, rfl⟩
  | cons chunk rest =>
    refine ⟨.sending bleak.number rest, [(bleak.number, chunk)], ?_, by simp [toWrite], rfl⟩
    simp only [Channel.writeNext, hbleak]

theorem unheard_append {t : Task} {sent : List (Nat × Bytes)} (hgot : c.got ≤ c.task.transport.channel.written.length)
    (hwritten : t.transport.channel.written = c.task.transport.channel.written ++ sent) :
    unheard { c with task := t } = unheard c ++ (sent.map Prod.snd).flatten := by
  unfold unheard
  simp only [hwritten]
  rw [List.drop_append_of_le_length hgot, List.map_append, List.flatten_append]

theorem fits_forLock {version : LockVersion} (hversion : Wire.FitsHeader version) {command : Int}
    (hcommand : 0 ≤ command ∧ command ≤ 255) {data : Bytes} (hdata : data.length ≤ 255) :
    RoundTrip.Fits (Frame.forLock version command data) :=
  ⟨hversion.protocolType, hversion.protocolVersion, hversion.scene, hversion.groupId, hversion.orgId, hcommand,
    show 0 ≤ encryptPlain ∧ encryptPlain ≤ 255 by decide, hdata⟩

theorem idle_begin (hu : Understood client lock p) (h : Idle client lock p s₀ sent c) {command : Int} {payload : Bytes}
    {next : Py Frame → ClientProgram Unit} (hleft : c.task.left = .call (.exchange command payload) next) :
    ∃ c' x, c.step client lock (.task .exchange) = some c' ∧ Asked client lock p s₀ sent c' x command payload next := by
  obtain ⟨hcommand, hlength⟩ := hu.requests command payload ⟨_, next, hleft ▸ h.runs⟩
  generalize hframe :
    Frame.forLock client.key.lockVersion command (client.aes.encrypt client.aesKey payload) = frame
  have hbuilt : client.frame command payload = .ok frame := hframe ▸ frame_eq _ _ _
  have hfits : RoundTrip.Fits frame :=
    hframe ▸ fits_forLock hu.version hcommand ((Wire.cipher_length_le hu.cipher).mpr hlength)
  have hnone : ¬ (c.task.transport.link.client.isNone ∨ c.task.transport.link.writeChar.isNone) := by
    rw [Option.isNone_iff_eq_none, Option.isNone_iff_eq_none, not_or]
    exact ⟨Option.isSome_iff_ne_none.mp h.linked, Option.isSome_iff_ne_none.mp h.writeChar⟩
  let x : Exchange :=
    ⟨frame, .receiving, c.task.transport.channel.arrived.length, c.task.transport.channel.pushed.length, []⟩
  obtain ⟨phase, sent, hwrite, hsent, -⟩ := writeNext_linked ({ c.task.transport.channel with
    waitingForResponse := c.task.transport.channel.waitingForResponse + 1
    exchange := some x } : Channel) h.linked x (wireChunks frame.build)
  have hbegin : c.task.transport.channel.beginExchange c.task.transport.link frame = { c.task.transport.channel with
      waitingForResponse := c.task.transport.channel.waitingForResponse + 1
      exchange := some { x with phase := phase }
      written := c.task.transport.channel.written ++ sent } := by
    unfold Channel.beginExchange
    simp only
    rw [if_neg hnone, hwrite]
  generalize hchannel : ({ c.task.transport.channel with
      waitingForResponse := c.task.transport.channel.waitingForResponse + 1
      exchange := some { x with phase := phase }
      written := c.task.transport.channel.written ++ sent } : Channel) = channel at hbegin
  have hsome : channel.exchange = some { x with phase := phase } := by rw [← hchannel]
  have hwritten : channel.written = c.task.transport.channel.written ++ sent := by rw [← hchannel]
  refine ⟨{ c with task := ({ c.task with writes := [] :: c.task.writes } : Task).grow channel },
    { x with phase := phase }, ?_, ?_⟩
  · show (c.task.step client .exchange).map _ = _
    unfold Task.step
    simp only [hleft, h.exchange, hbuilt, hbegin]
    rw [Disconnect.advance_going _ _ (Option.isSome_of_eq_some hsome)]
    rfl
  · have hwaiting : channel.waitingForResponse = 1 := by
      rw [← hchannel]
      simp only [h.waiting, h.exchange]
      rfl
    have houtward := h.outward.send (RoundTrip.run_frames [frame] (by simpa using hfits))
    refine { h.toSound with
      left := hleft
      exchange := hsome
      built := hbuilt
      state := h.state
      got := hwritten ▸ h.got.trans (by simp)
      waiting := hwaiting.trans (by rw [if_pos]; exact Option.isSome_of_eq_some hsome)
      outward := ?_
      inward := ?_ }
    · rw [unheard_append h.got hwritten, List.append_assoc, hsent, Wire.wireChunks_flatten]
      simpa using houtward
    · obtain ⟨frames, hcoming, hunasked, hsent⟩ := h.inward
      rw [← hchannel]
      exact ⟨frames, hcoming, hunasked, hsent⟩

/-- The exchange is still under way. -/
structure Goes (c c' : Conversation σ) (x x' : Exchange) : Prop where
  left : c'.task.left = c.task.left
  finished : c'.task.finished = c.task.finished
  exchange : c'.task.transport.channel.exchange = some x'
  frame : x'.frame = x.frame
  lock : c'.lock = c.lock
  heard : c'.heard = c.heard
  outward : unheard c' ++ toWrite x'.phase = unheard c ++ toWrite x.phase

variable {x x' : Exchange} {command : Int} {payload : Bytes} {next : Py Frame → ClientProgram Unit}

theorem asked_goes {c' : Conversation σ} (h : Asked client lock p s₀ sent c x command payload next)
    (hsound : Sound lock p s₀ c') (hgoes : Goes c c' x x')
    (hinward : ∃ frames, Coming c' frames ∧ (∀ frame ∈ frames, Unasked client p frame) ∧
      (pushedFrames c' ++ frames).Perm sent) :
    Asked client lock p s₀ sent c' x' command payload next where
  toSound := hsound
  left := hgoes.left.trans h.left
  exchange := hgoes.exchange
  built := hgoes.frame ▸ h.built
  state := by rw [hgoes.lock, hgoes.finished, h.state]
  outward := by
    rw [hgoes.heard, hgoes.outward, hgoes.frame]
    exact h.outward
  inward := hinward

theorem answered_goes {c' : Conversation σ} {reply : Frame}
    (h : Answered client lock p s₀ sent c x command payload next reply) (hsound : Sound lock p s₀ c')
    (hgoes : Goes c c' x x')
    (hinward : ∃ before after, Coming c' (before ++ reply :: after) ∧
      (∀ frame ∈ before ++ after, Unasked client p frame) ∧ (pushedFrames c' ++ (before ++ after)).Perm sent) :
    Answered client lock p s₀ sent c' x' command payload next reply where
  toSound := hsound
  left := hgoes.left.trans h.left
  exchange := hgoes.exchange
  opcode := hgoes.frame ▸ h.opcode
  replied := by
    rw [hgoes.finished]
    exact h.replied
  isAnswer := h.isAnswer
  state := by rw [hgoes.lock, hgoes.finished, h.state]
  outward := by
    rw [hgoes.heard, hgoes.outward]
    exact h.outward
  inward := hinward

variable (client) in
theorem step_wrote (h : Sound lock p s₀ c) (hx : c.task.transport.channel.exchange = some x) {number : Nat}
    {rest : List Bytes} (hphase : x.phase = .sending number rest) :
    ∃ c' x', c.step client lock (.task (.channel .wrote)) = some c' ∧ Sound lock p s₀ c' ∧ Goes c c' x x' ∧
      (∀ frames, Coming c frames → Coming c' frames) ∧ pushedFrames c' = pushedFrames c ∧
      writing x'.phase < writing x.phase := by
  obtain ⟨phase, sent, hwrite, hsent, hwriting⟩ := writeNext_linked c.task.transport.channel h.linked x rest
  generalize hchannel : ({ c.task.transport.channel with
      exchange := some { x with phase := phase }
      written := c.task.transport.channel.written ++ sent } : Channel) = channel at hwrite
  have hsome : channel.exchange = some { x with phase := phase } := by rw [← hchannel]
  have hwritten : channel.written = c.task.transport.channel.written ++ sent := by rw [← hchannel]
  have hwaiting : channel.waitingForResponse = 1 := by
    rw [← hchannel]
    simp only [h.waiting, hx]
    rfl
  refine ⟨{ c with task := c.task.grow channel }, { x with phase := phase }, ?_, ?_, ?_, ?_, ?_, ?_⟩
  · have hstep : c.task.step client (.channel .wrote) = some (c.task.grow channel) := by
      rw [Disconnect.step_channel _ _ (by simp) (by simp)]
      simp only [Channel.step, hx, hphase, hwrite, Option.map_some, Option.isSome_some, if_true]
      rw [Disconnect.advance_going _ _ (Option.isSome_of_eq_some hsome)]
    show (c.task.step client (.channel .wrote)).map _ = _
    rw [hstep]
    rfl
  · exact { h with
      got := hwritten ▸ h.got.trans (by simp)
      waiting := hwaiting.trans (by rw [if_pos]; exact Option.isSome_of_eq_some hsome) }
  · refine ⟨rfl, rfl, hsome, rfl, rfl, rfl, ?_⟩
    rw [unheard_append h.got hwritten, List.append_assoc, hsent, hphase]
    rfl
  · intro frames hcoming
    rw [← hchannel]
    exact hcoming
  · rw [← hchannel]
    rfl
  · show writing phase < writing x.phase
    rw [hphase, hwriting]
    exact Nat.lt_succ_self _

/-! ### What comes in -/

theorem foldl_dispatch (frames : List Frame) (channel : Channel) :
    (frames.foldl Channel.dispatch channel).waitingForResponse = channel.waitingForResponse ∧
      (frames.foldl Channel.dispatch channel).reassembler = channel.reassembler ∧
      (frames.foldl Channel.dispatch channel).inbox.map (·.frame) =
        channel.inbox.map (·.frame) ++ (if 0 < channel.waitingForResponse then frames else []) ∧
      (frames.foldl Channel.dispatch channel).pushed.map (·.frame) =
        channel.pushed.map (·.frame) ++ if 0 < channel.waitingForResponse then [] else frames := by
  induction frames generalizing channel with
  | nil => simp
  | cons frame frames ih =>
    obtain ⟨hwaiting, hreassembler, hinbox, hpushed⟩ := ih (channel.dispatch frame)
    rw [List.foldl_cons, hwaiting, hreassembler, hinbox, hpushed]
    by_cases hpos : 0 < channel.waitingForResponse
    · rw [Transport.dispatch_busy _ _ hpos]
      simp [hpos]
    · rw [Transport.dispatch_idle _ _ hpos]
      simp [hpos]

theorem task_notify (client : TTLockClient) (t : Task) (data : Bytes) :
    ∃ t', t.step client (.channel (.notify data)) = some t' ∧ t'.left = t.left ∧ t'.finished = t.finished ∧
      t'.transport = { t.transport with channel := t.transport.channel.onNotify data } := by
  have hexchange := (Disconnect.onNotify_kept t.transport.channel data).1
  rw [Disconnect.step_channel _ _ (by simp) (by simp)]
  cases hx : t.transport.channel.exchange with
  | none => exact ⟨_, rfl, rfl, rfl, rfl⟩
  | some x =>
    have hsome : (t.transport.channel.onNotify data).exchange.isSome := by
      rw [hexchange, hx]
      rfl
    refine ⟨t.grow (t.transport.channel.onNotify data), ?_, rfl, rfl, rfl⟩
    exact congrArg some (Disconnect.advance_going _ _ hsome)

theorem step_notify (client : TTLockClient) (lock : Lock σ) (h : Sound lock p s₀ c) (n : Nat) :
    ∃ c', c.step client lock (.notify n) = some c' ∧ Sound lock p s₀ c' ∧ c'.task.left = c.task.left ∧
      c'.task.finished = c.task.finished ∧
      c'.task.transport.channel.exchange = c.task.transport.channel.exchange ∧ c'.lock = c.lock ∧
      c'.heard = c.heard ∧ unheard c' = unheard c ∧ c'.air = c.air.drop n ∧
      ∀ frames, Coming c frames → ∃ frames', Coming c' frames' ∧ frames'.Sublist frames ∧
        (pushedFrames c' ++ frames').Perm (pushedFrames c ++ frames) ∧
        (c.task.transport.channel.exchange.isSome → frames' = frames) := by
  obtain ⟨t, hstep, hleft, hfinished, htransport⟩ := task_notify client c.task (c.air.take n)
  generalize hdata : c.air.take n = data at hstep htransport
  obtain ⟨hexchange, hwritten⟩ := Disconnect.onNotify_kept c.task.transport.channel data
  obtain ⟨hwaiting, hreassembler, hinbox, hpushed⟩ := foldl_dispatch (c.task.transport.channel.reassembler.feed data).1
    { c.task.transport.channel with reassembler := (c.task.transport.channel.reassembler.feed data).2 }
  have hlink : t.transport.link = c.task.transport.link := by rw [htransport]
  have hchannel : t.transport.channel = c.task.transport.channel.onNotify data := by rw [htransport]
  refine ⟨{ c with task := t, air := c.air.drop n }, ?_, ⟨?_, ?_, ?_, ?_, ?_, ?_⟩, hleft, hfinished, ?_, rfl, rfl, ?_,
    rfl, ?_⟩
  · simp only [step, hdata, hstep, Option.map_some]
  · exact hlink ▸ h.linked
  · exact hlink ▸ h.writeChar
  · exact hleft.symm ▸ hfinished.symm ▸ h.runs
  · exact hfinished.symm ▸ h.admitted
  · show c.got ≤ t.transport.channel.written.length
    rw [hchannel, hwritten]
    exact h.got
  · show t.transport.channel.waitingForResponse = if t.transport.channel.exchange.isSome then 1 else 0
    rw [hchannel, hexchange, ← h.waiting]
    exact hwaiting
  · exact (congrArg Channel.exchange hchannel).trans hexchange
  · show ((t.transport.channel.written.drop c.got).map Prod.snd).flatten = _
    rw [hchannel, hwritten]
    rfl
  · rintro frames ⟨later, hcarries, rfl⟩
    rw [← List.take_append_drop n c.air, hdata] at hcarries
    obtain ⟨rest, rfl, hrest⟩ := hcarries.feed
    have hfeed := feed_eq c.task.transport.channel.reassembler data
    have hbuf : t.transport.channel.reassembler.buf =
        (frameScanner.feed c.task.transport.channel.reassembler.buf data).2 := by
      rw [hchannel]
      exact (congrArg FrameReassembler.buf hreassembler).trans (congrArg (·.2.buf) hfeed)
    have hframes : t.transport.channel.inbox.map (·.frame) = inboxFrames c ++
        if 0 < c.task.transport.channel.waitingForResponse then
          (frameScanner.feed c.task.transport.channel.reassembler.buf data).1 else [] := by
      rw [hchannel, ← congrArg Prod.fst hfeed]
      exact hinbox
    have hpushed' : t.transport.channel.pushed.map (·.frame) = pushedFrames c ++
        if 0 < c.task.transport.channel.waitingForResponse then [] else
          (frameScanner.feed c.task.transport.channel.reassembler.buf data).1 := by
      rw [hchannel, ← congrArg Prod.fst hfeed]
      exact hpushed
    refine ⟨_, ⟨rest, hbuf ▸ hrest, rfl⟩, ?_, ?_, ?_⟩
    · show (t.transport.channel.inbox.map (·.frame) ++ rest).Sublist _
      rw [hframes, List.append_assoc]
      apply List.Sublist.append_left
      split_ifs
      · exact List.Sublist.refl _
      · exact List.sublist_append_right _ _
    · show (t.transport.channel.pushed.map (·.frame) ++ (t.transport.channel.inbox.map (·.frame) ++ rest)).Perm _
      rw [hpushed', hframes]
      split_ifs
      · simp
      · -- What is passed on at once overtakes what is still in the inbox.
        rw [List.append_nil, List.append_assoc]
        refine List.Perm.append_left _ ?_
        rw [← List.append_assoc, ← List.append_assoc]
        exact List.Perm.append_right _ List.perm_append_comm
    · intro hsome
      show t.transport.channel.inbox.map (·.frame) ++ rest = _
      have hpos : 0 < c.task.transport.channel.waitingForResponse := by
        rw [h.waiting, if_pos hsome]
        decide
      rw [hframes, if_pos hpos, List.append_assoc]

theorem coming_push {frames : List Frame} (h : Coming c frames) (frame : Frame) (hfits : RoundTrip.Fits frame) :
    Coming { c with air := c.air ++ frame.build } (frames ++ [frame]) := by
  obtain ⟨later, hcarries, rfl⟩ := h
  refine ⟨later ++ [frame], ?_, by rw [List.append_assoc]; rfl⟩
  have hword : frameScanner.run frame.build = ([frame], []) := by
    simpa using RoundTrip.run_frames [frame] (by simpa using hfits)
  exact hcarries.send hword

/-! ### What the lock gets -/

/-- The lock has got a chunk and has not looked at it. -/
def fed (c : Conversation σ) (chunk : Bytes) : Conversation σ :=
  { c with heard := (c.heard.feed chunk).2, got := c.got + 1 }

theorem hear_eq (client : TTLockClient) (lock : Lock σ) (c : Conversation σ) (chunk : Bytes) :
    c.hear client lock chunk = (frameScanner.feed c.heard.buf chunk).1.foldl (answer client lock) (c.fed chunk) := by
  rw [← congrArg Prod.fst (feed_eq c.heard chunk)]
  rfl

theorem hear_kept (client : TTLockClient) (lock : Lock σ) (c : Conversation σ) (chunk : Bytes) :
    (c.hear client lock chunk).task = c.task ∧ (c.hear client lock chunk).got = c.got + 1 := by
  have hfed : (c.fed chunk).task = c.task ∧ (c.fed chunk).got = c.got + 1 := ⟨rfl, rfl⟩
  rw [hear_eq]
  refine List.foldlRecOn (motive := fun c' => c'.task = c.task ∧ c'.got = c.got + 1) _ (answer client lock) hfed ?_
  intro c' h frame _
  unfold answer
  split <;> exact h

theorem step_hear (client : TTLockClient) (lock : Lock σ) {chunk : Nat × Bytes}
    (hsent : c.task.transport.channel.written[c.got]? = some chunk) :
    c.step client lock .hear = some (c.hear client lock chunk.2) := by
  simp only [step, hsent, Option.map_some]

theorem fed_carries {chunk : Nat × Bytes} (hsent : c.task.transport.channel.written[c.got]? = some chunk) {rest : Bytes}
    {frames : List Frame} (h : frameScanner.Carries c.heard.buf (unheard c ++ rest) frames) :
    ∃ later, frames = (frameScanner.feed c.heard.buf chunk.2).1 ++ later ∧
      frameScanner.Carries (c.fed chunk.2).heard.buf (unheard (c.fed chunk.2) ++ rest) later := by
  obtain ⟨hlt, hget⟩ := List.getElem?_eq_some_iff.mp hsent
  have hunheard : unheard c = chunk.2 ++ unheard (c.fed chunk.2) := by
    unfold unheard fed
    rw [List.drop_eq_getElem_cons hlt, hget, List.map_cons, List.flatten_cons]
  rw [hunheard, List.append_assoc] at h
  have hbuf : (c.fed chunk.2).heard.buf = (frameScanner.feed c.heard.buf chunk.2).2 :=
    congrArg (·.2.buf) (feed_eq c.heard chunk.2)
  rw [hbuf]
  exact h.feed

theorem fed_sound (h : Sound lock p s₀ c) {chunk : Nat × Bytes}
    (hsent : c.task.transport.channel.written[c.got]? = some chunk) : Sound lock p s₀ (c.fed chunk.2) :=
  { h with got := (List.getElem?_eq_some_iff.mp hsent).1 }

theorem idle_hear (h : Idle client lock p s₀ sent c) {chunk : Nat × Bytes}
    (hsent : c.task.transport.channel.written[c.got]? = some chunk) :
    Idle client lock p s₀ sent (c.hear client lock chunk.2) := by
  have houtward := h.outward
  rw [← List.append_nil (unheard c)] at houtward
  obtain ⟨later, hnow, hcarries⟩ := fed_carries hsent houtward
  obtain ⟨hnothing, rfl⟩ := List.append_eq_nil_iff.mp hnow.symm
  rw [hear_eq, hnothing]
  rw [List.append_nil] at hcarries
  exact { fed_sound h.toSound hsent with
    exchange := h.exchange
    state := h.state
    outward := hcarries
    inward := h.inward }

theorem answered_hear {reply : Frame} (h : Answered client lock p s₀ sent c x command payload next reply)
    {chunk : Nat × Bytes} (hsent : c.task.transport.channel.written[c.got]? = some chunk) :
    Answered client lock p s₀ sent (c.hear client lock chunk.2) x command payload next reply := by
  obtain ⟨later, hnow, hcarries⟩ := fed_carries hsent h.outward
  obtain ⟨hnothing, rfl⟩ := List.append_eq_nil_iff.mp hnow.symm
  rw [hear_eq, hnothing]
  exact { fed_sound h.toSound hsent, h with outward := hcarries }

theorem asked_hear (hu : Understood client lock p) (h : Asked client lock p s₀ sent c x command payload next)
    {chunk : Nat × Bytes} (hsent : c.task.transport.channel.written[c.got]? = some chunk) :
    Asked client lock p s₀ sent (c.hear client lock chunk.2) x command payload next ∨
      ∃ reply, Answered client lock p s₀ sent (c.hear client lock chunk.2) x command payload next reply := by
  obtain ⟨later, hnow, hcarries⟩ := fed_carries hsent h.outward
  rw [hear_eq]
  cases hfeed : (frameScanner.feed c.heard.buf chunk.2).1 with
  | nil =>
    rw [hfeed, List.nil_append] at hnow
    subst hnow
    left
    exact { fed_sound h.toSound hsent, h with outward := hcarries }
  | cons frame frames =>
    rw [hfeed, List.cons_append, List.cons.injEq] at hnow
    obtain ⟨rfl, hnow⟩ := hnow
    obtain ⟨rfl, rfl⟩ := List.append_eq_nil_iff.mp hnow.symm
    right
    obtain ⟨reply, hreply, hfits, hanswers⟩ := hu.replies c.lock command payload ⟨_, next, h.left ▸ h.runs⟩
    have hframe : x.frame = Frame.forLock client.key.lockVersion command (client.aes.encrypt client.aesKey payload) :=
      Except.ok.inj (h.built.symm.trans (frame_eq _ _ _))
    have hplain : aesDecrypt client.aes x.frame.data client.aesKey = .ok payload := by
      rw [aesDecrypt_eq_ok_iff hu.cipher, hframe]
      rfl
    have hcommand : x.frame.command = command := by rw [hframe]; rfl
    have hanswer : answer client lock (c.fed chunk.2) x.frame = { c.fed chunk.2 with
        lock := lock.next c.lock command payload
        air := c.air ++ reply.build } := by
      have hlock : (c.fed chunk.2).lock = c.lock := rfl
      unfold answer
      simp only [hplain, hcommand, hlock, hreply]
      rfl
    rw [List.foldl_cons, List.foldl_nil, hanswer]
    obtain ⟨earlier, hcoming, hunasked, hpushes⟩ := h.inward
    refine ⟨reply, { fed_sound h.toSound hsent with
      left := h.left
      exchange := h.exchange
      opcode := hcommand
      replied := h.state ▸ hreply
      isAnswer := hanswers
      state := congrArg (lock.next · command payload) h.state
      outward := hcarries
      inward := ⟨earlier, [], coming_push (c := c.fed chunk.2) hcoming reply hfits, by simpa using hunasked,
        (List.append_nil earlier).symm ▸ hpushes⟩ }⟩

/-! ### What the client takes -/

theorem coming_take (c' : Conversation σ) {a : Arrival} {rest : List Arrival} {frames : List Frame}
    (hinbox : c.task.transport.channel.inbox = a :: rest) (hinbox' : c'.task.transport.channel.inbox = rest)
    (hreassembler : c'.task.transport.channel.reassembler = c.task.transport.channel.reassembler)
    (hair : c'.air = c.air) (h : Coming c frames) : ∃ frames', frames = a.frame :: frames' ∧ Coming c' frames' := by
  obtain ⟨later, hcarries, rfl⟩ := h
  refine ⟨inboxFrames c' ++ later, ?_, later, hreassembler.symm ▸ hair.symm ▸ hcarries, rfl⟩
  unfold inboxFrames
  rw [hinbox, hinbox']
  rfl

theorem take_goes (h : Sound lock p s₀ c) (hx : c.task.transport.channel.exchange = some x)
    (hphase : x.phase = .receiving) {a : Arrival} {rest : List Arrival}
    (hinbox : c.task.transport.channel.inbox = a :: rest) (hnot : ¬ client.answers a.frame x.frame.command) :
    ∃ c' x', c.step client lock (.task (.channel .take)) = some c' ∧ Sound lock p s₀ c' ∧ Goes c c' x x' ∧
      x'.phase = .receiving ∧ c'.task.transport.channel.inbox = rest ∧ c'.air = c.air ∧
      pushedFrames c' = pushedFrames c ++ [a.frame] ∧
      ∀ frames, Coming c frames → ∃ frames', frames = a.frame :: frames' ∧ Coming c' frames' := by
  have htake : c.task.transport.channel.take client.answers x a rest = { c.task.transport.channel with
      inbox := rest
      pushed := c.task.transport.channel.pushed ++ [a]
      exchange := some { x with took := x.took ++ [a] } } := if_neg hnot
  generalize hchannel : ({ c.task.transport.channel with
      inbox := rest
      pushed := c.task.transport.channel.pushed ++ [a]
      exchange := some { x with took := x.took ++ [a] } } : Channel) = channel at htake
  have hsome : channel.exchange = some { x with took := x.took ++ [a] } := by rw [← hchannel]
  have hwritten : channel.written = c.task.transport.channel.written := by rw [← hchannel]
  have hstep : c.task.step client (.channel .take) = some (c.task.grow channel) := by
    rw [Disconnect.step_channel _ _ (by simp) (by simp)]
    simp only [Channel.step, hx, hphase, hinbox, htake, Option.map_some, Option.isSome_some, if_true]
    rw [Disconnect.advance_going _ _ (Option.isSome_of_eq_some hsome)]
  refine ⟨{ c with task := c.task.grow channel }, { x with took := x.took ++ [a] }, ?_, ?_, ?_, hphase,
    by rw [← hchannel]; rfl, rfl, by rw [← hchannel]; exact List.map_append,
    fun frames => coming_take _ hinbox (by rw [← hchannel]; rfl) (by rw [← hchannel]; rfl) rfl⟩
  · show (c.task.step client (.channel .take)).map _ = _
    rw [hstep]
    rfl
  · refine { h with got := hwritten.symm ▸ h.got, waiting := ?_ }
    show channel.waitingForResponse = if channel.exchange.isSome then 1 else 0
    rw [hsome, ← hchannel]
    exact h.waiting.trans (by rw [hx]; rfl)
  · refine ⟨rfl, rfl, hsome, rfl, rfl, rfl, ?_⟩
    show ((channel.written.drop c.got).map Prod.snd).flatten ++ toWrite x.phase = _
    rw [hwritten]
    rfl

theorem take_ends {reply : Frame} (h : Answered client lock p s₀ sent c x command payload next reply)
    (hphase : x.phase = .receiving) {a : Arrival} {rest : List Arrival}
    (hinbox : c.task.transport.channel.inbox = a :: rest) {after : List Frame} (hcoming : Coming c (reply :: after))
    (hafter : ∀ frame ∈ after, Unasked client p frame) (hsent : (pushedFrames c ++ after).Perm sent) :
    ∃ c', c.step client lock (.task (.channel .take)) = some c' ∧ Idle client lock p s₀ sent c' ∧
      c'.task.left = next (.ok reply) := by
  obtain ⟨later, hcarries, heq⟩ := hcoming
  have hreply : a.frame = reply := by
    unfold inboxFrames at heq
    rw [hinbox] at heq
    exact (List.cons.inj heq).1.symm
  have hanswers : client.answers a.frame x.frame.command := by
    rw [hreply, h.opcode]
    exact h.isAnswer
  let channel := ({ c.task.transport.channel with inbox := rest } : Channel).endExchange x (.ok a)
  have htake : c.task.transport.channel.take client.answers x a rest = channel := if_pos hanswers
  let t := (c.task.grow channel).answer (.exchange command payload) next (.ok reply)
  have hstep : c.task.step client (.channel .take) = some t := by
    rw [Disconnect.step_channel _ _ (by simp) (by simp)]
    simp only [Channel.step, h.exchange, hphase, hinbox, htake, Option.map_some, Option.isSome_some, if_true]
    rw [Disconnect.advance_ended _ _ x (.ok a) command payload next h.left]
    simp only [Except.map, hreply]
    rfl
  refine ⟨{ c with task := t }, ?_, ?_, rfl⟩
  · show (c.task.step client (.channel .take)).map _ = _
    rw [hstep]
    rfl
  · obtain ⟨frames, heq', hrest⟩ := coming_take { c with task := t } hinbox rfl rfl rfl ⟨later, hcarries, heq⟩
    obtain ⟨-, rfl⟩ := List.cons.inj heq'
    have houtward := h.outward
    rw [hphase] at houtward
    refine {
      linked := h.linked
      writeChar := h.writeChar
      runs := (h.left ▸ h.runs).concat (.ok reply)
      admitted := (Monitor.admitsAll_concat _ _ _).mpr ⟨h.admitted, h.replied.symm⟩
      got := h.got
      waiting := ?_
      exchange := rfl
      state := ?_
      outward := (List.append_nil (unheard c)) ▸ houtward
      inward := ⟨after, hrest, hafter, hsent⟩ }
    · show c.task.transport.channel.waitingForResponse - 1 = 0
      rw [h.waiting, if_pos (Option.isSome_of_eq_some h.exchange)]
      rfl
    · show c.lock = lock.serving.after s₀ (c.task.finished ++ [⟨.exchange command payload, .ok reply⟩])
      rw [Monitor.after_concat]
      exact h.state

/-! ## Every event -/

theorem step_task {e : TaskEvent} {c' : Conversation σ} (h : c.step client lock (.task e) = some c') :
    ∃ t, c.task.step client e = some t ∧ c' = { c with task := t } := by
  simp only [step] at h
  split_ifs at h
  obtain ⟨t, ht, rfl⟩ := Option.map_eq_some_iff.mp h
  exact ⟨t, ht, rfl⟩

theorem step_ofCommand {e : TaskEvent} (hof : ofCommand e) {t : Task} (h : c.task.step client e = some t) :
    c.step client lock (.task e) = some { c with task := t } := by
  have hair : ¬ fromAir e := by
    cases e with
    | channel e => cases e <;> simp_all [ofCommand, fromAir]
    | _ => simp [fromAir]
  simp only [step, if_neg hair, h, Option.map_some]

theorem idle_task (hu : Understood client lock p) (h : Idle client lock p s₀ sent c) {e : TaskEvent}
    (hof : ofCommand e) {c' : Conversation σ} (hstep : c.step client lock (.task e) = some c') :
    Stage client lock p s₀ sent c' := by
  obtain ⟨t, ht, rfl⟩ := step_task hstep
  cases e with
  | acquired =>
    simp only [Task.step] at ht
    split at ht
    · obtain rfl := Option.some.inj ht
      exact .inl (idle_answer h ‹_› (by simp) rfl)
    · cases ht
  | released =>
    simp only [Task.step] at ht
    split at ht
    · obtain rfl := Option.some.inj ht
      exact .inl (idle_answer h ‹_› (by simp) rfl)
    · cases ht
  | clock now =>
    simp only [Task.step] at ht
    split at ht
    · obtain rfl := Option.some.inj ht
      exact .inl (idle_answer h ‹_› (by simp) rfl)
    · cases ht
  | keepAliveRestarted =>
    simp only [Task.step] at ht
    split at ht
    · obtain rfl := Option.some.inj ht
      exact .inl (idle_answer h ‹_› (by simp) rfl)
    · cases ht
  | charRead value =>
    simp only [Task.step] at ht
    split at ht
    · obtain rfl := Option.some.inj ht
      have hsome : ¬ c.task.transport.link.client.isNone := by
        rw [Option.isNone_iff_eq_none]
        exact Option.isSome_iff_ne_none.mp h.linked
      refine .inl (idle_answer h ‹_› (by simp) ?_)
      rw [if_neg hsome]
      rfl
    · cases ht
  | exchange =>
    simp only [Task.step] at ht
    split at ht
    · rename_i command payload next hleft _
      obtain ⟨c', x, hstep', h'⟩ := idle_begin hu h hleft
      obtain rfl := Option.some.inj (hstep.symm.trans hstep')
      exact .inr (.inl ⟨x, command, payload, next, h'⟩)
    · cases ht
  | channel e =>
    cases e with
    | wrote => simp [Disconnect.step_channel, Channel.step, h.exchange] at ht
    | take => simp [Disconnect.step_channel, Channel.step, h.exchange] at ht
    | _ => cases hof
  | link e => cases hof

theorem busy_task (hleft : c.task.left = .call (.exchange command payload) next)
    (hx : c.task.transport.channel.exchange = some x) {e : TaskEvent} (hof : ofCommand e) {t : Task}
    (ht : c.task.step client e = some t) :
    (e = .channel .wrote ∧ ∃ number rest, x.phase = .sending number rest) ∨
      (e = .channel .take ∧ x.phase = .receiving ∧ ∃ a rest, c.task.transport.channel.inbox = a :: rest) := by
  cases e with
  | channel e =>
    cases e with
    | wrote =>
      refine .inl ⟨rfl, ?_⟩
      rw [Disconnect.step_channel _ _ (by simp) (by simp)] at ht
      simp only [Channel.step, hx] at ht
      cases hphase : x.phase with
      | sending number rest => exact ⟨number, rest, rfl⟩
      | receiving =>
        rw [hphase] at ht
        cases ht
    | take =>
      refine .inr ⟨rfl, ?_⟩
      rw [Disconnect.step_channel _ _ (by simp) (by simp)] at ht
      simp only [Channel.step, hx] at ht
      cases hphase : x.phase with
      | sending number rest =>
        rw [hphase] at ht
        cases ht
      | receiving =>
        refine ⟨rfl, ?_⟩
        cases hinbox : c.task.transport.channel.inbox with
        | nil =>
          rw [hphase, hinbox] at ht
          cases ht
        | cons a rest => exact ⟨a, rest, rfl⟩
    | _ => cases hof
  | link e => cases hof
  | exchange => simp [Task.step, hleft, hx] at ht
  | _ => simp [Task.step, hleft] at ht

theorem asked_wrote (h : Asked client lock p s₀ sent c x command payload next) {number : Nat} {rest : List Bytes}
    (hphase : x.phase = .sending number rest) :
    ∃ c' x', c.step client lock (.task (.channel .wrote)) = some c' ∧
      Asked client lock p s₀ sent c' x' command payload next ∧ writing x'.phase < writing x.phase := by
  obtain ⟨frames, hcoming, hunasked, hsent⟩ := h.inward
  obtain ⟨c', x', hstep, hs, hgoes, hsame, hpushed, hless⟩ := step_wrote client h.toSound h.exchange hphase
  exact ⟨c', x', hstep, asked_goes h hs hgoes ⟨frames, hsame frames hcoming, hunasked, hpushed ▸ hsent⟩, hless⟩

theorem asked_take (h : Asked client lock p s₀ sent c x command payload next) (hphase : x.phase = .receiving)
    {a : Arrival} {rest : List Arrival} (hinbox : c.task.transport.channel.inbox = a :: rest) :
    ∃ c' x', c.step client lock (.task (.channel .take)) = some c' ∧
      Asked client lock p s₀ sent c' x' command payload next := by
  obtain ⟨frames, hcoming, hunasked, hsent⟩ := h.inward
  obtain ⟨frames', rfl, -⟩ := coming_take { c with task := { c.task with transport := { c.task.transport with
    channel := { c.task.transport.channel with inbox := rest } } } } hinbox rfl rfl rfl hcoming
  have hopcode : x.frame.command = command := by
    rw [← Except.ok.inj ((frame_eq client command payload).symm.trans h.built)]
    rfl
  have hnot : ¬ client.answers a.frame x.frame.command := by
    rw [hopcode]
    exact (hunasked a.frame List.mem_cons_self).2 command payload ⟨_, next, h.left ▸ h.runs⟩
  obtain ⟨c', x', hstep, hs, hgoes, -, -, -, hpushed, hcoming'⟩ :=
    take_goes h.toSound h.exchange hphase hinbox hnot
  obtain ⟨frames'', heq, hrest⟩ := hcoming' _ hcoming
  obtain ⟨-, rfl⟩ := List.cons.inj heq
  refine ⟨c', x', hstep, asked_goes h hs hgoes
    ⟨frames', hrest, fun frame hmem => hunasked frame (List.mem_cons_of_mem _ hmem), ?_⟩⟩
  rw [hpushed, List.append_assoc]
  exact hsent

theorem asked_task (h : Asked client lock p s₀ sent c x command payload next) {e : TaskEvent} (hof : ofCommand e)
    {c' : Conversation σ} (hstep : c.step client lock (.task e) = some c') :
    ∃ x', Asked client lock p s₀ sent c' x' command payload next := by
  obtain ⟨t, ht, rfl⟩ := step_task hstep
  rcases busy_task h.left h.exchange hof ht with ⟨rfl, number, rest, hphase⟩ | ⟨rfl, hphase, a, rest, hinbox⟩
  · obtain ⟨c'', x', hstep', h', -⟩ := asked_wrote h hphase
    obtain rfl := Option.some.inj (hstep.symm.trans hstep')
    exact ⟨x', h'⟩
  · obtain ⟨c'', x', hstep', h'⟩ := asked_take h hphase hinbox
    obtain rfl := Option.some.inj (hstep.symm.trans hstep')
    exact ⟨x', h'⟩

section Answered

variable {reply : Frame}

theorem answered_wrote (h : Answered client lock p s₀ sent c x command payload next reply) {number : Nat}
    {rest : List Bytes} (hphase : x.phase = .sending number rest) :
    ∃ c' x', c.step client lock (.task (.channel .wrote)) = some c' ∧
      Answered client lock p s₀ sent c' x' command payload next reply ∧ writing x'.phase < writing x.phase := by
  obtain ⟨before, after, hcoming, hunasked, hsent⟩ := h.inward
  obtain ⟨c', x', hstep, hs, hgoes, hsame, hpushed, hless⟩ := step_wrote client h.toSound h.exchange hphase
  exact ⟨c', x', hstep, answered_goes h hs hgoes ⟨before, after, hsame _ hcoming, hunasked, hpushed ▸ hsent⟩, hless⟩

theorem answered_take (h : Answered client lock p s₀ sent c x command payload next reply)
    (hphase : x.phase = .receiving) {a : Arrival} {rest : List Arrival}
    (hinbox : c.task.transport.channel.inbox = a :: rest) :
    ∃ c', c.step client lock (.task (.channel .take)) = some c' ∧
      ((∃ x', Answered client lock p s₀ sent c' x' command payload next reply ∧ x'.phase = .receiving ∧
        c'.task.transport.channel.inbox = rest ∧ c'.air = c.air) ∨
      Idle client lock p s₀ sent c' ∧ c'.task.left = next (.ok reply)) := by
  obtain ⟨before, after, hcoming, hunasked, hsent⟩ := h.inward
  cases before with
  | nil =>
    obtain ⟨c', hstep, h'⟩ := take_ends h hphase hinbox hcoming hunasked hsent
    exact ⟨c', hstep, .inr h'⟩
  | cons first before =>
    obtain ⟨frames, heq, -⟩ := coming_take { c with task := { c.task with transport := { c.task.transport with
      channel := { c.task.transport.channel with inbox := rest } } } } hinbox rfl rfl rfl hcoming
    obtain ⟨rfl, -⟩ := List.cons.inj heq
    have hnot : ¬ client.answers a.frame x.frame.command := by
      rw [h.opcode]
      exact (hunasked a.frame List.mem_cons_self).2 command payload ⟨_, next, h.left ▸ h.runs⟩
    obtain ⟨c', x', hstep, hs, hgoes, hphase', hinbox', hair, hpushed, hcoming'⟩ :=
      take_goes h.toSound h.exchange hphase hinbox hnot
    obtain ⟨frames', heq', hrest⟩ := hcoming' _ hcoming
    obtain ⟨-, rfl⟩ := List.cons.inj heq'
    refine ⟨c', hstep, .inl ⟨x', answered_goes h hs hgoes
      ⟨before, after, hrest, fun frame hmem => hunasked frame (List.mem_cons_of_mem _ hmem), ?_⟩,
      hphase', hinbox', hair⟩⟩
    rw [hpushed, List.append_assoc]
    exact hsent

theorem answered_task (h : Answered client lock p s₀ sent c x command payload next reply) {e : TaskEvent}
    (hof : ofCommand e) {c' : Conversation σ} (hstep : c.step client lock (.task e) = some c') :
    Stage client lock p s₀ sent c' := by
  obtain ⟨t, ht, rfl⟩ := step_task hstep
  rcases busy_task h.left h.exchange hof ht with ⟨rfl, number, rest, hphase⟩ | ⟨rfl, hphase, a, rest, hinbox⟩
  · obtain ⟨c'', x', hstep', h', -⟩ := answered_wrote h hphase
    obtain rfl := Option.some.inj (hstep.symm.trans hstep')
    exact .inr (.inr ⟨x', command, payload, next, reply, h'⟩)
  · obtain ⟨c'', hstep', ⟨x', h', -⟩ | ⟨h', -⟩⟩ := answered_take h hphase hinbox
    · obtain rfl := Option.some.inj (hstep.symm.trans hstep')
      exact .inr (.inr ⟨x', command, payload, next, reply, h'⟩)
    · obtain rfl := Option.some.inj (hstep.symm.trans hstep')
      exact .inl h'

end Answered

theorem stage_push (h : Stage client lock p s₀ sent c) (frame : Frame) (hframe : Unasked client p frame) :
    Stage client lock p s₀ (sent ++ [frame]) { c with air := c.air ++ frame.build } := by
  have hinward (h : ∃ frames, Coming c frames ∧ (∀ frame ∈ frames, Unasked client p frame) ∧
        (pushedFrames c ++ frames).Perm sent) :
      ∃ frames, Coming { c with air := c.air ++ frame.build } frames ∧ (∀ frame ∈ frames, Unasked client p frame) ∧
        (pushedFrames c ++ frames).Perm (sent ++ [frame]) := by
    obtain ⟨frames, hcoming, hunasked, hsent⟩ := h
    refine ⟨frames ++ [frame], coming_push hcoming frame hframe.1, ?_, ?_⟩
    · exact List.forall_mem_append.mpr ⟨hunasked, List.forall_mem_singleton.mpr hframe⟩
    · rw [← List.append_assoc]
      exact hsent.append_right [frame]
  rcases h with h | ⟨x, command, payload, next, h⟩ | ⟨x, command, payload, next, reply, h⟩
  · exact .inl { h with inward := hinward h.inward }
  · exact .inr (.inl ⟨x, command, payload, next, { h with inward := hinward h.inward }⟩)
  · obtain ⟨before, after, hcoming, hunasked, hsent⟩ := h.inward
    refine .inr (.inr ⟨x, command, payload, next, reply, { h with inward := ⟨before, after ++ [frame], ?_, ?_, ?_⟩ }⟩)
    · simpa using coming_push hcoming frame hframe.1
    · rw [← List.append_assoc]
      exact List.forall_mem_append.mpr ⟨hunasked, List.forall_mem_singleton.mpr hframe⟩
    · rw [← List.append_assoc before, ← List.append_assoc]
      exact hsent.append_right [frame]

variable (client) in
theorem notify_goes (h : Sound lock p s₀ c) (hx : c.task.transport.channel.exchange = some x) (n : Nat) :
    ∃ c', c.step client lock (.notify n) = some c' ∧ Sound lock p s₀ c' ∧ Goes c c' x x ∧ c'.air = c.air.drop n ∧
      ∀ frames, Coming c frames → Coming c' frames ∧ (pushedFrames c').Perm (pushedFrames c) := by
  obtain ⟨c', hstep, hs, hleft, hfinished, hexchange, hlock, hheard, hunheard, hair, hcoming⟩ :=
    step_notify client lock h n
  refine ⟨c', hstep, hs, ⟨hleft, hfinished, hexchange.trans hx, rfl, hlock, hheard, by rw [hunheard]⟩, hair,
    fun frames h => ?_⟩
  obtain ⟨frames', h', -, hsent, hsame⟩ := hcoming frames h
  obtain rfl := hsame (Option.isSome_of_eq_some hx)
  exact ⟨h', (List.perm_append_right_iff _).mp hsent⟩

theorem idle_notify (h : Idle client lock p s₀ sent c) (n : Nat) :
    ∃ c', c.step client lock (.notify n) = some c' ∧ Idle client lock p s₀ sent c' := by
  obtain ⟨c', hstep, hs, -, hfinished, hexchange, hlock, hheard, hunheard, -, hcoming⟩ :=
    step_notify client lock h.toSound n
  obtain ⟨frames, hframes, hunasked, hsent⟩ := h.inward
  obtain ⟨frames', h', hsub, hpushed, -⟩ := hcoming frames hframes
  exact ⟨c', hstep, { hs with
    exchange := hexchange.trans h.exchange
    state := by rw [hlock, hfinished, h.state]
    outward := by rw [hheard, hunheard]; exact h.outward
    inward := ⟨frames', h', fun frame hmem => hunasked frame (hsub.subset hmem), hpushed.trans hsent⟩ }⟩

theorem asked_notify (h : Asked client lock p s₀ sent c x command payload next) (n : Nat) :
    ∃ c', c.step client lock (.notify n) = some c' ∧ Asked client lock p s₀ sent c' x command payload next := by
  obtain ⟨c', hstep, hs, hgoes, -, hcoming⟩ := notify_goes client h.toSound h.exchange n
  obtain ⟨frames, hframes, hunasked, hsent⟩ := h.inward
  obtain ⟨hframes', hpushed⟩ := hcoming frames hframes
  exact ⟨c', hstep, asked_goes h hs hgoes ⟨frames, hframes', hunasked, (hpushed.append_right _).trans hsent⟩⟩

theorem answered_notify {reply : Frame} (h : Answered client lock p s₀ sent c x command payload next reply) (n : Nat) :
    ∃ c', c.step client lock (.notify n) = some c' ∧ Answered client lock p s₀ sent c' x command payload next reply ∧
      c'.air = c.air.drop n := by
  obtain ⟨c', hstep, hs, hgoes, hair, hcoming⟩ := notify_goes client h.toSound h.exchange n
  obtain ⟨before, after, hframes, hunasked, hsent⟩ := h.inward
  obtain ⟨hframes', hpushed⟩ := hcoming _ hframes
  exact ⟨c', hstep, answered_goes h hs hgoes
    ⟨before, after, hframes', hunasked, (hpushed.append_right _).trans hsent⟩, hair⟩

theorem stage_notify (h : Stage client lock p s₀ sent c) {n : Nat} {c' : Conversation σ}
    (hstep : c.step client lock (.notify n) = some c') : Stage client lock p s₀ sent c' := by
  rcases h with h | ⟨x, command, payload, next, h⟩ | ⟨x, command, payload, next, reply, h⟩
  · obtain ⟨c'', hstep', h'⟩ := idle_notify h n
    obtain rfl := Option.some.inj (hstep.symm.trans hstep')
    exact .inl h'
  · obtain ⟨c'', hstep', h'⟩ := asked_notify h n
    obtain rfl := Option.some.inj (hstep.symm.trans hstep')
    exact .inr (.inl ⟨x, command, payload, next, h'⟩)
  · obtain ⟨c'', hstep', h', -⟩ := answered_notify h n
    obtain rfl := Option.some.inj (hstep.symm.trans hstep')
    exact .inr (.inr ⟨x, command, payload, next, reply, h'⟩)

/-- The frames that the lock sends of its own accord. -/
def sentOf (es : List ConversationEvent) : List Frame :=
  es.filterMap fun
    | .push frame => some frame
    | _ => none

theorem stage_step (hu : Understood client lock p) (h : Stage client lock p s₀ sent c) {e : ConversationEvent}
    {c' : Conversation σ} (hstep : c.step client lock e = some c') (hundisturbed : undisturbed e)
    (hpush : ∀ frame, e = .push frame → Unasked client p frame) :
    Stage client lock p s₀ (sent ++ sentOf [e]) c' := by
  have hnothing (hsent : sentOf [e] = []) (h : Stage client lock p s₀ sent c') :
      Stage client lock p s₀ (sent ++ sentOf [e]) c' := by
    rwa [hsent, List.append_nil]
  cases e with
  | task e =>
    apply hnothing rfl
    rcases h with h | ⟨x, command, payload, next, h⟩ | ⟨x, command, payload, next, reply, h⟩
    · exact idle_task hu h hundisturbed hstep
    · obtain ⟨x', h'⟩ := asked_task h hundisturbed hstep
      exact .inr (.inl ⟨x', command, payload, next, h'⟩)
    · exact answered_task h hundisturbed hstep
  | hear =>
    apply hnothing rfl
    obtain ⟨chunk, hsent, rfl⟩ := Option.map_eq_some_iff.mp hstep
    rcases h with h | ⟨x, command, payload, next, h⟩ | ⟨x, command, payload, next, reply, h⟩
    · exact .inl (idle_hear h hsent)
    · rcases asked_hear hu h hsent with h' | ⟨reply, h'⟩
      · exact .inr (.inl ⟨x, command, payload, next, h'⟩)
      · exact .inr (.inr ⟨x, command, payload, next, reply, h'⟩)
    · exact .inr (.inr ⟨x, command, payload, next, reply, answered_hear h hsent⟩)
  | notify n => exact hnothing rfl (stage_notify h hstep)
  | push frame =>
    obtain rfl := Option.some.inj hstep
    exact stage_push h frame (hpush frame rfl)

/-! ## The way to the end -/

/-- Undisturbed, and without a frame that the lock sends of its own accord. -/
def quiet : ConversationEvent → Bool
  | .push _ => false
  | e => undisturbed e

theorem undisturbed_of_quiet {es : List ConversationEvent} (h : ∀ e ∈ es, quiet e) : Undisturbed es := by
  intro e he
  have hquiet := h e he
  cases e with
  | push frame => rfl
  | _ => exact hquiet

/-- The two ends can go on to this state by such events alone. -/
def CanReach (client : TTLockClient) (lock : Lock σ) (c c' : Conversation σ) : Prop :=
  ∃ es : List ConversationEvent, (∀ e ∈ es, quiet e) ∧ es.foldlM (step client lock) c = some c'

theorem CanReach.refl : CanReach client lock c c := ⟨[], by simp, rfl⟩

theorem CanReach.head {c₁ c' : Conversation σ} {e : ConversationEvent} (he : quiet e)
    (hstep : c.step client lock e = some c₁) (h : CanReach client lock c₁ c') : CanReach client lock c c' := by
  obtain ⟨es, hes, hrun⟩ := h
  refine ⟨e :: es, List.forall_mem_cons.mpr ⟨he, hes⟩, ?_⟩
  rw [List.foldlM_cons, hstep]
  exact hrun

theorem CanReach.trans {c₁ c₂ : Conversation σ} (h : CanReach client lock c c₁) (h' : CanReach client lock c₁ c₂) :
    CanReach client lock c c₂ := by
  obtain ⟨es, hes, hrun⟩ := h
  obtain ⟨es', hes', hrun'⟩ := h'
  refine ⟨es ++ es', List.forall_mem_append.mpr ⟨hes, hes'⟩, ?_⟩
  rw [List.foldlM_append, hrun]
  exact hrun'

/-- The rest of the frame is written, then what is in the air comes in, then the inbox is emptied. -/
theorem answered_finishes {c : Conversation σ} {x : Exchange} {reply : Frame}
    (h : Answered client lock p s₀ sent c x command payload next reply) :
    ∃ c', CanReach client lock c c' ∧ Idle client lock p s₀ sent c' ∧ c'.task.left = next (.ok reply) := by
  cases hphase : x.phase with
  | sending number rest =>
    obtain ⟨c', x', hstep, h', hless⟩ := answered_wrote h hphase
    obtain ⟨c'', hreach, hend⟩ := answered_finishes h'
    exact ⟨c'', hreach.head rfl hstep, hend⟩
  | receiving =>
    cases hinbox : c.task.transport.channel.inbox with
    | cons a rest =>
      obtain ⟨c', hstep, ⟨x', h', hphase', hinbox', hair⟩ | hend⟩ := answered_take h hphase hinbox
      · obtain ⟨c'', hreach, hend⟩ := answered_finishes h'
        exact ⟨c'', hreach.head rfl hstep, hend⟩
      · exact ⟨c', CanReach.refl.head rfl hstep, hend⟩
    | nil =>
      have hair : c.air ≠ [] := by
        intro hair
        obtain ⟨before, after, ⟨later, hcarries, heq⟩, -, -⟩ := h.inward
        rw [hair] at hcarries
        obtain ⟨-, rfl⟩ := hcarries.arrived
        rw [inboxFrames, hinbox] at heq
        simp at heq
      obtain ⟨c', hstep, h', hair'⟩ := answered_notify h c.air.length
      have hless : c'.air.length < c.air.length := by
        rw [hair', List.length_drop, Nat.sub_self]
        exact List.length_pos_iff.mpr hair
      obtain ⟨c'', hreach, hend⟩ := answered_finishes h'
      exact ⟨c'', hreach.head rfl hstep, hend⟩
termination_by (writing x.phase, c.air.length, c.task.transport.channel.inbox.length)
decreasing_by
  · exact Prod.Lex.left _ _ hless
  · exact Prod.Lex.right _ (Prod.Lex.left _ _ hless)
  · rw [hphase, hphase', hair, hinbox', hinbox]
    exact Prod.Lex.right _ (Prod.Lex.right _ (Nat.lt_succ_self _))

/-- The lock gets what has been written before more is written. -/
theorem asked_finishes {c : Conversation σ} {x : Exchange} (hu : Understood client lock p)
    (h : Asked client lock p s₀ sent c x command payload next) :
    ∃ c' reply, CanReach client lock c c' ∧ Idle client lock p s₀ sent c' ∧ c'.task.left = next (.ok reply) := by
  cases hsent : c.task.transport.channel.written[c.got]? with
  | some chunk =>
    have hlt : c.got < c.task.transport.channel.written.length := (List.getElem?_eq_some_iff.mp hsent).1
    have hstep := step_hear client lock hsent
    rcases asked_hear hu h hsent with h' | ⟨reply, h'⟩
    · obtain ⟨c', reply, hreach, hend⟩ := asked_finishes hu h'
      exact ⟨c', reply, hreach.head rfl hstep, hend⟩
    · obtain ⟨c', hreach, hend⟩ := answered_finishes h'
      exact ⟨c', reply, hreach.head rfl hstep, hend⟩
  | none =>
    have hunheard : unheard c = [] := by
      unfold unheard
      rw [List.drop_eq_nil_of_le (List.getElem?_eq_none_iff.mp hsent)]
      rfl
    cases hphase : x.phase with
    | sending number rest =>
      obtain ⟨c₁, x', hstep, h', hless⟩ := asked_wrote h hphase
      obtain ⟨c', reply, hreach, hend⟩ := asked_finishes hu h'
      exact ⟨c', reply, hreach.head rfl hstep, hend⟩
    | receiving =>
      -- The whole frame would have been got, and the lock would have answered it.
      have houtward := h.outward
      rw [hunheard, hphase] at houtward
      cases houtward.arrived.2
termination_by (writing x.phase, c.task.transport.channel.written.length - c.got)
decreasing_by
  · exact Prod.Lex.left _ _ hless
  · obtain ⟨htask, hgot⟩ := hear_kept client lock c chunk.2
    rw [htask, hgot]
    exact Prod.Lex.right _ (by omega)

/-- The induction is on what is left of the program. -/
theorem idle_finishes (hu : Understood client lock p) (left : ClientProgram Unit) {c : Conversation σ}
    (h : Idle client lock p s₀ sent c) (hleft : c.task.left = left) :
    ∃ c', CanReach client lock c c' ∧ Idle client lock p s₀ sent c' ∧ c'.task.left.Ended := by
  induction left generalizing c with
  | ret a => exact ⟨c, .refl, h, hleft ▸ trivial⟩
  | raise e => exact ⟨c, .refl, h, hleft ▸ trivial⟩
  | cut => exact ⟨c, .refl, h, hleft ▸ trivial⟩
  | call op next ih =>
    have hanswer (e : TaskEvent) (outcome : Py op.Answer) (hop : ∀ command payload, op ≠ .exchange command payload)
        (hok : outcome.isOk) (he : ofCommand e) (hstep : c.task.step client e = some (c.task.answer op next outcome)) :
        ∃ c', CanReach client lock c c' ∧ Idle client lock p s₀ sent c' ∧ c'.task.left.Ended := by
      obtain ⟨c', hreach, hend⟩ := ih outcome (idle_answer h hleft hop hok) rfl
      exact ⟨c', hreach.head (show quiet (.task e) from he) (step_ofCommand he hstep), hend⟩
    cases op with
    | acquire => exact hanswer .acquired (.ok ()) (by simp) rfl rfl (by simp only [Task.step, hleft])
    | release => exact hanswer .released (.ok ()) (by simp) rfl rfl (by simp only [Task.step, hleft])
    | now => exact hanswer (.clock 0) (.ok (0 : Int)) (by simp) rfl rfl (by simp only [Task.step, hleft])
    | restartKeepAlive =>
      exact hanswer .keepAliveRestarted (.ok ()) (by simp) rfl rfl (by simp only [Task.step, hleft])
    | readOptionalChar uuid =>
      have hsome : ¬ c.task.transport.link.client.isNone := by
        rw [Option.isNone_iff_eq_none]
        exact Option.isSome_iff_ne_none.mp h.linked
      exact hanswer (.charRead none) (.ok none) (by simp) rfl rfl (by simp only [Task.step, hleft, if_neg hsome])
    | exchange command payload =>
      obtain ⟨c₁, x, hstep, hasked⟩ := idle_begin hu h hleft
      obtain ⟨c₂, reply, hreach, hidle, hleft'⟩ := asked_finishes hu hasked
      obtain ⟨c', hreach', hend⟩ := ih (.ok reply) hidle hleft'
      exact ⟨c', (hreach.head rfl hstep).trans hreach', hend⟩

theorem stage_finishes (hu : Understood client lock p) (h : Stage client lock p s₀ sent c) :
    ∃ c', CanReach client lock c c' ∧ Idle client lock p s₀ sent c' ∧ c'.task.left.Ended := by
  rcases h with h | ⟨x, command, payload, next, h⟩ | ⟨x, command, payload, next, reply, h⟩
  · exact idle_finishes hu _ h rfl
  · obtain ⟨c₁, reply, hreach, hidle, -⟩ := asked_finishes hu h
    obtain ⟨c', hreach', hend⟩ := idle_finishes hu _ hidle rfl
    exact ⟨c', hreach.trans hreach', hend⟩
  · obtain ⟨c₁, hreach, hidle, -⟩ := answered_finishes h
    obtain ⟨c', hreach', hend⟩ := idle_finishes hu _ hidle rfl
    exact ⟨c', hreach.trans hreach', hend⟩

end Steps

/-! ## Runs -/

section Runs

variable {client : TTLockClient} {lock : Lock σ} {transport : BleTransport} {s₀ : σ} {p : ClientProgram Unit}

theorem idle_start (hopen : Open transport) :
    Idle client lock p s₀ (transport.channel.pushed.map (·.frame)) (start transport s₀ p) := by
  have hnothing : frameScanner.Carries FrameReassembler.new.buf [] [] := Scanner.carries_nil settled_new
  refine {
    linked := hopen.linked
    writeChar := hopen.writeChar
    runs := .done _
    admitted := trivial
    got := Nat.le_refl _
    waiting := ?_
    exchange := hopen.exchange
    state := rfl
    outward := ?_
    inward := ⟨[], ⟨[], ?_, ?_⟩, by simp, by rw [List.append_nil]; rfl⟩ }
  · show transport.channel.waitingForResponse = if transport.channel.exchange.isSome then 1 else 0
    rw [hopen.waiting, hopen.exchange]
    rfl
  · have hunheard : unheard (start transport s₀ p) = [] := by
      unfold unheard start
      rw [List.drop_length]
      rfl
    rw [hunheard]
    exact hnothing
  · show frameScanner.Carries transport.channel.reassembler.buf [] []
    rw [hopen.reassembler]
    exact hnothing
  · show [] = transport.channel.inbox.map (·.frame) ++ []
    rw [hopen.inbox]
    rfl

theorem stage_run (hu : Understood client lock p) (hopen : Open transport) {es : List ConversationEvent}
    {c : Conversation σ} (hundisturbed : Undisturbed es) (hpush : ∀ frame, .push frame ∈ es → Unasked client p frame)
    (hrun : (machine client lock transport s₀ p).Reaches es c) :
    Stage client lock p s₀ (transport.channel.pushed.map (·.frame) ++ sentOf es) c := by
  refine Machine.run_history _ (I := fun es c => Undisturbed es → (∀ frame, .push frame ∈ es → Unasked client p frame) →
    Stage client lock p s₀ (transport.channel.pushed.map (·.frame) ++ sentOf es) c) ?_ ?_ hrun hundisturbed hpush
  · intro _ _
    rw [show sentOf [] = [] from rfl, List.append_nil]
    exact .inl (idle_start hopen)
  intro es c e c' _ ih hstep hundisturbed hpush
  obtain ⟨hbefore, hlast⟩ := (undisturbed_append _ _).mp hundisturbed
  have h := ih hbefore fun frame hmem => hpush frame (List.mem_append_left _ hmem)
  rw [show sentOf (es ++ [e]) = sentOf es ++ sentOf [e] from List.filterMap_append, ← List.append_assoc]
  exact stage_step hu h hstep (hlast e List.mem_cons_self) fun frame he =>
    hpush frame (List.mem_append_right _ (List.mem_singleton.mpr he.symm))

end Runs

end Conversation

end TtlockBle
