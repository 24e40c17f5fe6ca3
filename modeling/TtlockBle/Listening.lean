import TtlockBle.Code.Events
import TtlockBle.OverTheAir

/-!
# What the listeners are told

A frame that the lock sends of its own accord is handed to the listeners, whether it comes in the middle of
an exchange or between two. Listeners may come and go while they are called, and raise.
-/

open TtlockBle.Lib

namespace TtlockBle.Listening

open Cipher Conversation OverTheAir Parsers Program Raises

section Listeners

variable {L : Type} [DecidableEq L]

/-! ## One frame -/

/-- What the listeners raise is logged, not passed on. -/
def Ordinary (react : Reaction L) : Prop :=
  ∀ calls listener event e, (react calls listener event).2 = .error e → e.isException

/-- Nobody takes the listener off the list while a listener is called. -/
def Leaves (react : Reaction L) (listener : L) : Prop :=
  ∀ calls listener' event, .remove listener ∉ (react calls listener' event).1

/-- What a listener has been called with. -/
def told (listener : L) (s : Listeners L) : List LockEvent := (s.calls.filter (·.1 = listener)).map (·.2)

/-- The event of a frame, if it has one. -/
def eventOf (client : TTLockClient) (frame : Frame) : Option LockEvent := (client.dispatchEvent frame).toOption.join

theorem register_nodup {listeners : List L} (h : listeners.Nodup) (r : Registration L) :
    (register listeners r).Nodup := by
  cases r with
  | add listener =>
    show (addEventListener listeners listener).Nodup
    unfold addEventListener
    split_ifs with hmem
    · exact h
    · exact List.nodup_append.mpr ⟨h, List.nodup_singleton _, by simpa using fun a ha => ne_of_mem_of_not_mem ha hmem⟩
  | remove listener => exact h.erase listener

theorem mem_register {listeners : List L} {listener : L} (h : listener ∈ listeners) {r : Registration L}
    (hr : r ≠ .remove listener) : listener ∈ register listeners r := by
  cases r with
  | add other =>
    show listener ∈ addEventListener listeners other
    unfold addEventListener
    split_ifs
    · exact h
    · exact List.mem_append_left _ h
  | remove other =>
    refine (List.mem_erase_of_ne ?_).mpr h
    rintro rfl
    exact hr rfl

/-- A listener that stays is on the list once. -/
structure Attached (listener : L) (listeners : List L) : Prop where
  nodup : listeners.Nodup
  mem : listener ∈ listeners

theorem attached_register {listener : L} {listeners : List L} (h : Attached listener listeners) {r : Registration L}
    (hr : r ≠ .remove listener) : Attached listener (register listeners r) :=
  ⟨register_nodup h.nodup r, mem_register h.mem hr⟩

theorem attached_registers {listener : L} {listeners : List L} (h : Attached listener listeners)
    {rs : List (Registration L)} (hrs : .remove listener ∉ rs) : Attached listener (rs.foldl register listeners) := by
  refine List.foldlRecOn (motive := Attached listener) _ register h fun listeners h r hmem => attached_register h ?_
  rintro rfl
  exact hrs hmem

variable {react : Reaction L}

/-- Whatever they do to the list, those that were on it are called, each once and in order. -/
theorem callListeners_calls (hordinary : Ordinary react) (event : LockEvent) (listeners : List L) (s : Listeners L) :
    (callListeners react event listeners s).2 = .ok () ∧
      (callListeners react event listeners s).1.calls = s.calls ++ listeners.map (·, event) := by
  induction listeners generalizing s with
  | nil => exact ⟨rfl, (List.append_nil _).symm⟩
  | cons listener rest ih =>
    obtain ⟨hok, hcalls⟩ :=
      ih ⟨(react s.calls listener event).1.foldl register s.attached, s.calls ++ [(listener, event)]⟩
    unfold callListeners
    cases houtcome : (react s.calls listener event).2 with
    | ok _ =>
      simp only [houtcome]
      exact ⟨hok, hcalls.trans (by simp)⟩
    | error e =>
      simp only [houtcome, hordinary _ _ _ _ houtcome, if_true]
      exact ⟨hok, hcalls.trans (by simp)⟩

theorem callListeners_attached {listener : L} (hleaves : Leaves react listener) (event : LockEvent) (listeners : List L)
    (s : Listeners L) (h : Attached listener s.attached) :
    Attached listener (callListeners react event listeners s).1.attached := by
  induction listeners generalizing s with
  | nil => exact h
  | cons first rest ih =>
    have hrest := ih ⟨(react s.calls first event).1.foldl register s.attached, s.calls ++ [(first, event)]⟩
      (attached_registers h (hleaves _ _ _))
    unfold callListeners
    cases houtcome : (react s.calls first event).2 with
    | ok _ =>
      simp only [houtcome]
      exact hrest
    | error e =>
      simp only [houtcome]
      split_ifs
      · exact hrest
      · exact attached_registers h (hleaves _ _ _)

theorem told_append (listener : L) (attached attached' : List L) (calls more : List (L × LockEvent)) :
    told listener ⟨attached, calls ++ more⟩ = told listener ⟨attached', calls⟩ ++ told listener ⟨attached', more⟩ := by
  unfold told
  rw [List.filter_append, List.map_append]

theorem told_attached {listener : L} {attached listeners : List L} (h : Attached listener listeners)
    (event : LockEvent) :
    told listener ⟨attached, listeners.map (·, event)⟩ = [event] := by
  unfold told
  rw [List.filter_map, List.map_map]
  have hone : listeners.filter (· = listener) = [listener] := by
    rw [List.filter_eq, List.count_eq_one_of_mem h.nodup h.mem]
    rfl
  show (listeners.filter (· = listener)).map _ = [event]
  rw [hone]
  rfl

variable {client : TTLockClient}

variable (client) in
/-- **A frame that is handed on** reaches a listener that stays, once. -/
theorem dispatch_told (hordinary : Ordinary react) {listener : L} (hleaves : Leaves react listener) {s : Listeners L}
    (h : Attached listener s.attached) (frame : Frame) :
    told listener (client.dispatch react s frame).1 = told listener s ++ (eventOf client frame).toList ∧
      Attached listener (client.dispatch react s frame).1.attached := by
  unfold TTLockClient.dispatch eventOf
  rw [if_neg (List.ne_nil_of_mem h.mem)]
  cases hevent : client.dispatchEvent frame with
  | error e => exact ⟨(List.append_nil _).symm, h⟩
  | ok event =>
    cases event with
    | none => exact ⟨(List.append_nil _).symm, h⟩
    | some event =>
      refine ⟨?_, callListeners_attached hleaves event s.attached s h⟩
      show told listener ⟨s.attached, (callListeners react event s.attached s).1.calls⟩ = _
      rw [(callListeners_calls hordinary event s.attached s).2, told_append listener _ s.attached, told_attached h]
      rfl

end Listeners

/-! ## A client with listeners -/

structure Station (σ L : Type) where
  conversation : Conversation σ
  listeners : Listeners L

/-- The caller changes the list between two events of the rest. -/
inductive StationEvent (L : Type) where
  | conversation (e : ConversationEvent)
  | register (r : Registration L)

def conversationOf {L : Type} (es : List (StationEvent L)) : List ConversationEvent :=
  es.filterMap fun
    | .conversation e => some e
    | .register _ => none

namespace Station

variable {σ L : Type} [DecidableEq L]

/-- What the transport pushes is handed to the listeners, frame by frame. -/
def step (client : TTLockClient) (lock : Lock σ) (react : Reaction L) (s : Station σ L) :
    StationEvent L → Option (Station σ L)
  | .conversation e => (s.conversation.step client lock e).map fun c =>
      ⟨c, ((pushedFrames c).drop (pushedFrames s.conversation).length).foldl
        (fun listeners frame => (client.dispatch react listeners frame).1) s.listeners⟩
  | .register r => some { s with listeners := { s.listeners with attached := register s.listeners.attached r } }

def machine (client : TTLockClient) (lock : Lock σ) (react : Reaction L) (transport : BleTransport) (s : σ)
    (p : ClientProgram Unit) (listeners : Listeners L) : Machine (Station σ L) (StationEvent L) where
  start := ⟨start transport s p, listeners⟩
  step := step client lock react

end Station

/-! ## What has been pushed stays -/

section Pushed

theorem move_pushed {isResponse : Frame → Int → Bool} {c c' : Channel} (h : Transport.Move isResponse c c') :
    c.pushed <+: c'.pushed := by
  cases h with
  | arrive frame =>
    unfold Channel.dispatch
    simp only
    split_ifs
    · exact List.prefix_refl _
    · exact List.prefix_append _ _
  | push x a rest hx hinbox hanswers => exact List.prefix_append _ _
  | buffer | begin | write | reply | fail => exact List.prefix_refl _

theorem moves_pushed {isResponse : Frame → Int → Bool} {c c' : Channel} (h : Transport.Moves isResponse c c') :
    c.pushed <+: c'.pushed :=
  Transport.moves_invariant isResponse (I := fun c' => c.pushed <+: c'.pushed)
    (fun _ _ hmove hpushed => hpushed.trans (move_pushed hmove)) c c' h (List.prefix_refl _)

theorem advance_channel (t : Task) (c : Channel) : (t.advance c).transport.channel = c := by
  unfold Task.advance
  split <;> rfl

theorem task_pushed {client : TTLockClient} {t t' : Task} {e : TaskEvent} (h : t.step client e = some t') :
    t.transport.channel.pushed <+: t'.transport.channel.pushed := by
  have hanswered (hkept : t'.transport.channel = t.transport.channel) :
      t.transport.channel.pushed <+: t'.transport.channel.pushed := hkept ▸ List.prefix_refl _
  have hchannel (e : ChannelEvent)
      (h : (t.transport.channel.step client.answers t.transport.link e).map
        (if t.transport.channel.exchange.isSome then t.advance else t.setChannel) = some t') :
      t.transport.channel.pushed <+: t'.transport.channel.pushed := by
    obtain ⟨c, hstep, rfl⟩ := Option.map_eq_some_iff.mp h
    have hpushed := moves_pushed (Transport.step_moves client.answers _ _ _ _ hstep)
    split_ifs
    · rwa [advance_channel]
    · exact hpushed
  cases e with
  | link e =>
    obtain ⟨l, -, rfl⟩ := Option.map_eq_some_iff.mp h
    exact hanswered rfl
  | exchange =>
    unfold Task.step at h
    simp only at h
    split at h
    · rename_i opcode payload next hleft hidle
      split at h
      · exact hanswered (Option.some.inj h ▸ rfl)
      · rw [← Option.some.inj h, advance_channel]
        exact moves_pushed (Transport.beginExchange_moves client.answers _ _ _ hidle)
    · cases h
  | channel e =>
    cases e with
    | exchange _ | cancel => cases h
    | notify data => exact hchannel (.notify data) h
    | wrote => exact hchannel .wrote h
    | writeFailed text => exact hchannel (.writeFailed text) h
    | take => exact hchannel .take h
    | timeout => exact hchannel .timeout h
  | acquired | released | clock _ | keepAliveRestarted | charRead _ =>
    unfold Task.step at h
    simp only at h
    split at h
    · exact hanswered (Option.some.inj h ▸ rfl)
    · cases h

variable {σ : Type} {client : TTLockClient} {lock : Lock σ}

theorem step_pushed {c c' : Conversation σ} {e : ConversationEvent} (h : c.step client lock e = some c') :
    pushedFrames c <+: pushedFrames c' := by
  suffices hpushed : c.task.transport.channel.pushed <+: c'.task.transport.channel.pushed from
    hpushed.map Arrival.frame
  cases e with
  | task e =>
    obtain ⟨t, ht, rfl⟩ := step_task h
    exact task_pushed ht
  | hear =>
    obtain ⟨chunk, -, rfl⟩ := Option.map_eq_some_iff.mp h
    rw [(hear_kept client lock c chunk.2).1]
  | notify n =>
    unfold step at h
    obtain ⟨t, ht, rfl⟩ := Option.map_eq_some_iff.mp h
    exact task_pushed ht
  | push frame =>
    obtain rfl := Option.some.inj h
    exact List.prefix_refl _

end Pushed

/-! ## Over the air -/

section Station

variable {σ L : Type} [DecidableEq L] {client : TTLockClient} {lock : Lock σ} {react : Reaction L}

variable (client) in
theorem dispatches_told (hordinary : Ordinary react) {listener : L} (hleaves : Leaves react listener)
    (frames : List Frame) (s : Listeners L) (h : Attached listener s.attached) :
    told listener (frames.foldl (fun s frame => (client.dispatch react s frame).1) s) =
        told listener s ++ frames.filterMap (eventOf client) ∧
      Attached listener (frames.foldl (fun s frame => (client.dispatch react s frame).1) s).attached := by
  induction frames generalizing s with
  | nil => exact ⟨(List.append_nil _).symm, h⟩
  | cons frame frames ih =>
    obtain ⟨htold, hattached⟩ := dispatch_told client hordinary hleaves h frame
    obtain ⟨hrest, hstays⟩ := ih _ hattached
    refine ⟨?_, hstays⟩
    rw [List.foldl_cons, hrest, htold, List.append_assoc]
    cases hevent : eventOf client frame with
    | none => rw [List.filterMap_cons_none hevent]; rfl
    | some event => rw [List.filterMap_cons_some hevent]; rfl

/-- The conversation goes on as if nobody listened, and the listener has been told of what was pushed. -/
structure Told (start : Conversation σ) (s₀ : Listeners L) (listener : L) (client : TTLockClient) (lock : Lock σ)
    (es : List (StationEvent L)) (s : Station σ L) : Prop where
  run : (conversationOf es).foldlM (Conversation.step client lock) start = some s.conversation
  attached : Attached listener s.listeners.attached
  told : ∃ new, pushedFrames s.conversation = pushedFrames start ++ new ∧
    told listener s.listeners = told listener s₀ ++ new.filterMap (eventOf client)

theorem told_step (hordinary : Ordinary react) {listener : L} (hleaves : Leaves react listener) {start : Conversation σ}
    {s₀ : Listeners L} {es : List (StationEvent L)} {s s' : Station σ L} {e : StationEvent L}
    (h : Told start s₀ listener client lock es s) (hstays : e ≠ .register (.remove listener))
    (hstep : s.step client lock react e = some s') : Told start s₀ listener client lock (es ++ [e]) s' := by
  have hconcat : conversationOf (es ++ [e]) = conversationOf es ++ conversationOf [e] := List.filterMap_append
  obtain ⟨new, hnew, htold⟩ := h.told
  cases e with
  | conversation e =>
    obtain ⟨c, hc, rfl⟩ := Option.map_eq_some_iff.mp hstep
    obtain ⟨more, hmore⟩ := step_pushed hc
    have hdrop : (pushedFrames c).drop (pushedFrames s.conversation).length = more := by
      rw [← hmore, List.drop_left]
    obtain ⟨htold', hattached⟩ := dispatches_told client hordinary hleaves more s.listeners h.attached
    refine ⟨?_, ?_, new ++ more, ?_, ?_⟩
    · rw [hconcat, List.foldlM_append, h.run]
      show [e].foldlM (Conversation.step client lock) s.conversation = some c
      simp [hc]
    · rw [hdrop]
      exact hattached
    · rw [← List.append_assoc, ← hnew, hmore]
    · rw [hdrop, htold', htold, List.filterMap_append, List.append_assoc]
  | register r =>
    obtain rfl := Option.some.inj hstep
    refine ⟨?_, attached_register h.attached fun hr => hstays (hr ▸ rfl), new, hnew, htold⟩
    rw [hconcat, show conversationOf [StationEvent.register r] = [] from rfl, List.append_nil]
    exact h.run

theorem told_run (hordinary : Ordinary react) {listener : L} (hleaves : Leaves react listener)
    {transport : BleTransport} {s₀ : σ} {p : ClientProgram Unit} {listeners : Listeners L}
    (hattached : Attached listener listeners.attached)
    {es : List (StationEvent L)} (hstays : .register (.remove listener) ∉ es) {s : Station σ L}
    (hrun : (Station.machine client lock react transport s₀ p listeners).Reaches es s) :
    Told (start transport s₀ p) listeners listener client lock es s := by
  refine Machine.run_history _ (I := fun es s => .register (.remove listener) ∉ es →
    Told (start transport s₀ p) listeners listener client lock es s) ?_ ?_ hrun hstays
  · exact fun _ => ⟨rfl, hattached, [], (List.append_nil _).symm, (List.append_nil _).symm⟩
  intro es s e s' _ ih hstep hstays
  rw [List.mem_append, not_or] at hstays
  exact told_step hordinary hleaves (ih hstays.1) (fun he => hstays.2 (List.mem_singleton.mpr he.symm)) hstep

/-- These frames are still on their way to the listeners: all that are coming, but for the answer of the
request that is asked. -/
def Waiting (client : TTLockClient) (c : Conversation σ) (frames : List Frame) : Prop :=
  Coming c frames ∨ ∃ command payload next before reply after,
    c.task.left = .call (.exchange command payload) next ∧ client.answers reply command ∧
      Coming c (before ++ reply :: after) ∧ frames = before ++ after

theorem waiting_arrived {c : Conversation σ} {frames : List Frame} (h : Waiting client c frames)
    (hair : c.air = []) (hinbox : c.task.transport.channel.inbox = []) : frames = [] := by
  have hnothing (frames : List Frame) (h : Coming c frames) : frames = [] := by
    obtain ⟨later, hcarries, rfl⟩ := h
    rw [hair] at hcarries
    rw [hcarries.arrived.2, inboxFrames, hinbox]
    rfl
  rcases h with h | ⟨_, _, _, before, reply, after, -, -, h, rfl⟩
  · exact hnothing _ h
  · exact absurd (hnothing _ h) (by simp)

theorem stage_waiting {p : ClientProgram Unit} {s₀ : σ} {sent : List Frame} {c : Conversation σ}
    (h : Stage client lock p s₀ sent c) :
    ∃ waiting, Waiting client c waiting ∧ (pushedFrames c ++ waiting).Perm sent := by
  rcases h with h | ⟨x, command, payload, next, h⟩ | ⟨x, command, payload, next, reply, h⟩
  · obtain ⟨frames, hcoming, -, hsent⟩ := h.inward
    exact ⟨frames, .inl hcoming, hsent⟩
  · obtain ⟨frames, hcoming, -, hsent⟩ := h.inward
    exact ⟨frames, .inl hcoming, hsent⟩
  · obtain ⟨before, after, hcoming, -, hsent⟩ := h.inward
    exact ⟨before ++ after,
      .inr ⟨command, payload, next, before, reply, after, h.left, h.isAnswer, hcoming, rfl⟩, hsent⟩

/-- **Every frame that the lock sends of its own accord is told once**, however the bytes travel and whatever the
listeners do: one that stays has been told of each, but for those on their way, and of nothing else. -/
theorem pushes_told {fuel : Nat} {commands : List Command} {transport : BleTransport} {s₀ : σ}
    (hversion : Wire.FitsHeader client.key.lockVersion) (hcipher : PaddedCipher client.aes client.aesKey)
    (hfits : ∀ command ∈ commands, Fits command) (hanswers : Answers client lock (inTurn client fuel commands))
    (hopen : Open transport) (hordinary : Ordinary react) (listener : L) (hleaves : Leaves react listener)
    (listeners : Listeners L) (hattached : Attached listener listeners.attached) (es : List (StationEvent L))
    (hstays : .register (.remove listener) ∉ es) (hundisturbed : Undisturbed (conversationOf es))
    (hpush : ∀ frame, .push frame ∈ conversationOf es → Unasked client (inTurn client fuel commands) frame)
    (s : Station σ L)
    (hrun : (Station.machine client lock react transport s₀ (inTurn client fuel commands) listeners).Reaches es s) :
    ∃ waiting, Waiting client s.conversation waiting ∧
      (s.conversation.air = [] → s.conversation.task.transport.channel.inbox = [] → waiting = []) ∧
      (told listener s.listeners ++ waiting.filterMap (eventOf client)).Perm
        (told listener listeners ++ (sentOf (conversationOf es)).filterMap (eventOf client)) := by
  have hu := understood_of_short hversion hcipher (short_inTurn client fuel commands hfits) hanswers
  have htold := told_run hordinary hleaves hattached hstays hrun
  obtain ⟨waiting, hwaiting, hsent⟩ := stage_waiting (stage_run hu hopen hundisturbed hpush htold.run)
  obtain ⟨new, hnew, hevents⟩ := htold.told
  refine ⟨waiting, hwaiting, waiting_arrived hwaiting, ?_⟩
  rw [hnew, List.append_assoc] at hsent
  have hframes := ((List.perm_append_left_iff _).mp hsent).filterMap (eventOf client)
  rw [List.filterMap_append] at hframes
  rw [hevents, List.append_assoc]
  exact hframes.append_left _

/-! ### A push before the answer -/

/-- The lock has been locked, with the battery at 50. -/
def lockedFrame : Frame :=
  lockFrame (Clock.clockClient.aes.encrypt Clock.clockClient.aesKey [0x14, responseSuccess, 50, 0, 1])

/-- One listener takes itself off the list and raises. -/
def onceReaction : Reaction Nat := fun _ listener _ =>
  if listener = 1 then ([.remove 1], .error (valueError "")) else ([], .ok ())

def pushedEvents : List (StationEvent Nat) :=
  [.register (.add 1), .conversation (.task .acquired), .conversation (.task .exchange),
    .conversation (.push lockedFrame), .conversation (.notify 31)] ++
  ([.hear, .task (.channel .wrote), .hear, .task (.channel .wrote), .notify 31, .task (.channel .take),
    .task (.channel .take), .task .released] : List ConversationEvent).map .conversation

theorem only_getLockTime (client : TTLockClient) :
    Only (fun op => ∀ command payload, op = .exchange command payload → command = cmdGetLockTime)
      (inTurn client 0 [.getLockTime]) := by
  refine only_handle (only_bind (only_withCommandLock (by simp) (by simp) ?_) fun _ => only_ofExcept (.ok ()))
    fun _ => only_ofExcept (.ok ())
  refine only_bind (only_bind (only_perform ?_) fun _ => only_ofExcept _) fun _ => only_ofExcept _
  rintro _ _ ⟨⟩
  rfl

theorem unasked_lockedFrame : Unasked Clock.clockClient (inTurn Clock.clockClient 0 [.getLockTime]) lockedFrame := by
  refine ⟨fits_forLock Wire.fitsHeader_makeVirtualKey (by decide)
    ((Wire.cipher_length_le Clock.paddedCipher_clockClient).mpr (by decide)), ?_⟩
  rintro command payload ⟨es, next, hrun⟩
  obtain rfl := only_runs (only_getLockTime _) hrun command payload rfl
  decide +kernel

theorem pushes_told_locked :
    ∃ s, (Station.machine Clock.clockClient echoLock onceReaction openTransport [24, 3, 1, 0, 0, 2]
        (inTurn Clock.clockClient 0 [.getLockTime]) ⟨[0], []⟩).Reaches pushedEvents s ∧
      s.conversation.task.left.Ended ∧ told 0 s.listeners = [LockEvent.fromPayload 0x14 responseSuccess [50, 0, 1]] ∧
      ∃ waiting, Waiting Clock.clockClient s.conversation waiting ∧
        (s.conversation.air = [] → s.conversation.task.transport.channel.inbox = [] → waiting = []) ∧
        (told 0 s.listeners ++ waiting.filterMap (eventOf Clock.clockClient)).Perm
          (told 0 ⟨[0], []⟩ ++ (sentOf (conversationOf pushedEvents)).filterMap (eventOf Clock.clockClient)) := by
  have hfits : ∀ command ∈ [Command.getLockTime], Fits command := by simp [Fits, Requests.Oversized]
  have hordinary : Ordinary onceReaction := by
    intro calls listener event e he
    unfold onceReaction at he
    split_ifs at he
    exact Except.error.inj he ▸ rfl
  have hleaves : Leaves onceReaction 0 := by
    intro calls listener event
    unfold onceReaction
    split_ifs <;> simp
  obtain ⟨s, hreaches, hended, htold⟩ := ((Station.machine Clock.clockClient echoLock onceReaction openTransport
    [24, 3, 1, 0, 0, 2] (inTurn Clock.clockClient 0 [.getLockTime]) ⟨[0], []⟩).exists_reaches pushedEvents
      fun s => s.conversation.task.left.Ended ∧
        told 0 s.listeners = [LockEvent.fromPayload 0x14 responseSuccess [50, 0, 1]]).mpr (by decide +kernel)
  exact ⟨s, hreaches, hended, htold, pushes_told Wire.fitsHeader_makeVirtualKey Clock.paddedCipher_clockClient hfits
    (answers_echoLock _ (short_inTurn _ _ _ hfits)) open_openTransport hordinary 0 hleaves ⟨[0], []⟩
    ⟨by decide, by decide⟩ pushedEvents (by simp [pushedEvents]) (by decide)
    (by simpa [conversationOf, pushedEvents] using unasked_lockedFrame) s hreaches⟩

end Station

end TtlockBle.Listening
