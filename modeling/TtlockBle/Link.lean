import TtlockBle.Transport

/-!
# Connections

`connect` stores the new client before it knows its characteristics. If it fails between that and
`start_notify`, the client stays: `is_connected` is true, and the next `connect` does nothing.
-/

open TtlockBle.Lib

namespace TtlockBle.Connections

open Transport

/-- The characteristics that are stored were discovered on this client. -/
def HasChars (l : Link) (number : Nat) : Prop :=
  (∃ handle, l.writeChar = some ⟨number, handle⟩) ∧ ∃ handle, l.notifyChar = some ⟨number, handle⟩

/-- `connect` has done all its work on the current client. -/
def Ready (l : Link) : Prop :=
  ∃ client, l.client = some client ∧ HasChars l client.number ∧ client.number ∈ l.notifying

def Connecting (l : Link) : Prop :=
  match l.phase with
  | .idle | .stoppingNotify .disconnect | .disconnecting .disconnect => False
  | _ => True

/-- Outside a running `connect`, a link that is up is ready. After a `connect` that raised it is not
up, and the next `connect` does not return at once. -/
structure AllOrNothing (l : Link) : Prop where
  ready : ¬ Connecting l → l.isConnected → Ready l
  raised : l.phase = .idle → ∀ e, l.outcome = some (.connect, .error e) →
    ¬ l.isConnected ∧ l.connect.phase ≠ .idle

/-- The step lets `connect` fail on a client that is stored and up: no service is usable, or
`start_notify` raises. -/
def FailsWhileUp (l : Link) : LinkEvent → Prop
  | .established (.ok (up, services)) => up ∧ ∃ e, discoverChars services = .error e
  | .startedNotify (.error _) => l.isConnected
  | _ => False

/-! ## One step -/

/-- What holds at each `await`. -/
def Sound (l : Link) : Prop :=
  match l.phase with
  | .idle => (l.isConnected → Ready l) ∧ ∀ e, l.outcome = some (.connect, .error e) → ¬ l.isConnected
  | .stoppingNotify _ | .disconnecting _ => l.isConnected → Ready l
  | .scanning | .establishing => l.client = none
  | .startingNotify => ∃ client, l.client = some client ∧ HasChars l client.number
  | .settling | .wakeReading => Ready l

theorem isConnected_none (l : Link) (h : l.client = none) : ¬ l.isConnected := by
  simp [Link.isConnected, h]

theorem sound_resolveDevice (l : Link) (h : l.client = none) : Sound l.resolveDevice := by
  unfold Sound Link.resolveDevice
  by_cases hd : l.device = none
  · simpa [hd] using h
  · simpa [hd] using h

theorem phase_beginDisconnect (l : Link) : (l.beginDisconnect .connect).phase ≠ .idle := by
  unfold Link.beginDisconnect Link.resolveDevice
  split
  · simp only [if_true]
    split <;> simp
  · split <;> simp

theorem sound_beginDisconnect (l : Link) (call : LinkCall) (h : l.isConnected → Ready l) :
    Sound (l.beginDisconnect call) := by
  unfold Link.beginDisconnect
  split
  · rename_i hclient
    split
    · exact sound_resolveDevice l hclient
    · have hdown := isConnected_none l hclient
      exact ⟨fun hup => absurd hup hdown, fun _ _ => hdown⟩
  · split <;> exact h

theorem allOrNothing_of_sound (l : Link) (h : Sound l) : AllOrNothing l := by
  unfold Sound at h
  constructor
  · intro hc
    unfold Connecting at hc
    cases hp : l.phase <;> simp_all
  · intro hidle e he
    rw [hidle] at h
    refine ⟨h.2 e he, ?_⟩
    rw [Link.connect, if_neg (h.2 e he)]
    exact phase_beginDisconnect _

theorem sound_end_none (l : Link) (call : LinkCall) (outcome : Py Unit) (h : l.client = none) :
    Sound (l.endCall call outcome) :=
  ⟨fun hup => absurd hup (isConnected_none _ h), fun _ _ => isConnected_none _ h⟩

theorem sound_connect (l : Link) (h : l.isConnected → Ready l) : Sound l.connect := by
  unfold Link.connect
  split
  · exact ⟨h, by simp [Link.endCall]⟩
  · exact sound_beginDisconnect _ _ h

theorem isConnected_drop (l : Link) : ¬ l.drop.isConnected := by
  unfold Link.drop Link.isConnected
  cases l.client <;> simp

theorem ready_drop (l : Link) (h : Ready l) : Ready l.drop := by
  obtain ⟨client, hclient, hchars, hnotifying⟩ := h
  exact ⟨{ client with isConnected := false }, by simp [Link.drop, hclient], hchars, hnotifying⟩

theorem sound_drop (l : Link) (h : Sound l) : Sound l.drop := by
  have hdown := isConnected_drop l
  have hphase : l.drop.phase = l.phase := rfl
  unfold Sound at h ⊢
  rw [hphase]
  cases hp : l.phase <;> rw [hp] at h <;> simp only at h ⊢
  case idle => exact ⟨fun hup => absurd hup hdown, fun _ _ => hdown⟩
  case stoppingNotify | disconnecting => exact fun hup => absurd hup hdown
  case scanning | establishing => simp [Link.drop, h]
  case startingNotify =>
    obtain ⟨client, hclient, hchars⟩ := h
    exact ⟨{ client with isConnected := false }, by simp [Link.drop, hclient], hchars⟩
  case settling | wakeReading => exact ready_drop l h

theorem sound_disconnected (l : Link) (call : LinkCall) (outcome : Py Unit) :
    Sound (l.disconnected call outcome) := by
  unfold Link.disconnected
  split
  · exact sound_resolveDevice _ rfl
  · exact sound_end_none _ _ _ rfl

theorem sound_scanned (l : Link) (outcome : Py (Option String)) (h : l.client = none) :
    Sound (l.scanned outcome) := by
  unfold Link.scanned
  split
  · exact sound_end_none _ _ _ h
  · exact sound_end_none _ _ _ h
  · exact h

theorem sound_established (l : Link) (outcome : Except String (Bool × Services)) (h : l.client = none)
    (hf : ¬ FailsWhileUp l (.established outcome)) : Sound (l.established outcome) := by
  unfold Link.established
  split
  · exact sound_end_none _ _ _ h
  · rename_i up services
    simp only
    split
    · rename_i e he
      -- Nothing usable was found, so the client must be down already.
      have hdown : up = false := by
        by_contra hup
        exact hf ⟨by simpa using hup, e, he⟩
      refine ⟨?_, ?_⟩ <;> simp [Link.isConnected, Link.endCall, hdown]
    · exact ⟨_, rfl, ⟨_, rfl⟩, _, rfl⟩

theorem sound_startedNotify (l : Link) (outcome : Py Unit)
    (h : ∃ client, l.client = some client ∧ HasChars l client.number)
    (hf : ¬ FailsWhileUp l (.startedNotify outcome)) : Sound (l.startedNotify outcome) := by
  obtain ⟨client, hclient, hchars⟩ := h
  unfold Link.startedNotify
  split
  · exact ⟨fun hup => absurd hup hf, fun _ _ => hf⟩
  · exact ⟨client, hclient, hchars, by simp [hclient]⟩

theorem sound_step (l l' : Link) (e : LinkEvent) (h : Sound l) (hstep : l.step e = some l')
    (hf : ¬ FailsWhileUp l e) : Sound l' := by
  unfold Link.step at hstep
  split at hstep
  case h_3 =>
    obtain rfl := Option.some.inj hstep
    exact sound_drop l h
  case h_11 => cases hstep
  all_goals
    rename_i hphase
    obtain rfl := Option.some.inj hstep
    unfold Sound at h
    rw [hphase] at h
  · exact sound_connect l h.1
  · exact sound_beginDisconnect _ _ h.1
  · exact h
  · exact sound_disconnected l _ _
  · exact sound_scanned l _ h
  · exact sound_established l _ h hf
  · exact sound_startedNotify l _ h hf
  · exact h
  · exact ⟨fun _ => h, by simp [Link.endCall]⟩

theorem failsWhileUp_step (l l' : Link) (e : LinkEvent) (hstep : l.step e = some l')
    (hf : FailsWhileUp l e) : ¬ AllOrNothing l' := by
  intro hall
  unfold Link.step at hstep
  split at hstep <;> try exact hf.elim
  · rename_i outcome _
    obtain rfl := Option.some.inj hstep
    rcases outcome with text | ⟨up, services⟩
    · exact hf.elim
    · obtain ⟨hup, e, he⟩ := hf
      simp only [Link.established, he] at hall
      exact (hall.raised rfl e rfl).1 (by simpa [Link.isConnected, Link.endCall] using hup)
  · rename_i outcome _
    obtain rfl := Option.some.inj hstep
    rcases outcome with e | u
    · exact (hall.raised rfl e rfl).1 hf
    · exact hf.elim
  · cases hstep

/-! ## Runs -/

variable {isResponse : Frame → Int → Bool} {address : String} {device : Option String}

def ConnectFailsWhileUp (t : BleTransport) : TransportEvent → Prop
  | .link e => FailsWhileUp t.link e
  | .channel _ => False

/-- **When `connect` is all or nothing.** All along a run, exactly if no `connect` of it fails while
the link is up. -/
theorem all_or_nothing_iff (es : List TransportEvent) (t : BleTransport)
    (hrun : (BleTransport.machine isResponse address device).Reaches es t) :
    (BleTransport.machine isResponse address device).Always (fun t => AllOrNothing t.link) es ↔
      (BleTransport.machine isResponse address device).EveryStep (fun t e => ¬ ConnectFailsWhileUp t e)
        es := by
  have hnew : Sound (Link.new address device) := by
    simp [Sound, Link.new, Link.isConnected]
  refine Machine.always_iff _ (I := fun t => Sound t.link) (P := fun t => AllOrNothing t.link) hnew
    (allOrNothing_of_sound _ hnew) ?_ ?_ hrun
  · rintro t (e | e) t' ht hstep hf
    · obtain ⟨l, hl, rfl⟩ := Option.map_eq_some_iff.mp hstep
      exact sound_step t.link l e ht hl hf
    · obtain ⟨c, -, rfl⟩ := Option.map_eq_some_iff.mp hstep
      exact ht
  · rintro t (e | e) t' ht hstep
    · obtain ⟨l, hl, rfl⟩ := Option.map_eq_some_iff.mp hstep
      constructor
      · intro hall hf
        exact failsWhileUp_step t.link l e hl hf hall
      · intro hf
        exact allOrNothing_of_sound l (sound_step t.link l e ht hl hf)
    · obtain ⟨c, -, rfl⟩ := Option.map_eq_some_iff.mp hstep
      exact ⟨fun _ => id, fun _ => allOrNothing_of_sound _ ht⟩

/-- A client that exposes no service of the lock. -/
def noServiceFound : List TransportEvent :=
  [.link .connect, .link (.established (.ok (true, fun _ => .ok none)))]

/-- `connect` raises and leaves a client that counts as connected, and the next `connect` returns
without any work. -/
theorem connect_half_done :
    (∃ t, routingMachine.Reaches noServiceFound t ∧ t.link.isConnected ∧
      t.link.outcome.map (·.1) = some .connect ∧ t.link.outcome ≠ some (.connect, .ok ())) ∧
    ∃ t, routingMachine.Reaches (noServiceFound ++ [.link .connect]) t ∧ t.link.isConnected ∧
      t.link.outcome = some (.connect, .ok ()) ∧ t.link.writeChar = none ∧ t.link.notifying = [] := by
  rw [Machine.exists_reaches, Machine.exists_reaches]
  exact ⟨by decide +kernel, by decide +kernel⟩

theorem all_or_nothing_iff_noServiceFound :
    routingMachine.Always (fun t => AllOrNothing t.link) noServiceFound ↔
      routingMachine.EveryStep (fun t e => ¬ ConnectFailsWhileUp t e) noServiceFound := by
  obtain ⟨t, hrun, -⟩ := (Machine.exists_reaches routingMachine noServiceFound
    (fun t => t.link.isConnected)).mpr (by decide +kernel)
  exact all_or_nothing_iff noServiceFound t hrun

end TtlockBle.Connections
