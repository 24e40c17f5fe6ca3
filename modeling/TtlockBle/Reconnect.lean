import TtlockBle.Leftover
import TtlockBle.Link
import TtlockBle.QueryState

/-!
# Reconnecting

`connect` makes a new client but keeps the reassembler and the inbox of the link before.
-/

open TtlockBle.Lib

namespace TtlockBle.Reconnect

open Transport

variable {isResponse : Frame → Int → Bool} {address : String} {device : Option String}

/-- The events by which a `connect` that has its client succeeds, among others. -/
def Succeeds (es : List TransportEvent) : Prop :=
  [.startedNotify (.ok ()), .settled, .wakeRead] <+: es.filterMap fun
    | .link e => some e
    | _ => none

/-- From the new client on, only the bytes of the new link count, and the first exchange on it does
not return a frame from before. -/
def StartsClean (isResponse : Frame → Int → Bool) (address : String) (device : Option String)
    (t₁ : BleTransport) : Prop :=
  let m := BleTransport.machine isResponse address device
  (∀ es t, m.Run t₁ es t → Succeeds es →
    t.channel.arrived.map (·.frame) =
      t₁.channel.arrived.map (·.frame) ++ (FrameReassembler.new.feedAll (notified es)).1) ∧
  (∀ es t₂ frame es' t y reply, m.Run t₁ es t₂ → (∀ f, .channel (.exchange f) ∉ es) →
    m.Run t₂ (.channel (.exchange frame) :: es') t → Succeeds (es ++ es') →
    t.channel.ended = t₂.channel.ended ++ [y] → y.outcome = .ok reply →
    t₁.channel.arrived.length ≤ reply.number)

/-! ## What is kept -/

theorem frames_since (t₁ t : BleTransport) (es : List TransportEvent)
    (hsettled : Reassembler.frameScanner.Settled t₁.channel.reassembler.buf)
    (hrun : (BleTransport.machine isResponse address device).Run t₁ es t) :
    t.channel.arrived.map (·.frame) = t₁.channel.arrived.map (·.frame) ++
      (Reassembler.frameScanner.run (t₁.channel.reassembler.buf ++ (notified es).flatten)).1 := by
  obtain ⟨frames, hfeed, harrived⟩ := run_received t₁ t es hrun
  rw [Reassembler.feedAll_eq, Reassembler.frameScanner.feedAll_flatten _ hsettled] at hfeed
  have hframes := congrArg Prod.fst hfeed
  simp only at hframes
  rw [harrived, ← hframes]
  rfl

theorem frames_new (es : List TransportEvent) :
    (FrameReassembler.new.feedAll (notified es)).1 =
      (Reassembler.frameScanner.run (notified es).flatten).1 := by
  rw [Reassembler.feedAll_eq, Reassembler.frameScanner.feedAll_flatten _ Reassembler.settled_new]
  rfl

theorem settled_reachable (es : List TransportEvent) (t : BleTransport)
    (hrun : (BleTransport.machine isResponse address device).Reaches es t) :
    Reassembler.frameScanner.Settled t.channel.reassembler.buf := by
  obtain ⟨frames, hfeed, -⟩ := run_received _ t es hrun
  have h := Reassembler.settled_feedAll (notified es)
  rwa [show FrameReassembler.new.feedAll (notified es) = _ from hfeed] at h

structure NewerThan (n : Nat) (c : Channel) : Prop where
  arrived : n ≤ c.arrived.length
  inbox : ∀ a ∈ c.inbox, n ≤ a.number

theorem newerThan_move (n : Nat) (c c' : Channel) (hm : Move isResponse c c') (h : NewerThan n c) :
    NewerThan n c' := by
  cases hm with
  | arrive frame =>
    have hn := h.arrived
    constructor
    · rw [dispatch_arrived, List.length_append]
      omega
    · intro a ha
      by_cases hpos : 0 < c.waitingForResponse
      · rw [dispatch_busy c frame hpos] at ha
        rcases List.mem_append.mp ha with ha | ha
        · exact h.inbox a ha
        · rw [List.mem_singleton.mp ha]
          exact hn
      · rw [dispatch_idle c frame hpos] at ha
        exact h.inbox a ha
  | buffer r => exact ⟨h.arrived, h.inbox⟩
  | begin frame phase hx => exact ⟨h.arrived, h.inbox⟩
  | write x phase written hx => exact ⟨h.arrived, h.inbox⟩
  | reply x a rest hx ha hr =>
    exact ⟨h.arrived, fun b hb => h.inbox b (by rw [ha]; exact List.mem_cons_of_mem _ hb)⟩
  | push x a rest hx ha hr =>
    exact ⟨h.arrived, fun b hb => h.inbox b (by rw [ha]; exact List.mem_cons_of_mem _ hb)⟩
  | fail x e hx => exact ⟨h.arrived, h.inbox⟩

theorem newerThan_run (n : Nat) (t₁ t : BleTransport) (es : List TransportEvent)
    (h : NewerThan n t₁.channel)
    (hrun : (BleTransport.machine isResponse address device).Run t₁ es t) : NewerThan n t.channel := by
  exact run_moves_invariant isResponse (newerThan_move n) t₁ t es h hrun

theorem number_ge (c : Channel) (hc : Conserved isResponse c) (n : Nat) (a : Arrival)
    (ha : a ∈ c.arrived.drop n) : n ≤ a.number := by
  have h : a.number ∈ (c.arrived.map Arrival.number).drop n := by
    rw [← List.map_drop]
    exact List.mem_map_of_mem ha
  rw [hc.numbered, List.mem_drop_iff_getElem] at h
  obtain ⟨i, hi, hget⟩ := h
  simp only [List.getElem_range] at hget
  omega

theorem startsClean_of_clean (es₁ : List TransportEvent) (t₁ : BleTransport)
    (h₁ : (BleTransport.machine isResponse address device).Reaches es₁ t₁)
    (hbuf : Leftover.Clean t₁.channel.reassembler.buf) (hinbox : t₁.channel.inbox = []) :
    StartsClean isResponse address device t₁ := by
  have hsettled := settled_reachable es₁ t₁ h₁
  constructor
  · intro es t hrun _
    rw [frames_since t₁ t es hsettled hrun, frames_new, Leftover.run_clean _ _ hsettled hbuf]
  · intro es t₂ frame es' t y reply hes _ hes' _ hended hreply
    have hreach : (BleTransport.machine isResponse address device).Reaches (es₁ ++ es) t₂ :=
      (Machine.reaches_append _ _ _ _).mpr ⟨t₁, h₁, hes⟩
    have hreach' := (Machine.reaches_append _ _ _ _).mpr ⟨t₂, hreach, hes'⟩
    have hnewer := newerThan_run t₁.channel.arrived.length t₁ t₂ es ⟨le_rfl, by simp [hinbox]⟩ hes
    obtain ⟨hfirst, -, -⟩ := QueryState.reply_first _ _ t₂ t hreach hes' y hended reply hreply
    have hmem : reply ∈ QueryState.window t₂.channel t.channel := hfirst.subset (by simp)
    rcases List.mem_append.mp hmem with hmem | hmem
    · exact hnewer.inbox reply hmem
    · exact hnewer.arrived.trans (number_ge _ (run_conserved _ t hreach') _ reply hmem)

/-! ## What is not -/

/-- The rest of a `connect` that has its client. -/
def finish : List TransportEvent :=
  [.link (.startedNotify (.ok ())), .link .settled, .link .wakeRead]

theorem succeeds_finish (es : List TransportEvent) : Succeeds (finish ++ es) :=
  ⟨_, rfl⟩

variable (isResponse address device) in
theorem run_finish (t : BleTransport) (hphase : t.link.phase = .startingNotify) :
    ∃ t', (BleTransport.machine isResponse address device).Run t finish t' ∧ t'.channel = t.channel ∧
      t'.link.client = t.link.client ∧ t'.link.writeChar = t.link.writeChar := by
  simp [finish, BleTransport.machine, BleTransport.step, Link.step, hphase, Link.startedNotify, Link.endCall]

theorem silent_of_startsClean (es₁ : List TransportEvent) (t₁ : BleTransport)
    (h₁ : (BleTransport.machine isResponse address device).Reaches es₁ t₁)
    (hphase : t₁.link.phase = .startingNotify) (hclean : StartsClean isResponse address device t₁) :
    Leftover.Silent t₁.channel.reassembler.buf := by
  intro c _
  obtain ⟨t₂, hrun, hchannel, -⟩ := run_finish isResponse address device t₁ hphase
  have hnotify : (BleTransport.machine isResponse address device).Run t₁ (finish ++ [notification c])
      { t₂ with channel := t₂.channel.onNotify c } :=
    (Machine.run_concat _ _ _ _ _).mpr ⟨t₂, hrun, rfl⟩
  have hnotified : notified (finish ++ [notification c]) = [c] := rfl
  have hframes := hclean.1 _ _ hnotify (succeeds_finish _)
  rw [frames_since t₁ _ _ (settled_reachable es₁ t₁ h₁) hnotify, frames_new, hnotified] at hframes
  simpa using hframes

variable (isResponse address device) in
theorem run_writes (t : BleTransport) (x : Exchange) (client : BleakClient) (n : Nat) (chunks : List Bytes)
    (hx : t.channel.exchange = some x) (hphase : x.phase = .sending n chunks)
    (hclient : t.link.client = some client) :
    ∃ k t', (BleTransport.machine isResponse address device).Run t
        (List.replicate k (.channel .wrote)) t' ∧
      t'.channel.exchange = some { x with phase := .receiving } ∧
      t'.channel.inbox = t.channel.inbox ∧ t'.channel.ended = t.channel.ended := by
  induction chunks generalizing t x n with
  | nil =>
    refine ⟨1, { t with channel := t.channel.writeNext t.link x [] }, ?_, rfl, rfl, rfl⟩
    simp [BleTransport.machine, BleTransport.step, Channel.step, hx, hphase]
  | cons chunk chunks ih =>
    let t₁ : BleTransport := { t with channel := t.channel.writeNext t.link x (chunk :: chunks) }
    have hx₁ : t₁.channel.exchange = some { x with phase := .sending client.number chunks } := by
      simp [t₁, Channel.writeNext, hclient]
    obtain ⟨k, t', hrun, hx', hinbox, hended⟩ := ih t₁ _ client.number hx₁ rfl hclient
    refine ⟨k + 1, t', ?_, hx', ?_, ?_⟩
    · rw [List.replicate_succ, Machine.run_cons]
      refine ⟨t₁, ?_, hrun⟩
      simp [BleTransport.machine, BleTransport.step, Channel.step, hx, hphase, t₁]
    · rw [hinbox]
      simp [t₁, Channel.writeNext, hclient]
    · rw [hended]
      simp [t₁, Channel.writeNext, hclient]

variable (isResponse address device) in
theorem run_returns (t : BleTransport) (frame : Frame) (a : Arrival) (rest : List Arrival)
    (client : BleakClient) (hx : t.channel.exchange = none) (ha : t.channel.inbox = a :: rest)
    (hclient : t.link.client = some client) (hchar : t.link.writeChar.isSome)
    (hr : isResponse a.frame frame.command) :
    ∃ es t' y, (BleTransport.machine isResponse address device).Run t
        (.channel (.exchange frame) :: es) t' ∧
      t'.channel.ended = t.channel.ended ++ [y] ∧ y.outcome = .ok a := by
  obtain ⟨chunk, chunks, hchunks⟩ := List.exists_cons_of_ne_nil (wireChunks_ne_nil frame)
  let x : Exchange :=
    ⟨frame, .sending client.number chunks, t.channel.arrived.length, t.channel.pushed.length, []⟩
  let t₁ : BleTransport := { t with channel := t.channel.beginExchange t.link frame }
  have hnone : ¬ (t.link.client.isNone ∨ t.link.writeChar.isNone) := by
    cases hw : t.link.writeChar <;> simp_all
  have hbegin : t₁.channel.exchange = some x ∧ t₁.channel.inbox = a :: rest ∧
      t₁.channel.ended = t.channel.ended := by
    simp only [t₁, Channel.beginExchange]
    rw [if_neg hnone, hchunks]
    simp [Channel.writeNext, hclient, ha, x]
  obtain ⟨hx₁, hinbox₁, hended₁⟩ := hbegin
  obtain ⟨k, t₂, hrun, hx₂, hinbox₂, hended₂⟩ := run_writes isResponse address device t₁ x client
    client.number chunks hx₁ rfl hclient
  rw [hinbox₁] at hinbox₂
  refine ⟨List.replicate k (.channel .wrote) ++ [.channel .take],
    { t₂ with channel := t₂.channel.take isResponse { x with phase := .receiving } a rest },
    ⟨{ x with phase := .receiving }, .ok a⟩, ?_, ?_, rfl⟩
  · rw [Machine.run_cons]
    refine ⟨t₁, ?_, (Machine.run_concat _ _ _ _ _).mpr ⟨t₂, hrun, ?_⟩⟩
    · simp [BleTransport.machine, BleTransport.step, Channel.step, hx, t₁]
    · simp [BleTransport.machine, BleTransport.step, Channel.step, hx₂, hinbox₂]
  · simp [Channel.take, x, hr, Channel.endExchange, hended₂, hended₁]

theorem inbox_arrived (c : Channel) (hc : Conserved isResponse c) (a : Arrival) (ha : a ∈ c.inbox) :
    a.number < c.arrived.length := by
  apply HeldBack.number_lt isResponse c hc
  rw [← hc.places.mem_iff]
  exact List.mem_append_left _ (List.mem_append_left _ ha)

theorem inbox_of_startsClean (haccepts : ∀ frame, ∃ command, isResponse frame command)
    (es₁ : List TransportEvent) (t₁ : BleTransport)
    (h₁ : (BleTransport.machine isResponse address device).Reaches es₁ t₁)
    (hphase : t₁.link.phase = .startingNotify) (client : BleakClient)
    (hclient : t₁.link.client = some client) (hchar : t₁.link.writeChar.isSome)
    (hclean : StartsClean isResponse address device t₁) : t₁.channel.inbox = [] := by
  by_contra hne
  obtain ⟨a, rest, ha⟩ := List.exists_cons_of_ne_nil hne
  obtain ⟨command, hr⟩ := haccepts a.frame
  obtain ⟨t₂, hfinish, hchannel, hclient₂, hchar₂⟩ := run_finish isResponse address device t₁
    hphase
  -- An exchange of the old link is over first.
  have hidle : ∃ es t₃, (BleTransport.machine isResponse address device).Run t₁ (finish ++ es) t₃ ∧
      (∀ f, .channel (.exchange f) ∉ finish ++ es) ∧ t₃.channel.exchange = none ∧
      t₃.channel.inbox = a :: rest ∧ t₃.link = t₂.link := by
    cases hx : t₂.channel.exchange with
    | none =>
      exact ⟨[], t₂, by simpa using hfinish, by simp [finish], hx, by rw [hchannel, ha], rfl⟩
    | some x =>
      refine ⟨[.channel .cancel], { t₂ with channel := t₂.channel.endExchange x (.error cancelledError) },
        (Machine.run_concat _ _ _ _ _).mpr ⟨t₂, hfinish, ?_⟩, by simp [finish], rfl, ?_, rfl⟩
      · simp [BleTransport.machine, BleTransport.step, Channel.step, hx]
      · simp [Channel.endExchange, hchannel, ha]
  obtain ⟨es, t₃, hrun, hno, hx, hinbox, hlink⟩ := hidle
  let frame : Frame := ⟨5, 0, 0, 0, 0, command, encryptPlain, []⟩
  obtain ⟨es', t, y, hrun', hended, hreply⟩ := run_returns isResponse address device t₃
    frame a rest client hx hinbox (by rw [hlink, hclient₂, hclient]) (by rw [hlink, hchar₂]; exact hchar) hr
  have hold := hclean.2 _ t₃ frame es' t y a hrun hno hrun'
    (by rw [List.append_assoc]; exact succeeds_finish _) hended hreply
  have hlt := inbox_arrived t₁.channel (run_conserved es₁ t₁ h₁) a (by simp [ha])
  omega

theorem answers_some (self : TTLockClient) (frame : Frame) : ∃ command, self.answers frame command := by
  cases h : decoded self frame with
  | error e => exact ⟨0, (answers_iff self frame 0).mpr (.inl ⟨e, h⟩)⟩
  | ok r =>
    obtain ⟨echo, status, data⟩ := r
    exact ⟨echo.toNat, (answers_iff self frame _).mpr (.inr ⟨echo, status, data, h, rfl⟩)⟩

/-- **When a reconnect starts clean.** Whatever happened before `connect` got its new client, the new
link starts clean exactly if the reassembler kept nothing that can show and no frame was left in the
inbox. -/
theorem starts_clean_iff (self : TTLockClient) (address : String) (device : Option String)
    (es₀ : List TransportEvent) (t₀ t₁ : BleTransport) (up : Bool) (services : Services) (chars : Nat × Nat)
    (h₀ : (BleTransport.machine self.answers address device).Reaches es₀ t₀)
    (hservices : discoverChars services = .ok chars)
    (hstep : t₀.step self.answers (.link (.established (.ok (up, services)))) = some t₁) :
    StartsClean self.answers address device t₁ ↔
      Leftover.Clean t₀.channel.reassembler.buf ∧ t₀.channel.inbox = [] := by
  have h₁ := (Machine.reaches_concat (BleTransport.machine self.answers address device) es₀
    (.link (.established (.ok (up, services)))) t₁).mpr ⟨t₀, h₀, hstep⟩
  obtain ⟨l, hl, rfl⟩ := Option.map_eq_some_iff.mp hstep
  have hlink : l = t₀.link.established (.ok (up, services)) := by
    unfold Link.step at hl
    split at hl <;> simp_all
  simp only [Link.established, hservices] at hlink
  constructor
  · intro hclean
    refine ⟨?_, ?_⟩
    · exact (Leftover.clean_iff _).mpr
        (silent_of_startsClean _ ⟨l, t₀.channel⟩ h₁ (by rw [hlink]) hclean)
    · exact inbox_of_startsClean (answers_some self) _ ⟨l, t₀.channel⟩ h₁ (by rw [hlink]) _
        (by rw [hlink]) (by rw [hlink]; rfl) hclean
  · rintro ⟨hbuf, hinbox⟩
    exact startsClean_of_clean _ _ h₁ hbuf hinbox

/-- The first bytes of a frame that declares 255 bytes of payload, and the link is gone. -/
def cutOff : List TransportEvent :=
  linkUp ++ [notification [0x7F, 0x5A, 0x05, 0x03, 0x02, 0x00, 0x01, 0x00, 0x01, 0x54, 0xAA, 0xFF],
    .link .drop, .link .connect, .link (.disconnected (.ok ()))]

def newClient : TransportEvent := .link (.established (.ok (true, allServices)))

/-- On the new link a whole reply comes, and no frame of it. -/
theorem reply_swallowed :
    (∃ t, routingMachine.Reaches (cutOff ++ [newClient] ++ finish ++ [notification replyFrame.build]) t ∧
      t.link.isConnected ∧ t.channel.arrived = []) ∧
    (FrameReassembler.new.feedAll [replyFrame.build]).1 = [replyFrame] := by
  rw [Machine.exists_reaches]
  exact ⟨by decide +kernel, by decide +kernel⟩

theorem starts_clean_iff_cutOff :
    ∃ t₀ t₁ : BleTransport, routingMachine.Reaches (cutOff ++ [newClient]) t₁ ∧
      (StartsClean (makeClient routingTable).answers makeVirtualKey.lockMac (some makeVirtualKey.lockMac) t₁ ↔
        Leftover.Clean t₀.channel.reassembler.buf ∧ t₀.channel.inbox = []) := by
  obtain ⟨t₁, h₁, -⟩ := (Machine.exists_reaches routingMachine (cutOff ++ [newClient])
    (fun t => t.link.isConnected)).mpr (by decide +kernel)
  obtain ⟨t₀, h₀, hstep⟩ := (Machine.reaches_concat _ _ _ _).mp h₁
  exact ⟨t₀, t₁, h₁, starts_clean_iff (makeClient routingTable) _ _ cutOff t₀ t₁ true allServices (0, 0) h₀
    (by decide +kernel) hstep⟩

end TtlockBle.Reconnect
