import TtlockBle.HeldBack

/-!
# The answer to `query_state`

An exchange returns the first frame of its window that `is_response` accepts. A push that echoes
0x14 is accepted like the answer to a 0x14 request, so which of the two is returned depends on which
came first.
-/

open TtlockBle.Lib

namespace TtlockBle.QueryState

open Transport

/-! ## The window of an exchange -/

/-- The frames that an exchange begun in `c₀` has had before it by the time of `c`. -/
def window (c₀ c : Channel) : List Arrival := c₀.inbox ++ c.arrived.drop c₀.arrived.length

/-- What has become of an exchange that began in `c₀`: it is running and has pushed the first frames
of its window, or it is over, and its reply came right behind the ones it pushed. -/
inductive Progress (frame : Frame) (c₀ c : Channel) : Prop where
  | running (x : Exchange) : c.exchange = some x → x.frame = frame → c.ended = c₀.ended →
      x.took ++ c.inbox = window c₀ c → Progress frame c₀ c
  | finished (y : Ended) (later : List Ended) : c.ended = c₀.ended ++ y :: later → y.exchange.frame = frame →
      (∀ reply, y.outcome = .ok reply → y.exchange.took ++ [reply] <+: window c₀ c) → Progress frame c₀ c

variable {isResponse : Frame → Int → Bool} {frame : Frame} {c₀ : Channel}

theorem window_arrive (c : Channel) (f : Frame) (hlen : c₀.arrived.length ≤ c.arrived.length) :
    window c₀ (c.dispatch f) = window c₀ c ++ [⟨c.arrived.length, f⟩] := by
  rw [window, dispatch_arrived, List.drop_append_of_le_length hlen, ← List.append_assoc]
  rfl

structure Inv (isResponse : Frame → Int → Bool) (frame : Frame) (c₀ c : Channel) : Prop where
  conserved : Conserved isResponse c
  length : c₀.arrived.length ≤ c.arrived.length
  progress : Progress frame c₀ c

theorem progress_arrive (c : Channel) (f : Frame) (h : Inv isResponse frame c₀ c) :
    Progress frame c₀ (c.dispatch f) := by
  have hwindow := window_arrive c f h.length
  rcases h.progress with ⟨x, hx, hframe, hended, htook⟩ | ⟨y, later, hended, hframe, hreply⟩
  · have hpos : 0 < c.waitingForResponse := by
      rw [waiting_iff isResponse c h.conserved, hx]
      rfl
    refine .running x ?_ hframe ?_ ?_
    · rwa [dispatch_exchange]
    · rwa [dispatch_ended]
    · rw [hwindow, ← htook, dispatch_busy c f hpos, List.append_assoc]
  · refine .finished y later ?_ hframe ?_
    · rwa [dispatch_ended]
    · intro reply hr
      rw [hwindow]
      exact (hreply reply hr).trans (List.prefix_append _ _)

theorem progress_end (c : Channel) (x : Exchange) (outcome : Py Arrival) (rest : List Arrival)
    (hx : c.exchange = some x) (hinbox : c.inbox = outcome.toOption.toList ++ rest)
    (h : Progress frame c₀ c) :
    Progress frame c₀ ({ c with inbox := rest }.endExchange x outcome) := by
  rcases h with ⟨x', hx', hframe, hended, htook⟩ | ⟨y, later, hended, hframe, hreply⟩
  · obtain rfl : x' = x := Option.some.inj (hx'.symm.trans hx)
    refine .finished ⟨x', outcome⟩ [] ?_ hframe ?_
    · simp [Channel.endExchange, hended]
    · rintro reply rfl
      refine ⟨rest, ?_⟩
      show _ = window c₀ c
      rw [← htook, hinbox]
      simp [Except.toOption]
  · refine .finished y (later ++ [⟨x, outcome⟩]) ?_ hframe hreply
    simp [Channel.endExchange, hended]

theorem inv_move (c c' : Channel) (hm : Move isResponse c c') (h : Inv isResponse frame c₀ c) :
    Inv isResponse frame c₀ c' := by
  have hconserved := conserved_move isResponse c c' hm h.conserved
  cases hm with
  | arrive f =>
    refine ⟨hconserved, ?_, progress_arrive c f h⟩
    have := h.length
    rw [dispatch_arrived, List.length_append]
    omega
  | buffer r =>
    refine ⟨hconserved, h.length, ?_⟩
    rcases h.progress with ⟨x, hx, hframe, hended, htook⟩ | ⟨y, later, hended, hframe, hreply⟩
    · exact .running x hx hframe hended htook
    · exact .finished y later hended hframe hreply
  | begin f phase hx =>
    refine ⟨hconserved, h.length, ?_⟩
    rcases h.progress with ⟨x, hx', hframe, hended, htook⟩ | ⟨y, later, hended, hframe, hreply⟩
    · simp [hx] at hx'
    · exact .finished y later hended hframe hreply
  | write x phase written hx =>
    refine ⟨hconserved, h.length, ?_⟩
    rcases h.progress with ⟨x', hx', hframe, hended, htook⟩ | ⟨y, later, hended, hframe, hreply⟩
    · obtain rfl : x' = x := Option.some.inj (hx'.symm.trans hx)
      exact .running _ rfl hframe hended htook
    · exact .finished y later hended hframe hreply
  | reply x a rest hx ha hr =>
    exact ⟨hconserved, h.length, progress_end c x (.ok a) rest hx ha h.progress⟩
  | push x a rest hx ha hr =>
    refine ⟨hconserved, h.length, ?_⟩
    rcases h.progress with ⟨x', hx', hframe, hended, htook⟩ | ⟨y, later, hended, hframe, hreply⟩
    · obtain rfl : x' = x := Option.some.inj (hx'.symm.trans hx)
      refine .running _ rfl hframe hended ?_
      show x'.took ++ [a] ++ rest = window c₀ c
      rw [← htook, ha, List.append_assoc]
      rfl
    · exact .finished y later hended hframe hreply
  | fail x e hx =>
    exact ⟨hconserved, h.length, progress_end c x (.error e) c.inbox hx rfl h.progress⟩

/-! ## Its reply -/

theorem inv_begin (l : Link) (hc : Conserved isResponse c₀) (hx : c₀.exchange = none) :
    Inv isResponse frame c₀ (c₀.beginExchange l frame) := by
  refine moves_invariant isResponse (fun c c' => inv_move c c') _ _ (begun_moves isResponse c₀ l frame) ?_
  refine ⟨conserved_move isResponse _ _ (.begin c₀ frame .receiving hx) hc, le_rfl, ?_⟩
  exact .running _ rfl rfl rfl (by simp [window])

theorem reply_first {address : String} {device : Option String} (es₀ es : List TransportEvent)
    (t₀ t : BleTransport) (h₀ : (BleTransport.machine isResponse address device).Reaches es₀ t₀)
    (hrun : (BleTransport.machine isResponse address device).Run t₀ (.channel (.exchange frame) :: es) t)
    (y : Ended) (hended : t.channel.ended = t₀.channel.ended ++ [y]) (reply : Arrival)
    (hreply : y.outcome = .ok reply) :
    y.exchange.took ++ [reply] <+: window t₀.channel t.channel ∧
      (∀ a ∈ y.exchange.took, ¬ isResponse a.frame frame.command) ∧
      isResponse reply.frame frame.command := by
  obtain ⟨t₁, h₁, hrun⟩ := (Machine.run_cons _ _ _ _ _).mp hrun
  obtain ⟨c₁, hc₁, rfl⟩ := Option.map_eq_some_iff.mp h₁
  have hidle : t₀.channel.exchange = none ∧ c₁ = t₀.channel.beginExchange t₀.link frame := by
    cases step_effect isResponse t₀.link t₀.channel c₁ _ hc₁ with
    | exchange frame hx => exact ⟨hx, rfl⟩
    | fail x e err hx hfails => exact hfails.elim
  obtain ⟨hx, rfl⟩ := hidle
  have hinv : Inv isResponse frame t₀.channel t.channel :=
    run_moves_invariant isResponse inv_move _ t es (inv_begin t₀.link (run_conserved es₀ t₀ h₀) hx) hrun
  have hmem : y ∈ t.channel.ended := by simp [hended]
  rcases hinv.progress with ⟨x, -, -, hnone, -⟩ | ⟨y', later, hover, hframe, hfirst⟩
  · simp [hended] at hnone
  · rw [hended, List.append_cancel_left_eq, List.cons.injEq] at hover
    obtain ⟨rfl, -⟩ := hover
    refine ⟨hfirst reply hreply, ?_, ?_⟩
    · rw [← hframe]
      exact (hinv.conserved.finished y hmem).rejected
    · rw [← hframe]
      exact hinv.conserved.answered y hmem reply hreply

/-- Of two ways to split a list at an accepted element, the one with nothing accepted before it is
the only one. -/
theorem split_first {α : Type} (p : α → Bool) (took pre rest post : List α) (reply answer : α)
    (h : took ++ [reply] ++ rest = pre ++ answer :: post) (htook : ∀ a ∈ took, ¬ p a)
    (hanswer : p answer) (hreply : reply ∉ pre) : took = pre ∧ reply = answer := by
  rcases List.append_eq_append_iff.mp h with ⟨as, hpre, -⟩ | ⟨bs, hbs, hrest⟩
  · exact absurd (by simp [hpre]) hreply
  · rcases bs with _ | ⟨b, bs⟩
    · rw [List.append_nil] at hbs
      exact absurd (by simp [← hbs]) hreply
    · obtain ⟨rfl, -⟩ := List.cons.inj hrest
      rcases List.eq_nil_or_concat bs with rfl | ⟨bs, b, rfl⟩
      · obtain ⟨htp, hra⟩ := List.append_inj' hbs rfl
        exact ⟨htp, List.singleton_inj.mp hra⟩
      · have hmem : answer ∈ took := by
          have heq : took ++ [reply] = (pre ++ answer :: bs) ++ [b] := by simpa using hbs
          rw [(List.append_inj' heq rfl).1]
          simp
        exact absurd hanswer (htook answer hmem)

theorem reply_not_pushed (c : Channel) (hc : Conserved isResponse c) (y : Ended) (hy : y ∈ c.ended)
    (reply : Arrival) (hreply : y.outcome = .ok reply) : reply ∉ c.pushed := by
  intro hp
  have hr : reply ∈ returned c := List.mem_filterMap.mpr ⟨y, hy, by rw [hreply]; rfl⟩
  have hnodup := hc.places.nodup_iff.mpr (HeldBack.arrived_nodup isResponse c hc)
  exact (List.nodup_append.mp hnodup).2.2 reply (List.mem_append_right _ hp) reply hr rfl

/-! ## `query_state` -/

def queryResult (self : TTLockClient) (reply : Frame) : Option (Py (Option LockState × Option UInt8)) :=
  self.queryState.outcome (replying reply)

theorem frame_command (self : TTLockClient) (command : Int) (payload : Bytes) (frame : Frame)
    (h : self.frame command payload = .ok frame) : frame.command = command := by
  unfold TTLockClient.frame Frame.encryptData at h
  cases hdata : aesEncrypt self.aes (Frame.forLock self.key.lockVersion command payload).data self.aesKey with
  | error e => simp [hdata, bind, Except.bind] at h
  | ok data =>
    rw [hdata] at h
    obtain rfl := Except.ok.inj h
    rfl

/-- **Whose answer `query_state` reports.** With `answer` the lock's answer and `pre` the frames
before it in the window, it reports the answer and hands on the others exactly if none of them is
accepted too. -/
theorem query_state_iff (self : TTLockClient) (address : String) (device : Option String)
    (es₀ es : List TransportEvent) (t₀ t : BleTransport) (frame : Frame)
    (hframe : self.frame cmdQueryState payloadQueryState = .ok frame)
    (h₀ : (BleTransport.machine self.answers address device).Reaches es₀ t₀)
    (hrun : (BleTransport.machine self.answers address device).Run t₀ (.channel (.exchange frame) :: es) t)
    (y : Ended) (hended : t.channel.ended = t₀.channel.ended ++ [y]) (reply : Arrival)
    (hreply : y.outcome = .ok reply) (pre post : List Arrival) (answer : Arrival)
    (hwindow : window t₀.channel t.channel = pre ++ answer :: post)
    (hanswer : self.answers answer.frame cmdQueryState) :
    (queryResult self reply.frame = queryResult self answer.frame ∧ ∀ p ∈ pre, p ∈ t.channel.pushed) ↔
      ∀ p ∈ pre, ¬ self.answers p.frame cmdQueryState := by
  obtain ⟨hfirst, htook, haccepted⟩ := reply_first es₀ es t₀ t h₀ hrun y hended reply hreply
  rw [frame_command self _ _ frame hframe] at htook haccepted
  obtain ⟨rest, hrest⟩ := hfirst
  rw [hwindow] at hrest
  have hreach := (Machine.reaches_append _ _ _ _).mpr ⟨t₀, h₀, hrun⟩
  have hconserved := run_conserved _ t hreach
  have hmem : y ∈ t.channel.ended := by simp [hended]
  have hsplit : reply ∉ pre → y.exchange.took = pre ∧ reply = answer :=
    split_first (fun a => self.answers a.frame cmdQueryState) _ _ _ _ _ _ hrest htook hanswer
  constructor
  · rintro ⟨-, hpushed⟩
    have hnot : reply ∉ pre := fun h =>
      reply_not_pushed t.channel hconserved y hmem reply hreply (hpushed reply h)
    rw [← (hsplit hnot).1]
    exact htook
  · intro hpre
    have hnot : reply ∉ pre := fun h => hpre reply h haccepted
    obtain ⟨rfl, rfl⟩ := hsplit hnot
    refine ⟨rfl, fun p hp => ?_⟩
    exact List.mem_of_mem_drop ((hconserved.finished y hmem).pushed.subset hp)

/-- The cipher for the request, a log push with uid 0x1234 and an answer that says UNLOCKED. -/
def queryTable : List (Bytes × Bytes) :=
  [([0x53, 0x43, 0x49, 0x45, 0x4E, 0x45, 0x52],
      [0x70, 0xA3, 0x34, 0x71, 0x84, 0x7B, 0xCD, 0x96, 0xBC, 0x28, 0xA0, 0x1D, 0xF1, 0xCC, 0xF3, 0x18]),
    ([0x14, 0x01, 0x50, 0x00, 0x00, 0x12, 0x34, 0x00, 0x00, 0x00, 0x07, 0x1A, 0x07, 0x0F, 0x0C, 0x1E,
      0x00],
      [0xD0, 0xDC, 0x21, 0xAE, 0x6C, 0xBF, 0xB7, 0x30, 0x77, 0x49, 0x48, 0x8B, 0xE9, 0x17, 0x92, 0x78,
      0x25, 0x94, 0xB9, 0x3D, 0x68, 0xD3, 0x8A, 0x40, 0xC2, 0xF0, 0xAC, 0x38, 0x44, 0x8B, 0x9B, 0x11]),
    ([0x14, 0x01, 0x50, 0x01, 0x00],
      [0x5E, 0x4C, 0x42, 0x97, 0xC5, 0x18, 0x0F, 0xEE, 0x50, 0x8A, 0xFA, 0xF1, 0x61, 0xF2, 0xE5, 0x6E])]

def logPush : Frame := lockFrame (queryTable.getD 1 ([], [])).2

def unlockedAnswer : Frame := lockFrame (queryTable.getD 2 ([], [])).2

def queryFrame : Frame := Frame.forLock makeVirtualKey.lockVersion cmdQueryState (queryTable.getD 0 ([], [])).2

/-- The log push comes first, the answer right behind it. -/
def pushedFirst : List TransportEvent :=
  [.channel (.exchange queryFrame), .channel .wrote, .channel .wrote, notification logPush.build,
    notification unlockedAnswer.build, .channel .take]

def queryMachine : Machine BleTransport TransportEvent :=
  BleTransport.machine (makeClient queryTable).answers makeVirtualKey.lockMac (some makeVirtualKey.lockMac)

/-- The push is returned and not handed on, and its uid reads as LOCKED. -/
theorem push_reported_as_locked :
    (∃ t, queryMachine.Reaches (linkUp ++ pushedFirst) t ∧
      t.channel.ended.map (·.outcome) = [.ok ⟨0, logPush⟩] ∧ t.channel.pushed = []) ∧
    queryResult (makeClient queryTable) logPush = some (.ok (some .locked, some 80)) ∧
    queryResult (makeClient queryTable) unlockedAnswer = some (.ok (some .unlocked, some 80)) := by
  refine ⟨?_, by decide +kernel, by decide +kernel⟩
  rw [Machine.exists_reaches]
  decide +kernel

theorem query_state_iff_pushed_first :
    ∃ t reply, queryMachine.Reaches (linkUp ++ pushedFirst) t ∧
      ((queryResult (makeClient queryTable) reply = queryResult (makeClient queryTable) unlockedAnswer ∧
          ∀ p ∈ [Arrival.mk 0 logPush], p ∈ t.channel.pushed) ↔
        ∀ p ∈ [Arrival.mk 0 logPush], ¬ (makeClient queryTable).answers p.frame cmdQueryState) := by
  obtain ⟨t₀, h₀, hended₀, hinbox₀, harrived₀⟩ := (Machine.exists_reaches queryMachine linkUp
    (fun t => t.channel.ended = [] ∧ t.channel.inbox = [] ∧ t.channel.arrived = [])).mpr (by decide +kernel)
  obtain ⟨t, hreach, houtcome, harrived⟩ := (Machine.exists_reaches queryMachine (linkUp ++ pushedFirst)
    (fun t => t.channel.ended.map (·.outcome) = [.ok ⟨0, logPush⟩] ∧
      t.channel.arrived = [⟨0, logPush⟩, ⟨1, unlockedAnswer⟩])).mpr (by decide +kernel)
  obtain ⟨t₁, h₁, hrun⟩ := (Machine.reaches_append _ _ _ _).mp hreach
  obtain rfl := Machine.reaches_unique _ _ _ _ h₁ h₀
  obtain ⟨y, hended, hreply⟩ := List.map_eq_singleton_iff.mp houtcome
  refine ⟨t, logPush, hreach, ?_⟩
  exact query_state_iff (makeClient queryTable) _ _ linkUp _ t₁ t queryFrame (by decide +kernel) h₀ hrun y
    (by simp [hended, hended₀]) ⟨0, logPush⟩ hreply [⟨0, logPush⟩] [] ⟨1, unlockedAnswer⟩
    (by simp [window, hinbox₀, harrived₀, harrived]) (by decide +kernel)

end TtlockBle.QueryState
