import Mathlib.Data.List.Nodup
import Mathlib.Logic.Relation
import Mathlib.Tactic.Common
import TtlockBle.Code.Conftest
import TtlockBle.Reassembler

/-!
# Frames in the transport

Every event is a sequence of a few moves on the bookkeeping of the channel, so an invariant is
checked move by move.
-/

open TtlockBle.Lib

namespace TtlockBle.Transport

/-! ## Steps -/

section Dispatch

variable (c : Channel) (frame : Frame)

theorem dispatch_busy (h : 0 < c.waitingForResponse) :
    c.dispatch frame = { c with
      arrived := c.arrived ++ [⟨c.arrived.length, frame⟩]
      inbox := c.inbox ++ [⟨c.arrived.length, frame⟩] } := if_pos h

theorem dispatch_idle (h : ¬ 0 < c.waitingForResponse) :
    c.dispatch frame = { c with
      arrived := c.arrived ++ [⟨c.arrived.length, frame⟩]
      pushed := c.pushed ++ [⟨c.arrived.length, frame⟩] } := if_neg h

@[simp]
theorem dispatch_arrived : (c.dispatch frame).arrived = c.arrived ++ [⟨c.arrived.length, frame⟩] := by
  unfold Channel.dispatch
  simp only
  split <;> rfl

@[simp]
theorem dispatch_reassembler : (c.dispatch frame).reassembler = c.reassembler := by
  unfold Channel.dispatch
  simp only
  split <;> rfl

@[simp]
theorem dispatch_exchange : (c.dispatch frame).exchange = c.exchange := by
  unfold Channel.dispatch
  simp only
  split <;> rfl

@[simp]
theorem dispatch_ended : (c.dispatch frame).ended = c.ended := by
  unfold Channel.dispatch
  simp only
  split <;> rfl

end Dispatch

theorem wireChunks_ne_nil (frame : Frame) : wireChunks frame.build ≠ [] := by
  have hlen : 0 < frame.build.length := by simp [Frame.build]
  rw [wireChunks, ne_eq, List.map_eq_nil_iff, List.range_eq_nil]
  unfold bleWriteChunk
  omega

/-- The event ends the exchange without a reply. -/
def Fails (x : Exchange) : ChannelEvent → PyExc → Prop
  | .writeFailed text, e => (∃ client rest, x.phase = .sending client rest) ∧ e = Channel.sendFailed text
  | .timeout, e => x.phase = .receiving ∧ e = Channel.timedOut
  | .cancel, e => e = cancelledError
  | _, _ => False

variable (isResponse : Frame → Int → Bool)

/-- What an event does to the channel, and when it can come. -/
inductive Effect (l : Link) (c : Channel) : ChannelEvent → Channel → Prop where
  | notify (data) : Effect l c (.notify data) (c.onNotify data)
  | exchange (frame) : c.exchange = none → Effect l c (.exchange frame) (c.beginExchange l frame)
  | wrote (x client rest) : c.exchange = some x → x.phase = .sending client rest →
      Effect l c .wrote (c.writeNext l x rest)
  | take (x a rest) : c.exchange = some x → c.inbox = a :: rest → Effect l c .take (c.take isResponse x a rest)
  | fail (x e err) : c.exchange = some x → Fails x e err → Effect l c e (c.endExchange x (.error err))

theorem step_effect (l : Link) (c c' : Channel) (e : ChannelEvent) (h : c.step isResponse l e = some c') :
    Effect isResponse l c e c' := by
  unfold Channel.step at h
  split at h
  · obtain rfl := Option.some.inj h
    exact .notify _
  · obtain rfl := Option.some.inj h
    exact .exchange _ ‹_›
  · split at h
    · obtain rfl := Option.some.inj h
      exact .wrote _ _ _ ‹_› ‹_›
    · cases h
  · split at h
    · obtain rfl := Option.some.inj h
      exact .fail _ _ _ ‹_› ⟨⟨_, _, ‹_›⟩, rfl⟩
    · cases h
  · split at h
    · obtain rfl := Option.some.inj h
      exact .take _ _ _ ‹_› ‹_›
    · cases h
  · split at h
    · obtain rfl := Option.some.inj h
      exact .fail _ _ _ ‹_› ⟨‹_›, rfl⟩
    · cases h
  · obtain rfl := Option.some.inj h
    exact .fail _ _ _ ‹_› rfl
  · cases h

/-! ## Moves -/

def returned (c : Channel) : List Arrival := c.ended.filterMap (·.outcome.toOption)

inductive Move : Channel → Channel → Prop where
  | buffer (c r) : Move c { c with reassembler := r }
  | arrive (c frame) : Move c (c.dispatch frame)
  | begin (c frame phase) : c.exchange = none → Move c { c with
      waitingForResponse := c.waitingForResponse + 1
      exchange := some ⟨frame, phase, c.arrived.length, c.pushed.length, []⟩ }
  | write (c x phase written) : c.exchange = some x → Move c { c with
      exchange := some { x with phase := phase }
      written := written }
  | reply (c x a rest) : c.exchange = some x → c.inbox = a :: rest → isResponse a.frame x.frame.command →
      Move c ({ c with inbox := rest }.endExchange x (.ok a))
  | push (c x a rest) : c.exchange = some x → c.inbox = a :: rest → ¬ isResponse a.frame x.frame.command →
      Move c { c with
        inbox := rest
        pushed := c.pushed ++ [a]
        exchange := some { x with took := x.took ++ [a] } }
  | fail (c x e) : c.exchange = some x → Move c (c.endExchange x (.error e))

def Moves : Channel → Channel → Prop := Relation.ReflTransGen (Move isResponse)

theorem dispatch_moves (c : Channel) (frames : List Frame) :
    Moves isResponse c (frames.foldl Channel.dispatch c) := by
  induction frames generalizing c with
  | nil => exact .refl
  | cons f fs ih => exact .head (.arrive c f) (ih _)

theorem onNotify_moves (c : Channel) (data : Bytes) : Moves isResponse c (c.onNotify data) :=
  .head (.buffer c _) (dispatch_moves isResponse _ _)

theorem writeNext_moves (c : Channel) (l : Link) (x : Exchange) (chunks : List Bytes)
    (hx : c.exchange = some x) : Moves isResponse c (c.writeNext l x chunks) := by
  unfold Channel.writeNext
  split
  · exact .single (.write c x .receiving c.written hx)
  · split
    · exact .single (.fail c x _ hx)
    · exact .single (.write c x _ _ hx)

theorem begun_moves (c : Channel) (l : Link) (frame : Frame) :
    Moves isResponse { c with
      waitingForResponse := c.waitingForResponse + 1
      exchange := some ⟨frame, .receiving, c.arrived.length, c.pushed.length, []⟩ }
      (c.beginExchange l frame) := by
  unfold Channel.beginExchange
  simp only
  split
  · exact .single (.fail _ _ _ rfl)
  · exact writeNext_moves isResponse _ l _ _ rfl

theorem beginExchange_moves (c : Channel) (l : Link) (frame : Frame) (h : c.exchange = none) :
    Moves isResponse c (c.beginExchange l frame) :=
  .head (.begin c frame .receiving h) (begun_moves isResponse c l frame)

theorem take_moves (c : Channel) (x : Exchange) (a : Arrival) (rest : List Arrival)
    (hx : c.exchange = some x) (ha : c.inbox = a :: rest) :
    Moves isResponse c (c.take isResponse x a rest) := by
  unfold Channel.take
  simp only
  split
  · exact .single (.reply c x a rest hx ha ‹_›)
  · exact .single (.push c x a rest hx ha ‹_›)

theorem step_moves (l : Link) (c c' : Channel) (e : ChannelEvent)
    (h : c.step isResponse l e = some c') : Moves isResponse c c' := by
  cases step_effect isResponse l c c' e h with
  | notify data => exact onNotify_moves isResponse c data
  | exchange frame hx => exact beginExchange_moves isResponse c l frame hx
  | wrote x client rest hx => exact writeNext_moves isResponse c l x rest hx
  | take x a rest hx ha => exact take_moves isResponse c x a rest hx ha
  | fail x e err hx => exact .single (.fail c x err hx)

/-- The rule of invariants: what every move keeps, every step keeps. -/
theorem moves_invariant {I : Channel → Prop} (hmove : ∀ c c', Move isResponse c c' → I c → I c')
    (c c' : Channel) (h : Moves isResponse c c') (hc : I c) : I c' := by
  induction h with
  | refl => exact hc
  | tail _ hm ih => exact hmove _ _ hm ih

/-- An invariant of the channel holds along every run of the transport, whatever the link does. -/
theorem run_moves_invariant {I : Channel → Prop} (hmove : ∀ c c', Move isResponse c c' → I c → I c')
    {address : String} {device : Option String} (t₀ t : BleTransport) (es : List TransportEvent)
    (h₀ : I t₀.channel) (hrun : (BleTransport.machine isResponse address device).Run t₀ es t) :
    I t.channel := by
  refine Machine.run_invariant _ (I := fun t => I t.channel) h₀ ?_ hrun
  intro t e t' ht h
  cases e with
  | link e =>
    obtain ⟨l, -, rfl⟩ := Option.map_eq_some_iff.mp h
    exact ht
  | channel e =>
    obtain ⟨c, hc, rfl⟩ := Option.map_eq_some_iff.mp h
    exact moves_invariant isResponse hmove t.channel c (step_moves isResponse t.link t.channel c e hc) ht

/-! ## Conservation -/

/-- What an exchange took it pushed, in the order taken, as one block. -/
structure Block (pushed : List Arrival) (x : Exchange) : Prop where
  pushed : x.took <+: pushed.drop x.pushedBefore
  rejected : ∀ a ∈ x.took, ¬ isResponse a.frame x.frame.command

structure Conserved (c : Channel) : Prop where
  places : (c.inbox ++ c.pushed ++ returned c).Perm c.arrived
  numbered : c.arrived.map (·.number) = List.range c.arrived.length
  waiting : c.waitingForResponse = if c.exchange.isSome then 1 else 0
  /-- While an exchange runs, the block that it pushed is the last one. -/
  last : ∀ x ∈ c.exchange, c.pushed.length = x.pushedBefore + x.took.length
  running : ∀ x ∈ c.exchange, Block isResponse c.pushed x
  finished : ∀ y ∈ c.ended, Block isResponse c.pushed y.exchange
  answered : ∀ y ∈ c.ended, ∀ a, y.outcome = .ok a → isResponse a.frame y.exchange.frame.command

theorem waiting_iff (c : Channel) (h : Conserved isResponse c) :
    0 < c.waitingForResponse ↔ c.exchange.isSome := by
  rw [h.waiting]
  split <;> simp_all

theorem conserved_new : Conserved isResponse Channel.new := by
  constructor <;> simp [Channel.new, returned]

theorem block_push (pushed : List Arrival) (x : Exchange) (a : Arrival)
    (h : Block isResponse pushed x) : Block isResponse (pushed ++ [a]) x := by
  refine ⟨h.pushed.trans ?_, h.rejected⟩
  rw [List.drop_append]
  exact List.prefix_append _ _

theorem block_take (pushed : List Arrival) (x : Exchange) (a : Arrival)
    (hlast : pushed.length = x.pushedBefore + x.took.length) (ha : ¬ isResponse a.frame x.frame.command)
    (h : Block isResponse pushed x) :
    Block isResponse (pushed ++ [a]) { x with took := x.took ++ [a] } := by
  have htook : pushed.drop x.pushedBefore = x.took :=
    (h.pushed.eq_of_length (by rw [List.length_drop]; omega)).symm
  have hgrown : (pushed ++ [a]).drop x.pushedBefore = x.took ++ [a] := by
    rw [List.drop_append_of_le_length (by omega), htook]
  refine ⟨?_, ?_⟩
  · show x.took ++ [a] <+: (pushed ++ [a]).drop x.pushedBefore
    exact hgrown ▸ List.prefix_refl _
  · intro b hb
    rcases List.mem_append.mp hb with hb | hb
    · exact h.rejected b hb
    · rwa [List.mem_singleton.mp hb]

theorem block_none (pushed : List Arrival) (frame : Frame) (phase : ExchangePhase) (n : Nat) :
    Block isResponse pushed ⟨frame, phase, n, pushed.length, []⟩ :=
  ⟨List.nil_prefix, by simp⟩

theorem numbered_concat (as : List Arrival) (frame : Frame)
    (h : as.map Arrival.number = List.range as.length) :
    (as ++ [Arrival.mk as.length frame]).map Arrival.number =
      List.range (as ++ [Arrival.mk as.length frame]).length := by
  simp [h, List.range_succ]

theorem returned_endExchange (c : Channel) (x : Exchange) (outcome : Py Arrival) :
    returned (c.endExchange x outcome) = returned c ++ outcome.toOption.toList := by
  unfold returned Channel.endExchange
  cases outcome <;> simp [Except.toOption]

theorem conserved_arrive (c : Channel) (frame : Frame) (h : Conserved isResponse c) :
    Conserved isResponse (c.dispatch frame) := by
  have hplaces := List.perm_iff_count.mp h.places
  by_cases hpos : 0 < c.waitingForResponse
  · -- An exchange is running: its block stays the last one.
    rw [dispatch_busy c frame hpos]
    refine ⟨?_, numbered_concat _ _ h.numbered, h.waiting, h.last, h.running, h.finished, h.answered⟩
    refine List.perm_iff_count.mpr fun b => ?_
    have := hplaces b
    simp only [List.count_append, returned] at this ⊢
    omega
  · have hx := (waiting_iff isResponse c h).not.mp hpos
    rw [Option.not_isSome_iff_eq_none] at hx
    rw [dispatch_idle c frame hpos]
    refine ⟨?_, numbered_concat _ _ h.numbered, h.waiting, by simp [hx], by simp [hx],
      fun y hy => block_push isResponse _ _ _ (h.finished y hy), h.answered⟩
    refine List.perm_iff_count.mpr fun b => ?_
    have := hplaces b
    simp only [List.count_append, returned] at this ⊢
    omega

theorem conserved_end (c : Channel) (x : Exchange) (outcome : Py Arrival) (rest : List Arrival)
    (hx : c.exchange = some x) (hinbox : c.inbox = outcome.toOption.toList ++ rest)
    (ha : ∀ a, outcome = .ok a → isResponse a.frame x.frame.command) (h : Conserved isResponse c) :
    Conserved isResponse ({ c with inbox := rest }.endExchange x outcome) := by
  refine ⟨?_, h.numbered, ?_, by simp [Channel.endExchange], by simp [Channel.endExchange], ?_, ?_⟩
  · refine List.perm_iff_count.mpr fun b => ?_
    have := List.perm_iff_count.mp h.places b
    rw [returned_endExchange]
    simp only [hinbox, List.count_append, Channel.endExchange, returned] at this ⊢
    omega
  · have := h.waiting
    simp_all [Channel.endExchange]
  · intro y hy
    rcases List.mem_append.mp hy with hy | hy
    · exact h.finished y hy
    · rw [List.mem_singleton.mp hy]
      exact h.running x hx
  · intro y hy
    rcases List.mem_append.mp hy with hy | hy
    · exact h.answered y hy
    · rw [List.mem_singleton.mp hy]
      exact ha

theorem conserved_push (c : Channel) (x : Exchange) (a : Arrival) (rest : List Arrival)
    (hx : c.exchange = some x) (ha : c.inbox = a :: rest) (hr : ¬ isResponse a.frame x.frame.command)
    (h : Conserved isResponse c) : Conserved isResponse { c with
      inbox := rest
      pushed := c.pushed ++ [a]
      exchange := some { x with took := x.took ++ [a] } } := by
  have hlast := h.last x hx
  refine ⟨?_, h.numbered, ?_, ?_, ?_, fun y hy => block_push isResponse _ _ _ (h.finished y hy), h.answered⟩
  · refine List.perm_iff_count.mpr fun b => ?_
    have := List.perm_iff_count.mp h.places b
    simp only [ha, List.count_append, List.count_cons, List.count_nil, returned] at this ⊢
    omega
  · simpa [hx] using h.waiting
  · rintro y ⟨⟩
    simp only [List.length_append]
    omega
  · rintro y ⟨⟩
    exact block_take isResponse _ x a hlast hr (h.running x hx)

theorem conserved_move (c c' : Channel) (hm : Move isResponse c c') (h : Conserved isResponse c) :
    Conserved isResponse c' := by
  cases hm with
  | buffer r => exact ⟨h.places, h.numbered, h.waiting, h.last, h.running, h.finished, h.answered⟩
  | arrive frame => exact conserved_arrive isResponse c frame h
  | begin frame phase hx =>
    refine ⟨h.places, h.numbered, ?_, ?_, ?_, h.finished, h.answered⟩
    · have := h.waiting
      simp_all
    · rintro y ⟨⟩
      rfl
    · rintro y ⟨⟩
      exact block_none isResponse _ _ _ _
  | write x phase written hx =>
    refine ⟨h.places, h.numbered, by simpa [hx] using h.waiting, ?_, ?_, h.finished, h.answered⟩
    · rintro y ⟨⟩
      exact h.last x hx
    · rintro y ⟨⟩
      exact ⟨(h.running x hx).pushed, (h.running x hx).rejected⟩
  | reply x a rest hx ha hr =>
    exact conserved_end isResponse c x (.ok a) rest hx ha (by rintro b ⟨⟩; exact hr) h
  | push x a rest hx ha hr => exact conserved_push isResponse c x a rest hx ha hr h
  | fail x e hx => exact conserved_end isResponse c x (.error e) c.inbox hx rfl (by simp) h

/-! ## Runs -/

variable {isResponse} {address : String} {device : Option String}

theorem run_conserved (es : List TransportEvent) (t : BleTransport)
    (hrun : (BleTransport.machine isResponse address device).Reaches es t) :
    Conserved isResponse t.channel :=
  run_moves_invariant isResponse (conserved_move isResponse) _ t es (conserved_new isResponse) hrun

/-! ## What arrives -/

def notified (es : List TransportEvent) : List Bytes :=
  es.filterMap fun
    | .channel (.notify data) => some data
    | _ => none

/-- Since `c₀`, these notifications came, and the reassembler made frames of them. -/
def Received (c₀ : Channel) (chunks : List Bytes) (c : Channel) : Prop :=
  ∃ frames, c₀.reassembler.feedAll chunks = (frames, c.reassembler) ∧
    c.arrived.map (·.frame) = c₀.arrived.map (·.frame) ++ frames

theorem dispatch_received (c : Channel) (frames : List Frame) :
    (frames.foldl Channel.dispatch c).arrived.map (·.frame) = c.arrived.map (·.frame) ++ frames ∧
      (frames.foldl Channel.dispatch c).reassembler = c.reassembler := by
  induction frames generalizing c with
  | nil => simp
  | cons f fs ih =>
    rw [List.foldl_cons, (ih _).1, (ih _).2, dispatch_arrived, dispatch_reassembler]
    simp

theorem writeNext_arrived (c : Channel) (l : Link) (x : Exchange) (chunks : List Bytes) :
    (c.writeNext l x chunks).arrived = c.arrived ∧
      (c.writeNext l x chunks).reassembler = c.reassembler := by
  unfold Channel.writeNext
  split
  · exact ⟨rfl, rfl⟩
  · split <;> exact ⟨rfl, rfl⟩

theorem step_arrived (l : Link) (c c' : Channel) (e : ChannelEvent)
    (h : c.step isResponse l e = some c') (he : ∀ data, e ≠ .notify data) :
    c'.arrived = c.arrived ∧ c'.reassembler = c.reassembler := by
  cases step_effect isResponse l c c' e h with
  | notify data => exact absurd rfl (he data)
  | exchange frame hx =>
    unfold Channel.beginExchange
    simp only
    split
    · exact ⟨rfl, rfl⟩
    · exact writeNext_arrived _ l _ _
  | wrote x client rest hx => exact writeNext_arrived c l x rest
  | take x a rest hx ha =>
    unfold Channel.take
    simp only
    split <;> exact ⟨rfl, rfl⟩
  | fail x e err hx => exact ⟨rfl, rfl⟩

theorem received_notify (c₀ c : Channel) (chunks : List Bytes) (data : Bytes)
    (h : Received c₀ chunks c) : Received c₀ (chunks ++ [data]) (c.onNotify data) := by
  obtain ⟨frames, hfeed, harrived⟩ := h
  obtain ⟨harrived', hreassembler⟩ := dispatch_received
    { c with reassembler := (c.reassembler.feed data).2 } (c.reassembler.feed data).1
  refine ⟨frames ++ (c.reassembler.feed data).1, ?_, ?_⟩
  · rw [Reassembler.feedAll_append, hfeed]
    simp [FrameReassembler.feedAll, Channel.onNotify, hreassembler]
  · rw [← List.append_assoc, ← harrived]
    exact harrived'

theorem run_received (t₀ t : BleTransport) (es : List TransportEvent)
    (hrun : (BleTransport.machine isResponse address device).Run t₀ es t) :
    Received t₀.channel (notified es) t.channel := by
  refine Machine.run_history _ (I := fun es t => Received t₀.channel (notified es) t.channel) ?_ ?_ hrun
  · exact ⟨[], rfl, by simp⟩
  intro es t e t' _ ht h
  have hconcat : notified (es ++ [e]) = notified es ++ notified [e] := List.filterMap_append
  rw [hconcat]
  cases e with
  | link e =>
    obtain ⟨l, -, rfl⟩ := Option.map_eq_some_iff.mp h
    simpa [notified] using ht
  | channel e =>
    obtain ⟨c, hc, rfl⟩ := Option.map_eq_some_iff.mp h
    by_cases he : ∃ data, e = .notify data
    · obtain ⟨data, rfl⟩ := he
      obtain rfl := Option.some.inj hc
      exact received_notify t₀.channel t.channel _ data ht
    · have he : ∀ data, e ≠ .notify data := fun data hd => he ⟨data, hd⟩
      obtain ⟨harrived, hreassembler⟩ := step_arrived _ _ _ _ hc he
      have hnone : notified [.channel e] = [] := by
        cases e <;> simp_all [notified]
      obtain ⟨frames, hfeed, hframes⟩ := ht
      exact ⟨frames, by rw [hnone, List.append_nil, hfeed, hreassembler], by rw [harrived, hframes]⟩

/-! ## Replies of the lock -/

/-- The three parts of the plaintext of a frame. -/
def decoded (self : TTLockClient) (frame : Frame) : Py (UInt8 × UInt8 × Bytes) := do
  parseResponseStatus (← aesDecrypt self.aes frame.data self.aesKey)

theorem answers_iff (self : TTLockClient) (frame : Frame) (command : Int) :
    self.answers frame command ↔
      (∃ e, decoded self frame = .error e) ∨
        ∃ echo status data, decoded self frame = .ok (echo, status, data) ∧ (echo.toNat : Int) = command := by
  unfold TTLockClient.answers decoded
  split
  · next h => simp [h]
  · next h => simp [h]

/-- **Frame conservation.** -/
theorem frames_conserved (self : TTLockClient) (address : String) (device : Option String)
    (es : List TransportEvent) (t : BleTransport)
    (hrun : (BleTransport.machine self.answers address device).Reaches es t) :
    let c := t.channel
    c.arrived.map (·.frame) = (FrameReassembler.new.feedAll (notified es)).1 ∧
    c.arrived.Nodup ∧
    (c.inbox ++ c.pushed ++ c.ended.filterMap (·.outcome.toOption)).Perm c.arrived ∧
    (∀ y ∈ c.ended, ∀ a, y.outcome = .ok a →
      (∃ e, decoded self a.frame = .error e) ∨ ∃ echo status data,
        decoded self a.frame = .ok (echo, status, data) ∧ (echo.toNat : Int) = y.exchange.frame.command) ∧
    (∀ y ∈ c.ended, y.exchange.took <+: c.pushed.drop y.exchange.pushedBefore) ∧
    (∀ x ∈ c.exchange, c.pushed.drop x.pushedBefore = x.took) ∧
    c.waitingForResponse = (c.exchange.toList.length : Int) := by
  have h := run_conserved es t hrun
  have hnodup : (t.channel.arrived.map Arrival.number).Nodup := h.numbered ▸ List.nodup_range
  refine ⟨?_, List.Nodup.of_map _ hnodup, h.places, ?_, fun y hy => (h.finished y hy).pushed, ?_, ?_⟩
  · obtain ⟨frames, hfeed, harrived⟩ := run_received _ t es hrun
    rw [harrived, show FrameReassembler.new.feedAll (notified es) = _ from hfeed]
    rfl
  · intro y hy a ha
    exact (answers_iff self a.frame _).mp (h.answered y hy a ha)
  · intro x hx
    have hlast := h.last x hx
    exact ((h.running x hx).pushed.eq_of_length (by rw [List.length_drop]; omega)).symm
  · rw [h.waiting]
    cases t.channel.exchange <;> rfl

/-- The cipher for a push that echoes 0x14 and a reply that echoes 0x55. -/
def routingTable : List (Bytes × Bytes) :=
  [([0x14, 0x01, 0x2A, 0x01, 0x00], [0x71, 0x55, 0x8A, 0xCE, 0x83, 0x21, 0xDA, 0x51,
       0x3C, 0x94, 0x40, 0xEB, 0x40, 0x80, 0xCD, 0x14]),
    ([0x55, 0x01, 0x00, 0x00, 0x00, 0x2A], [0x6C, 0x8A, 0x1B, 0xEA, 0x1E, 0xD5, 0xC8, 0x77,
       0xB9, 0x58, 0x13, 0x80, 0xA7, 0x57, 0x74, 0x0D])]

def pushFrame : Frame := lockFrame (routingTable.getD 0 ([], [])).2

def replyFrame : Frame := lockFrame (routingTable.getD 1 ([], [])).2

def routingMachine : Machine BleTransport TransportEvent :=
  BleTransport.machine (makeClient routingTable).answers makeVirtualKey.lockMac (some makeVirtualKey.lockMac)

/-- A push and the reply behind it, while 0x55 is awaited. -/
def pushThenReply : List TransportEvent :=
  linkUp ++ requestSent 0x55 ++
    [notification (pushFrame.build ++ replyFrame.build), .channel .take, .channel .take]

theorem frames_conserved_pushThenReply :
    ∃ t, routingMachine.Reaches pushThenReply t ∧
      t.channel.pushed = [⟨0, pushFrame⟩] ∧
      t.channel.ended.map (·.outcome) = [.ok ⟨1, replyFrame⟩] ∧
      (t.channel.inbox ++ t.channel.pushed ++ t.channel.ended.filterMap (·.outcome.toOption)).Perm
        t.channel.arrived := by
  obtain ⟨t, hrun, hpushed, hended⟩ := (Machine.exists_reaches routingMachine pushThenReply
    (fun t => t.channel.pushed = [⟨0, pushFrame⟩] ∧
      t.channel.ended.map (·.outcome) = [.ok ⟨1, replyFrame⟩])).mpr (by decide +kernel)
  exact ⟨t, hrun, hpushed, hended, (frames_conserved _ _ _ _ t hrun).2.2.1⟩

end TtlockBle.Transport
