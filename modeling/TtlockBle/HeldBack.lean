import TtlockBle.Transport

/-!
# Frames between exchanges

A frame that arrives in the window of an exchange goes to the inbox, and only the exchange looks
there. So nothing is held back exactly as long as no exchange ends before it took every frame that
arrived in its window.
-/

open TtlockBle.Lib

namespace TtlockBle.HeldBack

open Transport

variable (isResponse : Frame → Int → Bool)

def others (replies as : List Arrival) : List Arrival := as.filter (· ∉ replies)

/-- The inbox is empty between exchanges, what is not a reply was pushed in arrival order by then,
and every reply arrived after its exchange began. -/
structure NothingHeldBack (c : Channel) : Prop where
  inbox : c.exchange = none → c.inbox = []
  pushed : c.exchange = none → c.pushed = others (returned c) c.arrived
  fresh : ∀ y ∈ c.ended, ∀ a, y.outcome = .ok a → y.exchange.arrivedBefore ≤ a.number

/-- How many frames arrived in the window of an exchange that it has not taken. -/
def unread (c : Channel) (x : Exchange) : Nat := c.arrived.length - x.arrivedBefore - x.took.length

/-- The step ends an exchange that has not taken every frame of its window: it gives up on them, or
they came after its reply. -/
def Missed (t : BleTransport) : TransportEvent → Prop
  | .link _ => False
  | .channel e => ∃ x ∈ t.channel.exchange,
    match e with
    | .take => 1 < unread t.channel x ∧
        ∃ a ∈ t.channel.inbox.head?, isResponse a.frame x.frame.command
    | .timeout | .writeFailed _ | .cancel => 0 < unread t.channel x
    | .wrote => 0 < unread t.channel x ∧ t.link.client = none ∧
        ∃ client chunk rest, x.phase = .sending client (chunk :: rest)
    | .notify _ | .exchange _ => False

/-! ## One step -/

theorem others_push (replies as : List Arrival) (a : Arrival) (ha : a ∉ replies) :
    others replies (as ++ [a]) = others replies as ++ [a] := by
  simp [others, List.filter_append, ha]

theorem others_reply (replies as : List Arrival) (a : Arrival) (ha : a ∉ as) :
    others (replies ++ [a]) (as ++ [a]) = others replies as := by
  have h : as.filter (· ∉ replies ++ [a]) = as.filter (· ∉ replies) := by
    apply List.filter_congr
    intro b hb
    have hne : b ≠ a := fun hba => ha (hba ▸ hb)
    simp [hne]
  rw [others, List.filter_append, h]
  simp [others]

structure InOrder (c : Channel) (seen : List Arrival) : Prop where
  conserved : Conserved isResponse c
  arrived : c.arrived = seen ++ c.inbox
  pushed : c.pushed = others (returned c) seen
  window : ∀ x ∈ c.exchange, seen.length = x.arrivedBefore + x.took.length
  fresh : ∀ y ∈ c.ended, ∀ a, y.outcome = .ok a → y.exchange.arrivedBefore ≤ a.number

theorem unread_eq (c : Channel) (seen : List Arrival) (h : InOrder isResponse c seen) (x : Exchange)
    (hx : c.exchange = some x) : unread c x = c.inbox.length := by
  have := h.window x hx
  rw [unread, h.arrived, List.length_append]
  omega

theorem nothingHeldBack_of_inOrder (c : Channel) (seen : List Arrival) (h : InOrder isResponse c seen)
    (hinbox : c.exchange = none → c.inbox = []) : NothingHeldBack c := by
  refine ⟨hinbox, ?_, h.fresh⟩
  intro hx
  rw [h.pushed, h.arrived, hinbox hx, List.append_nil]

theorem arrived_nodup (c : Channel) (h : Conserved isResponse c) : c.arrived.Nodup := by
  have : (c.arrived.map Arrival.number).Nodup := h.numbered ▸ List.nodup_range
  exact List.Nodup.of_map _ this

theorem number_lt (c : Channel) (h : Conserved isResponse c) (a : Arrival) (ha : a ∈ c.arrived) :
    a.number < c.arrived.length := by
  have : a.number ∈ c.arrived.map Arrival.number := List.mem_map_of_mem ha
  rwa [h.numbered, List.mem_range] at this

theorem returned_arrived (c : Channel) (h : Conserved isResponse c) (a : Arrival) (ha : a ∈ returned c) :
    a ∈ c.arrived :=
  h.places.mem_iff.mp (List.mem_append_right _ ha)

theorem not_returned (c : Channel) (h : Conserved isResponse c) (a : Arrival) (ha : a ∈ c.inbox) :
    a ∉ returned c := by
  intro hr
  have hnodup := h.places.nodup_iff.mpr (arrived_nodup isResponse c h)
  rw [List.append_assoc] at hnodup
  exact (List.nodup_append.mp hnodup).2.2 a ha a (List.mem_append_right _ hr) rfl

theorem head_number (c : Channel) (seen : List Arrival) (h : InOrder isResponse c seen) (a : Arrival)
    (rest : List Arrival) (ha : c.inbox = a :: rest) : a.number = seen.length := by
  have hget : (c.arrived.map Arrival.number)[seen.length]? = some a.number := by
    rw [h.arrived, ha]
    simp
  rw [h.conserved.numbered] at hget
  have hlen : seen.length < c.arrived.length := by
    rw [h.arrived, ha]
    simp
  rw [List.getElem?_range hlen] at hget
  exact (Option.some.inj hget).symm

theorem inOrder_arrive (c : Channel) (seen : List Arrival) (frame : Frame)
    (h : InOrder isResponse c seen) (hinbox : c.exchange = none → c.inbox = []) :
    ∃ seen, InOrder isResponse (c.dispatch frame) seen := by
  have hconserved := conserved_arrive isResponse c frame h.conserved
  by_cases hpos : 0 < c.waitingForResponse
  · rw [dispatch_busy c frame hpos] at hconserved ⊢
    exact ⟨seen, hconserved, by simp [h.arrived], h.pushed, h.window, h.fresh⟩
  · have hx := (waiting_iff isResponse c h.conserved).not.mp hpos
    rw [Option.not_isSome_iff_eq_none] at hx
    have hnew : Arrival.mk c.arrived.length frame ∉ returned c := by
      intro hr
      have := number_lt isResponse c h.conserved _ (returned_arrived isResponse c h.conserved _ hr)
      simp at this
    rw [dispatch_idle c frame hpos] at hconserved ⊢
    refine ⟨seen ++ [⟨c.arrived.length, frame⟩], hconserved, ?_, ?_, by simp [hx], h.fresh⟩
    · simp [h.arrived, hinbox hx]
    · show c.pushed ++ [_] = others (returned c) _
      rw [others_push _ _ _ hnew, h.pushed]

theorem inOrder_push (c : Channel) (seen : List Arrival) (x : Exchange) (a : Arrival)
    (rest : List Arrival) (hx : c.exchange = some x) (ha : c.inbox = a :: rest)
    (hr : ¬ isResponse a.frame x.frame.command) (h : InOrder isResponse c seen) :
    InOrder isResponse { c with
      inbox := rest
      pushed := c.pushed ++ [a]
      exchange := some { x with took := x.took ++ [a] } } (seen ++ [a]) := by
  have hnew := not_returned isResponse c h.conserved a (by simp [ha])
  refine ⟨conserved_push isResponse c x a rest hx ha hr h.conserved, ?_, ?_, ?_, h.fresh⟩
  · simp [h.arrived, ha]
  · show c.pushed ++ [a] = others (returned c) _
    rw [others_push _ _ _ hnew, h.pushed]
  · rintro y ⟨⟩
    have := h.window x hx
    simp only [List.length_append]
    omega

theorem inOrder_fail (c : Channel) (seen : List Arrival) (x : Exchange) (e : PyExc)
    (hx : c.exchange = some x) (h : InOrder isResponse c seen) :
    InOrder isResponse (c.endExchange x (.error e)) seen := by
  refine ⟨conserved_end isResponse c x (.error e) c.inbox hx rfl (by simp) h.conserved, h.arrived, ?_,
    by simp [Channel.endExchange], ?_⟩
  · rw [returned_endExchange]
    simpa [Except.toOption, Channel.endExchange] using h.pushed
  · intro y hy a ha
    rcases List.mem_append.mp hy with hy | hy
    · exact h.fresh y hy a ha
    · rw [List.mem_singleton.mp hy] at ha
      cases ha

theorem inOrder_reply (c : Channel) (seen : List Arrival) (x : Exchange) (a : Arrival)
    (rest : List Arrival) (hx : c.exchange = some x) (ha : c.inbox = a :: rest)
    (hr : isResponse a.frame x.frame.command) (h : InOrder isResponse c seen) :
    InOrder isResponse ({ c with inbox := rest }.endExchange x (.ok a)) (seen ++ [a]) := by
  have hnodup := arrived_nodup isResponse c h.conserved
  have hconserved := conserved_end isResponse c x (.ok a) rest hx ha (by rintro b ⟨⟩; exact hr) h.conserved
  refine ⟨hconserved, ?_, ?_, by simp [Channel.endExchange], ?_⟩
  · simp [Channel.endExchange, h.arrived, ha]
  · -- The reply is the last frame seen, and none of the others.
    have hnew : a ∉ seen := by
      rw [h.arrived, ha] at hnodup
      intro hs
      exact (List.nodup_append.mp hnodup).2.2 a hs a List.mem_cons_self rfl
    rw [returned_endExchange]
    show c.pushed = others (returned c ++ [a]) _
    rw [others_reply _ _ _ hnew, h.pushed]
  · intro y hy b hb
    rcases List.mem_append.mp hy with hy | hy
    · exact h.fresh y hy b hb
    · rw [List.mem_singleton.mp hy] at hb ⊢
      obtain rfl := Except.ok.inj hb
      have hnum := head_number isResponse c seen h a rest ha
      have := h.window x hx
      simp only
      omega

/-! ## Steps -/

/-- The invariant of runs that miss nothing. -/
structure Quiet (c : Channel) : Prop where
  inOrder : ∃ seen, InOrder isResponse c seen
  idle : c.exchange = none → c.inbox = []

theorem quiet_new : Quiet isResponse Channel.new :=
  ⟨⟨[], conserved_new isResponse, rfl, rfl, by simp [Channel.new], by simp [Channel.new]⟩, fun _ => rfl⟩

theorem quiet_arrive (c : Channel) (frame : Frame) (h : Quiet isResponse c) :
    Quiet isResponse (c.dispatch frame) := by
  obtain ⟨⟨seen, hseen⟩, hidle⟩ := h
  refine ⟨inOrder_arrive isResponse c seen frame hseen hidle, ?_⟩
  intro hx
  rw [dispatch_exchange] at hx
  have hpos : ¬ 0 < c.waitingForResponse := by
    rw [waiting_iff isResponse c hseen.conserved, hx]
    exact Bool.false_ne_true
  rw [dispatch_idle c frame hpos]
  exact hidle hx

theorem quiet_notify (c : Channel) (data : Bytes) (h : Quiet isResponse c) :
    Quiet isResponse (c.onNotify data) := by
  have hbuffer : Quiet isResponse { c with reassembler := (c.reassembler.feed data).2 } := by
    obtain ⟨⟨seen, hseen⟩, hidle⟩ := h
    exact ⟨⟨seen, conserved_move isResponse _ _ (.buffer c _) hseen.conserved, hseen.arrived, hseen.pushed,
      hseen.window, hseen.fresh⟩, hidle⟩
  exact List.foldlRecOn (motive := Quiet isResponse) _ Channel.dispatch hbuffer
    fun c hc frame _ => quiet_arrive isResponse c frame hc

theorem quiet_fail (c : Channel) (x : Exchange) (e : PyExc) (hx : c.exchange = some x)
    (hinbox : c.inbox = []) (h : Quiet isResponse c) : Quiet isResponse (c.endExchange x (.error e)) := by
  obtain ⟨seen, hseen⟩ := h.inOrder
  exact ⟨⟨seen, inOrder_fail isResponse c seen x e hx hseen⟩, fun _ => hinbox⟩

theorem quiet_write (c : Channel) (x : Exchange) (phase : ExchangePhase) (written : List (Nat × Bytes))
    (hx : c.exchange = some x) (h : Quiet isResponse c) :
    Quiet isResponse { c with exchange := some { x with phase := phase }, written := written } := by
  obtain ⟨seen, hseen⟩ := h.inOrder
  have hconserved := conserved_move isResponse _ _ (.write c x phase written hx) hseen.conserved
  refine ⟨⟨seen, hconserved, hseen.arrived, hseen.pushed, ?_, hseen.fresh⟩, by simp⟩
  rintro y ⟨⟩
  exact hseen.window x hx

theorem quiet_writeNext (c : Channel) (l : Link) (x : Exchange) (chunks : List Bytes)
    (hx : c.exchange = some x) (hinbox : l.client = none → chunks ≠ [] → c.inbox = [])
    (h : Quiet isResponse c) : Quiet isResponse (c.writeNext l x chunks) := by
  unfold Channel.writeNext
  split
  · exact quiet_write isResponse c x .receiving c.written hx h
  · split
    · exact quiet_fail isResponse c x _ hx (hinbox ‹_› (by simp)) h
    · exact quiet_write isResponse c x _ _ hx h

theorem quiet_begin (c : Channel) (l : Link) (frame : Frame) (hx : c.exchange = none)
    (h : Quiet isResponse c) : Quiet isResponse (c.beginExchange l frame) := by
  have hinbox := h.idle hx
  obtain ⟨seen, hseen⟩ := h.inOrder
  have hlen : seen.length = c.arrived.length := by simp [hseen.arrived, hinbox]
  have hbegin : Quiet isResponse { c with
      waitingForResponse := c.waitingForResponse + 1
      exchange := some ⟨frame, .receiving, c.arrived.length, c.pushed.length, []⟩ } := by
    refine ⟨⟨seen, conserved_move isResponse _ _ (.begin c frame .receiving hx) hseen.conserved,
      hseen.arrived, hseen.pushed, ?_, hseen.fresh⟩, by simp⟩
    rintro y ⟨⟩
    exact hlen
  unfold Channel.beginExchange
  simp only
  split
  · exact quiet_fail isResponse _ _ _ rfl hinbox hbegin
  · exact quiet_writeNext isResponse _ l _ _ rfl (fun _ _ => hinbox) hbegin

theorem quiet_take (c : Channel) (x : Exchange) (a : Arrival) (rest : List Arrival)
    (hx : c.exchange = some x) (ha : c.inbox = a :: rest)
    (hrest : isResponse a.frame x.frame.command → rest = []) (h : Quiet isResponse c) :
    Quiet isResponse (c.take isResponse x a rest) := by
  obtain ⟨seen, hseen⟩ := h.inOrder
  unfold Channel.take
  simp only
  split
  · exact ⟨⟨_, inOrder_reply isResponse c seen x a rest hx ha ‹_› hseen⟩, fun _ => hrest ‹_›⟩
  · exact ⟨⟨_, inOrder_push isResponse c seen x a rest hx ha ‹_› hseen⟩, by simp⟩

theorem missed_of_fails (t : BleTransport) (x : Exchange) (e : ChannelEvent) (err : PyExc)
    (hx : t.channel.exchange = some x) (hfails : Fails x e err) :
    Missed isResponse t (.channel e) ↔ 0 < unread t.channel x := by
  cases e with
  | writeFailed text => simp [Missed, hx]
  | timeout => simp [Missed, hx]
  | cancel => simp [Missed, hx]
  | _ => exact hfails.elim

theorem quiet_step (t t' : BleTransport) (e : TransportEvent) (h : Quiet isResponse t.channel)
    (hstep : t.step isResponse e = some t') (hm : ¬ Missed isResponse t e) :
    Quiet isResponse t'.channel := by
  cases e with
  | link e =>
    obtain ⟨l, -, rfl⟩ := Option.map_eq_some_iff.mp hstep
    exact h
  | channel e =>
    obtain ⟨c, hc, rfl⟩ := Option.map_eq_some_iff.mp hstep
    obtain ⟨seen, hseen⟩ := h.inOrder
    have hread : ∀ x, t.channel.exchange = some x → unread t.channel x = t.channel.inbox.length :=
      unread_eq isResponse t.channel seen hseen
    cases step_effect isResponse t.link t.channel c e hc with
    | notify data => exact quiet_notify isResponse _ _ h
    | exchange frame hx => exact quiet_begin isResponse _ _ _ hx h
    | wrote x client rest hx hphase =>
      apply quiet_writeNext isResponse _ _ x _ hx _ h
      intro hl hne
      obtain ⟨chunk, rest, rfl⟩ := List.exists_cons_of_ne_nil hne
      by_contra hinbox
      have hpos := List.length_pos_of_ne_nil hinbox
      rw [← hread x hx] at hpos
      exact hm ⟨x, hx, hpos, hl, client, chunk, rest, hphase⟩
    | take x a rest hx ha =>
      apply quiet_take isResponse _ x _ _ hx ha _ h
      intro hr
      by_contra hrest
      have hpos := List.length_pos_of_ne_nil hrest
      refine hm ⟨x, hx, ?_, a, by simp [ha], hr⟩
      rw [hread x hx, ha, List.length_cons]
      omega
    | fail x e err hx hfails =>
      apply quiet_fail isResponse _ x _ hx _ h
      by_contra hinbox
      have hpos := List.length_pos_of_ne_nil hinbox
      rw [← hread x hx] at hpos
      exact hm ((missed_of_fails isResponse t x e err hx hfails).mpr hpos)

theorem missed_step (t t' : BleTransport) (e : TransportEvent) (h : Quiet isResponse t.channel)
    (hstep : t.step isResponse e = some t') (hm : Missed isResponse t e) :
    t'.channel.exchange = none ∧ t'.channel.inbox ≠ [] := by
  cases e with
  | link e => exact hm.elim
  | channel e =>
    obtain ⟨c, hc, rfl⟩ := Option.map_eq_some_iff.mp hstep
    obtain ⟨seen, hseen⟩ := h.inOrder
    have hread : ∀ x, t.channel.exchange = some x → unread t.channel x = t.channel.inbox.length :=
      unread_eq isResponse t.channel seen hseen
    have hinbox : ∀ x, t.channel.exchange = some x → 0 < unread t.channel x → t.channel.inbox ≠ [] :=
      fun x hx hpos => List.ne_nil_of_length_pos (by rwa [← hread x hx])
    cases step_effect isResponse t.link t.channel c e hc with
    | notify data =>
      obtain ⟨x, -, hm⟩ := hm
      exact hm.elim
    | exchange frame hx =>
      obtain ⟨x, -, hm⟩ := hm
      exact hm.elim
    | wrote x client rest hx hphase =>
      obtain ⟨y, hy, hpos, hl, _, chunk, rest', hphase'⟩ := hm
      obtain rfl : x = y := Option.some.inj (hx.symm.trans hy)
      obtain ⟨-, rfl⟩ := ExchangePhase.sending.inj (hphase.symm.trans hphase')
      simp only [Channel.writeNext, hl]
      exact ⟨rfl, hinbox x hx hpos⟩
    | take x a rest hx ha =>
      obtain ⟨y, hy, hpos, b, hb, hr⟩ := hm
      obtain rfl : x = y := Option.some.inj (hx.symm.trans hy)
      obtain rfl : a = b := by simpa [ha] using hb
      rw [hread x hx, ha, List.length_cons] at hpos
      simp only [Channel.take, hr, if_true]
      refine ⟨rfl, ?_⟩
      show rest ≠ []
      exact List.ne_nil_of_length_pos (by omega)
    | fail x e err hx hfails =>
      exact ⟨rfl, hinbox x hx ((missed_of_fails isResponse t x e err hx hfails).mp hm)⟩

/-! ## Runs -/

variable {isResponse} {address : String} {device : Option String}

/-- **What is held back.** All along a run nothing is held back exactly if no step of it ends an
exchange that has not taken every frame of its window. -/
theorem nothing_held_back_iff (es : List TransportEvent) (t : BleTransport)
    (hrun : (BleTransport.machine isResponse address device).Reaches es t) :
    (BleTransport.machine isResponse address device).Always (fun t => NothingHeldBack t.channel) es ↔
      (BleTransport.machine isResponse address device).EveryStep (fun t e => ¬ Missed isResponse t e)
        es := by
  have hnew : Quiet isResponse Channel.new := quiet_new isResponse
  have hquiet : ∀ c, Quiet isResponse c → NothingHeldBack c := by
    rintro c ⟨⟨seen, hseen⟩, hidle⟩
    exact nothingHeldBack_of_inOrder isResponse c seen hseen hidle
  refine Machine.always_iff _ (I := fun t => Quiet isResponse t.channel)
    (P := fun t => NothingHeldBack t.channel) hnew (hquiet _ hnew) ?_ ?_ hrun
  · exact fun t e t' => quiet_step isResponse t t' e
  · intro t e t' hq hstep
    constructor
    · intro hheld hm
      obtain ⟨hidle, hinbox⟩ := missed_step isResponse t t' e hq hstep hm
      exact hinbox (hheld.inbox hidle)
    · intro hm
      exact hquiet _ (quiet_step isResponse t t' e hq hstep hm)

/-- The reply and a push behind it, in one notification. -/
def replyThenPush : List TransportEvent :=
  linkUp ++ requestSent 0x55 ++ [notification (replyFrame.build ++ pushFrame.build), .channel .take]

/-- The push stays in the inbox, and the next exchange for its opcode returns it. -/
theorem push_held_back :
    (∃ t, routingMachine.Reaches replyThenPush t ∧
      t.channel.exchange = none ∧ t.channel.inbox = [⟨1, pushFrame⟩] ∧ t.channel.pushed = []) ∧
    ∃ t, routingMachine.Reaches (replyThenPush ++ requestSent 0x14 ++ [.channel .take]) t ∧
      t.channel.ended.map (fun y => (y.exchange.arrivedBefore, y.outcome)) =
        [(0, .ok ⟨0, replyFrame⟩), (2, .ok ⟨1, pushFrame⟩)] := by
  rw [Machine.exists_reaches, Machine.exists_reaches]
  exact ⟨by decide +kernel, by decide +kernel⟩

theorem nothing_held_back_iff_replyThenPush :
    routingMachine.Always (fun t => NothingHeldBack t.channel) replyThenPush ↔
      routingMachine.EveryStep
        (fun t e => ¬ Missed (makeClient routingTable).answers t e) replyThenPush := by
  obtain ⟨t, hrun, -⟩ := (Machine.exists_reaches routingMachine replyThenPush
    (fun t => t.channel.exchange = none)).mpr (by decide +kernel)
  exact nothing_held_back_iff replyThenPush t hrun

end TtlockBle.HeldBack
