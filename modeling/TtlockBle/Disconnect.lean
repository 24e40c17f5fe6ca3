import TtlockBle.Code.Task
import TtlockBle.Contract
import TtlockBle.Wire

/-!
# A disconnect under a command

What a command still does once its link is gone. Every use it makes of the client is an event of its
own, so which client it finds there is up to the other task.
-/

open TtlockBle.Lib

namespace TtlockBle.Disconnect

open Cipher Contract Payloads Program Transport

/-! ## Replies fit one frame -/

def Short (c : Channel) : Prop := ∀ a ∈ c.inbox, a.frame.data.length ≤ 255

theorem short_dispatch (c : Channel) (frame : Frame) (hframe : frame.data.length ≤ 255) (h : Short c) :
    Short (c.dispatch frame) := by
  unfold Channel.dispatch
  simp only
  split
  · intro a ha
    rcases List.mem_append.mp ha with ha | ha
    · exact h a ha
    · rwa [List.mem_singleton.mp ha]
  · exact h

theorem short_notify (c : Channel) (data : Bytes) (h : Short c) : Short (c.onNotify data) := by
  refine List.foldlRecOn (motive := Short) _ Channel.dispatch h ?_
  intro c hc frame hframe
  exact short_dispatch c frame (Reassembler.feed_data_length _ data frame hframe) hc

theorem short_writeNext (c : Channel) (l : Link) (x : Exchange) (chunks : List Bytes) (h : Short c) :
    Short (c.writeNext l x chunks) := by
  unfold Channel.writeNext
  split
  · exact h
  · split <;> exact h

theorem short_begin (c : Channel) (l : Link) (frame : Frame) (h : Short c) :
    Short (c.beginExchange l frame) := by
  unfold Channel.beginExchange
  simp only
  split
  · exact h
  · exact short_writeNext _ l _ _ h

theorem short_step (isResponse : Frame → Int → Bool) (l : Link) (c c' : Channel) (e : ChannelEvent)
    (h : Short c) (hs : c.step isResponse l e = some c') : Short c' := by
  cases step_effect isResponse l c c' e hs with
  | notify data => exact short_notify c data h
  | exchange frame hx => exact short_begin c l frame h
  | wrote x client rest hx => exact short_writeNext c l x rest h
  | take x a rest hx ha =>
    have hrest : ∀ b ∈ rest, b.frame.data.length ≤ 255 := by
      intro b hb
      exact h b (ha ▸ List.mem_cons_of_mem a hb)
    unfold Channel.take
    simp only
    split <;> exact hrest
  | fail x e err hx => exact h

theorem short_run (isResponse : Frame → Int → Bool) (address : String) (device : Option String)
    (es : List TransportEvent) (t : BleTransport)
    (hrun : (BleTransport.machine isResponse address device).Reaches es t) : Short t.channel := by
  refine Machine.run_invariant _ (I := fun t => Short t.channel) ?_ ?_ hrun
  · intro a ha
    cases ha
  · intro t e t' ht hs
    cases e with
    | link e =>
      obtain ⟨l, -, rfl⟩ := Option.map_eq_some_iff.mp hs
      exact ht
    | channel e =>
      obtain ⟨c, hc, rfl⟩ := Option.map_eq_some_iff.mp hs
      exact short_step isResponse t.link t.channel c e ht hc

/-! ## Notifications -/

theorem onNotify_kept (c : Channel) (data : Bytes) :
    (c.onNotify data).exchange = c.exchange ∧ (c.onNotify data).written = c.written := by
  refine List.foldlRecOn (motive := fun c' => c'.exchange = c.exchange ∧ c'.written = c.written)
    _ Channel.dispatch ?_ ?_
  · exact ⟨rfl, rfl⟩
  intro c' hc frame _
  unfold Channel.dispatch
  simp only
  split <;> exact hc

/-! ## What a command needs of the link -/

/-- All the chunks were written to one client. -/
def OneClient (frame : List (Nat × Bytes)) : Prop := ∀ a ∈ frame, ∀ b ∈ frame, a.1 = b.1

/-- What the event needs, the link has: an exchange a client and a characteristic, a read a client, and
the next chunk of a frame the client of the chunk before it. -/
def Linked (t : Task) : TaskEvent → Prop
  | .exchange => t.transport.link.client.isSome ∧ t.transport.link.writeChar.isSome
  | .charRead _ => t.transport.link.client.isSome
  | .channel .wrote =>
    ∀ x ∈ t.transport.channel.exchange, ∀ number chunk rest, x.phase = .sending number (chunk :: rest) →
      ∃ client ∈ t.transport.link.client, client.number = number
  | _ => True

/-! ## Moves -/

section Moves

variable {client : TTLockClient}

def SendingTo (t : Task) (number : Nat) : Prop :=
  ∃ x rest, t.transport.channel.exchange = some x ∧ x.phase = .sending number rest

theorem sendingTo_unique {t : Task} {x : Exchange} {number n : Nat} {rest : List Bytes}
    (hx : t.transport.channel.exchange = some x) (hphase : x.phase = .sending number rest)
    (hn : SendingTo t n) : n = number := by
  obtain ⟨y, rest', hy, hphase'⟩ := hn
  obtain rfl := Option.some.inj (hx.symm.trans hy)
  exact (ExchangePhase.sending.inj (hphase'.symm.trans hphase)).1

theorem not_sendingTo {t : Task} (h : t.transport.channel.exchange = none) (n : Nat) : ¬ SendingTo t n := by
  rintro ⟨x, rest, hx, -⟩
  rw [h] at hx
  cases hx

theorem linked_wrote_iff {t : Task} {x : Exchange} {number : Nat} {chunk : Bytes} {rest : List Bytes}
    (hx : t.transport.channel.exchange = some x) (hphase : x.phase = .sending number (chunk :: rest)) :
    Linked t (.channel .wrote) ↔ ∃ client ∈ t.transport.link.client, client.number = number := by
  constructor
  · intro h
    exact h x hx number chunk rest hphase
  · rintro h y hy before chunk' rest' hphase'
    obtain rfl := sendingTo_unique hx hphase ⟨y, _, hy, hphase'⟩
    exact h

/-- What an event can be to the command. -/
inductive Move (client : TTLockClient) (t : Task) (e : TaskEvent) (t' : Task) : Prop where
  | still : Linked t e → t'.left = t.left → t'.finished = t.finished → t'.writes = t.writes →
      (∀ n, SendingTo t' n → SendingTo t n) → Move client t e t'
  | first (number chunk) : Linked t e → t'.left = t.left → t'.finished = t.finished →
      t'.writes = [(number, chunk)] :: t.writes →
      (∀ n, SendingTo t' n → n = number) → Move client t e t'
  | next (frame frames before number chunk) : (Linked t e ↔ number = before) →
      t'.left = t.left → t'.finished = t.finished →
      t.writes = frame :: frames → SendingTo t before →
      t'.writes = (frame ++ [(number, chunk)]) :: frames →
      (∀ n, SendingTo t' n → n = number) → Move client t e t'
  | answer (op next outcome) : t.left = .call op next → t'.left = next outcome →
      t'.finished = t.finished ++ [⟨op, outcome⟩] →
      (t'.writes = t.writes ∨ t'.writes = [] :: t.writes) → (∀ n, ¬ SendingTo t' n) →
      (op = .release → outcome.isOk) →
      (Linked t e ∧ Admitted client 255 ⟨op, outcome⟩ ∨ ¬ Linked t e ∧ Requests.Raised ⟨op, outcome⟩) →
      Move client t e t'

def AtExchange (t : Task) : Prop :=
  ∃ opcode payload next, t.left = .call (.exchange opcode payload) next

/-- A command that is in an exchange waits for it, and the chunk being written is recorded. -/
structure Waits (t : Task) : Prop where
  short : Short t.transport.channel
  waiting : t.transport.channel.exchange.isSome → AtExchange t
  sending : ∀ n, SendingTo t n →
    ∃ frame frames, t.writes = frame :: frames ∧ ∃ chunk, (n, chunk) ∈ frame

theorem grow_still (t : Task) (c : Channel) (h : c.written = t.transport.channel.written) :
    (t.grow c).writes = t.writes := by
  unfold Task.grow
  rw [h, List.drop_length]
  cases t.writes <;> simp

theorem advance_going (t : Task) (c : Channel) (h : c.exchange.isSome) : t.advance c = t.grow c := by
  obtain ⟨x, hx⟩ := Option.isSome_iff_exists.mp h
  unfold Task.advance
  rw [hx]
  split <;> simp_all

theorem advance_ended (t : Task) (c : Channel) (x : Exchange) (outcome : Py Arrival) (opcode : Int)
    (payload : Bytes) (next : Py Frame → ClientProgram Unit)
    (h : t.left = .call (.exchange opcode payload) next) :
    t.advance (c.endExchange x outcome) =
      (t.grow (c.endExchange x outcome)).answer (.exchange opcode payload) next (outcome.map (·.frame)) := by
  unfold Task.advance
  rw [h]
  simp [Channel.endExchange]

theorem waits_of_move {t t' : Task} {e : TaskEvent} (h : Waits t) (hm : Move client t e t')
    (hshort : Short t'.transport.channel)
    (hwaiting : t'.transport.channel.exchange.isSome → AtExchange t') : Waits t' := by
  refine ⟨hshort, hwaiting, fun n hn => ?_⟩
  cases hm with
  | still _ _ _ hwrites hsending =>
    rw [hwrites]
    exact h.sending n (hsending n hn)
  | first number chunk _ _ _ hwrites hsending =>
    obtain rfl := hsending n hn
    exact ⟨_, _, hwrites, chunk, List.mem_cons_self⟩
  | next frame frames before number chunk _ _ _ _ _ hwrites hsending =>
    obtain rfl := hsending n hn
    exact ⟨_, _, hwrites, chunk, List.mem_append_right _ List.mem_cons_self⟩
  | answer _ _ _ _ _ _ _ hsending => exact absurd hn (hsending n)

/-! ### Between exchanges -/

theorem answer_move {t : Task} {e : TaskEvent} (h : Waits t) (op : ClientOp)
    (next : Py op.Answer → ClientProgram Unit) (outcome : Py op.Answer) (hleft : t.left = .call op next)
    (hop : ∀ opcode payload, op ≠ .exchange opcode payload) (hrelease : op = .release → outcome.isOk)
    (hlinked : Linked t e ∧ Admitted client 255 ⟨op, outcome⟩ ∨ ¬ Linked t e ∧ Requests.Raised ⟨op, outcome⟩) :
    Move client t e (t.answer op next outcome) ∧ Waits (t.answer op next outcome) := by
  have hidle : t.transport.channel.exchange = none := by
    by_contra hsome
    obtain ⟨opcode, payload, next', hcall⟩ := h.waiting (Option.isSome_iff_ne_none.mpr hsome)
    rw [hleft] at hcall
    exact hop opcode payload (Program.call.inj hcall).1
  have hidle' : (t.answer op next outcome).transport.channel.exchange = none := hidle
  have hm : Move client t e (t.answer op next outcome) :=
    .answer op next outcome hleft rfl rfl (.inl rfl) (not_sendingTo hidle') hrelease hlinked
  exact ⟨hm, waits_of_move h hm h.short fun hsome => by simp [hidle'] at hsome⟩

/-! ### In an exchange -/

theorem ended_move {t : Task} {e : TaskEvent} (h : Waits t) (c : Channel) (x : Exchange)
    (outcome : Py Arrival) {opcode : Int} {payload : Bytes} {next : Py Frame → ClientProgram Unit}
    (writes : List (List (Nat × Bytes))) (hleft : t.left = .call (.exchange opcode payload) next)
    (hshort : Short c) (hwritten : c.written = t.transport.channel.written)
    (hwrites : writes = t.writes ∨ writes = [] :: t.writes)
    (hlinked : Linked t e ∧ Admitted client 255 ⟨.exchange opcode payload, outcome.map (·.frame)⟩ ∨
      ¬ Linked t e ∧ ∃ err, outcome = .error err ∧ ¬ err.isRuntimeOrValueError) :
    Move client t e ({ t with writes := writes }.advance (c.endExchange x outcome)) ∧
      Waits ({ t with writes := writes }.advance (c.endExchange x outcome)) := by
  rw [advance_ended { t with writes := writes } c x outcome opcode payload next hleft]
  generalize ht' : Task.answer _ (.exchange opcode payload) next _ = t'
  have hchannel : t'.transport.channel = c.endExchange x outcome := by rw [← ht']; rfl
  have hgrown : t'.writes = writes := by
    rw [← ht']
    exact grow_still { t with writes := writes } _ hwritten
  have hidle : t'.transport.channel.exchange = none := by rw [hchannel]; rfl
  have hm : Move client t e t' := by
    refine .answer (.exchange opcode payload) next (outcome.map (·.frame)) hleft (by rw [← ht']; rfl)
      (by rw [← ht']; rfl) (by rwa [hgrown]) (not_sendingTo hidle) (fun hrelease => by cases hrelease) ?_
    refine hlinked.imp_right fun ⟨hnot, err, herr, huncaught⟩ => ⟨hnot, err, ?_, huncaught⟩
    rw [herr]
    rfl
  exact ⟨hm, waits_of_move h hm (by rwa [hchannel]) fun hsome => by simp [hidle] at hsome⟩

theorem going_move {t : Task} {e : TaskEvent} (h : Waits t) (c : Channel) {x x' : Exchange}
    (hlinked : Linked t e) (hx : t.transport.channel.exchange = some x) (hx' : c.exchange = some x')
    (hshort : Short c) (hwritten : c.written = t.transport.channel.written)
    (hphase : ∀ n rest, x'.phase = .sending n rest → x'.phase = x.phase) :
    Move client t e (t.advance c) ∧ Waits (t.advance c) := by
  rw [advance_going t c (Option.isSome_of_eq_some hx')]
  have hm : Move client t e (t.grow c) := by
    refine .still hlinked rfl rfl (grow_still t c hwritten) ?_
    rintro n ⟨y, rest, hy, hrest⟩
    obtain rfl := Option.some.inj (hx'.symm.trans hy)
    exact ⟨x, rest, hx, hphase n rest hrest ▸ hrest⟩
  exact ⟨hm, waits_of_move h hm hshort fun _ => h.waiting (Option.isSome_of_eq_some hx)⟩

theorem grow_written {t : Task} {c : Channel} {frame : List (Nat × Bytes)}
    {frames : List (List (Nat × Bytes))} {item : Nat × Bytes} (hwrites : t.writes = frame :: frames)
    (hwritten : c.written = t.transport.channel.written ++ [item]) :
    (t.grow c).writes = (frame ++ [item]) :: frames := by
  unfold Task.grow
  rw [hwritten, List.drop_left, hwrites]

theorem begin_move {t : Task} (h : Waits t) (frame : Frame) {opcode : Int} {payload : Bytes}
    {next : Py Frame → ClientProgram Unit} (hleft : t.left = .call (.exchange opcode payload) next) :
    Move client t .exchange ({ t with writes := [] :: t.writes }.advance
        (t.transport.channel.beginExchange t.transport.link frame)) ∧
      Waits ({ t with writes := [] :: t.writes }.advance
        (t.transport.channel.beginExchange t.transport.link frame)) := by
  unfold Channel.beginExchange
  simp only
  by_cases hnone : t.transport.link.client.isNone ∨ t.transport.link.writeChar.isNone
  · rw [if_pos hnone]
    refine ended_move h _ _ _ ([] :: t.writes) hleft h.short rfl (.inr rfl) (.inr ⟨?_, _, rfl, by decide⟩)
    rintro ⟨hclient, hchar⟩
    rw [Option.isNone_iff_eq_none, Option.isNone_iff_eq_none] at hnone
    rcases hnone with hnone | hnone
    · simp [hnone] at hclient
    · simp [hnone] at hchar
  · rw [if_neg hnone]
    obtain ⟨hclient, hchar⟩ := not_or.mp hnone
    rw [Bool.not_eq_true, Option.isNone_eq_false_iff] at hclient hchar
    have hlinked : Linked t .exchange := ⟨hclient, hchar⟩
    obtain ⟨bleakClient, hbleak⟩ := Option.isSome_iff_exists.mp hlinked.1
    obtain ⟨chunk, rest, hchunks⟩ := List.exists_cons_of_ne_nil (wireChunks_ne_nil frame)
    simp only [hchunks, Channel.writeNext, hbleak]
    rw [advance_going _ _ rfl]
    generalize ht' : Task.grow _ _ = t'
    have hm : Move client t .exchange t' := by
      refine .first bleakClient.number chunk hlinked (by rw [← ht']; rfl) (by rw [← ht']; rfl) ?_ ?_
      · rw [← ht']
        show (Task.grow _ _).writes = ([] ++ [(bleakClient.number, chunk)]) :: t.writes
        apply grow_written <;> rfl
      · rw [← ht']
        intro n
        exact sendingTo_unique rfl rfl
    refine ⟨hm, waits_of_move h hm (by rw [← ht']; exact h.short) fun _ => ⟨opcode, payload, next, ?_⟩⟩
    rw [← ht']
    exact hleft

theorem wrote_move {t : Task} (h : Waits t) {x : Exchange} {number : Nat} {rest : List Bytes}
    (hx : t.transport.channel.exchange = some x) (hphase : x.phase = .sending number rest) :
    Move client t (.channel .wrote) (t.advance (t.transport.channel.writeNext t.transport.link x rest)) ∧
      Waits (t.advance (t.transport.channel.writeNext t.transport.link x rest)) := by
  obtain ⟨opcode, payload, next, hleft⟩ := h.waiting (Option.isSome_of_eq_some hx)
  cases rest with
  | nil =>
    refine going_move h _ ?_ hx rfl h.short rfl (fun n rest' hphase' => by cases hphase')
    intro x' hx' n chunk rest' hphase'
    obtain rfl := Option.some.inj (hx.symm.trans hx')
    rw [hphase] at hphase'
    cases hphase'
  | cons chunk rest =>
    unfold Channel.writeNext
    simp only
    cases hbleak : t.transport.link.client with
    | none =>
      simp only
      refine ended_move h _ x _ t.writes hleft h.short rfl (.inl rfl) (.inr ⟨?_, _, rfl, by decide⟩)
      rw [linked_wrote_iff hx hphase, hbleak]
      simp
    | some bleakClient =>
      simp only
      obtain ⟨frame, frames, hwrites, sent, hsent⟩ := h.sending number ⟨x, _, hx, hphase⟩
      rw [advance_going _ _ rfl]
      generalize ht' : Task.grow _ _ = t'
      have hm : Move client t (.channel .wrote) t' := by
        refine .next frame frames number bleakClient.number chunk ?_ (by rw [← ht']; rfl)
          (by rw [← ht']; rfl) hwrites ⟨x, _, hx, hphase⟩ ?_ ?_
        · rw [linked_wrote_iff hx hphase, hbleak]
          simp
        · rw [← ht']
          apply grow_written hwrites
          rfl
        · rw [← ht']
          intro n
          exact sendingTo_unique rfl rfl
      refine ⟨hm, waits_of_move h hm (by rw [← ht']; exact h.short) fun _ => ⟨opcode, payload, next, ?_⟩⟩
      rw [← ht']
      exact hleft

theorem admitted_reply (hcipher : PaddedCipher client.aes client.aesKey) {c : Channel} (h : Short c)
    (a : Arrival) (ha : a ∈ c.inbox) (opcode : Int) (payload : Bytes) :
    Admitted client 255 ⟨.exchange opcode payload, .ok a.frame⟩ := by
  intro plain hplain
  have hlength := aesDecrypt_length hcipher a.frame.data plain hplain
  have hshort := h a ha
  simp only at hlength ⊢
  omega

theorem take_move (hcipher : PaddedCipher client.aes client.aesKey) {t : Task} (h : Waits t) {x : Exchange}
    {a : Arrival} {rest : List Arrival} (hx : t.transport.channel.exchange = some x)
    (ha : t.transport.channel.inbox = a :: rest) :
    Move client t (.channel .take) (t.advance (t.transport.channel.take client.answers x a rest)) ∧
      Waits (t.advance (t.transport.channel.take client.answers x a rest)) := by
  obtain ⟨opcode, payload, next, hleft⟩ := h.waiting (Option.isSome_of_eq_some hx)
  have hadmitted := admitted_reply hcipher h.short a (ha ▸ List.mem_cons_self) opcode payload
  have hrest : ∀ b ∈ rest, b.frame.data.length ≤ 255 := by
    intro b hb
    exact h.short b (ha ▸ List.mem_cons_of_mem a hb)
  unfold Channel.take
  simp only
  split
  · exact ended_move h _ x (.ok a) t.writes hleft hrest rfl (.inl rfl) (.inl ⟨trivial, hadmitted⟩)
  · exact going_move h _ trivial hx rfl hrest rfl fun _ _ _ => rfl

theorem fail_move {t : Task} (h : Waits t) {x : Exchange} {e : ChannelEvent} {err : PyExc}
    (hx : t.transport.channel.exchange = some x) (hfails : Fails x e err) (hgoing : e ≠ .cancel) :
    Move client t (.channel e) (t.advance (t.transport.channel.endExchange x (.error err))) ∧
      Waits (t.advance (t.transport.channel.endExchange x (.error err))) := by
  obtain ⟨opcode, payload, next, hleft⟩ := h.waiting (Option.isSome_of_eq_some hx)
  refine ended_move h _ x (.error err) t.writes hleft h.short rfl (.inl rfl) (.inl ?_)
  cases e with
  | writeFailed text => exact ⟨trivial, hfails.2 ▸ rfl⟩
  | timeout => exact ⟨trivial, hfails.2 ▸ rfl⟩
  | cancel => exact absurd rfl hgoing
  | _ => exact hfails.elim

theorem notify_move {t : Task} (h : Waits t) {x : Exchange} (data : Bytes)
    (hx : t.transport.channel.exchange = some x) :
    Move client t (.channel (.notify data)) (t.advance (t.transport.channel.onNotify data)) ∧
      Waits (t.advance (t.transport.channel.onNotify data)) := by
  obtain ⟨hexchange, hwritten⟩ := onNotify_kept t.transport.channel data
  exact going_move h _ trivial hx (hexchange.trans hx) (short_notify _ data h.short) hwritten fun _ _ _ => rfl

/-! ### Every event -/

theorem channel_move (hcipher : PaddedCipher client.aes client.aesKey) {t : Task} (h : Waits t)
    (e : ChannelEvent) (c : Channel) (hgoing : e ≠ .cancel) (hold : ∀ frame, e ≠ .exchange frame)
    (hs : t.transport.channel.step client.answers t.transport.link e = some c)
    {x : Exchange} (hx : t.transport.channel.exchange = some x) :
    Move client t (.channel e) (t.advance c) ∧ Waits (t.advance c) := by
  cases step_effect client.answers t.transport.link t.transport.channel c e hs with
  | notify data => exact notify_move h data hx
  | exchange frame _ => exact absurd rfl (hold frame)
  | wrote y number rest hy hphase => exact wrote_move h hy hphase
  | take y a rest hy ha => exact take_move hcipher h hy ha
  | fail y e err hy hfails => exact fail_move h hy hfails hgoing

theorem idle_move {t : Task} (h : Waits t) (e : ChannelEvent) (c : Channel)
    (hold : ∀ frame, e ≠ .exchange frame)
    (hs : t.transport.channel.step client.answers t.transport.link e = some c)
    (hx : t.transport.channel.exchange = none) :
    Move client t (.channel e) (t.setChannel c) ∧ Waits (t.setChannel c) := by
  cases step_effect client.answers t.transport.link t.transport.channel c e hs with
  | notify data =>
    obtain ⟨hexchange, -⟩ := onNotify_kept t.transport.channel data
    have hidle : (t.setChannel (t.transport.channel.onNotify data)).transport.channel.exchange = none :=
      hexchange.trans hx
    have hm : Move client t (.channel (.notify data)) (t.setChannel (t.transport.channel.onNotify data)) :=
      .still trivial rfl rfl rfl fun n hn => absurd hn (not_sendingTo hidle n)
    exact ⟨hm, waits_of_move h hm (short_notify _ data h.short) fun hsome => by simp [hidle] at hsome⟩
  | exchange frame _ => exact absurd rfl (hold frame)
  | wrote y number rest hy _ => simp [hx] at hy
  | take y a rest hy _ => simp [hx] at hy
  | fail y e err hy _ => simp [hx] at hy

theorem step_channel (t : Task) (e : ChannelEvent) (hgoing : e ≠ .cancel)
    (hold : ∀ frame, e ≠ .exchange frame) :
    t.step client (.channel e) = (t.transport.channel.step client.answers t.transport.link e).map
      (if t.transport.channel.exchange.isSome then t.advance else t.setChannel) := by
  cases e with
  | exchange frame => exact absurd rfl (hold frame)
  | cancel => exact absurd rfl hgoing
  | _ => rfl

theorem step_move (hcipher : PaddedCipher client.aes client.aesKey) {t t' : Task} {e : TaskEvent}
    (h : Waits t) (hs : t.step client e = some t') : Move client t e t' ∧ Waits t' := by
  cases e with
  | link e =>
    obtain ⟨l, -, rfl⟩ := Option.map_eq_some_iff.mp hs
    exact ⟨.still trivial rfl rfl rfl fun _ => id, h.short, h.waiting, h.sending⟩
  | acquired =>
    simp only [Task.step] at hs
    split at hs
    · obtain rfl := Option.some.inj hs
      exact answer_move h _ _ _ ‹_› (by simp) (by simp) (.inl ⟨trivial, trivial⟩)
    · cases hs
  | released =>
    simp only [Task.step] at hs
    split at hs
    · obtain rfl := Option.some.inj hs
      exact answer_move h _ _ _ ‹_› (by simp) (fun _ => rfl) (.inl ⟨trivial, trivial⟩)
    · cases hs
  | clock now =>
    simp only [Task.step] at hs
    split at hs
    · obtain rfl := Option.some.inj hs
      exact answer_move h _ _ _ ‹_› (by simp) (by simp) (.inl ⟨trivial, trivial⟩)
    · cases hs
  | keepAliveRestarted =>
    simp only [Task.step] at hs
    split at hs
    · obtain rfl := Option.some.inj hs
      exact answer_move h _ _ _ ‹_› (by simp) (by simp) (.inl ⟨trivial, trivial⟩)
    · cases hs
  | charRead value =>
    simp only [Task.step] at hs
    split at hs
    · obtain rfl := Option.some.inj hs
      refine answer_move h _ _ _ ‹_› (by simp) (by simp) ?_
      split
      · rename_i hnone
        refine .inr ⟨fun hlinked => ?_, _, rfl, by decide⟩
        rw [Option.isNone_iff_eq_none] at hnone
        simp [Linked, hnone] at hlinked
      · rename_i hsome
        rw [Bool.not_eq_true, Option.isNone_eq_false_iff] at hsome
        exact .inl ⟨hsome, trivial⟩
    · cases hs
  | exchange =>
    simp only [Task.step] at hs
    split at hs
    · rename_i opcode payload next hleft hx
      rw [frame_eq] at hs
      obtain rfl := Option.some.inj hs
      exact begin_move h _ hleft
    · cases hs
  | channel e =>
    have hgoing : e ≠ .cancel := by
      rintro rfl
      cases hs
    have hold : ∀ frame, e ≠ .exchange frame := by
      rintro frame rfl
      cases hs
    rw [step_channel t e hgoing hold] at hs
    obtain ⟨c, hc, rfl⟩ := Option.map_eq_some_iff.mp hs
    cases hx : t.transport.channel.exchange with
    | none => exact idle_move h e c hold hc hx
    | some x => exact channel_move hcipher h e c hgoing hold hc hx

theorem goes_on (t : Task) (hleft : ¬ t.left.Ended) :
    ∃ e, (t.step client e).isSome ∧ ∀ l, e ≠ .link l := by
  obtain ⟨op, next, hcall⟩ : ∃ op next, t.left = .call op next := by
    cases h : t.left with
    | call op next => exact ⟨op, next, rfl⟩
    | _ => exact (hleft (by rw [h]; trivial)).elim
  cases op with
  | acquire => exact ⟨.acquired, by simp [Task.step, hcall], by simp⟩
  | release => exact ⟨.released, by simp [Task.step, hcall], by simp⟩
  | now => exact ⟨.clock 0, by simp [Task.step, hcall], by simp⟩
  | restartKeepAlive => exact ⟨.keepAliveRestarted, by simp [Task.step, hcall], by simp⟩
  | readOptionalChar uuid => exact ⟨.charRead none, by simp [Task.step, hcall], by simp⟩
  | exchange opcode payload =>
    cases hx : t.transport.channel.exchange with
    | none => exact ⟨.exchange, by simp [Task.step, hcall, hx, frame_eq], by simp⟩
    | some x =>
      cases hphase : x.phase with
      | sending number rest =>
        exact ⟨.channel .wrote, by simp [Task.step, Channel.step, hx, hphase], by simp⟩
      | receiving => exact ⟨.channel .timeout, by simp [Task.step, Channel.step, hx, hphase], by simp⟩

end Moves

/-! ## Runs -/

section Runs

variable {client : TTLockClient} {fuel : Nat} {command : Command} {start : BleTransport}

/-- No frame went to two clients, and no operation ended with what a command does not expect. -/
structure Whole (client : TTLockClient) (t : Task) : Prop where
  admitted : ∀ ev ∈ t.finished, Admitted client 255 ev
  oneClient : ∀ frame ∈ t.writes, OneClient frame

/-- A frame went to two clients, or an operation raised what no command catches. -/
def Broken (t : Task) : Prop :=
  (∃ frame ∈ t.writes, ¬ OneClient frame) ∨ ∃ ev ∈ t.finished, Requests.Raised ev

/-- What is true of a command after the events `es`. -/
structure Kept (client : TTLockClient) (fuel : Nat) (command : Command) (start : BleTransport)
    (es : List TaskEvent) (t : Task) : Prop where
  waits : Waits t
  runs : Runs (client.program fuel command) t.finished t.left
  released : ∀ e, ⟨.release, .error e⟩ ∉ t.finished
  linked : (Task.machine client fuel command start).EveryStep Linked es → Whole client t
  unlinked : ¬ (Task.machine client fuel command start).EveryStep Linked es → Broken t

theorem oneClient_concat {frame : List (Nat × Bytes)} {number before : Nat} {sent chunk : Bytes}
    (hsent : (before, sent) ∈ frame) (h : OneClient frame) :
    OneClient (frame ++ [(number, chunk)]) ↔ number = before := by
  constructor
  · intro h'
    exact h' (number, chunk) (by simp) (before, sent) (by simp [hsent])
  · rintro rfl a ha b hb
    have hall : ∀ a ∈ frame ++ [(number, chunk)], a.1 = number := by
      intro a ha
      rcases List.mem_append.mp ha with ha | ha
      · exact h a ha (number, sent) hsent
      · rw [List.mem_singleton.mp ha]
    rw [hall a ha, hall b hb]

theorem oneClient_mono {frame more : List (Nat × Bytes)} (h : OneClient (frame ++ more)) : OneClient frame :=
  fun a ha b hb => h a (List.mem_append_left _ ha) b (List.mem_append_left _ hb)

theorem move_persists {t t' : Task} {e : TaskEvent} (hm : Move client t e t') (h : Broken t) : Broken t' := by
  unfold Broken at h ⊢
  cases hm with
  | still _ _ hfinished hwrites => rwa [hwrites, hfinished]
  | first number chunk _ _ hfinished hwrites =>
    rw [hfinished, hwrites]
    exact h.imp_left fun ⟨frame, hmem, hbad⟩ => ⟨frame, List.mem_cons_of_mem _ hmem, hbad⟩
  | next frame frames before number chunk _ _ hfinished hbefore _ hwrites =>
    rw [hfinished, hwrites]
    refine h.imp_left fun ⟨bad, hmem, hbad⟩ => ?_
    rw [hbefore] at hmem
    rcases List.mem_cons.mp hmem with rfl | hmem
    · exact ⟨_, List.mem_cons_self, fun hone => hbad (oneClient_mono hone)⟩
    · exact ⟨bad, List.mem_cons_of_mem _ hmem, hbad⟩
  | answer op next outcome _ _ hfinished hwrites =>
    rw [hfinished]
    rcases h with ⟨frame, hmem, hbad⟩ | ⟨ev, hev, hraised⟩
    · left
      rcases hwrites with hwrites | hwrites
      · exact ⟨frame, hwrites ▸ hmem, hbad⟩
      · exact ⟨frame, hwrites ▸ List.mem_cons_of_mem _ hmem, hbad⟩
    · exact .inr ⟨ev, List.mem_append_left _ hev, hraised⟩

theorem move_runs {t t' : Task} {e : TaskEvent} (hm : Move client t e t') {program : ClientProgram Unit}
    (h : Runs program t.finished t.left) : Runs program t'.finished t'.left := by
  cases hm with
  | still _ hleft hfinished => rwa [hleft, hfinished]
  | first _ _ _ hleft hfinished => rwa [hleft, hfinished]
  | next _ _ _ _ _ _ hleft hfinished => rwa [hleft, hfinished]
  | answer op next outcome hcall hleft hfinished =>
    rw [hleft, hfinished]
    exact (hcall ▸ h).concat outcome

theorem move_released {t t' : Task} {e : TaskEvent} (hm : Move client t e t')
    (h : ∀ e, ⟨.release, .error e⟩ ∉ t.finished) : ∀ e, ⟨.release, .error e⟩ ∉ t'.finished := by
  cases hm with
  | still _ _ hfinished => rwa [hfinished]
  | first _ _ _ _ hfinished => rwa [hfinished]
  | next _ _ _ _ _ _ _ hfinished => rwa [hfinished]
  | answer op next outcome _ _ hfinished _ _ hrelease =>
    rw [hfinished]
    intro err hmem
    rcases List.mem_append.mp hmem with hmem | hmem
    · exact h err hmem
    · cases List.mem_singleton.mp hmem
      cases hrelease rfl

/-- An event that finds what it needs keeps a frame with one client. -/
theorem linked_step {t t' : Task} {e : TaskEvent} (hwaits : Waits t) (hm : Move client t e t')
    (hlinked : Linked t e) (h : Whole client t) : Whole client t' := by
  obtain ⟨hadmitted, hone⟩ := h
  cases hm with
  | still _ _ hfinished hwrites => exact ⟨hfinished ▸ hadmitted, hwrites ▸ hone⟩
  | first number chunk _ _ hfinished hwrites =>
    refine ⟨hfinished ▸ hadmitted, ?_⟩
    rw [hwrites, List.forall_mem_cons]
    refine ⟨?_, hone⟩
    intro a ha b hb
    rw [List.mem_singleton.mp ha, List.mem_singleton.mp hb]
  | next frame frames before number chunk hiff _ hfinished hbefore hsending hwrites =>
    obtain ⟨frame', frames', heq, sent, hsent⟩ := hwaits.sending before hsending
    rw [hbefore, List.cons.injEq] at heq
    rw [hbefore, List.forall_mem_cons] at hone
    refine ⟨hfinished ▸ hadmitted, ?_⟩
    rw [hwrites, List.forall_mem_cons]
    exact ⟨(oneClient_concat (heq.1 ▸ hsent) hone.1).mpr (hiff.mp hlinked), hone.2⟩
  | answer op next outcome _ _ hfinished hwrites _ _ hcases =>
    constructor
    · rcases hcases with ⟨-, hnew⟩ | ⟨hnot, -⟩
      · rw [hfinished, List.forall_mem_append]
        exact ⟨hadmitted, by simpa using hnew⟩
      · exact absurd hlinked hnot
    · rcases hwrites with hwrites | hwrites
      · exact hwrites ▸ hone
      · rw [hwrites, List.forall_mem_cons]
        exact ⟨by simp [OneClient], hone⟩

/-- An event that misses what it needs splits a frame, or raises what no command catches. -/
theorem unlinked_step {t t' : Task} {e : TaskEvent} (hwaits : Waits t) (hm : Move client t e t')
    (hunlinked : ¬ Linked t e) (hone : ∀ frame ∈ t.writes, OneClient frame) : Broken t' := by
  cases hm with
  | still hlinked => exact absurd hlinked hunlinked
  | first number chunk hlinked => exact absurd hlinked hunlinked
  | next frame frames before number chunk hiff _ hfinished hbefore hsending hwrites =>
    left
    obtain ⟨frame', frames', heq, sent, hsent⟩ := hwaits.sending before hsending
    rw [hbefore, List.cons.injEq] at heq
    rw [hbefore, List.forall_mem_cons] at hone
    refine ⟨_, hwrites ▸ List.mem_cons_self, fun h => hunlinked (hiff.mpr ?_)⟩
    exact (oneClient_concat (heq.1 ▸ hsent) hone.1).mp h
  | answer op next outcome _ _ hfinished _ _ _ hcases =>
    right
    rcases hcases with ⟨hlinked, -⟩ | ⟨-, hraised⟩
    · exact absurd hlinked hunlinked
    · refine ⟨⟨op, outcome⟩, ?_, hraised⟩
      exact hfinished ▸ List.mem_append_right _ List.mem_cons_self

theorem kept_step (hcipher : PaddedCipher client.aes client.aesKey) {es : List TaskEvent}
    {t t' : Task} {e : TaskEvent} (hreach : (Task.machine client fuel command start).Reaches es t)
    (h : Kept client fuel command start es t) (hs : t.step client e = some t') :
    Kept client fuel command start (es ++ [e]) t' := by
  obtain ⟨hm, hwaits⟩ := step_move hcipher h.waits hs
  have hevery := (Task.machine client fuel command start).everyStep_concat Linked t es e hreach
  refine ⟨hwaits, move_runs hm h.runs, move_released hm h.released, fun hlinked => ?_, fun hunlinked => ?_⟩
  · obtain ⟨hbefore, hnow⟩ := hevery.mp hlinked
    exact linked_step h.waits hm hnow (h.linked hbefore)
  · by_cases hbefore : (Task.machine client fuel command start).EveryStep Linked es
    · have hnow : ¬ Linked t e := fun hnow => hunlinked (hevery.mpr ⟨hbefore, hnow⟩)
      exact unlinked_step h.waits hm hnow (h.linked hbefore).oneClient
    · exact move_persists hm (h.unlinked hbefore)

theorem kept_run (hcipher : PaddedCipher client.aes client.aesKey) (hshort : Short start.channel)
    (hidle : start.channel.exchange = none) {es : List TaskEvent} {t : Task}
    (hrun : (Task.machine client fuel command start).Reaches es t) : Kept client fuel command start es t := by
  refine Machine.run_history _ ?_ (fun es t e t' hreach h hs => kept_step hcipher hreach h hs) hrun
  refine ⟨⟨hshort, ?_, ?_⟩, .done _, by simp [Task.machine], fun _ => ?_, fun h => ?_⟩
  · intro hsome
    simp [Task.machine, hidle] at hsome
  · rintro n ⟨x, rest, hx, -⟩
    simp [Task.machine, hidle] at hx
  · constructor <;> simp [Task.machine]
  · refine absurd ?_ h
    intro es e s hp
    simp at hp

/-- **A disconnect under a command.** -/
theorem one_client_iff (client : TTLockClient) (hkey : WellFormedKey client.key)
    (hcipher : PaddedCipher client.aes client.aesKey) (fuel : Nat) (hfuel : 65536 + 255 ≤ fuel)
    (command : Command) (address : String) (device : Option String) (earlier : List TransportEvent)
    (start : BleTransport) (hstart : (BleTransport.machine client.answers address device).Reaches earlier start)
    (hidle : start.channel.exchange = none) (es : List TaskEvent) (t : Task)
    (hrun : (Task.machine client fuel command start).Reaches es t) (hended : t.left.Ended) :
    ((∃ outcome, t.left = Program.ofExcept outcome ∧ Raises IsTTLockError outcome) ∧
        ∀ frame ∈ t.writes, OneClient frame) ↔
      Accepted command ∧ (∀ ev ∈ t.finished, ¬ Breaks client ev) ∧
        (Task.machine client fuel command start).EveryStep Linked es := by
  have hkept := kept_run hcipher (short_run _ address device earlier start hstart) hidle hrun
  have hruns := hkept.runs
  constructor
  · rintro ⟨⟨outcome, hleft, hraises⟩, hone⟩
    rw [hleft] at hruns hended
    have hlinked : (Task.machine client fuel command start).EveryStep Linked es := by
      by_contra hunlinked
      rcases hkept.unlinked hunlinked with ⟨frame, hmem, hbad⟩ | hraised
      · exact hbad (hone frame hmem)
      · obtain ⟨err, rfl, huncaught⟩ :=
          Requests.raised_escapes fuel command t.finished outcome hruns hkept.released hraised
        exact huncaught (isRuntimeOrValueError_of_ttLockError err (hraises err rfl))
    have hadmitted := (hkept.linked hlinked).admitted
    by_cases haccepted : Accepted command
    · obtain ⟨outcome', heq, hiff⟩ :=
        accepted_run hkey fuel hfuel command haccepted t.finished _ hruns hended hadmitted
      obtain rfl := ofExcept_injective heq
      exact ⟨haccepted, hiff.mp hraises, hlinked⟩
    · exact absurd hraises (refused_run fuel hfuel command haccepted t.finished outcome hruns hadmitted)
  · rintro ⟨haccepted, hbreaks, hlinked⟩
    obtain ⟨hadmitted, hone⟩ := hkept.linked hlinked
    obtain ⟨outcome, hrest, hiff⟩ :=
      accepted_run hkey fuel hfuel command haccepted t.finished _ hruns hended hadmitted
    exact ⟨⟨outcome, hrest, hiff.mpr hbreaks⟩, hone⟩

end Runs

/-! ## Two runs -/

/-- The transport behind a `connect`. -/
def linkedUp : BleTransport where
  link := { Link.new "AA:BB:CC:11:22:33" (some "lock") with
    client := some ⟨0, true⟩
    writeChar := some ⟨0, 0⟩
    notifyChar := some ⟨0, 0⟩
    clients := 1
    notifying := [0]
    outcome := some (.connect, .ok ()) }
  channel := .new

theorem reaches_linkedUp :
    (BleTransport.machine Wire.wireClient.answers "AA:BB:CC:11:22:33" (some "lock")).Reaches linkUp linkedUp := by
  decide +kernel

def disconnectNow : List TaskEvent :=
  [.link .disconnect, .link .stoppedNotify, .link (.disconnected (.ok ()))]

def reconnectNow : List TaskEvent := [.link .connect, .link (.established (.ok (true, allServices)))]

/-- The link goes while the first of two chunks is being written. -/
def betweenChunks : List TaskEvent :=
  [.acquired, .exchange] ++ disconnectNow ++ [.channel .wrote, .released]

/-- A new one is there before the second chunk. -/
def twoClients : List TaskEvent :=
  [.acquired, .exchange] ++ disconnectNow ++ reconnectNow ++
    [.channel .wrote, .channel .wrote, .channel .timeout, .released]

/-- The link goes while the reply is waited for. -/
def behindChunks : List TaskEvent :=
  [.acquired, .exchange, .channel .wrote, .channel .wrote] ++ disconnectNow ++ [.channel .timeout, .released]

def noAttribute : PyExc := ⟨.attributeError, "'NoneType' object has no attribute 'write_gatt_char'"⟩

def queryTask : Machine Task TaskEvent := Task.machine Wire.wireClient 65791 .queryState linkedUp

/-- A disconnect between two chunks ends the command with an `AttributeError`, and with a reconnect the
second chunk goes to another client. -/
theorem disconnect_between_chunks :
    (linkedUp.link.isConnected ∧ linkedUp.link.writeChar.isSome ∧ linkedUp.channel.exchange = none) ∧
    (∃ t, queryTask.Reaches betweenChunks t ∧ t.left = Program.ofExcept (.error noAttribute) ∧
      ¬ Raises IsTTLockError (.error noAttribute : Py Unit)) ∧
    ∃ t, queryTask.Reaches twoClients t ∧ t.left = Program.ofExcept (.error Channel.timedOut) ∧
      ∃ frame ∈ t.writes, ¬ OneClient frame := by
  refine ⟨by decide, ⟨_, rfl, rfl, ?_⟩, ⟨_, rfl, rfl, _, List.mem_cons_self, ?_⟩⟩
  · simp [IsTTLockError, noAttribute]
  · intro h
    have := h _ List.mem_cons_self _ (List.mem_cons_of_mem _ List.mem_cons_self)
    revert this
    decide

theorem one_client_iff_behindChunks :
    ∃ t, queryTask.Reaches behindChunks t ∧
      (((∃ outcome, t.left = Program.ofExcept outcome ∧ Raises IsTTLockError outcome) ∧
          ∀ frame ∈ t.writes, OneClient frame) ↔
        Accepted .queryState ∧ (∀ ev ∈ t.finished, ¬ Breaks Wire.wireClient ev) ∧
          queryTask.EveryStep Linked behindChunks) :=
  ⟨_, rfl, one_client_iff Wire.wireClient wellFormedKey_makeVirtualKey Wire.paddedCipher_wireClient
    65791 (by decide) .queryState _ _ linkUp linkedUp reaches_linkedUp rfl behindChunks _ rfl trivial⟩

end TtlockBle.Disconnect
