import TtlockBle.Code.Calls
import TtlockBle.Code.Conftest
import TtlockBle.Handshake

/-!
# The frames of concurrent calls

Whatever the order of steps and whatever the lock answers, a call that holds the command lock has the
end of the log for itself. So what the rule for sending says of its own exchanges is true of the
log.
-/

open TtlockBle.Lib

namespace TtlockBle.Interleaving

open Handshake Program

/-! ## Steps -/

def Fits (owner : Option Nat) (waiting : Bool) : (op : ClientOp) → Py op.Answer → Prop
  | .acquire, .ok _ => owner = none
  | .release, outcome => outcome = .ok ()
  | .exchange _ _, .ok _ => waiting
  | _, _ => True

theorem step_cases (s s' : Calls) (e : CallsEvent) (h : s.step e = some s') :
    (∃ i opcode payload next, (s.calls i).left = .call (.exchange opcode payload) next ∧
      ¬ (s.calls i).waiting ∧ s' = s.send i opcode payload) ∨
    ∃ i op next outcome, (s.calls i).left = .call op next ∧ Fits s.owner (s.calls i).waiting op outcome ∧
      s' = s.finish i op next outcome := by
  unfold Calls.step at h
  cases e with
  | acquired i =>
    simp only at h
    split at h
    · rename_i next hleft
      split at h
      · exact .inr ⟨i, .acquire, next, .ok (), hleft, ‹_›, (Option.some.inj h).symm⟩
      · cases h
    · cases h
  | notAcquired i e =>
    simp only at h
    split at h
    · rename_i next hleft
      exact .inr ⟨i, .acquire, next, .error e, hleft, trivial, (Option.some.inj h).symm⟩
    · cases h
  | released i =>
    simp only at h
    split at h
    · rename_i next hleft
      exact .inr ⟨i, .release, next, .ok (), hleft, rfl, (Option.some.inj h).symm⟩
    · cases h
  | send i =>
    simp only at h
    split at h
    · rename_i opcode payload next hleft
      split at h
      · cases h
      · exact .inl ⟨i, opcode, payload, next, hleft, ‹_›, (Option.some.inj h).symm⟩
    · cases h
  | answer i outcome =>
    simp only at h
    split at h
    · rename_i opcode payload next hleft
      split at h
      · rename_i hanswer
        refine .inr ⟨i, .exchange opcode payload, next, outcome, hleft, ?_, (Option.some.inj h).symm⟩
        rcases outcome with e | resp
        · trivial
        · exact hanswer.resolve_right fun h => h rfl
      · cases h
    · cases h
  | clock i now =>
    simp only at h
    split at h
    · rename_i next hleft
      exact .inr ⟨i, .now, next, now, hleft, trivial, (Option.some.inj h).symm⟩
    · cases h
  | keepAliveRestarted i outcome =>
    simp only at h
    split at h
    · rename_i next hleft
      exact .inr ⟨i, .restartKeepAlive, next, outcome, hleft, trivial, (Option.some.inj h).symm⟩
    · cases h
  | charRead i value =>
    simp only at h
    split at h
    · rename_i uuid next hleft
      exact .inr ⟨i, .readOptionalChar uuid, next, value, hleft, trivial, (Option.some.inj h).symm⟩
    · cases h

/-! ## The log of a call -/

def items (i : Nat) (block : List Exchanged) : List LogItem :=
  block.flatMap fun x => [.sent i x.opcode x.payload, .answered i x.opcode x.payload x.outcome]

/-- The request that a call waits for the answer of. -/
def pending (i : Nat) (c : Call) : List LogItem :=
  match c.waiting, c.left with
  | true, .call (.exchange opcode payload) _ => [.sent i opcode payload]
  | _, _ => []

theorem pending_other (i : Nat) (c : Call) (op : ClientOp) (next : Py op.Answer → ClientProgram Unit)
    (hleft : c.left = .call op next) (hop : ∀ opcode payload, op ≠ .exchange opcode payload) :
    pending i c = [] := by
  unfold pending
  rw [hleft]
  split
  · rename_i heq
    cases heq
    exact absurd rfl (hop _ _)
  · rfl

theorem items_call (i : Nat) (block : List Exchanged) : ∀ item ∈ items i block, item.call = i := by
  intro item hitem
  obtain ⟨x, -, hx⟩ := List.mem_flatMap.mp hitem
  rcases List.mem_cons.mp hx with rfl | hx
  · rfl
  · rw [List.mem_singleton.mp hx]
    rfl

theorem logged_call (i : Nat) (op : ClientOp) (outcome : Py op.Answer) :
    ∀ item ∈ Calls.logged i op outcome, item.call = i := by
  intro item hitem
  cases op with
  | exchange opcode payload =>
    rw [List.mem_singleton.mp hitem]
    rfl
  | _ => cases hitem

/-- What the log and the owner of the lock say of a call that has come to `p`. -/
structure CallInv (client : TTLockClient) (unlockKey : Int) (s : Calls) (i : Nat) (p : Progress) : Prop where
  ends : Ends client unlockKey p (s.calls i).left
  owner : p.held ↔ s.owner = some i
  entered : p.held → 0 < p.taken
  passed : p.passed → ∀ opcode payload outcome, .answered i opcode payload outcome ∈ s.log →
    Passed client ⟨opcode, payload, outcome⟩
  fresh : p.taken = 0 → ∀ item ∈ s.log, item.call ≠ i
  tail : p.held → p.passed → ∃ earlier, s.log = earlier ++ items i p.block ++ pending i (s.calls i) ∧
    (p.taken = 1 → ∀ item ∈ earlier, item.call ≠ i)

section CallInv

variable {self : TTLockClient} {unlockKey : Int} {s : Calls} {i : Nat} {p : Progress}

theorem callInv_other (s' : Calls) (j : Nat) (new : List LogItem) (h : CallInv self unlockKey s i p)
    (hij : i ≠ j) (hcall : s'.calls i = s.calls i) (howner : s'.owner = some i ↔ s.owner = some i)
    (hlog : s'.log = s.log ++ new) (hnew : ∀ item ∈ new, item.call = j) (hheld : p.held → new = []) :
    CallInv self unlockKey s' i p := by
  have hothers : ∀ item ∈ new, item.call ≠ i := fun item hitem h => hij (h ▸ hnew item hitem)
  refine ⟨hcall ▸ h.ends, h.owner.trans howner.symm, h.entered, ?_, ?_, ?_⟩
  · intro hp opcode payload outcome hitem
    rw [hlog, List.mem_append] at hitem
    rcases hitem with hitem | hitem
    · exact h.passed hp opcode payload outcome hitem
    · exact absurd rfl (hothers _ hitem)
  · intro ht item hitem
    rw [hlog, List.mem_append] at hitem
    exact hitem.elim (h.fresh ht item) (hothers item)
  · intro hh hp
    rw [hlog, hheld hh, List.append_nil, hcall]
    exact h.tail hh hp

theorem pending_false (left : ClientProgram Unit) : pending i ⟨left, false⟩ = [] := by
  simp [pending]

theorem callInv_quiet (s' : Calls) (left : ClientProgram Unit) (h : CallInv self unlockKey s i p)
    (hends : Ends self unlockKey p left) (hpending : pending i (s.calls i) = [])
    (hcall : s'.calls i = ⟨left, false⟩) (howner : s'.owner = s.owner) (hlog : s'.log = s.log) :
    CallInv self unlockKey s' i p := by
  refine ⟨?_, howner ▸ h.owner, h.entered, hlog ▸ h.passed, hlog ▸ h.fresh, ?_⟩
  · rw [hcall]
    exact hends
  · intro hh hp
    obtain ⟨earlier, hearlier, hfresh⟩ := h.tail hh hp
    refine ⟨earlier, ?_, hfresh⟩
    rw [hlog, hearlier, hpending, hcall, pending_false]

theorem callInv_acquire (s' : Calls) (left : ClientProgram Unit) (h : CallInv self unlockKey s i p)
    (hends : Ends self unlockKey p.take left) (hcall : s'.calls i = ⟨left, false⟩)
    (howner : s'.owner = some i) (hlog : s'.log = s.log) : CallInv self unlockKey s' i p.take := by
  refine ⟨?_, by simp [howner, Progress.take], fun _ => Nat.succ_pos _, hlog ▸ h.passed, ?_, ?_⟩
  · rw [hcall]
    exact hends
  · intro ht
    simp [Progress.take] at ht
  · intro _ _
    refine ⟨s.log, ?_, fun ht => h.fresh (by simpa [Progress.take] using ht)⟩
    rw [hcall, pending_false, hlog]
    simp [Progress.take, items]

theorem callInv_release (s' : Calls) (left : ClientProgram Unit) (h : CallInv self unlockKey s i p)
    (hends : Ends self unlockKey p.give left) (hcall : s'.calls i = ⟨left, false⟩)
    (howner : s'.owner = none) (hlog : s'.log = s.log) : CallInv self unlockKey s' i p.give := by
  refine ⟨?_, by simp [howner, Progress.give], fun h => h.elim, hlog ▸ h.passed, hlog ▸ h.fresh,
    fun h => h.elim⟩
  rw [hcall]
  exact hends

theorem callInv_answer (s' : Calls) (left : ClientProgram Unit) (opcode : Int) (payload : Bytes)
    (next : Py Frame → ClientProgram Unit) (outcome : Py Frame) (h : CallInv self unlockKey s i p)
    (hheld : p.held) (hleft : (s.calls i).left = .call (.exchange opcode payload) next)
    (hfits : Fits s.owner (s.calls i).waiting (.exchange opcode payload) outcome)
    (hends : Ends self unlockKey (p.push self ⟨opcode, payload, outcome⟩) left)
    (hcall : s'.calls i = ⟨left, false⟩) (howner : s'.owner = s.owner)
    (hlog : s'.log = s.log ++ [.answered i opcode payload outcome]) :
    CallInv self unlockKey s' i (p.push self ⟨opcode, payload, outcome⟩) := by
  refine ⟨?_, howner ▸ h.owner, h.entered, ?_, ?_, ?_⟩
  · rw [hcall]
    exact hends
  · rintro ⟨hp, hpassed⟩ opcode' payload' outcome' hitem
    rw [hlog, List.mem_append, List.mem_singleton] at hitem
    rcases hitem with hitem | hitem
    · exact h.passed hp opcode' payload' outcome' hitem
    · cases hitem
      exact hpassed
  · intro ht
    exact absurd (h.entered hheld) (by rw [show p.taken = 0 from ht]; decide)
  · rintro - ⟨hp, hpassed⟩
    obtain ⟨resp, plain, data, houtcome, -⟩ := id hpassed
    obtain rfl : outcome = .ok resp := houtcome
    have hwaiting : (s.calls i).waiting = true := hfits
    obtain ⟨earlier, hearlier, hfresh⟩ := h.tail hheld hp
    refine ⟨earlier, ?_, hfresh⟩
    rw [hlog, hearlier, hcall, pending_false, pending, hwaiting, hleft]
    simp [items, Progress.push]

theorem callInv_finish {op : ClientOp} {next : Py op.Answer → ClientProgram Unit} {outcome : Py op.Answer}
    (h : CallInv self unlockKey s i p) (hleft : (s.calls i).left = .call op next)
    (hfits : Fits s.owner (s.calls i).waiting op outcome)
    (hcall : (s.finish i op next outcome).calls i = ⟨next outcome, false⟩)
    (hallows : (monitor self unlockKey).allows p op)
    (hnext : (monitor self unlockKey).admits p op outcome →
      Ends self unlockKey ((monitor self unlockKey).next p op outcome) (next outcome)) :
    CallInv self unlockKey (s.finish i op next outcome) i ((monitor self unlockKey).next p op outcome) := by
  have hpending := pending_other i (s.calls i) op next hleft
  have hsame : Calls.logged i op outcome = [] → (s.finish i op next outcome).log = s.log := fun h => by
    rw [Calls.finish, h, List.append_nil]
  cases op with
  | acquire =>
    rcases outcome with e | ⟨⟩
    · exact callInv_quiet _ _ h (hnext trivial) (hpending (by simp)) hcall rfl (hsame rfl)
    · exact callInv_acquire _ _ h (hnext trivial) hcall rfl (hsame rfl)
  | release =>
    obtain rfl : outcome = .ok () := hfits
    exact callInv_release _ _ h (hnext rfl) hcall rfl (hsame rfl)
  | exchange opcode payload =>
    exact callInv_answer _ _ opcode payload next outcome h hallows.held hleft hfits (hnext trivial) hcall rfl rfl
  | now => exact callInv_quiet _ _ h (hnext trivial) (hpending (by simp)) hcall rfl (hsame rfl)
  | restartKeepAlive => exact callInv_quiet _ _ h (hnext trivial) (hpending (by simp)) hcall rfl (hsame rfl)
  | readOptionalChar uuid =>
    exact callInv_quiet _ _ h (hnext trivial) (hpending (by simp)) hcall rfl (hsame rfl)

theorem owner_other {j : Nat} {op : ClientOp} {outcome : Py op.Answer} (h : CallInv self unlockKey s i p)
    (hj : ¬ j = i) (hallows : (monitor self unlockKey).allows p op)
    (hfits : Fits s.owner (s.calls i).waiting op outcome) :
    Calls.ownerAfter s.owner i op outcome = some j ↔ s.owner = some j := by
  cases op with
  | acquire =>
    rcases outcome with e | ⟨⟩
    · rfl
    · rw [show s.owner = none from hfits]
      simp [Calls.ownerAfter, Ne.symm hj]
  | release =>
    rw [h.owner.mp hallows]
    simp [Calls.ownerAfter, Ne.symm hj]
  | _ => rfl

theorem callInv_send (opcode : Int) (payload : Bytes) (next : Py Frame → ClientProgram Unit)
    (h : CallInv self unlockKey s i p) (hheld : p.held)
    (hleft : (s.calls i).left = .call (.exchange opcode payload) next) (hwaiting : ¬ (s.calls i).waiting) :
    CallInv self unlockKey (s.send i opcode payload) i p := by
  have hcall : (s.send i opcode payload).calls i = { s.calls i with waiting := true } := if_pos rfl
  have hlog : (s.send i opcode payload).log = s.log ++ [.sent i opcode payload] := rfl
  refine ⟨hcall ▸ h.ends, h.owner, h.entered, ?_, ?_, ?_⟩
  · intro hp opcode' payload' outcome' hitem
    rw [hlog, List.mem_append, List.mem_singleton] at hitem
    exact h.passed hp _ _ _ (hitem.resolve_right (by simp))
  · intro ht
    exact absurd (h.entered hheld) (by rw [ht]; decide)
  · intro hh hp
    obtain ⟨earlier, hearlier, hfresh⟩ := h.tail hh hp
    refine ⟨earlier, ?_, hfresh⟩
    have hbefore : pending i (s.calls i) = [] := by simp [pending, hwaiting]
    rw [hlog, hearlier, hcall, hbefore, List.append_nil, pending, hleft]

end CallInv

/-! ## What stands before a frame -/

/-- The frame `opcode payload` of the call `i` is in its place behind the items `before`. -/
structure InPlace (client : TTLockClient) (unlockKey : Int) (before : List LogItem) (i : Nat) (opcode : Int)
    (payload : Bytes) : Prop where
  /-- UNLOCK and LOCK come directly behind a CHECK_USER_TIME of the call, and carry its token. -/
  bolt : opcode = cmdUnlock ∨ opcode = cmdLock → ∃ earlier payload' resp t,
    before = earlier ++ [.sent i cmdCheckUserTime payload', .answered i cmdCheckUserTime payload' (.ok resp)] ∧
    Token client resp t ∧ payload.take 4 = toBytesBig 4 (tokenSum t unlockKey)
  /-- A gated command comes behind an admin handshake of the call, and nothing but frames of the
  call is in between. -/
  gated : opcode ∈ gatedOpcodes → ∃ earlier payload' resp t resp' pages,
    before = earlier ++ [.sent i cmdCheckAdmin payload', .answered i cmdCheckAdmin payload' (.ok resp),
      .sent i cmdCheckRandom (toBytesBig 4 (tokenSum t unlockKey)),
      .answered i cmdCheckRandom (toBytesBig 4 (tokenSum t unlockKey)) (.ok resp')] ++ pages ∧
    Token client resp t ∧ Granted client resp' ∧ ∀ item ∈ pages, item.call = i
  /-- The frames of a listing are not parted by those of another call. -/
  paged : opcode ∈ pagedOpcodes → ∃ earlier own, before = earlier ++ own ∧
    (∀ item ∈ earlier, item.call ≠ i) ∧ ∀ item ∈ own, item.call = i
  /-- No exchange of the call has failed. -/
  passed : ∀ opcode' payload' outcome, .answered i opcode' payload' outcome ∈ before →
    Passed client ⟨opcode', payload', outcome⟩

theorem inPlace_send {self : TTLockClient} {unlockKey : Int} {s : Calls} {i : Nat} {p : Progress}
    {opcode : Int} {payload : Bytes} (h : CallInv self unlockKey s i p)
    (hwaiting : ¬ (s.calls i).waiting) (hmay : MaySend self unlockKey p opcode payload) :
    InPlace self unlockKey s.log i opcode payload := by
  obtain ⟨earlier, hlog, hfresh⟩ := h.tail hmay.held hmay.passed
  have hpending : pending i (s.calls i) = [] := by simp [pending, hwaiting]
  rw [hpending, List.append_nil] at hlog
  constructor
  · intro hbolt
    obtain ⟨payload', resp, t, hblock, htoken, htake⟩ := hmay.bolt hbolt
    refine ⟨earlier, payload', resp, t, ?_, htoken, htake⟩
    rw [hlog, hblock]
    rfl
  · intro hgated
    obtain ⟨payload', resp, t, resp', pages, hblock, htoken, hgranted, -⟩ := hmay.gated hgated
    refine ⟨earlier, payload', resp, t, resp', items i pages, ?_, htoken, hgranted, items_call i pages⟩
    rw [hlog, hblock, List.append_assoc]
    rfl
  · intro hpaged
    exact ⟨earlier, items i p.block, hlog, hfresh (hmay.paged hpaged), items_call i p.block⟩
  · exact h.passed hmay.passed

/-- Every frame of the log is in its place. -/
def Ordered (client : TTLockClient) (unlockKey : Int) (log : List LogItem) : Prop :=
  ∀ before i opcode payload after, log = before ++ .sent i opcode payload :: after →
    InPlace client unlockKey before i opcode payload

theorem ordered_append {client : TTLockClient} {unlockKey : Int} {log new : List LogItem}
    (h : Ordered client unlockKey log)
    (hnew : ∀ earlier i opcode payload later, new = earlier ++ .sent i opcode payload :: later →
      InPlace client unlockKey (log ++ earlier) i opcode payload) : Ordered client unlockKey (log ++ new) := by
  intro before i opcode payload after hlog
  rcases List.append_eq_append_iff.mp hlog with ⟨as, rfl, has⟩ | ⟨bs, hbs, hnew'⟩
  · exact hnew as i opcode payload after has
  · rcases bs with _ | ⟨b, bs⟩
    · rw [List.append_nil] at hbs
      rw [← hbs, ← List.append_nil log]
      exact hnew [] i opcode payload after hnew'.symm
    · obtain ⟨rfl, -⟩ := List.cons.inj hnew'
      exact h before i opcode payload bs hbs

/-! ## Runs -/

/-- Every call is where some progress of its own says it is. -/
structure Inv (client : TTLockClient) (unlockKey : Int) (s : Calls) : Prop where
  calls : ∃ progress : Nat → Progress, ∀ i, CallInv client unlockKey s i (progress i)
  ordered : Ordered client unlockKey s.log

section Runs

variable {self : TTLockClient} {unlockKey : Int} (hkey : parseInt self.key.unlockKey = .ok unlockKey)
include hkey

theorem inv_start (fuel : Nat) (commands : Nat → Command) :
    Inv self unlockKey (Calls.machine self fuel commands).start := by
  refine ⟨⟨fun _ => Progress.start, fun i => ?_⟩, ?_⟩
  · constructor
    · exact ends_program hkey fuel (commands i)
    all_goals simp [Progress.start, Calls.machine]
  · intro before i opcode payload after h
    simp [Calls.machine] at h

omit hkey in
theorem inv_send {s : Calls} {i : Nat} {opcode : Int} {payload : Bytes} {next : Py Frame → ClientProgram Unit}
    (h : Inv self unlockKey s) (hleft : (s.calls i).left = .call (.exchange opcode payload) next)
    (hwaiting : ¬ (s.calls i).waiting) : Inv self unlockKey (s.send i opcode payload) := by
  obtain ⟨⟨progress, hcalls⟩, hordered⟩ := h
  have hmay : MaySend self unlockKey (progress i) opcode payload := by
    have hends := (hcalls i).ends
    rw [hleft] at hends
    exact hends.1
  refine ⟨⟨progress, fun j => ?_⟩, ?_⟩
  · by_cases hj : j = i
    · subst hj
      exact callInv_send opcode payload next (hcalls j) hmay.held hleft hwaiting
    · refine callInv_other _ i [.sent i opcode payload] (hcalls j) hj (if_neg hj) Iff.rfl rfl ?_ ?_
      · intro item hitem
        rw [List.mem_singleton.mp hitem]
        rfl
      · intro hheld
        have hi := (hcalls i).owner.mp hmay.held
        rw [(hcalls j).owner.mp hheld] at hi
        exact absurd (Option.some.inj hi) hj
  · apply ordered_append hordered
    intro earlier j opcode' payload' later hnew
    rcases earlier with _ | ⟨_, earlier⟩
    · cases hnew
      rw [List.append_nil]
      exact inPlace_send (hcalls i) hwaiting hmay
    · simp at hnew

omit hkey in
theorem inv_finish {s : Calls} {i : Nat} {op : ClientOp} {next : Py op.Answer → ClientProgram Unit}
    {outcome : Py op.Answer} (h : Inv self unlockKey s) (hleft : (s.calls i).left = .call op next)
    (hfits : Fits s.owner (s.calls i).waiting op outcome) :
    Inv self unlockKey (s.finish i op next outcome) := by
  obtain ⟨⟨progress, hcalls⟩, hordered⟩ := h
  have hcall : (s.finish i op next outcome).calls i = ⟨next outcome, false⟩ := if_pos rfl
  have hi := hcalls i
  obtain ⟨hallows, hnext⟩ : (monitor self unlockKey).allows (progress i) op ∧
      ((monitor self unlockKey).admits (progress i) op outcome →
        Ends self unlockKey ((monitor self unlockKey).next (progress i) op outcome) (next outcome)) := by
    have hends := hi.ends
    rw [hleft] at hends
    exact ⟨hends.1, hends.2 outcome⟩
  refine ⟨⟨fun j => if j = i then (monitor self unlockKey).next (progress i) op outcome else progress j,
    fun j => ?_⟩, ?_⟩
  · by_cases hj : j = i
    · subst hj
      simp only [if_true]
      exact callInv_finish hi hleft hfits hcall hallows hnext
    · simp only [hj, if_false]
      refine callInv_other _ i (Calls.logged i op outcome) (hcalls j) hj (if_neg hj) ?_ rfl
        (logged_call i op outcome) ?_
      · exact owner_other hi hj hallows hfits
      · intro hheld
        cases op with
        | exchange opcode payload =>
          have howner := hi.owner.mp hallows.held
          rw [(hcalls j).owner.mp hheld] at howner
          exact absurd (Option.some.inj howner) hj
        | _ => rfl
  · apply ordered_append hordered
    intro earlier j opcode payload later hnew
    cases op with
    | exchange opcode' payload' => rcases earlier with _ | ⟨_, _ | _⟩ <;> simp [Calls.logged] at hnew
    | _ => simp [Calls.logged] at hnew

/-- **Handshakes.** In every run of concurrent calls, each frame is in its place. -/
theorem frames_in_place (fuel : Nat) (commands : Nat → Command) (es : List CallsEvent) (s : Calls)
    (hrun : (Calls.machine self fuel commands).Reaches es s) (before after : List LogItem) (i : Nat)
    (opcode : Int) (payload : Bytes) (hlog : s.log = before ++ .sent i opcode payload :: after) :
    InPlace self unlockKey before i opcode payload := by
  have hinv : Inv self unlockKey s := by
    refine Machine.run_invariant _ (I := Inv self unlockKey) (inv_start hkey fuel commands) ?_ hrun
    intro s e s' h hs
    rcases step_cases s s' e hs with ⟨i, opcode, payload, next, hleft, hwaiting, rfl⟩ |
      ⟨i, op, next, outcome, hleft, hfits, rfl⟩
    · exact inv_send h hleft hwaiting
    · exact inv_finish h hleft hfits
  exact hinv.ordered before i opcode payload after hlog

end Runs

/-- The cipher for a CHECK_USER_TIME reply with the token 0x1000. -/
def tokenTable : List (Bytes × Bytes) :=
  [([0x55, 0x01, 0x00, 0x00, 0x10, 0x00],
    [0x2D, 0x61, 0xE4, 0x68, 0xF7, 0xEC, 0x8E, 0x42, 0x21, 0x09, 0x35, 0xD1, 0x75, 0xE2, 0x9C, 0x31])]

def tokenReply : Frame := lockFrame (tokenTable.getD 0 ([], [])).2

/-- A poke, and behind it an unlock up to its second request. -/
def pokeThenUnlock : List CallsEvent :=
  [.acquired 1, .send 1, .answer 1 (.ok tokenReply), .released 1, .acquired 0, .send 0,
    .answer 0 (.ok tokenReply), .clock 0 (.ok 1700000000000), .send 0]

def unlockPayload : Bytes := [0x0E, 0xB6, 0x23, 0x8B, 0x65, 0x53, 0xF1, 0x00]

def pokeAndUnlock (call : Nat) : Command := if call = 0 then .unlock else .pokeLock

theorem frames_in_place_pokeThenUnlock :
    ∃ s, (Calls.machine (makeClient tokenTable) 0 pokeAndUnlock).Reaches pokeThenUnlock s ∧
      InPlace (makeClient tokenTable) 246813579 (s.log.take 4) 0 cmdUnlock unlockPayload := by
  obtain ⟨s, hrun, hlog⟩ := (Machine.exists_reaches (Calls.machine (makeClient tokenTable) 0 pokeAndUnlock)
    pokeThenUnlock (fun s => s.log.drop 4 = [.sent 0 cmdUnlock unlockPayload])).mpr (by decide +kernel)
  refine ⟨s, hrun, frames_in_place (by rfl) 0 pokeAndUnlock pokeThenUnlock s hrun _ [] 0 cmdUnlock
    unlockPayload ?_⟩
  rw [← hlog, List.take_append_drop]

end TtlockBle.Interleaving
