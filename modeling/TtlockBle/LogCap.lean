import TtlockBle.OperationLog

/-!
# The cap of the operation log

Against the same lock, a call with `max_entries` and one without go through the same pages, until the
first has enough.
-/

open TtlockBle.Lib

namespace TtlockBle.LogCap

open Lock OperationLog

variable {σ : Type} {lock : Lock σ} {client : TTLockClient}

theorem raiseAsTTLockError_error {α : Type} (catches : PyExc → Bool) (text : String → String) (e : PyExc) :
    ∃ e', raiseAsTTLockError catches text (.error e : Py α) = .error e' := by
  unfold raiseAsTTLockError
  split
  · rename_i h
    cases h
  · split <;> exact ⟨_, rfl⟩

theorem exists_page {maxEntries : Option Int} {fuel : Nat} {nextSeq : Int} {seen : List Int}
    {entries L : List LogEntry} {s s' : Session σ}
    (h : lock.play s (client.operationLogPages maxEntries (fuel + 1) nextSeq seen entries) = (s', some (.ok L))) :
    ∃ payload plain page, payloadOperateLogRequest nextSeq = .ok payload ∧
      lock.play s (client.roundTrip cmdGetOperateLog payload "operate_log") =
        (lock.send s cmdGetOperateLog payload, some (.ok plain)) ∧
      parseOperateLogResponse plain = .ok page := by
  rw [TTLockClient.operationLogPages] at h
  cases hpayload : payloadOperateLogRequest nextSeq with
  | error e =>
    rw [play_bind_error (by rw [play_lift, hpayload])] at h
    cases h
  | ok payload =>
    rw [play_lift_bind hpayload] at h
    have hround := @play_roundTrip σ lock s client cmdGetOperateLog payload "operate_log"
    cases hplain : lock.reply s.lock cmdGetOperateLog payload >>= fun resp =>
        client.decryptResponse resp "operate_log" with
    | error e =>
      rw [hplain] at hround
      rw [play_bind_error hround] at h
      cases h
    | ok plain =>
      rw [hplain] at hround
      rw [play_bind hround] at h
      cases hparse : parseOperateLogResponse plain with
      | error e =>
        obtain ⟨e', he'⟩ :=
          raiseAsTTLockError_error PyExc.isValueError ("Failed to parse operate_log response: " ++ ·) e
        rw [hparse, play_bind_error (by rw [play_lift, he'])] at h
        cases h
      | ok page => exact ⟨payload, plain, page, rfl, hround, hparse⟩

/-- Both loops are at the same place: the capped one has not had enough so far. -/
theorem capped_pages (fuel : Nat) (nextSeq : Int) (seen : List Int) (entries L : List LogEntry)
    (s s' : Session σ)
    (h : lock.play s (client.operationLogPages none fuel nextSeq seen entries) = (s', some (.ok L))) :
    entries <+: L ∧ ∀ n : Nat, entries = [] ∨ entries.length < n →
      ∃ s'', s''.sent <+: s'.sent ∧
        lock.play s (client.operationLogPages (some (n : Int)) fuel nextSeq seen entries) =
          (s'', some (.ok (L.take n))) := by
  induction fuel generalizing nextSeq seen entries s with
  | zero => cases h
  | succ fuel ih =>
    obtain ⟨payload, plain, page, hpayload, hround, hparse⟩ := exists_page h
    let new := page.1.filter fun e => e.recordNumber ∉ seen
    let next (maxEntries : Option Int) : ClientProgram (List LogEntry) :=
      if (page.2 : Int) = 0 ∨ (page.2 : Int) = nextSeq then pure (entries ++ new)
      else client.operationLogPages maxEntries fuel page.2 (seen ++ new.map (·.recordNumber)) (entries ++ new)
    have hturn (maxEntries : Option Int) :
        lock.play s (client.operationLogPages maxEntries (fuel + 1) nextSeq seen entries) =
          lock.play (lock.send s cmdGetOperateLog payload) (if new = [] then pure entries
            else if ∃ n ∈ maxEntries, ((entries ++ new).length : Int) ≥ n then
              pure (TTLockClient.sliceTo (entries ++ new) (maxEntries.getD 0))
            else next maxEntries) :=
      operationLogPages_turn hpayload hround hparse maxEntries fuel seen entries
    rw [hturn none] at h
    by_cases hnew : new = []
    · rw [if_pos hnew, play_pure] at h
      obtain ⟨rfl, hall⟩ := Prod.mk.inj h
      obtain rfl := Except.ok.inj (Option.some.inj hall)
      refine ⟨List.prefix_refl _, fun n hn => ⟨_, List.prefix_refl _, ?_⟩⟩
      have hall : entries.take n = entries := by
        rcases hn with rfl | hn
        · exact List.take_nil
        · exact List.take_of_length_le (Nat.le_of_lt hn)
      rw [hturn, if_pos hnew, play_pure, hall]
    have hnocap : ¬ ∃ n ∈ (none : Option Int), ((entries ++ new).length : Int) ≥ n := by simp
    rw [if_neg hnew, if_neg hnocap] at h
    have hsent := sent_prefix lock (lock.send s cmdGetOperateLog payload) (next none)
    rw [h] at hsent
    -- What the uncapped loop still does, and the capped one where it has not had enough.
    have hnext : entries ++ new <+: L ∧ ∀ n : Nat, (entries ++ new).length < n →
        ∃ s'', s''.sent <+: s'.sent ∧
          lock.play (lock.send s cmdGetOperateLog payload) (next (some (n : Int))) = (s'', some (.ok (L.take n))) := by
      by_cases hstop : (page.2 : Int) = 0 ∨ (page.2 : Int) = nextSeq
      · have hpure (maxEntries : Option Int) : next maxEntries = pure (entries ++ new) := if_pos hstop
        rw [hpure, play_pure] at h
        obtain ⟨rfl, hall⟩ := Prod.mk.inj h
        obtain rfl := Except.ok.inj (Option.some.inj hall)
        refine ⟨List.prefix_refl _, fun n hn => ⟨_, List.prefix_refl _, ?_⟩⟩
        rw [hpure, play_pure, List.take_of_length_le (Nat.le_of_lt hn)]
      · have hloop (maxEntries : Option Int) : next maxEntries = client.operationLogPages maxEntries fuel page.2
            (seen ++ new.map (·.recordNumber)) (entries ++ new) := if_neg hstop
        rw [hloop] at h
        obtain ⟨hlisted, hcapped⟩ := ih _ _ _ _ h
        refine ⟨hlisted, fun n hn => ?_⟩
        rw [hloop]
        exact hcapped n (.inr hn)
    refine ⟨(List.prefix_append _ _).trans hnext.1, fun n _ => ?_⟩
    rw [hturn, if_neg hnew]
    by_cases hcap : (entries ++ new).length ≥ n
    · refine ⟨_, hsent, ?_⟩
      rw [if_pos ⟨(n : Int), rfl, by exact_mod_cast hcap⟩, play_pure]
      obtain ⟨rest, rfl⟩ := hnext.1
      have htake : TTLockClient.sliceTo (entries ++ new) ((some (n : Int)).getD 0) =
          (entries ++ new ++ rest).take n := by
        rw [List.take_append_of_le_length hcap]
        exact if_pos (Int.natCast_nonneg n)
      rw [htake]
    · have hmore : ¬ ∃ m ∈ some (n : Int), ((entries ++ new).length : Int) ≥ m := by
        rintro ⟨m, hm, hge⟩
        obtain rfl := Option.some.inj hm
        omega
      rw [if_neg hmore]
      exact hnext.2 n (Nat.lt_of_not_ge hcap)

/-- **`max_entries` is only a cap.** -/
theorem getOperationLog_capped {σ : Type} (lock : Lock σ) (client : TTLockClient) (fuel : Nat) (fromSequence : Int)
    (start : σ) (s : Session σ) (L : List LogEntry)
    (h : lock.play ⟨start, []⟩ (client.getOperationLog fuel none fromSequence) = (s, some (.ok L))) (n : Nat) :
    ∃ s', s'.sent <+: s.sent ∧
      lock.play ⟨start, []⟩ (client.getOperationLog fuel (some (n : Int)) fromSequence) =
        (s', some (.ok (L.take n))) := by
  unfold TTLockClient.getOperationLog at h ⊢
  rw [play_withCommandLock] at h ⊢
  exact (capped_pages fuel fromSequence [] [] L _ _ h).2 n (.inl rfl)

/-- A lock that repeats its only page. -/
def pageLock : Lock Unit := ⟨fun _ _ _ => .ok (logReply 0), fun _ _ _ => ()⟩

theorem pageLock_log : ∃ (s : Session Unit) (L : List LogEntry),
    pageLock.play ⟨(), []⟩ ((makeClient logTable).getOperationLog 2 none 0xFFFF) = (s, some (.ok L)) ∧
      L.length = 1 := by
  have hlength : (pageLock.play ⟨(), []⟩ ((makeClient logTable).getOperationLog 2 none 0xFFFF)).2.map
      (fun o => o.toOption.map List.length) = some (some 1) := by decide +kernel
  rcases hplay : pageLock.play ⟨(), []⟩ ((makeClient logTable).getOperationLog 2 none 0xFFFF) with ⟨s, _ | e | L⟩
  · simp [hplay] at hlength
  · simp [hplay, Except.toOption] at hlength
  · exact ⟨s, L, rfl, by simpa [hplay, Except.toOption] using hlength⟩

/-- The cap can be zero. -/
theorem getOperationLog_capped_pageLock : ∃ (s : Session Unit) (L : List LogEntry), L.length = 1 ∧
    ∃ s', s'.sent <+: s.sent ∧
      pageLock.play ⟨(), []⟩ ((makeClient logTable).getOperationLog 2 (some ((0 : Nat) : Int)) 0xFFFF) =
        (s', some (.ok (L.take 0))) := by
  obtain ⟨s, L, hplay, hlength⟩ := pageLock_log
  exact ⟨s, L, hlength, getOperationLog_capped pageLock (makeClient logTable) 2 0xFFFF () s L hplay 0⟩

end TtlockBle.LogCap
