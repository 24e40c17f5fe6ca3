import TtlockBle.Code.Conftest
import TtlockBle.Code.Events
import TtlockBle.Parsers

/-!
# Pushed states and queried states

A reply to the state query that comes too late is dispatched as a push. The push decoder does not
look at the status, so it takes the error code of a rejected query for a battery level.
-/

open TtlockBle.Lib

namespace TtlockBle.Events

open LockEvent

/-- What the push decoder reports of a state message, the query decoders report of it too. -/
structure Agree (status : UInt8) (data : Bytes) : Prop where
  battery : ∀ b, (fromPayload 0x14 status data).battery = some b →
    parseStateBattery (0x14 :: status :: data) = .ok (some b)
  lockState : ∀ s, (fromPayload 0x14 status data).lockState = some s →
    parseLockStatus (0x14 :: status :: data) = .ok (some s)

/-! ## The push decoder -/

theorem fromPayload_battery (status : UInt8) (data : Bytes) :
    (fromPayload 0x14 status data).battery = data[0]? := by
  unfold fromPayload
  simp only [commSearchBicycleStatus, ne_eq, not_true_eq_false, false_or]
  split
  · rename_i h
    rw [List.eq_nil_of_length_eq_zero h]
    rfl
  · split
    · rfl
    · split <;> rfl

theorem fromPayload_lockState (status : UInt8) (data : Bytes) (s : LockState)
    (h : (fromPayload 0x14 status data).lockState = some s) :
    data.length = 3 ∧ data[1]?.bind LockState.ofByte = some s := by
  unfold fromPayload at h
  simp only [commSearchBicycleStatus, ne_eq, not_true_eq_false, false_or, statePushLen] at h
  split at h
  · cases h
  · split at h
    · rename_i hlen
      exact ⟨hlen, h⟩
    · split at h <;> cases h

/-! ## The query decoders -/

theorem parseStateBattery_success (data : Bytes) :
    parseStateBattery (0x14 :: responseSuccess :: data) = .ok data[0]? := by
  rcases data with _ | ⟨b, rest⟩
  · rfl
  · unfold parseStateBattery
    rw [Parsers.parseResponseStatus_cons]
    simp [bind, Except.bind, byteAt]
    rfl

theorem parseStateBattery_other (status : UInt8) (data : Bytes) (h : status ≠ responseSuccess) :
    parseStateBattery (0x14 :: status :: data) = .ok none := by
  unfold parseStateBattery
  rw [Parsers.parseResponseStatus_cons]
  exact if_pos (Or.inl h)

theorem parseLockStatus_success (data : Bytes) (h : 2 ≤ data.length) :
    parseLockStatus (0x14 :: responseSuccess :: data) = .ok (data[1]?.bind LockState.ofByte) := by
  unfold parseLockStatus
  rw [Parsers.parseResponseStatus_cons]
  have hget := List.getElem?_eq_getElem (show 1 < data.length by omega)
  simp [bind, Except.bind, byteAt, hget]
  rw [if_neg (by omega)]
  rfl

/-! ## Both -/

/-- **The two decoders agree** on what the lock did, and on nothing else that has data. -/
theorem agree_iff (status : UInt8) (data : Bytes) :
    Agree status data ↔ status = responseSuccess ∨ data = [] := by
  constructor
  · intro h
    by_contra hnot
    obtain ⟨hstatus, hdata⟩ := not_or.mp hnot
    obtain ⟨b, rest, rfl⟩ := List.exists_cons_of_ne_nil hdata
    have hquery := h.battery b (fromPayload_battery status (b :: rest))
    rw [parseStateBattery_other status _ hstatus] at hquery
    cases hquery
  · rintro (rfl | rfl)
    · constructor
      · intro b hb
        rw [fromPayload_battery] at hb
        rw [parseStateBattery_success, hb]
      · intro s hs
        obtain ⟨hlen, hs⟩ := fromPayload_lockState _ _ _ hs
        rw [parseLockStatus_success data (by omega), hs]
    · constructor
      · intro b hb
        rw [fromPayload_battery] at hb
        cases hb
      · intro s hs
        have := (fromPayload_lockState _ _ _ hs).1
        simp at this

/-- A query rejected with error `0x16` is pushed as a battery level of 22. -/
theorem rejected_not_agree :
    (fromPayload 0x14 0x00 [0x16]).battery = some 22 ∧ parseStateBattery [0x14, 0x00, 0x16] = .ok none ∧
      ¬ ∀ status data, Agree status data := by
  refine ⟨by decide, by decide, fun h => ?_⟩
  have hquery := (h 0x00 [0x16]).battery 22 (by decide)
  revert hquery
  decide

end TtlockBle.Events
