import Mathlib.Data.List.Nodup

/-!
# First arrivals

The items of a list whose key no item before them has, in the order of the list.
-/

namespace TtlockBle.Lib

variable {α κ : Type} [DecidableEq κ] (key : α → κ)

/-- The first arrivals of a list behind items with the keys `earlier`. -/
def firstsAfter (earlier : List κ) : List α → List α
  | [] => []
  | x :: xs => (if key x ∈ earlier then [] else [x]) ++ firstsAfter (earlier ++ [key x]) xs

def firsts (l : List α) : List α := firstsAfter key [] l

theorem firstsAfter_append (earlier : List κ) (l l' : List α) :
    firstsAfter key earlier (l ++ l') =
      firstsAfter key earlier l ++ firstsAfter key (earlier ++ l.map key) l' := by
  induction l generalizing earlier with
  | nil => simp [firstsAfter]
  | cons x xs ih =>
    rw [List.cons_append, firstsAfter, firstsAfter, ih]
    simp

theorem firstsAfter_congr {earlier earlier' : List κ} (h : ∀ k, k ∈ earlier ↔ k ∈ earlier') (l : List α) :
    firstsAfter key earlier l = firstsAfter key earlier' l := by
  induction l generalizing earlier earlier' with
  | nil => rfl
  | cons x xs ih =>
    have hnext : ∀ k, k ∈ earlier ++ [key x] ↔ k ∈ earlier' ++ [key x] := by
      intro k
      rw [List.mem_append, List.mem_append, h k]
    rw [firstsAfter, firstsAfter, ih hnext]
    simp only [h]

theorem firstsAfter_of_nodup (earlier : List κ) (l : List α) (h : (l.map key).Nodup) :
    firstsAfter key earlier l = l.filter fun x => key x ∉ earlier := by
  induction l generalizing earlier with
  | nil => rfl
  | cons x xs ih =>
    rw [List.map_cons, List.nodup_cons] at h
    have htail : (xs.filter fun y => key y ∉ earlier ++ [key x]) = xs.filter fun y => key y ∉ earlier := by
      apply List.filter_congr
      intro y hy
      have hne : key y ≠ key x := fun heq => h.1 (heq ▸ List.mem_map_of_mem hy)
      simp [hne]
    rw [firstsAfter, ih _ h.2, htail, List.filter_cons]
    split <;> simp_all

theorem mem_map_firstsAfter (earlier : List κ) (l : List α) (k : κ) :
    k ∈ (firstsAfter key earlier l).map key ↔ k ∈ l.map key ∧ k ∉ earlier := by
  induction l generalizing earlier with
  | nil => simp [firstsAfter]
  | cons x xs ih =>
    rw [firstsAfter, List.map_append, List.mem_append, ih, List.map_cons, List.mem_cons, List.mem_append,
      List.mem_singleton]
    by_cases hk : k = key x
    · by_cases hx : key x ∈ earlier
      · simp [hk, hx]
      · simp [hk, hx]
    · have hhead : k ∉ (if key x ∈ earlier then [] else [x]).map key := by
        split
        · simp
        · simpa using hk
      simp [hk, hhead]

theorem firstsAfter_nodup (earlier : List κ) (l : List α) : ((firstsAfter key earlier l).map key).Nodup := by
  induction l generalizing earlier with
  | nil => exact List.nodup_nil
  | cons x xs ih =>
    rw [firstsAfter]
    split
    · exact ih _
    · rw [List.singleton_append, List.map_cons, List.nodup_cons, mem_map_firstsAfter]
      exact ⟨by simp, ih _⟩

theorem firsts_nodup (l : List α) : ((firsts key l).map key).Nodup := firstsAfter_nodup key [] l

theorem firsts_append (l l' : List α) (h : (l'.map key).Nodup) :
    firsts key (l ++ l') = firsts key l ++ l'.filter fun x => key x ∉ (firsts key l).map key := by
  have hkeys : ∀ k, k ∈ [] ++ l.map key ↔ k ∈ (firsts key l).map key := by
    intro k
    rw [firsts, mem_map_firstsAfter]
    simp
  rw [firsts, firstsAfter_append, firstsAfter_congr key hkeys, firstsAfter_of_nodup key _ _ h]
  rfl

end TtlockBle.Lib
