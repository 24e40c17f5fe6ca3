import Mathlib.Data.List.Basic
import Mathlib.Data.Nat.Bitwise
import Mathlib.Tactic.IntervalCases
import Mathlib.Tactic.Ring

/-!
# Byte strings

Search for a pattern, slices, big-endian numbers and hexadecimal text, the way
Python's `bytes` has them.
-/

namespace TtlockBle.Lib

abbrev Bytes := List UInt8

theorem ofInt_toNat (b : UInt8) : UInt8.ofInt b.toNat = b := by
  have := b.toNat_lt
  apply UInt8.toNat_inj.mp
  simp only [UInt8.ofInt, UInt8.toNat_ofNat']
  omega

/-! ## Search -/

section Search

variable {α : Type} [DecidableEq α]

/-- Where `sub` first occurs in a list. -/
def find (sub : List α) : List α → Option Nat
  | [] => if sub = [] then some 0 else none
  | x :: xs => if sub <+: x :: xs then some 0 else (find sub xs).map (· + 1)

/-- The list from the first occurrence of `sub` on. -/
def skipTo (sub l : List α) : Option (List α) := (find sub l).map l.drop

theorem find_eq_none (sub l : List α) : find sub l = none ↔ ¬ sub <:+: l := by
  induction l with
  | nil => simp [find]
  | cons x xs ih =>
    unfold find
    split
    · rename_i h
      simpa using h.isInfix
    · rename_i h
      rw [Option.map_eq_none_iff, ih, List.infix_cons_iff, not_or]
      exact ⟨fun h' => ⟨h, h'⟩, And.right⟩

theorem skipTo_cons_pos (sub : List α) (x : α) (xs : List α) (h : sub <+: x :: xs) :
    skipTo sub (x :: xs) = some (x :: xs) := by
  simp [skipTo, find, h]

theorem skipTo_cons_neg (sub : List α) (x : α) (xs : List α) (h : ¬ sub <+: x :: xs) :
    skipTo sub (x :: xs) = skipTo sub xs := by
  simp [skipTo, find, h, Function.comp_def]

theorem skipTo_eq_none (sub l : List α) : skipTo sub l = none ↔ ¬ sub <:+: l := by
  rw [skipTo, Option.map_eq_none_iff, find_eq_none]

theorem skipTo_starts (sub l rest : List α) (h : skipTo sub l = some rest) : sub <+: rest := by
  induction l with
  | nil =>
    unfold skipTo find at h
    split at h
    · rename_i hs
      simp [hs]
    · simp at h
  | cons x xs ih =>
    by_cases hp : sub <+: x :: xs
    · rw [skipTo_cons_pos _ _ _ hp, Option.some.injEq] at h
      rwa [← h]
    · rw [skipTo_cons_neg _ _ _ hp] at h
      exact ih h

theorem skipTo_suffix (sub l rest : List α) (h : skipTo sub l = some rest) : rest <:+ l := by
  rw [skipTo, Option.map_eq_some_iff] at h
  obtain ⟨i, -, rfl⟩ := h
  exact List.drop_suffix i l

theorem skipTo_first (sub l rest t : List α) (h : skipTo sub l = some rest) (ht : t <:+ l)
    (hp : sub <+: t) :
    t <:+ rest := by
  induction l with
  | nil =>
    rw [List.suffix_nil.mp ht]
    exact List.nil_suffix
  | cons x xs ih =>
    by_cases hx : sub <+: x :: xs
    · rw [skipTo_cons_pos _ _ _ hx, Option.some.injEq] at h
      rwa [← h]
    · rw [skipTo_cons_neg _ _ _ hx] at h
      rcases List.suffix_cons_iff.mp ht with rfl | ht
      · exact absurd hp hx
      · exact ih h ht

theorem skipTo_self (sub l : List α) (h : sub <+: l) : skipTo sub l = some l := by
  cases l with
  | nil => simp [skipTo, find, List.prefix_nil.mp h]
  | cons x xs => exact skipTo_cons_pos sub x xs h

theorem skipTo_append (sub l rest c : List α) (h : skipTo sub l = some rest) :
    skipTo sub (l ++ c) = some (rest ++ c) := by
  induction l with
  | nil =>
    have hp := skipTo_starts _ _ _ h
    have hr : rest = [] := List.suffix_nil.mp (skipTo_suffix _ _ _ h)
    rw [hr] at hp ⊢
    exact skipTo_self _ _ (hp.trans (List.prefix_append _ _))
  | cons x xs ih =>
    by_cases hp : sub <+: x :: xs
    · rw [skipTo_cons_pos _ _ _ hp, Option.some.injEq] at h
      rw [← h]
      exact skipTo_self _ _ (hp.trans (List.prefix_append _ _))
    · rw [skipTo_cons_neg _ _ _ hp] at h
      rw [List.cons_append, skipTo_cons_neg, ih h]
      -- The occurrence lies inside `xs`, so `x :: xs` is long enough to show that `sub` does not start it.
      intro hp'
      have hlen : sub.length ≤ (x :: xs).length := by
        have h1 := (skipTo_starts _ _ _ h).length_le
        have h2 := (skipTo_suffix _ _ _ h).length_le
        simp only [List.length_cons]
        omega
      exact hp (List.prefix_of_prefix_length_le hp' (List.prefix_append (x :: xs) c) hlen)

/-- Where `sub` does not occur yet, only the last `sub.length - 1` items can be part of a later
occurrence. -/
theorem skipTo_append_of_none (sub l c : List α) (k : Nat) (hk : sub.length ≤ k + 1)
    (h : skipTo sub l = none) :
    skipTo sub (l ++ c) = skipTo sub (l.drop (l.length - k) ++ c) := by
  induction l with
  | nil => simp
  | cons x xs ih =>
    by_cases hlen : xs.length < k
    · rw [show (x :: xs).length - k = 0 by simp; omega, List.drop_zero]
    · have hp : ¬ sub <+: x :: xs := fun hp => by simp [skipTo_cons_pos _ _ _ hp] at h
      rw [skipTo_cons_neg _ _ _ hp] at h
      have hp' : ¬ sub <+: x :: xs ++ c := fun hp' =>
        hp (List.prefix_of_prefix_length_le hp' (List.prefix_append (x :: xs) c) (by simp; omega))
      rw [show (x :: xs).length - k = (xs.length - k) + 1 by simp; omega, List.drop_succ_cons, ← ih h]
      exact skipTo_cons_neg _ _ _ hp'

/-- A list that `sub` does not occur in, even across the seam, is skipped whole. -/
theorem skipTo_skip (sub g l : List α) (hl : sub <+: l)
    (hg : ∀ x ys, x :: ys <:+ g → ¬ sub <+: x :: ys ++ l) : skipTo sub (g ++ l) = some l := by
  induction g with
  | nil => exact skipTo_self sub l hl
  | cons x xs ih =>
    have hx : ¬ sub <+: x :: (xs ++ l) := hg x xs (List.suffix_refl _)
    rw [List.cons_append, skipTo_cons_neg _ _ _ hx]
    exact ih fun y ys hs => hg y ys (hs.trans (List.suffix_cons x xs))

end Search

/-! ## Slices and numbers -/

def slice (data : Bytes) (start stop : Nat) : Bytes := (data.take stop).drop start

theorem slice_length (data : Bytes) (start stop : Nat) :
    (slice data start stop).length = min stop data.length - start := by
  simp [slice]

theorem slice_middle (before mid after : Bytes) :
    slice (before ++ mid ++ after) before.length (before.length + mid.length) = mid := by
  rw [slice, ← List.length_append, List.take_left, List.drop_left]

theorem slice_append (data c : Bytes) (start stop : Nat) (h : stop ≤ data.length) :
    slice (data ++ c) start stop = slice data start stop := by
  unfold slice
  rw [List.take_append_of_le_length h]

theorem slice_drop (data : Bytes) (n start stop : Nat) :
    slice (data.drop n) start stop = slice data (n + start) (n + stop) := by
  rw [slice, slice, List.take_drop, List.drop_drop]

theorem drop_slice (data : Bytes) (start stop n : Nat) :
    (slice data start stop).drop n = slice data (start + n) stop := by
  rw [slice, slice, List.drop_drop]

theorem slice_slice (data : Bytes) (start stop a b : Nat) (h : start + b ≤ stop) :
    slice (slice data start stop) a b = slice data (start + a) (start + b) := by
  unfold slice
  rw [List.take_drop, List.take_take, Nat.min_eq_left h, List.drop_drop]

theorem getElem?_slice (data : Bytes) (start stop i : Nat) (h : start + i < stop) :
    (slice data start stop)[i]? = data[start + i]? := by
  rw [slice, List.getElem?_drop, List.getElem?_take_of_lt h]

theorem flatten_slices (data : Bytes) (size count : Nat) :
    ((List.range count).map fun i => slice data (i * size) (i * size + size)).flatten =
      data.take (count * size) := by
  induction count with
  | zero => simp
  | succ count ih =>
    have hfront : data.take (count * size) = (data.take (count * size + size)).take (count * size) := by
      rw [List.take_take, Nat.min_eq_left (Nat.le_add_right _ _)]
    rw [List.range_succ, List.map_append, List.flatten_append, ih, List.map_singleton, List.flatten_singleton,
      slice, hfront, List.take_append_drop, Nat.succ_mul]

/-- `int.from_bytes(data, "big")`. -/
def fromBytesBig (data : Bytes) : Nat := data.foldl (fun acc b => acc * 256 + b.toNat) 0

/-- The `length` low bytes of `value`, the highest first. -/
def toBytesBig : Nat → Nat → Bytes
  | 0, _ => []
  | length + 1, value => UInt8.ofNat (value / 256 ^ length) :: toBytesBig length value

@[simp]
theorem toBytesBig_length (length value : Nat) : (toBytesBig length value).length = length := by
  induction length with
  | zero => rfl
  | succ n ih => simp [toBytesBig, ih]

theorem foldl_toBytesBig (length value acc : Nat) :
    (toBytesBig length value).foldl (fun acc b => acc * 256 + b.toNat) acc =
      acc * 256 ^ length + value % 256 ^ length := by
  induction length generalizing acc with
  | zero => simp [toBytesBig, Nat.mod_one]
  | succ n ih =>
    have hbyte : (UInt8.ofNat (value / 256 ^ n)).toNat = value / 256 ^ n % 256 := UInt8.toNat_ofNat'
    rw [toBytesBig, List.foldl_cons, ih, hbyte, Nat.mod_pow_succ, Nat.pow_succ]
    ring

theorem fromBytesBig_toBytesBig (length value : Nat) (h : value < 256 ^ length) :
    fromBytesBig (toBytesBig length value) = value := by
  rw [fromBytesBig, foldl_toBytesBig, Nat.zero_mul, Nat.zero_add, Nat.mod_eq_of_lt h]

/-! ## Text -/

def hexDigit (n : Nat) : Char := Nat.digitChar n

def hex (data : Bytes) : String :=
  String.ofList (data.flatMap fun b => [hexDigit (b.toNat / 16), hexDigit (b.toNat % 16)])

def hexNumber (n : Nat) : String := "0x" ++ String.ofList (Nat.toDigits 16 n)

end TtlockBle.Lib
