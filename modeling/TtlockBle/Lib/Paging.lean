import Mathlib.Tactic.Common
import TtlockBle.Lib.Raises

/-!
# Paged listings

A page holds some items and says where the next page is, or that there is none. A reader follows the
pages from a cursor on, up to a cap, and raises rather than return what it has.
-/

namespace TtlockBle.Lib.Paging

open Raises

variable {ε Cursor α : Type}

/-- What one fetch gives: the items of the page, and the cursor of the next one. -/
abbrev Fetch (ε Cursor α : Type) := Cursor → Except ε (List α × Option Cursor)

/-- Follows the pages, of which at most `cap` are left to fetch. -/
def collect (fetch : Fetch ε Cursor α) (exceeded : ε) : Nat → Cursor → List α → Except ε (List α)
  | 0, _, _ => .error exceeded
  | cap + 1, cursor, items => do
    match ← fetch cursor with
    | (page, none) => return items ++ page
    | (page, some next) => collect fetch exceeded cap next (items ++ page)

/-- From `cursor` on there are `n` pages, with these items. -/
inductive Chain (fetch : Fetch ε Cursor α) : Cursor → Nat → List α → Prop where
  | last {cursor page} : fetch cursor = .ok (page, none) → Chain fetch cursor 1 page
  | more {cursor page next n items} : fetch cursor = .ok (page, some next) → Chain fetch next n items →
      Chain fetch cursor (n + 1) (page ++ items)

section Collect

variable {fetch : Fetch ε Cursor α} {exceeded : ε} {cap : Nat} {cursor : Cursor} {items : List α}

theorem collect_error {e : ε} (h : fetch cursor = .error e) :
    collect fetch exceeded (cap + 1) cursor items = .error e := by
  unfold collect
  rw [h]
  rfl

theorem collect_last {page : List α} (h : fetch cursor = .ok (page, none)) :
    collect fetch exceeded (cap + 1) cursor items = .ok (items ++ page) := by
  unfold collect
  rw [h]
  rfl

theorem collect_more {page : List α} {next : Cursor} (h : fetch cursor = .ok (page, some next)) :
    collect fetch exceeded (cap + 1) cursor items = collect fetch exceeded cap next (items ++ page) := by
  rw [collect, h]
  rfl

end Collect

theorem collect_eq_ok (fetch : Fetch ε Cursor α) (exceeded : ε) (cap : Nat) (cursor : Cursor)
    (items out : List α) :
    collect fetch exceeded cap cursor items = .ok out ↔
      ∃ n rest, n ≤ cap ∧ Chain fetch cursor n rest ∧ out = items ++ rest := by
  induction cap generalizing cursor items with
  | zero =>
    refine ⟨nofun, ?_⟩
    rintro ⟨n, rest, hn, hchain, -⟩
    cases hchain <;> omega
  | succ cap ih =>
    rcases hfetch : fetch cursor with e | ⟨page, _ | next⟩
    · rw [collect_error hfetch]
      refine ⟨nofun, ?_⟩
      rintro ⟨n, rest, -, hchain, -⟩
      cases hchain <;> simp_all
    · rw [collect_last hfetch]
      constructor
      · intro h
        exact ⟨1, page, by omega, .last hfetch, (Except.ok.inj h).symm⟩
      · rintro ⟨n, rest, -, hchain, rfl⟩
        cases hchain with
        | last h =>
          rw [hfetch] at h
          cases h
          rfl
        | more h _ =>
          rw [hfetch] at h
          cases h
    · rw [collect_more hfetch, ih]
      constructor
      · rintro ⟨n, rest, hn, hchain, rfl⟩
        exact ⟨n + 1, page ++ rest, by omega, .more hfetch hchain, List.append_assoc _ _ _⟩
      · rintro ⟨n, rest, hn, hchain, rfl⟩
        cases hchain with
        | last h =>
          rw [hfetch] at h
          cases h
        | more h hchain =>
          rw [hfetch] at h
          cases h
          exact ⟨_, _, by omega, hchain, (List.append_assoc _ _ _).symm⟩

theorem collect_raises {P : ε → Prop} {fetch : Fetch ε Cursor α} {exceeded : ε} (hexceeded : P exceeded)
    (hfetch : ∀ cursor, Raises P (fetch cursor)) (cap : Nat) (cursor : Cursor) (items : List α) :
    Raises P (collect fetch exceeded cap cursor items) := by
  induction cap generalizing cursor items with
  | zero => exact (raises_error _).mpr hexceeded
  | succ cap ih =>
    unfold collect
    rw [raises_bind]
    refine ⟨hfetch cursor, ?_⟩
    rintro ⟨page, _ | next⟩ -
    · exact (raises_ok _).mpr trivial
    · exact ih next _

theorem chain_congr {ε' : Type} {fetch : Fetch ε Cursor α} {fetch' : Fetch ε' Cursor α}
    (h : ∀ cursor r, fetch cursor = .ok r ↔ fetch' cursor = .ok r) (cursor : Cursor) (n : Nat)
    (items : List α) :
    Chain fetch cursor n items ↔ Chain fetch' cursor n items := by
  constructor
  · intro hchain
    induction hchain with
    | last hfetch => exact .last ((h _ _).mp hfetch)
    | more hfetch _ ih => exact .more ((h _ _).mp hfetch) ih
  · intro hchain
    induction hchain with
    | last hfetch => exact .last ((h _ _).mpr hfetch)
    | more hfetch _ ih => exact .more ((h _ _).mpr hfetch) ih

/-! ## Listings by index -/

/-- One item a page, under consecutive indices, until an index has none. -/
def byIndex (read : Nat → Except ε (Option α)) : Fetch ε Nat α := fun index => do
  match ← read index with
  | none => return ([], none)
  | some item => return ([item], some (index + 1))

theorem byIndex_error (read : Nat → Except ε (Option α)) (index : Nat) (e : ε) (h : read index = .error e) :
    byIndex read index = .error e := by
  unfold byIndex
  rw [h]
  rfl

theorem byIndex_last (read : Nat → Except ε (Option α)) (index : Nat) (page : List α) :
    byIndex read index = .ok (page, none) ↔ read index = .ok none ∧ page = [] := by
  rcases hread : read index with e | _ | item <;>
    simp [byIndex, hread, bind, Except.bind, pure, Except.pure, eq_comm]

theorem byIndex_more (read : Nat → Except ε (Option α)) (index next : Nat) (page : List α) :
    byIndex read index = .ok (page, some next) ↔
      ∃ item, read index = .ok (some item) ∧ page = [item] ∧ next = index + 1 := by
  rcases hread : read index with e | _ | item <;>
    simp [byIndex, hread, bind, Except.bind, pure, Except.pure, eq_comm]

theorem chain_byIndex (read : Nat → Except ε (Option α)) (index n : Nat) (items : List α) :
    Chain (byIndex read) index n items ↔
      n = items.length + 1 ∧ read (index + items.length) = .ok none ∧
        ∀ i (h : i < items.length), read (index + i) = .ok (some items[i]) := by
  constructor
  · intro h
    induction h with
    | last h =>
      obtain ⟨hread, rfl⟩ := (byIndex_last _ _ _).mp h
      exact ⟨rfl, hread, nofun⟩
    | more h _ ih =>
      obtain ⟨item, hread, rfl, rfl⟩ := (byIndex_more _ _ _ _).mp h
      obtain ⟨rfl, hend, hitems⟩ := ih
      refine ⟨by simp, ?_, ?_⟩
      · rw [← hend]
        congr 1
        simp
        omega
      · rintro (_ | i) hi
        · exact hread
        · have hnext := hitems i (by simpa using hi)
          rw [Nat.add_right_comm] at hnext
          exact hnext
  · rintro ⟨rfl, hend, hitems⟩
    induction items generalizing index with
    | nil => exact .last ((byIndex_last _ _ _).mpr ⟨hend, rfl⟩)
    | cons item items ih =>
      have hfirst : byIndex read index = .ok ([item], some (index + 1)) :=
        (byIndex_more _ _ _ _).mpr ⟨item, hitems 0 (by simp), rfl, rfl⟩
      refine .more hfirst (ih (index + 1) ?_ ?_)
      · rw [← hend]
        congr 1
        simp
        omega
      · intro i hi
        exact Nat.add_right_comm _ _ _ ▸ hitems (i + 1) (by simpa using hi)

end TtlockBle.Lib.Paging
