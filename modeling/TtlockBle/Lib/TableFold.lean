import Mathlib.Data.List.Basic

/-!
# Checksums from a table

A checksum that walks over a message and replaces its running value by a table entry, which the
running value and the next item select. Two messages that differ in one place can only end on one
value if the walks select different entries that the table holds one value in.
-/

namespace TtlockBle.Lib

structure TableFold (σ β ι : Type) where
  index : σ → β → ι
  table : ι → σ
  index_state : ∀ {s t x}, index s x = index t x → s = t
  index_item : ∀ {s x y}, index s x = index s y → x = y

namespace TableFold

variable {σ β ι : Type} (f : TableFold σ β ι)

def next (s : σ) (x : β) : σ := f.table (f.index s x)

def run (s : σ) (l : List β) : σ := l.foldl f.next s

/-- The entries that a walk looks up, in order. -/
def lookups (s : σ) : List β → List ι
  | [] => []
  | x :: xs => f.index s x :: lookups (f.next s x) xs

def Collide (u v : ι) : Prop := u ≠ v ∧ f.table u = f.table v

/-- At some place the walks look up two entries that hold one value. -/
def Clash (us vs : List ι) : Prop := ∃ p ∈ us.zip vs, f.Collide p.1 p.2

theorem clash_nil : ¬ f.Clash [] [] := by simp [Clash]

theorem clash_cons (u v : ι) (us vs : List ι) :
    f.Clash (u :: us) (v :: vs) ↔ f.Collide u v ∨ f.Clash us vs := by
  unfold Clash
  simp only [List.zip_cons_cons, List.mem_cons, exists_eq_or_imp]

theorem not_collide_self (u : ι) : ¬ f.Collide u u := fun h => h.1 rfl

@[simp]
theorem run_cons (s : σ) (x : β) (l : List β) : f.run s (x :: l) = f.run (f.next s x) l := rfl

theorem step_clash {s t : σ} {x y : β} (hne : f.index s x ≠ f.index t y) (l : List β)
    (ih : f.next s x ≠ f.next t y → (f.run (f.next s x) l = f.run (f.next t y) l ↔
      f.Clash (f.lookups (f.next s x) l) (f.lookups (f.next t y) l))) :
    f.run s (x :: l) = f.run t (y :: l) ↔ f.Clash (f.lookups s (x :: l)) (f.lookups t (y :: l)) := by
  unfold lookups
  rw [run_cons, run_cons, clash_cons]
  by_cases heq : f.next s x = f.next t y
  · rw [heq]
    exact ⟨fun _ => .inl ⟨hne, heq⟩, fun _ => rfl⟩
  · rw [ih heq]
    exact ⟨.inr, fun h => h.resolve_left fun hc => heq hc.2⟩

theorem run_eq_iff {s t : σ} (hne : s ≠ t) (l : List β) :
    f.run s l = f.run t l ↔ f.Clash (f.lookups s l) (f.lookups t l) := by
  induction l generalizing s t with
  | nil => exact ⟨fun h => absurd h hne, fun h => absurd h f.clash_nil⟩
  | cons x l ih => exact f.step_clash (fun h => hne (f.index_state h)) l ih

/-- **Two messages that differ in one place** get one value exactly if their walks clash. -/
theorem run_replace_iff (s : σ) (before after : List β) {x y : β} (hne : x ≠ y) :
    f.run s (before ++ x :: after) = f.run s (before ++ y :: after) ↔
      f.Clash (f.lookups s (before ++ x :: after)) (f.lookups s (before ++ y :: after)) := by
  induction before generalizing s with
  | nil => exact f.step_clash (fun h => hne (f.index_item h)) after fun h => f.run_eq_iff h after
  | cons z before ih =>
    simp only [List.cons_append, run_cons, lookups, clash_cons]
    rw [ih, or_iff_right (f.not_collide_self _)]

end TableFold

end TtlockBle.Lib
