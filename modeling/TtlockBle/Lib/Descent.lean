import Mathlib.Logic.Hydra
import TtlockBle.Lib.Machine
import TtlockBle.Lib.Program

/-!
# Runs that cannot go on for ever

A state has parts, of which a step takes one down in a well-founded order and leaves the others as they
are. While only finitely many parts move, there is no infinite run.
-/

namespace TtlockBle.Lib

namespace Program

variable {Op : Type} {Res : Op → Type} {ε α : Type}

/-- What is left of a program once its operation is answered. -/
inductive After : Program Op Res ε α → Program Op Res ε α → Prop where
  | answered (op : Op) (next : Except ε (Res op) → Program Op Res ε α) (r : Except ε (Res op)) :
    After (next r) (call op next)

theorem after_wellFounded : WellFounded (After : Program Op Res ε α → Program Op Res ε α → Prop) := by
  refine ⟨fun p => ?_⟩
  induction p with
  | call op next ih =>
    constructor
    rintro _ ⟨_, _, r⟩
    exact ih r
  | _ =>
    constructor
    rintro _ ⟨⟩

end Program

section Parts

variable {State Part : Type} (part : State → Nat → Part) (r : Part → Part → Prop) (n : Nat)

/-- One of the first `n` parts has become smaller, and all others are as they were. -/
def Descends (s' s : State) : Prop :=
  ∃ i < n, r (part s' i) (part s i) ∧ ∀ j, j ≠ i → part s' j = part s j

variable {r}

theorem descends_wellFounded (hr : WellFounded r) : WellFounded (Descends part r n) := by
  let parts (s : State) : Multiset Part := (Multiset.range n).map (part s)
  refine Subrelation.wf (r := InvImage (Relation.CutExpand r) parts) ?_ (InvImage.wf parts hr.cutExpand)
  rintro s' s ⟨i, hi, hless, hrest⟩
  refine ⟨{part s' i}, part s i, by simpa using hless, ?_⟩
  have hsplit : Multiset.range n = i ::ₘ (Multiset.range n).erase i :=
    (Multiset.cons_erase (Multiset.mem_range.mpr hi)).symm
  have hothers : ((Multiset.range n).erase i).map (part s') = ((Multiset.range n).erase i).map (part s) := by
    refine Multiset.map_congr rfl fun j hj => hrest j ?_
    rintro rfl
    exact (Multiset.nodup_range n).notMem_erase hj
  show (Multiset.range n).map (part s') + {part s i} = (Multiset.range n).map (part s) + {part s' i}
  rw [hsplit, Multiset.map_cons, Multiset.map_cons, hothers, ← Multiset.singleton_add, ← Multiset.singleton_add]
  ac_rfl

variable {Event : Type} (m : Machine State Event) {part n}

/-- A run of events that move one of the first `n` parts comes to a step that is not taken. -/
theorem Machine.run_stops {P : Event → Prop} (hr : WellFounded r)
    (hstep : ∀ s e s', P e → m.step s e = some s' → Descends part r n s' s) (events : Nat → Event)
    (states : Nat → State) (hevents : ∀ k, P (events k)) :
    ∃ k, m.step (states k) (events k) ≠ some (states (k + 1)) := by
  have : IsWellFounded State (Descends part r n) := ⟨descends_wellFounded part n hr⟩
  obtain ⟨k, hk⟩ := WellFounded.not_rel_apply_succ (r := Descends part r n) states
  exact ⟨k, fun hs => hk (hstep _ _ _ (hevents k) hs)⟩

end Parts

end TtlockBle.Lib
