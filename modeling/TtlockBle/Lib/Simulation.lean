import Mathlib.Data.List.Forall2
import TtlockBle.Lib.Program

/-!
# Calls one after the other

A client makes calls of somebody whose state they move on. If every call does what an abstract machine says, so
does every sequence of them, with the outcomes in their order.
-/

namespace TtlockBle.Lib.Program

variable {Op : Type} {Res : Op → Type} {ε α : Type}

/-- The next call comes whatever the last one ended with, and the outcomes are kept. -/
def inOrder : List (Program Op Res ε α) → Program Op Res ε (List (Except ε α))
  | [] => ret []
  | p :: ps => p.handle fun o => (inOrder ps).bind fun os => ret (o :: os)

section Abstract

variable {κ ι γ : Type} (step : κ → ι → γ × κ)

/-- What an abstract machine answers, and where it ends. -/
def outcomes : κ → List ι → List γ × κ
  | k, [] => ([], k)
  | k, i :: is =>
    let (a, k) := step k i
    let (as, k) := outcomes k is
    (a :: as, k)

variable {τ : Type} (answer : τ → (op : Op) → Except ε (Res op)) (next : τ → Op → τ)
  (program : ι → Program Op Res ε α) (R : τ → κ → Prop) (Agrees : Except ε α → γ → Prop)

/-- The program of a call takes related states to related ones, and its outcome agrees with the answer. -/
def Simulates (i : ι) : Prop :=
  ∀ s k, R s k → ∃ s' o, (program i).play answer next s = (s', some o) ∧ Agrees o (step k i).1 ∧ R s' (step k i).2

variable {step answer next program R Agrees}

theorem play_inOrder (is : List ι) (h : ∀ i ∈ is, Simulates step answer next program R Agrees i) {s : τ} {k : κ}
    (hR : R s k) : ∃ s' os, (inOrder (is.map program)).play answer next s = (s', some (.ok os)) ∧
      List.Forall₂ Agrees os (outcomes step k is).1 ∧ R s' (outcomes step k is).2 := by
  induction is generalizing s k with
  | nil => exact ⟨s, [], rfl, .nil, hR⟩
  | cons i is ih =>
    rw [List.forall_mem_cons] at h
    obtain ⟨s₁, o, hplay, hagrees, hR₁⟩ := h.1 s k hR
    obtain ⟨s₂, os, hrest, hall, hR₂⟩ := ih h.2 hR₁
    refine ⟨s₂, o :: os, ?_, .cons hagrees hall, hR₂⟩
    rw [List.map_cons, inOrder, play_handle hplay]
    exact play_bind hrest _

/-- The same of a triple. All along, the abstract machine passes through states of `P` only. -/
def Serves (step : κ → ι → γ × κ) (M : Monitor Op Res ε τ) (program : ι → Program Op Res ε α) (R : τ → κ → Prop)
    (Agrees : Except ε α → γ → Prop) (P : κ → Prop) (i : ι) : Prop :=
  ∀ s k, R s k → P k → P (step k i).2 →
    Sat M (fun s' o => Agrees o (step k i).1 ∧ R s' (step k i).2) s (program i)

theorem sat_inOrder {M : Monitor Op Res ε τ} {P : κ → Prop} (is : List ι)
    (h : ∀ i ∈ is, Serves step M program R Agrees P i) {s : τ} {k : κ} (hR : R s k)
    (hP : ∀ n ≤ is.length, P (outcomes step k (is.take n)).2) :
    Sat M (fun s' x => ∃ os, x = .ok os ∧ List.Forall₂ Agrees os (outcomes step k is).1 ∧
      R s' (outcomes step k is).2) s (inOrder (is.map program)) := by
  induction is generalizing s k with
  | nil => exact ⟨[], rfl, .nil, hR⟩
  | cons i is ih =>
    rw [List.forall_mem_cons] at h
    have hrest (n : Nat) (hn : n ≤ is.length) : P (outcomes step (step k i).2 (is.take n)).2 :=
      hP (n + 1) (Nat.succ_le_succ hn)
    rw [List.map_cons, inOrder, sat_handle]
    refine sat_mono _ ?_ (h.1 s k hR (hP 0 (Nat.zero_le _)) (hP 1 (Nat.succ_le_succ (Nat.zero_le _))))
    rintro s' o ⟨hagrees, hR'⟩
    refine sat_bind _ (ih h.2 hR' hrest) ?_ ?_
    · rintro s'' os' ⟨os, hos, hall, hR''⟩
      obtain rfl := Except.ok.inj hos
      exact ⟨o :: os', rfl, .cons hagrees hall, hR''⟩
    · rintro s'' e ⟨os, hos, -⟩
      cases hos

end Abstract

theorem only_inOrder {P : Op → Prop} {ps : List (Program Op Res ε α)} (h : ∀ p ∈ ps, Only P p) :
    Only P (inOrder ps) := by
  induction ps with
  | nil => exact only_ofExcept (.ok [])
  | cons p ps ih =>
    rw [List.forall_mem_cons] at h
    exact only_handle h.1 fun _ => only_bind (ih h.2) fun _ => only_ofExcept (.ok _)

end TtlockBle.Lib.Program
