import Mathlib.Data.List.Induction

/-!
# Machines

A machine takes an event in a state, or refuses it. Which events come, and in which order, is up to
the environment, so a property of a machine is one of all its runs.
-/

namespace TtlockBle.Lib

structure Machine (State Event : Type) where
  start : State
  step : State → Event → Option State

namespace Machine

variable {State Event : Type} (m : Machine State Event)

/-- From `s`, the events `es` are all taken and lead to `s'`. -/
def Run (s : State) (es : List Event) (s' : State) : Prop := es.foldlM m.step s = some s'

instance [DecidableEq State] (s : State) (es : List Event) (s' : State) : Decidable (m.Run s es s') :=
  inferInstanceAs (Decidable (_ = _))

@[simp]
theorem run_nil (s s' : State) : m.Run s [] s' ↔ s = s' := by
  simp [Run]

@[simp]
theorem run_cons (s : State) (e : Event) (es : List Event) (s' : State) :
    m.Run s (e :: es) s' ↔ ∃ s₁, m.step s e = some s₁ ∧ m.Run s₁ es s' := by
  simp [Run, Option.bind_eq_some_iff]

theorem run_append (s : State) (es₁ es₂ : List Event) (s' : State) :
    m.Run s (es₁ ++ es₂) s' ↔ ∃ s₁, m.Run s es₁ s₁ ∧ m.Run s₁ es₂ s' := by
  simp [Run, Option.bind_eq_some_iff]

theorem run_concat (s : State) (es : List Event) (e : Event) (s' : State) :
    m.Run s (es ++ [e]) s' ↔ ∃ s₁, m.Run s es s₁ ∧ m.step s₁ e = some s' := by
  simp [run_append]

/-! ## Runs from the start -/

/-- The events `es` are all taken, from the start on, and lead to `s`. -/
def Reaches (es : List Event) (s : State) : Prop := m.Run m.start es s

instance [DecidableEq State] (es : List Event) (s : State) : Decidable (m.Reaches es s) :=
  inferInstanceAs (Decidable (_ = _))

@[simp]
theorem reaches_nil (s : State) : m.Reaches [] s ↔ m.start = s := m.run_nil _ _

theorem reaches_append (es₁ es₂ : List Event) (s' : State) :
    m.Reaches (es₁ ++ es₂) s' ↔ ∃ s, m.Reaches es₁ s ∧ m.Run s es₂ s' :=
  m.run_append _ _ _ _

theorem reaches_concat (es : List Event) (e : Event) (s' : State) :
    m.Reaches (es ++ [e]) s' ↔ ∃ s, m.Reaches es s ∧ m.step s e = some s' :=
  m.run_concat _ _ _ _

theorem reaches_unique (es : List Event) (s s' : State) (h : m.Reaches es s) (h' : m.Reaches es s') :
    s = s' :=
  Option.some.inj (h.symm.trans h')

theorem exists_reaches (es : List Event) (P : State → Prop) [DecidablePred P] :
    (∃ s, m.Reaches es s ∧ P s) ↔ (es.foldlM m.step m.start).any (fun s => P s) := by
  simp [Reaches, Run, Option.any_eq_true]

/-! ## Invariants -/

/-- What holds of the events so far and the state that they lead to. -/
theorem run_history {I : List Event → State → Prop} {s₀ : State} (h0 : I [] s₀)
    (hstep : ∀ es s e s', m.Run s₀ es s → I es s → m.step s e = some s' → I (es ++ [e]) s')
    {es : List Event} {s' : State} (hrun : m.Run s₀ es s') : I es s' := by
  induction es using List.reverseRecOn generalizing s' with
  | nil => exact (m.run_nil _ _).mp hrun ▸ h0
  | append_singleton es e ih =>
    obtain ⟨s, h₁, h₂⟩ := (m.run_concat _ _ _ _).mp hrun
    exact hstep es s e s' h₁ (ih h₁) h₂

theorem run_invariant {I : State → Prop} {s₀ : State} (h0 : I s₀)
    (hstep : ∀ s e s', I s → m.step s e = some s' → I s') {es : List Event} {s' : State}
    (hrun : m.Run s₀ es s') : I s' :=
  m.run_history h0 (fun _ s e s' _ => hstep s e s') hrun

/-! ## Properties of a whole run -/

/-- `P` holds in every state that the run passes. -/
def Always (P : State → Prop) (es : List Event) : Prop :=
  ∀ es₁ s, es₁ <+: es → m.Reaches es₁ s → P s

/-- `C` holds of every step of the run, in the state before it. -/
def EveryStep (C : State → Event → Prop) (es : List Event) : Prop :=
  ∀ es₁ e s, es₁ ++ [e] <+: es → m.Reaches es₁ s → C s e

theorem always_concat (P : State → Prop) (s s' : State) (es : List Event) (e : Event)
    (h₁ : m.Reaches es s) (h₂ : m.step s e = some s') :
    m.Always P (es ++ [e]) ↔ m.Always P es ∧ P s' := by
  have hs' : m.Reaches (es ++ [e]) s' := (m.reaches_concat _ _ _).mpr ⟨s, h₁, h₂⟩
  constructor
  · intro h
    exact ⟨fun es' s hp hr => h es' s (hp.trans (List.prefix_append _ _)) hr,
      h _ _ (List.prefix_refl _) hs'⟩
  · rintro ⟨h, hP⟩ es' s hp hr
    rcases List.prefix_concat_iff.mp hp with rfl | hp
    · exact m.reaches_unique _ _ _ hs' hr ▸ hP
    · exact h es' s hp hr

theorem everyStep_concat (C : State → Event → Prop) (s : State) (es : List Event) (e : Event)
    (h₁ : m.Reaches es s) : m.EveryStep C (es ++ [e]) ↔ m.EveryStep C es ∧ C s e := by
  constructor
  · intro h
    exact ⟨fun es' e' s hp hr => h es' e' s (hp.trans (List.prefix_append _ _)) hr,
      h es e s (List.prefix_refl _) h₁⟩
  · rintro ⟨h, hC⟩ es' e' s' hp hr
    rcases List.prefix_concat_iff.mp hp with heq | hp
    · obtain ⟨rfl, he⟩ := List.append_inj' heq rfl
      obtain rfl := List.singleton_inj.mp he
      exact m.reaches_unique _ _ _ h₁ hr ▸ hC
    · exact h es' e' s' hp hr

/-- A property that a step establishes exactly when a condition holds before it: then it holds all
along a run exactly when the condition does. `I` is what the condition keeps up. -/
theorem always_iff {I P : State → Prop} {C : State → Event → Prop} (h0 : I m.start) (hP : P m.start)
    (hinv : ∀ s e s', I s → m.step s e = some s' → C s e → I s')
    (hstep : ∀ s e s', I s → m.step s e = some s' → (P s' ↔ C s e)) {es : List Event} {s : State}
    (hrun : m.Reaches es s) : m.Always P es ↔ m.EveryStep C es := by
  suffices h : (m.Always P es ↔ m.EveryStep C es) ∧ (m.EveryStep C es → I s) from h.1
  refine m.run_history (I := fun es s => (m.Always P es ↔ m.EveryStep C es) ∧
    (m.EveryStep C es → I s)) ?_ ?_ hrun
  · refine ⟨⟨fun _ => ?_, fun _ => ?_⟩, fun _ => h0⟩
    · rintro es' e' s hp
      simp at hp
    · rintro es' s hp hr
      obtain rfl := List.prefix_nil.mp hp
      exact (m.reaches_nil _).mp hr ▸ hP
  · rintro es s e s' hr ⟨hiff, hI⟩ hs
    rw [m.always_concat P s s' es e hr hs, m.everyStep_concat C s es e hr, hiff]
    constructor
    · constructor
      · rintro ⟨hC, h⟩
        exact ⟨hC, (hstep s e s' (hI hC) hs).mp h⟩
      · rintro ⟨hC, h⟩
        exact ⟨hC, (hstep s e s' (hI hC) hs).mpr h⟩
    · rintro ⟨hC, h⟩
      exact hinv s e s' (hI hC) hs h

end Machine

end TtlockBle.Lib
