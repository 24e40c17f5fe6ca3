/-!
# What code raises and returns

`Raises P x`: if `x` raises, then an exception of `P`. `Returns Q x`: if `x` returns, then a value of
`Q`. The rules take a `do` block apart, guard by guard.
-/

namespace TtlockBle.Lib

def Raises {ε α : Type} (P : ε → Prop) (x : Except ε α) : Prop := ∀ e, x = .error e → P e

def Returns {ε α : Type} (Q : α → Prop) (x : Except ε α) : Prop := ∀ a, x = .ok a → Q a

theorem ok_bind {ε α β : Type} (a : α) (f : α → Except ε β) : (.ok a : Except ε α) >>= f = f a := rfl

theorem bind_eq_ok {ε α β : Type} {x : Except ε α} {f : α → Except ε β} {b : β} :
    x >>= f = .ok b ↔ ∃ a, x = .ok a ∧ f a = .ok b := by
  cases x with
  | error e => exact ⟨fun h => (nomatch h), fun ⟨_, h, _⟩ => (nomatch h)⟩
  | ok a => exact ⟨fun h => ⟨a, rfl, h⟩, fun ⟨_, h, hf⟩ => Except.ok.inj h ▸ hf⟩

namespace Raises

variable {ε α β : Type} {P Q : ε → Prop}

@[simp]
theorem raises_ok (a : α) : Raises P (.ok a) ↔ True := by
  simp [Raises]

@[simp]
theorem raises_error (e : ε) : Raises P (.error e : Except ε α) ↔ P e := by
  simp [Raises]

@[simp]
theorem raises_pure (a : α) : Raises P (pure a) ↔ True := raises_ok a

@[simp]
theorem raises_throw (e : ε) : Raises P (throw e : Except ε α) ↔ P e := raises_error e

@[simp]
theorem raises_bind (x : Except ε α) (f : α → Except ε β) :
    Raises P (x >>= f) ↔ Raises P x ∧ ∀ a, x = .ok a → Raises P (f a) := by
  cases x with
  | error e =>
    show Raises P (.error e : Except ε β) ↔ _
    simp
  | ok a =>
    show Raises P (f a) ↔ _
    simp

@[simp]
theorem raises_map (x : Except ε α) (f : α → β) : Raises P (f <$> x) ↔ Raises P x := by
  cases x with
  | error e =>
    show Raises P (.error e : Except ε β) ↔ _
    simp
  | ok a =>
    show Raises P (.ok (f a) : Except ε β) ↔ _
    simp

@[simp]
theorem raises_ite (c : Prop) [Decidable c] (x y : Except ε α) :
    Raises P (if c then x else y) ↔ (c → Raises P x) ∧ (¬ c → Raises P y) := by
  split <;> simp_all

theorem mono (h : ∀ e, P e → Q e) {x : Except ε α} (hx : Raises P x) : Raises Q x :=
  fun e he => h e (hx e he)

theorem mapM {f : α → Except ε β} {as : List α} (h : ∀ a ∈ as, Raises P (f a)) :
    Raises P (as.mapM f) := by
  induction as with
  | nil => simp
  | cons a as ih =>
    rw [List.mapM_cons, raises_bind]
    refine ⟨h a List.mem_cons_self, fun b _ => ?_⟩
    rw [raises_bind]
    exact ⟨ih fun a' ha' => h a' (List.mem_cons_of_mem _ ha'), by simp⟩

theorem exists_mapM_iff {f : α → Except ε β} {as : List α} :
    (∃ bs, as.mapM f = .ok bs) ↔ ∀ a ∈ as, ∃ b, f a = .ok b := by
  induction as with
  | nil => exact ⟨fun _ => by simp, fun _ => ⟨[], rfl⟩⟩
  | cons a as ih =>
    rw [List.forall_mem_cons, ← ih, List.mapM_cons]
    constructor
    · rintro ⟨bs, h⟩
      cases hf : f a with
      | error e =>
        rw [hf] at h
        cases h
      | ok b =>
        cases hrest : as.mapM f with
        | error e =>
          rw [hf, hrest] at h
          cases h
        | ok bs => exact ⟨⟨b, rfl⟩, bs, rfl⟩
    · rintro ⟨⟨b, hf⟩, bs, hrest⟩
      exact ⟨b :: bs, by rw [hf, hrest]; rfl⟩

theorem exists_ok {x : Except ε α} (h : Raises (fun _ => False) x) : ∃ a, x = .ok a := by
  cases x with
  | error e => exact (h e rfl).elim
  | ok a => exact ⟨a, rfl⟩

end Raises

namespace Returns

variable {ε α β : Type} {Q : α → Prop} {R : β → Prop}

@[simp]
theorem returns_ok (a : α) : Returns Q (.ok a : Except ε α) ↔ Q a := by
  simp [Returns]

@[simp]
theorem returns_error (e : ε) : Returns Q (.error e : Except ε α) ↔ True := by
  simp [Returns]

@[simp]
theorem returns_pure (a : α) : Returns Q (pure a : Except ε α) ↔ Q a := returns_ok a

@[simp]
theorem returns_throw (e : ε) : Returns Q (throw e : Except ε α) ↔ True := returns_error e

@[simp]
theorem returns_bind (x : Except ε α) (f : α → Except ε β) :
    Returns R (x >>= f) ↔ ∀ a, x = .ok a → Returns R (f a) := by
  cases x with
  | error e =>
    show Returns R (.error e : Except ε β) ↔ _
    simp
  | ok a =>
    show Returns R (f a) ↔ _
    simp

@[simp]
theorem returns_map (x : Except ε α) (f : α → β) :
    Returns R (f <$> x) ↔ ∀ a, x = .ok a → R (f a) := by
  cases x with
  | error e =>
    show Returns R (.error e : Except ε β) ↔ _
    simp
  | ok a =>
    show Returns R (.ok (f a) : Except ε β) ↔ _
    simp

@[simp]
theorem returns_ite (c : Prop) [Decidable c] (x y : Except ε α) :
    Returns Q (if c then x else y) ↔ (c → Returns Q x) ∧ (¬ c → Returns Q y) := by
  split <;> simp_all

theorem mapM_length (f : α → Except ε β) (as : List α) :
    Returns (·.length = as.length) (as.mapM f) := by
  induction as with
  | nil => simp
  | cons a as ih =>
    rw [List.mapM_cons, returns_bind]
    intro b _
    rw [returns_bind]
    intro bs hbs
    simpa using ih bs hbs

end Returns

end TtlockBle.Lib
