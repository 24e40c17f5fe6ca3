import TtlockBle.Lib.Program

/-!
# Methods

A method is a program that may also change the object it belongs to. What it has changed stays
changed when it raises. `Triple M P m Q` is the triple of a method: `P` and `Q` speak of the monitor
and of the object.
-/

namespace TtlockBle.Lib

def Method (τ : Type) (Op : Type) (Res : Op → Type) (ε α : Type) := τ → Program Op Res ε (Except ε α × τ)

namespace Method

variable {τ : Type} {Op : Type} {Res : Op → Type} {ε α β : Type}

def ofExcept (x : Except ε α) : Method τ Op Res ε α := fun t => .ret (x, t)

/-- Goes on with the outcome of `m`, which may be an exception. -/
def handle (m : Method τ Op Res ε α) (k : Except ε α → Method τ Op Res ε β) : Method τ Op Res ε β :=
  fun t => (m t).bind fun r => k r.1 r.2

def bind (m : Method τ Op Res ε α) (f : α → Method τ Op Res ε β) : Method τ Op Res ε β :=
  m.handle fun
    | .ok a => f a
    | .error e => ofExcept (.error e)

instance : Monad (Method τ Op Res ε) where
  pure a := ofExcept (.ok a)
  bind := bind

instance : MonadLift (Except ε) (Method τ Op Res ε) where
  monadLift := ofExcept

instance : MonadExceptOf ε (Method τ Op Res ε) where
  throw e := ofExcept (.error e)
  tryCatch m h := m.handle fun
    | .ok a => ofExcept (.ok a)
    | .error e => h e

def perform (op : Op) : Method τ Op Res ε (Res op) := fun t => .call op fun r => .ret (r, t)

def get : Method τ Op Res ε τ := fun t => .ret (.ok t, t)

def modify (f : τ → τ) : Method τ Op Res ε Unit := fun t => .ret (.ok (), f t)

theorem get_bind (f : τ → Method τ Op Res ε α) (t : τ) : (get >>= f) t = f t t := rfl

/-! ## Triples -/

open Program

variable {σ : Type} (M : Monitor Op Res ε σ)

/-- From a monitor and an object of `P`, every call is allowed, and the end is one of `Q`. -/
def Triple (P : σ → τ → Prop) (m : Method τ Op Res ε α) (Q : σ → τ → Except ε α → Prop) : Prop :=
  ∀ s t, P s t → Sat M (fun s o => ∃ x t', o = .ok (x, t') ∧ Q s t' x) s (m t)

section Rules

variable {M} {P : σ → τ → Prop}

theorem triple_ofExcept {Q : σ → τ → Except ε α → Prop} {x : Except ε α} (h : ∀ s t, P s t → Q s t x) :
    Triple M P (ofExcept x) Q := fun s t hP => ⟨x, t, rfl, h s t hP⟩

theorem triple_pure {Q : σ → τ → Except ε α → Prop} {a : α} (h : ∀ s t, P s t → Q s t (.ok a)) :
    Triple M P (pure a) Q := triple_ofExcept h

theorem triple_throw {Q : σ → τ → Except ε α → Prop} {e : ε} (h : ∀ s t, P s t → Q s t (.error e)) :
    Triple M P (throw e) Q := triple_ofExcept h

theorem triple_perform {op : Op} {Q : σ → τ → Except ε (Res op) → Prop}
    (h : ∀ s t, P s t → M.allows s op ∧ ∀ r, M.admits s op r → Q (M.next s op r) t r) :
    Triple M P (perform op) Q := by
  intro s t hP
  obtain ⟨hallows, hnext⟩ := h s t hP
  exact ⟨hallows, fun r hr => ⟨r, t, rfl, hnext r hr⟩⟩

theorem triple_modify {f : τ → τ} {Q : σ → τ → Except ε Unit → Prop} (h : ∀ s t, P s t → Q s (f t) (.ok ())) :
    Triple M P (modify f) Q := fun s t hP => ⟨.ok (), f t, rfl, h s t hP⟩

theorem Triple.conseq {P' : σ → τ → Prop} {m : Method τ Op Res ε α} {Q Q' : σ → τ → Except ε α → Prop}
    (h : Triple M P m Q) (hP : ∀ s t, P' s t → P s t) (hQ : ∀ s t x, Q s t x → Q' s t x) : Triple M P' m Q' := by
  intro s t hs
  apply sat_mono M _ (h s t (hP s t hs))
  rintro s o ⟨x, t', rfl, hQx⟩
  exact ⟨x, t', rfl, hQ s t' x hQx⟩

theorem triple_handle {m : Method τ Op Res ε α} {k : Except ε α → Method τ Op Res ε β}
    {R : σ → τ → Except ε α → Prop} {Q : σ → τ → Except ε β → Prop} (hm : Triple M P m R)
    (hk : ∀ x, Triple M (fun s t => R s t x) (k x) Q) : Triple M P (m.handle k) Q := by
  intro s t hP
  apply sat_bind M (hm s t hP)
  · rintro s a ⟨x, t', heq, hR⟩
    obtain rfl := Except.ok.inj heq
    exact hk x s t' hR
  · rintro s e ⟨x, t', heq, -⟩
    cases heq

theorem triple_bind {m : Method τ Op Res ε α} {f : α → Method τ Op Res ε β} {R : σ → τ → Except ε α → Prop}
    {Q : σ → τ → Except ε β → Prop} (hm : Triple M P m R) (hf : ∀ a, Triple M (fun s t => R s t (.ok a)) (f a) Q)
    (herr : ∀ s t e, R s t (.error e) → Q s t (.error e)) : Triple M P (m >>= f) Q := by
  show Triple M P (bind m f) Q
  apply triple_handle hm
  rintro (e | a)
  · exact triple_ofExcept fun s t h => herr s t e h
  · exact hf a

theorem triple_ofExcept_bind {x : Except ε α} {f : α → Method τ Op Res ε β} {Q : σ → τ → Except ε β → Prop}
    (hok : ∀ a, x = .ok a → Triple M P (f a) Q) (herr : ∀ e, x = .error e → ∀ s t, P s t → Q s t (.error e)) :
    Triple M P (ofExcept x >>= f) Q := by
  cases x with
  | error e => exact triple_ofExcept (herr e rfl)
  | ok a => exact hok a rfl

theorem triple_get_bind {f : τ → Method τ Op Res ε β} {Q : σ → τ → Except ε β → Prop}
    (hf : ∀ t₀, Triple M (fun s t => P s t ∧ t = t₀) (f t₀) Q) : Triple M P (get >>= f) Q :=
  fun s t hP => hf t s t ⟨hP, rfl⟩

theorem triple_tryCatch {m : Method τ Op Res ε α} {h : ε → Method τ Op Res ε α} {R Q : σ → τ → Except ε α → Prop}
    (hm : Triple M P m R) (hok : ∀ s t a, R s t (.ok a) → Q s t (.ok a))
    (herr : ∀ e, Triple M (fun s t => R s t (.error e)) (h e) Q) : Triple M P (tryCatch m h) Q := by
  show Triple M P (m.handle fun
    | .ok a => ofExcept (.ok a)
    | .error e => h e) Q
  apply triple_handle hm
  rintro (e | a)
  · exact herr e
  · exact triple_ofExcept fun s t hR => hok s t a hR

theorem triple_ite {c : Prop} [Decidable c] {m m' : Method τ Op Res ε α} {Q : σ → τ → Except ε α → Prop}
    (hm : c → Triple M P m Q) (hm' : ¬ c → Triple M P m' Q) : Triple M P (if c then m else m') Q := by
  split
  · exact hm ‹_›
  · exact hm' ‹_›

theorem triple_bind_inv {m : Method τ Op Res ε α} {f : α → Method τ Op Res ε β} {Q : σ → τ → Prop}
    (hm : Triple M P m fun s t _ => P s t) (hf : ∀ a, Triple M P (f a) fun s t _ => Q s t)
    (hQ : ∀ s t, P s t → Q s t) : Triple M P (m >>= f) fun s t _ => Q s t :=
  triple_bind hm hf fun s t _ => hQ s t

theorem triple_ofExcept_inv {x : Except ε α} : Triple M P (ofExcept x) fun s t _ => P s t :=
  triple_ofExcept fun _ _ h => h

end Rules

end Method

end TtlockBle.Lib
