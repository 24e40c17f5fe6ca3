/-!
# Interaction programs

A program returns, raises, or calls an operation and goes on with its answer, which may itself be
an exception. Programs are trees, so a loop with no bound of its own is unfolded a given number of
times and `cut` is what is left of it.

`Sat` is a program logic for them. A monitor says in which states an operation may be called, which
answers it can get, what the next state is and where a loop may be cut short. `Sat M Q s p` is the
triple of `p` from `s`.
-/

namespace TtlockBle.Lib

inductive Program (Op : Type) (Res : Op → Type) (ε α : Type) where
  | ret (a : α)
  | raise (e : ε)
  | call (op : Op) (next : Except ε (Res op) → Program Op Res ε α)
  | cut

namespace Program

variable {Op : Type} {Res : Op → Type} {ε α β : Type}

/-- Goes on with the outcome of `p`. Sequencing, `except` and `finally` are all of this form. -/
def handle (p : Program Op Res ε α) (k : Except ε α → Program Op Res ε β) : Program Op Res ε β :=
  match p with
  | ret a => k (.ok a)
  | raise e => k (.error e)
  | call op next => call op fun r => (next r).handle k
  | cut => cut

def ofExcept : Except ε α → Program Op Res ε α
  | .ok a => ret a
  | .error e => raise e

def bind (p : Program Op Res ε α) (f : α → Program Op Res ε β) : Program Op Res ε β :=
  p.handle fun
    | .ok a => f a
    | .error e => raise e

instance : Monad (Program Op Res ε) where
  pure := ret
  bind := bind

instance : MonadLift (Except ε) (Program Op Res ε) where
  monadLift := ofExcept

instance : MonadExceptOf ε (Program Op Res ε) where
  throw := raise
  tryCatch p h := p.handle fun
    | .ok a => ret a
    | .error e => h e

def andFinally (p : Program Op Res ε α) (last : Program Op Res ε Unit) : Program Op Res ε α :=
  p.handle fun outcome => last.bind fun _ => ofExcept outcome

def perform (op : Op) : Program Op Res ε (Res op) := call op ofExcept

/-- The same program, where its operations are some of more. -/
def embed {Op' : Type} {Res' : Op' → Type} (inj : Op → Op')
    (answer : (op : Op) → Except ε (Res' (inj op)) → Except ε (Res op)) :
    Program Op Res ε α → Program Op' Res' ε α
  | ret a => ret a
  | raise e => raise e
  | call op next => call (inj op) fun r => (next (answer op r)).embed inj answer
  | cut => cut

def discard (p : Program Op Res ε α) : Program Op Res ε Unit := p.bind fun _ => ret ()

theorem bind_assoc {γ : Type} (p : Program Op Res ε α) (f : α → Program Op Res ε β)
    (g : β → Program Op Res ε γ) : p >>= f >>= g = p >>= fun a => f a >>= g := by
  induction p with
  | ret a => rfl
  | raise e => rfl
  | call op next ih => exact congrArg (call op) (funext ih)
  | cut => rfl

/-! ## Runs -/

/-- An operation that was called, with its answer. -/
abbrev Event (Op : Type) (Res : Op → Type) (ε : Type) := (op : Op) × Except ε (Res op)

/-- `Runs p es q`: what is left of `p` after the calls `es` is `q`. -/
inductive Runs : Program Op Res ε α → List (Event Op Res ε) → Program Op Res ε α → Prop where
  | done (p) : Runs p [] p
  | call {op next r es q} : Runs (next r) es q → Runs (call op next) (⟨op, r⟩ :: es) q

theorem runs_call_iff {op : Op} {next : Except ε (Res op) → Program Op Res ε α} {r : Except ε (Res op)}
    {es : List (Event Op Res ε)} {q : Program Op Res ε α} :
    Runs (call op next) (⟨op, r⟩ :: es) q ↔ Runs (next r) es q := by
  constructor
  · intro h
    cases h with
    | call h => exact h
  · exact .call

theorem Runs.concat {p : Program Op Res ε α} {es : List (Event Op Res ε)} {op : Op}
    {next : Except ε (Res op) → Program Op Res ε α} (h : Runs p es (.call op next)) (r : Except ε (Res op)) :
    Runs p (es ++ [⟨op, r⟩]) (next r) := by
  generalize hq : Program.call op next = q at h
  induction h with
  | done p =>
    rw [← hq]
    exact .call (.done _)
  | call _ ih => exact .call (ih hq)

theorem runs_map {p : Program Op Res ε α} {g : α → β} {es : List (Event Op Res ε)} {q : Program Op Res ε β}
    (h : Runs (p.bind fun a => ret (g a)) es q) : ∃ p', Runs p es p' ∧ q = p'.bind fun a => ret (g a) := by
  generalize hp : p.bind (fun a => ret (g a)) = p₁ at h
  induction h generalizing p with
  | done => exact ⟨p, .done p, hp.symm⟩
  | call _ ih =>
    cases p with
    | call op next =>
      obtain ⟨rfl, hnext⟩ := call.inj hp
      obtain ⟨p', hrun, rfl⟩ := ih (congrFun (eq_of_heq hnext) _)
      exact ⟨p', .call hrun, rfl⟩
    | ret a => cases hp
    | raise e => cases hp
    | cut => cases hp

def Ended : Program Op Res ε α → Prop
  | call _ _ => False
  | _ => True

instance decidableEnded : (p : Program Op Res ε α) → Decidable p.Ended
  | .ret _ | .raise _ | .cut => .isTrue trivial
  | .call _ _ => .isFalse id

theorem ended_cases {p : Program Op Res ε α} (h : p.Ended) :
    (∃ outcome, p = ofExcept outcome) ∨ p = cut := by
  cases p with
  | ret a => exact .inl ⟨.ok a, rfl⟩
  | raise e => exact .inl ⟨.error e, rfl⟩
  | call op next => exact h.elim
  | cut => exact .inr rfl

theorem ofExcept_injective : Function.Injective (ofExcept : Except ε α → Program Op Res ε α) := by
  rintro (e | a) (e' | a') h <;> simp_all [ofExcept]

/-- How a program ends where each operation has its answer. -/
def outcome (answer : (op : Op) → Except ε (Res op)) : Program Op Res ε α → Option (Except ε α)
  | ret a => some (.ok a)
  | raise e => some (.error e)
  | call op next => (next (answer op)).outcome answer
  | cut => none

section Outcome

variable (answer : (op : Op) → Except ε (Res op))

@[simp]
theorem outcome_ofExcept (x : Except ε α) : (ofExcept x : Program Op Res ε α).outcome answer = some x := by
  cases x <;> rfl

@[simp]
theorem outcome_perform (op : Op) :
    (perform op : Program Op Res ε (Res op)).outcome answer = some (answer op) := by
  simp [perform, outcome]

theorem outcome_handle (p : Program Op Res ε α) (k : Except ε α → Program Op Res ε β) :
    (p.handle k).outcome answer = (p.outcome answer).bind fun o => (k o).outcome answer := by
  induction p with
  | ret a => rfl
  | raise e => rfl
  | call op next ih => simp only [handle, outcome, ih]
  | cut => rfl

theorem outcome_bind (p : Program Op Res ε α) (f : α → Program Op Res ε β) :
    (p >>= f).outcome answer = (p.outcome answer).bind fun
      | .ok a => (f a).outcome answer
      | .error e => some (.error e) := by
  show (p.bind f).outcome answer = _
  rw [bind, outcome_handle]
  congr
  funext o
  rcases o with e | a <;> rfl

theorem outcome_andFinally (p : Program Op Res ε α) (last : Program Op Res ε Unit)
    (hlast : last.outcome answer = some (.ok ())) :
    (p.andFinally last).outcome answer = p.outcome answer := by
  unfold andFinally
  rw [outcome_handle]
  rcases p.outcome answer with _ | o
  · rfl
  · show (last >>= fun _ => ofExcept o).outcome answer = some o
    rw [outcome_bind, hlast]
    exact outcome_ofExcept answer o

theorem runs_outcome (p : Program Op Res ε α) (o : Except ε α) (h : p.outcome answer = some o) :
    ∃ es, Runs p es (ofExcept o) ∧ ∀ ev ∈ es, ev.2 = answer ev.1 := by
  induction p with
  | ret a =>
    obtain rfl := Option.some.inj h
    exact ⟨[], .done _, by simp⟩
  | raise e =>
    obtain rfl := Option.some.inj h
    exact ⟨[], .done _, by simp⟩
  | call op next ih =>
    obtain ⟨es, hrun, hanswers⟩ := ih _ h
    exact ⟨_, .call hrun, by simpa using hanswers⟩
  | cut => cases h

end Outcome

/-- How a program ends where the answers depend on a state that each call moves on, and the state it
leaves. -/
def play {τ : Type} (answer : τ → (op : Op) → Except ε (Res op)) (next : τ → Op → τ) :
    τ → Program Op Res ε α → τ × Option (Except ε α)
  | s, ret a => (s, some (.ok a))
  | s, raise e => (s, some (.error e))
  | s, call op rest => play answer next (next s op) (rest (answer s op))
  | s, cut => (s, none)

section Play

variable {τ : Type} {answer : τ → (op : Op) → Except ε (Res op)} {next : τ → Op → τ}

@[simp]
theorem play_ofExcept (s : τ) (x : Except ε α) :
    (ofExcept x : Program Op Res ε α).play answer next s = (s, some x) := by
  cases x <;> rfl

@[simp]
theorem play_perform (s : τ) (op : Op) :
    (perform op : Program Op Res ε (Res op)).play answer next s = (next s op, some (answer s op)) := by
  unfold perform play
  rw [play_ofExcept]

theorem play_handle {s s' : τ} {p : Program Op Res ε α} {o : Except ε α}
    (h : p.play answer next s = (s', some o))
    (k : Except ε α → Program Op Res ε β) : (p.handle k).play answer next s = (k o).play answer next s' := by
  induction p generalizing s with
  | ret a =>
    obtain ⟨rfl, rfl⟩ := Prod.mk.inj h |>.imp_right Option.some.inj
    rfl
  | raise e =>
    obtain ⟨rfl, rfl⟩ := Prod.mk.inj h |>.imp_right Option.some.inj
    rfl
  | call op rest ih => exact ih _ h
  | cut => cases h

theorem play_handle_cut {s s' : τ} {p : Program Op Res ε α} (h : p.play answer next s = (s', none))
    (k : Except ε α → Program Op Res ε β) : (p.handle k).play answer next s = (s', none) := by
  induction p generalizing s with
  | ret a => cases h
  | raise e => cases h
  | call op rest ih => exact ih _ h
  | cut => exact congrArg (·, none) (congrArg Prod.fst h)

theorem play_bind {s s' : τ} {p : Program Op Res ε α} {a : α} (h : p.play answer next s = (s', some (.ok a)))
    (f : α → Program Op Res ε β) : (p >>= f).play answer next s = (f a).play answer next s' := by
  show (p.bind f).play answer next s = _
  unfold bind
  rw [play_handle h]

end Play

/-! ## Triples -/

structure Monitor (Op : Type) (Res : Op → Type) (ε σ : Type) where
  allows : σ → Op → Prop
  admits : σ → (op : Op) → Except ε (Res op) → Prop
  next : σ → (op : Op) → Except ε (Res op) → σ
  cuts : σ → Prop := fun _ => True

variable {σ : Type} (M : Monitor Op Res ε σ)

/-- From `s`, every call of `p` is allowed, and `p` ends in a state and an outcome of `Q`. -/
def Sat (Q : σ → Except ε α → Prop) : σ → Program Op Res ε α → Prop
  | s, ret a => Q s (.ok a)
  | s, raise e => Q s (.error e)
  | s, call op next => M.allows s op ∧ ∀ r, M.admits s op r → Sat Q (M.next s op r) (next r)
  | s, cut => M.cuts s

@[simp]
theorem sat_pure (Q : σ → Except ε α → Prop) (s : σ) (a : α) :
    Sat M Q s (pure a) ↔ Q s (.ok a) := Iff.rfl

@[simp]
theorem sat_throw (Q : σ → Except ε α → Prop) (s : σ) (e : ε) :
    Sat M Q s (throw e) ↔ Q s (.error e) := Iff.rfl

theorem sat_call (Q : σ → Except ε α → Prop) (s : σ) (op : Op)
    (next : Except ε (Res op) → Program Op Res ε α) :
    Sat M Q s (call op next) ↔
      M.allows s op ∧ ∀ r, M.admits s op r → Sat M Q (M.next s op r) (next r) := Iff.rfl

@[simp]
theorem sat_ofExcept (Q : σ → Except ε α → Prop) (s : σ) (x : Except ε α) :
    Sat M Q s (ofExcept x) ↔ Q s x := by
  cases x <;> rfl

theorem sat_mono {Q Q' : σ → Except ε α → Prop} (h : ∀ s o, Q s o → Q' s o) {s : σ}
    {p : Program Op Res ε α} (hp : Sat M Q s p) : Sat M Q' s p := by
  induction p generalizing s with
  | ret a => exact h s _ hp
  | raise e => exact h s _ hp
  | call op next ih => exact ⟨hp.1, fun r hr => ih r (hp.2 r hr)⟩
  | cut => exact hp

theorem sat_handle (Q : σ → Except ε β → Prop) (s : σ) (p : Program Op Res ε α)
    (k : Except ε α → Program Op Res ε β) :
    Sat M Q s (p.handle k) ↔ Sat M (fun s o => Sat M Q s (k o)) s p := by
  induction p generalizing s with
  | ret a => rfl
  | raise e => rfl
  | call op next ih => simp only [handle, sat_call, ih]
  | cut => rfl

theorem sat_bind {P : σ → Except ε α → Prop} {Q : σ → Except ε β → Prop} {s : σ}
    {p : Program Op Res ε α} {f : α → Program Op Res ε β} (hp : Sat M P s p)
    (hok : ∀ s a, P s (.ok a) → Sat M Q s (f a)) (herr : ∀ s e, P s (.error e) → Q s (.error e)) :
    Sat M Q s (p >>= f) := by
  show Sat M Q s (p.bind f)
  rw [bind, sat_handle]
  apply sat_mono M _ hp
  rintro s (e | a) h
  · exact herr s e h
  · exact hok s a h

theorem sat_bind_inv {I : σ → Prop} {s : σ} {p : Program Op Res ε α} {f : α → Program Op Res ε β}
    (hp : Sat M (fun s _ => I s) s p) (hf : ∀ s a, I s → Sat M (fun s _ => I s) s (f a)) :
    Sat M (fun s _ => I s) s (p >>= f) :=
  sat_bind M hp hf fun _ _ h => h

def Monitor.after (s : σ) (es : List (Event Op Res ε)) : σ :=
  es.foldl (fun s e => M.next s e.1 e.2) s

def Monitor.AdmitsAll : σ → List (Event Op Res ε) → Prop
  | _, [] => True
  | s, e :: es => M.admits s e.1 e.2 ∧ AdmitsAll (M.next s e.1 e.2) es

variable {M} in
theorem Monitor.after_concat (s : σ) (es : List (Event Op Res ε)) (ev : Event Op Res ε) :
    M.after s (es ++ [ev]) = M.next (M.after s es) ev.1 ev.2 := by
  unfold after
  rw [List.foldl_append]
  rfl

variable {M} in
theorem Monitor.admitsAll_concat (s : σ) (es : List (Event Op Res ε)) (ev : Event Op Res ε) :
    M.AdmitsAll s (es ++ [ev]) ↔ M.AdmitsAll s es ∧ M.admits (M.after s es) ev.1 ev.2 := by
  induction es generalizing s with
  | nil => simp [AdmitsAll, after]
  | cons first es ih => simp only [List.cons_append, AdmitsAll, ih, and_assoc, after, List.foldl_cons]

theorem Monitor.AdmitsAll.of_append {M : Monitor Op Res ε σ} {s : σ} {es es' : List (Event Op Res ε)}
    (h : M.AdmitsAll s (es ++ es')) : M.AdmitsAll s es := by
  induction es generalizing s with
  | nil => trivial
  | cons ev es ih => exact ⟨h.1, ih h.2⟩

theorem Monitor.admitsAll_of_forall {M : Monitor Op Res ε σ} {es : List (Event Op Res ε)}
    (h : ∀ ev ∈ es, ∀ s, M.admits s ev.1 ev.2) (s : σ) : M.AdmitsAll s es := by
  induction es generalizing s with
  | nil => trivial
  | cons ev es ih =>
    exact ⟨h ev List.mem_cons_self s, ih (fun ev' hev' => h ev' (List.mem_cons_of_mem _ hev')) _⟩

/-- **Soundness.** A triple still holds of what is left after a run. -/
theorem sat_run {Q : σ → Except ε α → Prop} {s : σ} {p q : Program Op Res ε α}
    {es : List (Event Op Res ε)} (hp : Sat M Q s p) (hrun : Runs p es q) (hadm : M.AdmitsAll s es) :
    Sat M Q (M.after s es) q := by
  induction hrun generalizing s with
  | done p => exact hp
  | call _ ih => exact ih (hp.2 _ hadm.1) hadm.2

theorem sat_discard_ended {Q : σ → Except ε α → Prop} {s : σ} {p : Program Op Res ε α} {q : Program Op Res ε Unit}
    {es : List (Event Op Res ε)} (hp : Sat M Q s p) (hcuts : ∀ s, ¬ M.cuts s) (hrun : Runs p.discard es q)
    (hadm : M.AdmitsAll s es) (hended : q.Ended) : ∃ o, Runs p es (ofExcept o) ∧ Q (M.after s es) o := by
  obtain ⟨left, hruns, rfl⟩ := runs_map hrun
  have hleft := sat_run M hp hruns hadm
  have hended' : left.Ended := by
    cases left with
    | call op next => exact hended.elim
    | ret _ | raise _ | cut => trivial
  rcases ended_cases hended' with ⟨o, rfl⟩ | rfl
  · exact ⟨o, hruns, (sat_ofExcept _ _ _ _).mp hleft⟩
  · exact absurd hleft (hcuts _)

theorem sat_allows {Q : σ → Except ε α → Prop} {s : σ} {p q : Program Op Res ε α} {before after : List (Event Op Res ε)}
    {op : Op} {r : Except ε (Res op)} (hp : Sat M Q s p) (hrun : Runs p (before ++ ⟨op, r⟩ :: after) q)
    (hadm : M.AdmitsAll s before) : M.allows (M.after s before) op := by
  induction before generalizing p s with
  | nil =>
    cases hrun with
    | call _ => exact hp.1
  | cons ev before ih =>
    cases hrun with
    | call hrun => exact ih (hp.2 _ hadm.1) hrun hadm.2

/-! ### Which operations are called -/

/-- The operations of `P`, whatever they are answered. -/
def Monitor.only (P : Op → Prop) : Monitor Op Res ε Unit where
  allows _ op := P op
  admits _ _ _ := True
  next _ _ _ := ()

/-- Whatever it is answered, the program calls operations of `P` only. -/
def Only (P : Op → Prop) (p : Program Op Res ε α) : Prop := Sat (Monitor.only P) (fun _ _ => True) () p

section Only

variable {P : Op → Prop}

theorem only_call {op : Op} {next : Except ε (Res op) → Program Op Res ε α} :
    Only P (call op next) ↔ P op ∧ ∀ r, Only P (next r) :=
  and_congr_right fun _ => forall_congr' fun _ => ⟨fun h => h trivial, fun h _ => h⟩

theorem only_ofExcept (x : Except ε α) : Only P (ofExcept x : Program Op Res ε α) := (sat_ofExcept _ _ _ _).mpr trivial

theorem only_handle {p : Program Op Res ε α} {k : Except ε α → Program Op Res ε β} (hp : Only P p)
    (hk : ∀ x, Only P (k x)) : Only P (p.handle k) :=
  (sat_handle _ _ _ _ _).mpr (sat_mono _ (fun _ x _ => hk x) hp)

theorem only_bind {p : Program Op Res ε α} {f : α → Program Op Res ε β} (hp : Only P p) (hf : ∀ a, Only P (f a)) :
    Only P (p >>= f) := by
  apply only_handle hp
  rintro (e | a)
  · exact trivial
  · exact hf a

theorem only_of_bind {p : Program Op Res ε α} {f : α → Program Op Res ε β} (h : Only P (p.bind f)) : Only P p := by
  unfold Only bind at h
  rw [sat_handle] at h
  exact sat_mono _ (fun _ _ _ => trivial) h

theorem only_perform {op : Op} (h : P op) : Only P (perform op : Program Op Res ε (Res op)) :=
  only_call.mpr ⟨h, only_ofExcept⟩

theorem only_of_sat {Q : σ → Except ε α → Prop} {s : σ} {p : Program Op Res ε α}
    (hallows : ∀ s op, M.allows s op → P op) (hadmits : ∀ s op r, M.admits s op r) (hp : Sat M Q s p) : Only P p := by
  induction p generalizing s with
  | ret a => trivial
  | raise e => trivial
  | call op next ih => exact only_call.mpr ⟨hallows s op hp.1, fun r => ih r (hp.2 r (hadmits s op r))⟩
  | cut => trivial

theorem only_runs {p : Program Op Res ε α} {es : List (Event Op Res ε)} {op : Op}
    {next : Except ε (Res op) → Program Op Res ε α} (h : Only P p) (hrun : Runs p es (call op next)) : P op :=
  (sat_run _ h hrun (Monitor.admitsAll_of_forall (fun _ _ _ => trivial) ())).1

end Only

/-! ### Programs of more operations -/

section Embed

variable {Op' : Type} {Res' : Op' → Type} {inj : Op → Op'}
  {answer : (op : Op) → Except ε (Res' (inj op)) → Except ε (Res op)}

/-- A monitor that allows what another one does, and goes on as it does, is one for the program in its place. -/
theorem sat_embed {M' : Monitor Op' Res' ε σ} {Q : σ → Except ε α → Prop} {s : σ} {p : Program Op Res ε α}
    (hallows : ∀ s op, M.allows s op → M'.allows s (inj op))
    (hadmits : ∀ s op r, M'.admits s (inj op) r → M.admits s op (answer op r))
    (hnext : ∀ s op r, M'.next s (inj op) r = M.next s op (answer op r)) (hcuts : ∀ s, M.cuts s → M'.cuts s)
    (hp : Sat M Q s p) : Sat M' Q s (p.embed inj answer) := by
  induction p generalizing s with
  | ret a => exact hp
  | raise e => exact hp
  | call op next ih =>
    refine ⟨hallows s op hp.1, fun r hr => ?_⟩
    rw [hnext]
    exact ih _ (hp.2 _ (hadmits s op r hr))
  | cut => exact hcuts s hp

end Embed

/-- A monitor that follows another one allows and cuts what that one does, and admits no more. -/
structure Monitor.Follows {τ : Type} (M : Monitor Op Res ε σ) (M' : Monitor Op Res ε τ) (R : σ → τ → Prop) : Prop where
  allows : ∀ s t op, R s t → M.allows s op → M'.allows t op
  admits : ∀ s t op r, R s t → M'.admits t op r → M.admits s op r
  next : ∀ s t op r, R s t → M.allows s op → M'.admits t op r → R (M.next s op r) (M'.next t op r)
  cuts : ∀ s t, R s t → M.cuts s → M'.cuts t

theorem sat_follows {τ : Type} {M : Monitor Op Res ε σ} {M' : Monitor Op Res ε τ} {R : σ → τ → Prop}
    (h : M.Follows M' R) {Q : σ → Except ε α → Prop} {s : σ} {t : τ} {p : Program Op Res ε α} (hp : Sat M Q s p)
    (hR : R s t) : Sat M' (fun t o => ∃ s, R s t ∧ Q s o) t p := by
  induction p generalizing s t with
  | ret a => exact ⟨s, hR, hp⟩
  | raise e => exact ⟨s, hR, hp⟩
  | call op next ih =>
    exact ⟨h.allows s t op hR hp.1, fun r hr => ih r (hp.2 r (h.admits s t op r hR hr)) (h.next s t op r hR hp.1 hr)⟩
  | cut => exact h.cuts s t hR hp

/-! ### Watching for an event -/

section Watch

variable (admits breaks : Event Op Res ε → Prop)

/-- The state is whether an event so far is one of `breaks`. Nothing may be cut. -/
def Monitor.watch : Monitor Op Res ε Prop where
  allows _ _ := True
  admits _ op r := admits ⟨op, r⟩
  next s op r := s ∨ breaks ⟨op, r⟩
  cuts _ := False

theorem after_watch (s : Prop) (es : List (Event Op Res ε)) :
    (Monitor.watch admits breaks).after s es ↔ s ∨ ∃ ev ∈ es, breaks ev := by
  induction es generalizing s with
  | nil => simp [Monitor.after]
  | cons ev es ih =>
    apply (ih (s ∨ breaks ev)).trans
    simp [or_assoc]

variable {admits breaks}

theorem watch_run {Q : Prop → Except ε α → Prop} {p rest : Program Op Res ε α}
    {es : List (Event Op Res ε)} (hp : Sat (Monitor.watch admits breaks) Q False p) (hrun : Runs p es rest)
    (hended : rest.Ended) (hadmitted : ∀ ev ∈ es, admits ev) :
    ∃ outcome, rest = ofExcept outcome ∧ Q (∃ ev ∈ es, breaks ev) outcome := by
  have hrest := sat_run _ hp hrun (Monitor.admitsAll_of_forall (fun ev hev _ => hadmitted ev hev) False)
  rcases ended_cases hended with ⟨outcome, rfl⟩ | rfl
  · refine ⟨outcome, rfl, ?_⟩
    rwa [sat_ofExcept, propext (after_watch admits breaks False es), false_or] at hrest
  · exact hrest.elim

end Watch

/-- A program that is not cut, and whose calls are all answered as admitted, ends. -/
theorem sat_outcome {Q : σ → Except ε α → Prop} {I : σ → Prop} (answer : (op : Op) → Except ε (Res op))
    (hcalls : ∀ s op, I s → M.allows s op → M.admits s op (answer op) ∧ I (M.next s op (answer op)))
    (hcuts : ∀ s, I s → ¬ M.cuts s) {s : σ} (hs : I s) {p : Program Op Res ε α} (hp : Sat M Q s p) :
    ∃ s' o, p.outcome answer = some o ∧ I s' ∧ Q s' o := by
  induction p generalizing s with
  | ret a => exact ⟨s, .ok a, rfl, hs, hp⟩
  | raise e => exact ⟨s, .error e, rfl, hs, hp⟩
  | call op next ih =>
    obtain ⟨hadmits, hnext⟩ := hcalls s op hs hp.1
    exact ih _ hnext (hp.2 _ hadmits)
  | cut => exact absurd hp (hcuts s hs)

end Program

end TtlockBle.Lib
