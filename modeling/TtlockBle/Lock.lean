import TtlockBle.Code.Client

/-!
# Calls against a lock

The replies of a lock depend on the requests that it has received: each of them moves its state on.
-/

open TtlockBle.Lib

namespace TtlockBle

structure Lock (σ : Type) where
  reply : σ → Int → Bytes → Py Frame
  next : σ → Int → Bytes → σ

/-- A lock in use, with the requests that it has received. -/
structure Session (σ : Type) where
  lock : σ
  sent : List (Int × Bytes)

namespace Lock

open Program

variable {σ α : Type} (lock : Lock σ)

def answer (s : Session σ) : (op : ClientOp) → Py op.Answer
  | .acquire | .release | .restartKeepAlive => .ok ()
  | .exchange command payload => lock.reply s.lock command payload
  | .now => .ok (0 : Int)
  | .readOptionalChar _ => .ok none

def send (s : Session σ) (command : Int) (payload : Bytes) : Session σ :=
  ⟨lock.next s.lock command payload, s.sent ++ [(command, payload)]⟩

def after (s : Session σ) : ClientOp → Session σ
  | .exchange command payload => lock.send s command payload
  | _ => s

/-- A call against the lock: what has been received after it, and its outcome. -/
def play (s : Session σ) (p : ClientProgram α) : Session σ × Option (Py α) := p.play lock.answer lock.after s

theorem sent_prefix (s : Session σ) (p : ClientProgram α) : s.sent <+: (lock.play s p).1.sent := by
  unfold play
  induction p generalizing s with
  | ret a => exact List.prefix_refl _
  | raise e => exact List.prefix_refl _
  | cut => exact List.prefix_refl _
  | call op rest ih =>
    have hop : s.sent <+: (lock.after s op).sent := by
      cases op with
      | exchange command payload => exact List.prefix_append _ _
      | _ => exact List.prefix_refl _
    exact hop.trans (ih _ _)

/-- The lock replies with this plaintext. -/
def Replies (client : TTLockClient) (s : σ) (command : Int) (payload plain : Bytes) : Prop :=
  ∃ resp, lock.reply s command payload = .ok resp ∧
    aesDecrypt client.aes resp.data client.aesKey = .ok plain

/-! ## Rules -/

theorem play_locked {τ : Type} {answer : τ → (op : ClientOp) → Py op.Answer} {next : τ → ClientOp → τ}
    (hanswer : ∀ s, answer s .acquire = .ok () ∧ answer s .release = .ok ())
    (hnext : ∀ s, next s .acquire = s ∧ next s .release = s) (s : τ) (body : ClientProgram α) :
    (withCommandLock body).play answer next s = body.play answer next s := by
  have hacquire : (Program.perform ClientOp.acquire : ClientProgram Unit).play answer next s =
      (s, some (.ok ())) := by
    rw [play_perform, (hanswer s).1, (hnext s).1]
  refine (Program.play_bind hacquire _).trans ?_
  unfold Program.andFinally
  rcases h : body.play answer next s with ⟨s', _ | o⟩
  · exact play_handle_cut h _
  · have hrelease : (Program.perform ClientOp.release : ClientProgram Unit).play answer next s' =
        (s', some (.ok ())) := by
      rw [play_perform, (hanswer s').2, (hnext s').2]
    rw [play_handle h]
    refine (Program.play_bind hrelease _).trans ?_
    rw [play_ofExcept]

variable {lock} {β : Type} {s s' : Session σ} {p : ClientProgram α}

theorem play_withCommandLock : lock.play s (withCommandLock p) = lock.play s p :=
  play_locked (fun _ => ⟨rfl, rfl⟩) (fun _ => ⟨rfl, rfl⟩) s p

theorem play_bind {a : α} (h : lock.play s p = (s', some (.ok a))) (f : α → ClientProgram β) :
    lock.play s (p >>= f) = lock.play s' (f a) :=
  Program.play_bind h f

theorem play_bind_error {e : PyExc} (h : lock.play s p = (s', some (.error e))) (f : α → ClientProgram β) :
    lock.play s (p >>= f) = (s', some (.error e)) :=
  (play_handle h _).trans rfl

theorem play_pure (a : α) : lock.play s (pure a : ClientProgram α) = (s, some (.ok a)) := rfl

theorem play_lift (x : Py α) : lock.play s (liftM x : ClientProgram α) = (s, some x) := play_ofExcept s x

theorem play_lift_bind {x : Py α} {a : α} (h : x = .ok a) (f : α → ClientProgram β) :
    lock.play s ((liftM x : ClientProgram α) >>= f) = lock.play s (f a) :=
  play_bind (by rw [play_lift, h]) f

theorem play_roundTrip (client : TTLockClient) (command : Int) (payload : Bytes) (label : String) :
    lock.play s (client.roundTrip command payload label) = (lock.send s command payload,
      some (lock.reply s.lock command payload >>= fun resp => client.decryptResponse resp label)) := by
  have hexchange : lock.play s (exchange command payload) =
      (lock.send s command payload, some (lock.reply s.lock command payload)) := play_perform s _
  unfold TTLockClient.roundTrip
  cases hreply : lock.reply s.lock command payload with
  | error e =>
    rw [hreply] at hexchange
    exact play_bind_error hexchange _
  | ok resp =>
    rw [hreply] at hexchange
    rw [play_bind hexchange]
    exact play_lift _

theorem play_roundTrip_replies {client : TTLockClient} {command : Int} {payload plain : Bytes}
    (h : lock.Replies client s.lock command payload plain) (label : String) :
    lock.play s (client.roundTrip command payload label) = (lock.send s command payload, some (.ok plain)) := by
  obtain ⟨resp, hreply, hplain⟩ := h
  have hdecrypt : client.decryptResponse resp label = .ok plain := (client.decryptResponse_eq_ok _ _ _).mpr hplain
  rw [play_roundTrip, hreply]
  exact congrArg (fun o => (_, some o)) hdecrypt

/-! ## What a lock keeps -/

section Keeping

variable {σ κ : Type} (client : TTLockClient) (lock : Lock σ) (view : σ → κ)

/-- The lock says yes, with such data, and from then on keeps `k`. -/
def Accepts (s : σ) (command : Int) (payload : Bytes) (data : Bytes → Prop) (k : κ) : Prop :=
  ∃ echo d, data d ∧ lock.Replies client s command payload (echo :: responseSuccess :: d) ∧
    view (lock.next s command payload) = k

def Rejects (s : σ) (command : Int) (payload : Bytes) : Prop :=
  ∃ echo status d, status ≠ responseSuccess ∧ lock.Replies client s command payload (echo :: status :: d) ∧
    view (lock.next s command payload) = view s

def Changes (s : σ) (command : Int) (payload : Bytes) (data : Bytes → Prop) : Option κ → Prop
  | some k => Accepts client lock view s command payload data k
  | none => Rejects client lock view s command payload

end Keeping

end Lock

end TtlockBle
