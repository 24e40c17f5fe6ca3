import Mathlib.Algebra.Order.Floor.Semiring
import Mathlib.Data.Rat.Floor
import Mathlib.Tactic.Linarith
import TtlockBle.Code.KeepAlive

/-!
# What a keep-alive window does

A window pokes a lock that was seen connected a moment before, at most once in each interval, and
closes. How long an interval sleeps is up to the event loop, and `tick` is the least of it.
-/

open TtlockBle.Lib

namespace TtlockBle.Pokes

open KeepAlive

abbrev WindowEvent := Program.Event WindowOp WindowOp.Answer PyExc

/-! ## The clock -/

/-- No earlier than this it is after the event. -/
def earliest (tick now : Rat) : WindowEvent → Rat
  | ⟨.monotonic, .ok t⟩ => t
  | ⟨.sleep _, .ok _⟩ => now + tick
  | _ => now

/-- The clock does not read an earlier time than `now`. -/
def NotBefore (now : Rat) : WindowEvent → Prop
  | ⟨.monotonic, .ok t⟩ => now ≤ t
  | _ => True

/-- The clock never goes back, and an interval sleeps for `tick` or more. -/
def Clock (tick : Rat) : Rat → List WindowEvent → Prop
  | _, [] => True
  | now, ev :: es => NotBefore now ev ∧ Clock tick (earliest tick now ev) es

/-! ## What is promised -/

def isPoke (ev : WindowEvent) : Bool := ev.1 = .poke

def pokes (es : List WindowEvent) : Nat := es.countP isPoke

/-- A turn up to its poke. -/
def beforePoke (t : Rat) : List WindowEvent :=
  [⟨.monotonic, .ok t⟩, ⟨.isConnected, .ok true⟩, ⟨.sleep keepAliveInterval, .ok ()⟩, ⟨.isConnected, .ok true⟩]

/-- The turn began before the deadline, and the lock was connected before the interval and after it. -/
def Primed (windowSeconds : Rat) (es : List WindowEvent) : Prop :=
  ∃ opened t earlier, es = ⟨.monotonic, .ok opened⟩ :: earlier ++ beforePoke t ∧ t < opened + windowSeconds

/-- Why a window closes, and with which outcome. -/
inductive Closes (windowSeconds : Rat) : List WindowEvent → Py Unit → Prop where
  | elapsed {opened t : Rat} {earlier} (h : opened + windowSeconds ≤ t) :
      Closes windowSeconds (⟨.monotonic, .ok opened⟩ :: earlier ++ [⟨.monotonic, .ok t⟩]) (.ok ())
  | disconnected {es} : Closes windowSeconds (es ++ [⟨.isConnected, .ok false⟩]) (.ok ())
  | refused {es e} (h : e.type = .ttLockError) : Closes windowSeconds (es ++ [⟨.poke, .error e⟩]) (.ok ())
  | raised {es op e} (h : op = .poke → e.type ≠ .ttLockError) :
      Closes windowSeconds (es ++ [⟨op, .error e⟩]) (.error e)

/-! ## A turn -/

structure Pulse where
  now : Rat
  events : List WindowEvent

section Turns

variable (windowSeconds tick : Rat) (most : Nat)

def pulse : Program.Monitor WindowOp WindowOp.Answer PyExc Pulse where
  allows s op := op = .poke → Primed windowSeconds s.events ∧ pokes s.events < ⌈windowSeconds / tick⌉₊
  admits s op r := NotBefore s.now ⟨op, r⟩
  next s op r := ⟨earliest tick s.now ⟨op, r⟩, s.events ++ [⟨op, r⟩]⟩
  cuts s := pokes s.events = most

/-- From `s` on, the program keeps to what is promised. -/
def Keeps (s : Pulse) (p : WindowProgram Unit) : Prop :=
  Program.Sat (pulse windowSeconds tick most) (fun s o => Closes windowSeconds s.events o) s p

/-- The window opened at `opened`, and every interval since then has ended in a poke. -/
structure Pulsing (opened : Rat) (s : Pulse) : Prop where
  first : ∃ earlier, s.events = ⟨.monotonic, .ok opened⟩ :: earlier
  late : opened + pokes s.events * tick ≤ s.now

variable {windowSeconds tick most}

theorem keeps_next {op : WindowOp} {f : op.Answer → WindowProgram Unit} {s : Pulse} (hop : op ≠ .poke)
    (hok : ∀ a, NotBefore s.now ⟨op, .ok a⟩ →
      Keeps windowSeconds tick most ⟨earliest tick s.now ⟨op, .ok a⟩, s.events ++ [⟨op, .ok a⟩]⟩ (f a)) :
    Keeps windowSeconds tick most s ((Program.perform op : WindowProgram op.Answer) >>= f) := by
  refine ⟨fun h => absurd h hop, ?_⟩
  rintro (e | a) hadmits
  · exact Closes.raised fun h => absurd h hop
  · exact hok a hadmits

theorem keeps_monotonic {f : Rat → WindowProgram Unit} {s : Pulse}
    (hok : ∀ t, s.now ≤ t → Keeps windowSeconds tick most ⟨t, s.events ++ [⟨.monotonic, .ok t⟩]⟩ (f t)) :
    Keeps windowSeconds tick most s (monotonic >>= f) :=
  keeps_next (by simp) hok

theorem keeps_isConnected {f : Bool → WindowProgram Unit} {s : Pulse} (hno : f false = pure ())
    (hyes : Keeps windowSeconds tick most ⟨s.now, s.events ++ [⟨.isConnected, .ok true⟩]⟩ (f true)) :
    Keeps windowSeconds tick most s (isConnected >>= f) := by
  apply keeps_next (by simp)
  rintro (_ | _) -
  · rw [hno]
    exact Closes.disconnected
  · exact hyes

theorem keeps_sleep {f : Unit → WindowProgram Unit} {s : Pulse} {seconds : Rat}
    (hok : Keeps windowSeconds tick most ⟨s.now + tick, s.events ++ [⟨.sleep seconds, .ok ()⟩]⟩ (f ())) :
    Keeps windowSeconds tick most s (sleep seconds >>= f) :=
  keeps_next (by simp) fun _ _ => hok

theorem keeps_poke {k : WindowProgram Unit} {s : Pulse} (hprimed : Primed windowSeconds s.events)
    (hfew : pokes s.events < ⌈windowSeconds / tick⌉₊)
    (hok : Keeps windowSeconds tick most ⟨s.now, s.events ++ [⟨.poke, .ok ()⟩]⟩ k) :
    Keeps windowSeconds tick most s
      (poke.handle fun
        | .error e => if e.type = .ttLockError then return else throw e
        | .ok () => k) := by
  refine ⟨fun _ => ⟨hprimed, hfew⟩, ?_⟩
  rintro (e | ⟨⟩) -
  · show Program.Sat _ _ _ (if e.type = .ttLockError then return else throw e)
    split
    next htype => exact Closes.refused htype
    next htype => exact Closes.raised fun _ => htype
  · exact hok

theorem pokes_append (es es' : List WindowEvent) : pokes (es ++ es') = pokes es + pokes es' := List.countP_append

theorem pokes_beforePoke (t : Rat) : pokes (beforePoke t) = 0 := by
  simp [pokes, beforePoke, isPoke]

theorem pokes_turn (es : List WindowEvent) (t : Rat) :
    pokes (es ++ beforePoke t ++ [⟨.poke, .ok ()⟩]) = pokes es + 1 := by
  rw [pokes_append, pokes_append, pokes_beforePoke]
  rfl

theorem pulsing_poked {opened t : Rat} {s : Pulse} (h : Pulsing tick opened s) (hlate : s.now ≤ t) :
    Pulsing tick opened ⟨t + tick, s.events ++ beforePoke t ++ [⟨.poke, .ok ()⟩]⟩ := by
  obtain ⟨⟨earlier, hevents⟩, hnow⟩ := h
  constructor
  · exact ⟨earlier ++ beforePoke t ++ [⟨.poke, .ok ()⟩], by simp [hevents]⟩
  · simp only [pokes_turn]
    push_cast
    linarith

/-- Whatever happened before, the turns that are left keep to what is promised. -/
theorem keeps_turns (htick : 0 < tick) {opened : Rat} (n : Nat) (s : Pulse) (h : Pulsing tick opened s)
    (hmost : pokes s.events + n = most) :
    Keeps windowSeconds tick most s (turns (opened + windowSeconds) n) := by
  induction n generalizing s with
  | zero => exact hmost
  | succ n ih =>
    obtain ⟨earlier, hevents⟩ := h.first
    apply keeps_monotonic
    intro t hlate
    split
    next hdeadline =>
      apply keeps_isConnected rfl
      apply keeps_sleep
      apply keeps_isConnected rfl
      have hturn : s.events ++ [⟨.monotonic, .ok t⟩] ++ [⟨.isConnected, .ok true⟩] ++
          [⟨.sleep keepAliveInterval, .ok ()⟩] ++ [⟨.isConnected, .ok true⟩] = s.events ++ beforePoke t := by
        simp [beforePoke]
      rw [hturn]
      have hfew : pokes (s.events ++ beforePoke t) < ⌈windowSeconds / tick⌉₊ := by
        rw [pokes_append, pokes_beforePoke, add_zero, Nat.lt_ceil, lt_div_iff₀ htick]
        linarith [h.late]
      apply keeps_poke ⟨opened, t, earlier, by rw [hevents], hdeadline⟩ hfew
      apply ih _ (pulsing_poked h hlate)
      rw [pokes_turn]
      omega
    next hdeadline =>
      have hends : Closes windowSeconds (⟨.monotonic, .ok opened⟩ :: earlier ++ [⟨.monotonic, .ok t⟩]) (.ok ()) :=
        .elapsed (not_lt.mp hdeadline)
      rwa [← hevents] at hends

theorem keeps_window (htick : 0 < tick) (start : Rat) :
    Keeps windowSeconds tick most ⟨start, []⟩ (KeepAlive.run windowSeconds most) := by
  apply keeps_monotonic
  intro opened _
  have hnone : pokes [⟨.monotonic, .ok opened⟩] = 0 := by simp [pokes, isPoke]
  apply keeps_turns htick
  · exact ⟨⟨[], rfl⟩, by simp [hnone]⟩
  · simp [hnone]

theorem admitsAll_of_clock {es : List WindowEvent} {s : Pulse} (h : Clock tick s.now es) :
    (pulse windowSeconds tick most).AdmitsAll s es := by
  induction es generalizing s with
  | nil => trivial
  | cons ev es ih => exact ⟨h.1, ih h.2⟩

theorem after_events (s : Pulse) (es : List WindowEvent) :
    ((pulse windowSeconds tick most).after s es).events = s.events ++ es := by
  induction es generalizing s with
  | nil => exact (List.append_nil _).symm
  | cons ev es ih => exact (ih _).trans (List.append_assoc _ [ev] es)

end Turns

/-! ## A window -/

theorem pokes_le {most : Nat} (es : List WindowEvent)
    (h : ∀ before r after, es = before ++ ⟨.poke, r⟩ :: after → pokes before < most) : pokes es ≤ most := by
  induction es using List.reverseRecOn with
  | nil => exact Nat.zero_le _
  | append_singleton es ev ih =>
    have hes : pokes es ≤ most := by
      apply ih
      rintro before r after rfl
      exact h before r (after ++ [ev]) (by simp)
    rw [pokes_append]
    obtain ⟨op, r⟩ := ev
    by_cases hop : op = .poke
    · subst hop
      exact h es r [] rfl
    · simpa [pokes, isPoke, hop] using hes

/-- A window pokes the lock at most once in each interval that begins in it, every time right after
it was seen connected, and given turns enough it closes for a reason of its own. -/
theorem window_closes {windowSeconds tick start : Rat} (htick : 0 < tick) {n : Nat} {es : List WindowEvent}
    {rest : WindowProgram Unit} (hrun : Program.Runs (KeepAlive.run windowSeconds n) es rest)
    (hclock : Clock tick start es) :
    pokes es ≤ ⌈windowSeconds / tick⌉₊ ∧
      (∀ before r after, es = before ++ ⟨.poke, r⟩ :: after → Primed windowSeconds before) ∧
      (⌈windowSeconds / tick⌉₊ < n → rest.Ended →
        ∃ outcome, rest = Program.ofExcept outcome ∧ Closes windowSeconds es outcome) := by
  have hsat : Keeps windowSeconds tick n ⟨start, []⟩ (KeepAlive.run windowSeconds n) := keeps_window htick start
  have hadmits : (pulse windowSeconds tick n).AdmitsAll ⟨start, []⟩ es := admitsAll_of_clock hclock
  have hallowed : ∀ before r after, es = before ++ ⟨.poke, r⟩ :: after →
      Primed windowSeconds before ∧ pokes before < ⌈windowSeconds / tick⌉₊ := by
    rintro before r after rfl
    have hpoke := Program.sat_allows _ hsat hrun hadmits.of_append rfl
    rwa [after_events] at hpoke
  have hfew : pokes es ≤ ⌈windowSeconds / tick⌉₊ := pokes_le es fun before r after h => (hallowed before r after h).2
  refine ⟨hfew, fun before r after h => (hallowed before r after h).1, fun hturns hended => ?_⟩
  have hrest := Program.sat_run _ hsat hrun hadmits
  rcases Program.ended_cases hended with ⟨outcome, rfl⟩ | rfl
  · rw [Program.sat_ofExcept, after_events] at hrest
    exact ⟨outcome, rfl, hrest⟩
  · -- only a loop that poked in every turn is cut
    have hcut : pokes ((pulse windowSeconds tick n).after ⟨start, []⟩ es).events = n := hrest
    rw [after_events, List.nil_append] at hcut
    omega

/-- The first interval of a window, and a poke that the lock does not answer. -/
def unanswered : List WindowEvent :=
  ⟨.monotonic, .ok (0 : Rat)⟩ :: beforePoke 0 ++ [⟨.poke, .error (ttLockError "timeout")⟩]

theorem runs_monotonic {f : Rat → WindowProgram Unit} {t : Rat} {es : List WindowEvent} {rest : WindowProgram Unit}
    (h : Program.Runs (f t) es rest) : Program.Runs (monotonic >>= f) (⟨.monotonic, .ok t⟩ :: es) rest := .call h

theorem window_closes_unanswered :
    pokes unanswered ≤ ⌈defaultKeepAliveSeconds / keepAliveInterval⌉₊ ∧
      ∃ outcome, (Program.ret () : WindowProgram Unit) = Program.ofExcept outcome ∧
        Closes defaultKeepAliveSeconds unanswered outcome := by
  have hrun : Program.Runs (KeepAlive.run defaultKeepAliveSeconds 14) unanswered (Program.ret ()) := by
    refine runs_monotonic (runs_monotonic ?_)
    rw [if_pos (by norm_num [defaultKeepAliveSeconds])]
    exact .call (.call (.call (.call (.done _))))
  have hclock : Clock keepAliveInterval 0 unanswered :=
    ⟨le_refl (0 : Rat), le_refl (0 : Rat), trivial, trivial, trivial, trivial, trivial⟩
  have hturns : ⌈defaultKeepAliveSeconds / keepAliveInterval⌉₊ < 14 := by
    apply Nat.lt_succ_of_le
    rw [Nat.ceil_le]
    norm_num [defaultKeepAliveSeconds, keepAliveInterval]
  obtain ⟨hfew, -, hcloses⟩ := window_closes (by norm_num [keepAliveInterval]) hrun hclock
  exact ⟨hfew, hcloses hturns trivial⟩

end TtlockBle.Pokes
