import TtlockBle.Code.Exceptions
import TtlockBle.Lib.Machine
import TtlockBle.Lib.Program

/-!
# `ble/keep_alive.py`

`restart` has no `await`, so it is one step. `stop` has one: it cancels the window, waits for it, and
only then clears the field. What a window does until it ends is a program of its own, `run`.
-/

open TtlockBle.Lib

namespace TtlockBle

inductive Window where
  | running
  /-- `cancel` was called and the task has not been scheduled since. -/
  | cancelling
  | finished
  | cancelled
  deriving DecidableEq, Repr

namespace Window

def done : Window → Bool
  | .running | .cancelling => false
  | .finished | .cancelled => true

def cancel : Window → Window
  | .running => .cancelling
  | w => w

end Window

/-- The windows made so far, and the one that the field holds. -/
structure KeepAlive where
  /-- The tasks made so far, by number. -/
  windows : List Window
  task : Option Nat
  /-- For each `stop` at its `await`, the task it waits for. -/
  stops : List Nat
  deriving DecidableEq, Repr

inductive KeepAliveEvent where
  | restart
  | stop
  /-- The `stop` in this place goes on behind its `await`. -/
  | stopResumed (i : Nat)
  | finished (w : Nat)
  | cancelled (w : Nat)
  deriving DecidableEq, Repr

namespace KeepAlive

/-- The tracked task, unless it is done. -/
def pending (s : KeepAlive) : Option Nat := s.task.filter fun w => s.windows[w]?.any (! ·.done)

def cancel (s : KeepAlive) (w : Nat) : KeepAlive := { s with windows := s.windows.modify w Window.cancel }

/-- The window of the field is cancelled, and a new one begins. -/
def restart (windowSeconds : Rat) (s : KeepAlive) : KeepAlive :=
  if windowSeconds ≤ 0 then s
  else
    let s := match s.pending with
      | some w => s.cancel w
      | none => s
    { s with windows := s.windows ++ [.running], task := some s.windows.length }

/-- Up to its `await`. -/
def stop (s : KeepAlive) : KeepAlive :=
  match s.pending with
  | none => s
  | some w => { s.cancel w with stops := s.stops ++ [w] }

def finish (s : KeepAlive) (w : Nat) (outcome : Window) : Option KeepAlive :=
  match s.windows[w]? with
  | some window => if window.done then none else some { s with windows := s.windows.set w outcome }
  | none => none

def step (windowSeconds : Rat) (s : KeepAlive) : KeepAliveEvent → Option KeepAlive
  | .restart => some (s.restart windowSeconds)
  | .stop => some s.stop
  | .stopResumed i =>
    match s.stops[i]? with
    | some w =>
      if s.windows[w]?.any Window.done then some { s with task := none, stops := s.stops.eraseIdx i } else none
    | none => none
  | .finished w => s.finish w .finished
  | .cancelled w => s.finish w .cancelled

def machine (windowSeconds : Rat) : Machine KeepAlive KeepAliveEvent where
  start := ⟨[], none, []⟩
  step := step windowSeconds

end KeepAlive

/-! ## `run` -/

def defaultKeepAliveSeconds : Rat := 25

/-- How long it sleeps between two pokes. -/
def keepAliveInterval : Rat := 2

inductive WindowOp where
  | monotonic
  | isConnected
  | sleep (seconds : Rat)
  | poke
  deriving DecidableEq, Repr

def WindowOp.Answer : WindowOp → Type
  | monotonic => Rat
  | isConnected => Bool
  | sleep _ | poke => Unit

abbrev WindowProgram := Program WindowOp WindowOp.Answer PyExc

namespace KeepAlive

def monotonic : WindowProgram Rat := Program.perform WindowOp.monotonic

def isConnected : WindowProgram Bool := Program.perform WindowOp.isConnected

def sleep (seconds : Rat) : WindowProgram Unit := Program.perform (WindowOp.sleep seconds)

def poke : WindowProgram Unit := Program.perform WindowOp.poke

/-- The `while` of `run`, unfolded so many times. -/
def turns (deadline : Rat) : Nat → WindowProgram Unit
  | 0 => Program.cut
  | n + 1 => do
    let now ← monotonic
    if now < deadline then
      if ← isConnected then
        sleep keepAliveInterval
        if ← isConnected then
          poke.handle fun
            -- `except TTLockError`, which has no subclass
            | .error e => if e.type = .ttLockError then return else throw e
            | .ok () => turns deadline n

/-- A window: sleep, and poke, as long as the link is there. -/
def run (windowSeconds : Rat) (n : Nat) : WindowProgram Unit := do
  let now ← monotonic
  turns (now + windowSeconds) n

end KeepAlive

end TtlockBle
