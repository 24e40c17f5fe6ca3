import TtlockBle.Code.Client
import TtlockBle.Lib.Machine

/-!
# Concurrent calls

The commands of one client run as tasks of one event loop, the keep-alive's pokes among them. They
share the command lock and the link, and the log is what goes over it. Which task goes on next, what
the lock answers and which task is cancelled is up to the events.
-/

open TtlockBle.Lib

namespace TtlockBle

/-- What is left of a call, and whether the request it is at has been sent. -/
structure Call where
  left : ClientProgram Unit
  waiting : Bool

inductive LogItem where
  | sent (call : Nat) (opcode : Int) (payload : Bytes)
  | answered (call : Nat) (opcode : Int) (payload : Bytes) (outcome : Py Frame)
  deriving DecidableEq

def LogItem.call : LogItem → Nat
  | sent call _ _ => call
  | answered call _ _ _ => call

structure Calls where
  owner : Option Nat
  calls : Nat → Call
  log : List LogItem

inductive CallsEvent where
  | acquired (call : Nat)
  | notAcquired (call : Nat) (e : PyExc)
  | released (call : Nat)
  | send (call : Nat)
  /-- An exchange can also raise before it has sent anything. -/
  | answer (call : Nat) (outcome : Py Frame)
  | clock (call : Nat) (now : Py Int)
  | keepAliveRestarted (call : Nat) (outcome : Py Unit)
  | charRead (call : Nat) (value : Py (Option String))

namespace Calls

/-- Who holds the command lock once `op` of the call `i` has ended. -/
def ownerAfter (owner : Option Nat) (i : Nat) : (op : ClientOp) → Py op.Answer → Option Nat
  | .acquire, .ok _ => some i
  | .release, _ => none
  | _, _ => owner

def logged (i : Nat) : (op : ClientOp) → Py op.Answer → List LogItem
  | .exchange opcode payload, outcome => [.answered i opcode payload outcome]
  | _, _ => []

def finish (s : Calls) (i : Nat) (op : ClientOp) (next : Py op.Answer → ClientProgram Unit)
    (outcome : Py op.Answer) : Calls where
  owner := ownerAfter s.owner i op outcome
  calls j := if j = i then ⟨next outcome, false⟩ else s.calls j
  log := s.log ++ logged i op outcome

def send (s : Calls) (i : Nat) (opcode : Int) (payload : Bytes) : Calls :=
  { s with
    calls := fun j => if j = i then { s.calls i with waiting := true } else s.calls j
    log := s.log ++ [.sent i opcode payload] }

def step (s : Calls) : CallsEvent → Option Calls
  | .acquired i =>
    match (s.calls i).left with
    | .call .acquire next => if s.owner = none then some (s.finish i .acquire next (.ok ())) else none
    | _ => none
  | .notAcquired i e =>
    match (s.calls i).left with
    | .call .acquire next => some (s.finish i .acquire next (.error e))
    | _ => none
  | .released i =>
    match (s.calls i).left with
    | .call .release next => some (s.finish i .release next (.ok ()))
    | _ => none
  | .send i =>
    match (s.calls i).left with
    | .call (.exchange opcode payload) _ =>
      if (s.calls i).waiting then none else some (s.send i opcode payload)
    | _ => none
  | .answer i outcome =>
    match (s.calls i).left with
    | .call (.exchange opcode payload) next =>
      if (s.calls i).waiting ∨ ¬ outcome.isOk then
        some (s.finish i (.exchange opcode payload) next outcome)
      else none
    | _ => none
  | .clock i now =>
    match (s.calls i).left with
    | .call .now next => some (s.finish i .now next now)
    | _ => none
  | .keepAliveRestarted i outcome =>
    match (s.calls i).left with
    | .call .restartKeepAlive next => some (s.finish i .restartKeepAlive next outcome)
    | _ => none
  | .charRead i value =>
    match (s.calls i).left with
    | .call (.readOptionalChar uuid) next => some (s.finish i (.readOptionalChar uuid) next value)
    | _ => none

def machine (self : TTLockClient) (fuel : Nat) (commands : Nat → Command) : Machine Calls CallsEvent where
  start := ⟨none, fun i => ⟨self.program fuel (commands i), false⟩, []⟩
  step := step

end Calls

end TtlockBle
