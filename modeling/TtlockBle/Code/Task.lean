import TtlockBle.Code.Client
import TtlockBle.Code.Transport

/-!
# A command and the link under it

One command runs on the transport of its client, and another task calls `connect` and `disconnect`.
These do not take the command lock, so an event of the link can come between any two events of the
command. Nobody cancels the command, and nothing else sends.
-/

open TtlockBle.Lib

namespace TtlockBle

structure Task where
  transport : BleTransport
  left : ClientProgram Unit
  /-- The operations that are over, and what has been written of each frame, the latest frame
  first. -/
  finished : List (Program.Event ClientOp ClientOp.Answer PyExc)
  writes : List (List (Nat × Bytes))

inductive TaskEvent where
  | link (e : LinkEvent)
  | acquired
  | released
  | clock (now : Int)
  | keepAliveRestarted
  /-- With what the characteristic holds. Whatever the read raises is swallowed. -/
  | charRead (value : Option String)
  | exchange
  /-- What happens to the channel, but for a new exchange and a cancellation. -/
  | channel (e : ChannelEvent)

namespace Task

def answer (t : Task) (op : ClientOp) (next : Py op.Answer → ClientProgram Unit)
    (outcome : Py op.Answer) : Task :=
  { t with left := next outcome, finished := t.finished ++ [⟨op, outcome⟩] }

def setChannel (t : Task) (c : Channel) : Task := { t with transport := { t.transport with channel := c } }

/-- The exchange in flight has brought the channel to `c`. -/
def grow (t : Task) (c : Channel) : Task :=
  let new := c.written.drop t.transport.channel.written.length
  { t.setChannel c with
    writes := match t.writes with
      | [] => []
      | frame :: frames => (frame ++ new) :: frames }

/-- Where the exchange is over, the command goes on with its outcome. -/
def advance (t : Task) (c : Channel) : Task :=
  match t.left, c.exchange, c.ended.getLast? with
  | .call (.exchange opcode payload) next, none, some ended =>
    (t.grow c).answer (.exchange opcode payload) next (ended.outcome.map (·.frame))
  | _, _, _ => t.grow c

def step (client : TTLockClient) (t : Task) : TaskEvent → Option Task
  | .link e => (t.transport.link.step e).map fun l => { t with transport := { t.transport with link := l } }
  | .acquired =>
    match t.left with
    | .call .acquire next => some (t.answer .acquire next (.ok ()))
    | _ => none
  | .released =>
    match t.left with
    | .call .release next => some (t.answer .release next (.ok ()))
    | _ => none
  | .clock now =>
    match t.left with
    | .call .now next => some (t.answer .now next (.ok now))
    | _ => none
  | .keepAliveRestarted =>
    match t.left with
    | .call .restartKeepAlive next => some (t.answer .restartKeepAlive next (.ok ()))
    | _ => none
  | .charRead value =>
    match t.left with
    | .call (.readOptionalChar uuid) next =>
      let outcome := if t.transport.link.client.isNone then .error ⟨.assertionError, ""⟩ else .ok value
      some (t.answer (.readOptionalChar uuid) next outcome)
    | _ => none
  | .exchange =>
    match t.left, t.transport.channel.exchange with
    | .call (.exchange opcode payload) next, none =>
      match client.frame opcode payload with
      | .error e => some (t.answer (.exchange opcode payload) next (.error e))
      | .ok frame =>
        some ({ t with writes := [] :: t.writes }.advance (t.transport.channel.beginExchange t.transport.link frame))
    | _, _ => none
  | .channel (.exchange _) => none
  | .channel .cancel => none
  | .channel e =>
    (t.transport.channel.step client.answers t.transport.link e).map
      (if t.transport.channel.exchange.isSome then t.advance else t.setChannel)

def machine (client : TTLockClient) (fuel : Nat) (command : Command) (transport : BleTransport) :
    Machine Task TaskEvent where
  start := ⟨transport, client.program fuel command, [], []⟩
  step := step client

end Task

end TtlockBle
