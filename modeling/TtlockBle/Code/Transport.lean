import TtlockBle.Code.Reassembler
import TtlockBle.Lib.Machine

/-!
# `ble/transport.py`

`BleTransport` as a machine. Between two `await`s its code runs without a break, so an event is one
such stretch: a notification, a completed await, or a call. `Link` holds what `connect` and
`disconnect` write, `Channel` what `exchange` and `_on_notify` write. At most one `connect` or
`disconnect` and at most one `exchange` run at a time.

`bleak` is the environment: its answers are part of the events.
-/

open TtlockBle.Lib

namespace TtlockBle

/-! ## The link -/

/-- A `BleakClient`. Clients are numbered in the order they were established. -/
structure BleakClient where
  number : Nat
  isConnected : Bool
  deriving DecidableEq, Repr

/-- A GATT characteristic, and the number of the client it was discovered on. -/
structure Characteristic where
  client : Nat
  handle : Nat
  deriving DecidableEq, Repr

/-- `BleakClient.services`, by `get_service` and `get_characteristic`. -/
abbrev Services := String → Py (Option (String → Py (Option Nat)))

inductive LinkCall where
  | connect
  | disconnect
  deriving DecidableEq, Repr

/-- The `await` that the running call is at. -/
inductive LinkPhase where
  | idle
  | stoppingNotify (call : LinkCall)
  | disconnecting (call : LinkCall)
  | scanning
  | establishing
  | startingNotify
  | settling
  | wakeReading
  deriving DecidableEq, Repr

structure Link where
  address : String
  device : Option String
  client : Option BleakClient
  writeChar : Option Characteristic
  notifyChar : Option Characteristic
  phase : LinkPhase
  clients : Nat
  notifying : List Nat
  /-- How the last call ended, until the next one. -/
  outcome : Option (LinkCall × Py Unit)
  deriving DecidableEq

inductive LinkEvent where
  | connect
  | disconnect
  | drop
  | stoppedNotify
  | disconnected (outcome : Py Unit)
  | scanned (outcome : Py (Option String))
  /-- With the text of what `establish_connection` raised, or the new client's `is_connected` and
  `services`. -/
  | established (outcome : Except String (Bool × Services))
  | startedNotify (outcome : Py Unit)
  | settled
  | wakeRead

def ttlService : String := "00001910-0000-1000-8000-00805f9b34fb"
def ttlWrite : String := "0000fff2-0000-1000-8000-00805f9b34fb"
def ttlNotify : String := "0000fff4-0000-1000-8000-00805f9b34fb"
def bongService : String := "6e400001-b5a3-f393-e0a9-e50e24dcca1e"
def bongWrite : String := "6e400002-b5a3-f393-e0a9-e50e24dcca1e"
def bongNotify : String := "6e400003-b5a3-f393-e0a9-e50e24dcca1e"

def discoverLoop (services : Services) : List (String × String × String) → Py (Nat × Nat)
  | [] =>
    throw (ttLockError ("Failed to discover TTLock GATT service: lock exposed neither " ++
      s!"{ttlService} nor {bongService}"))
  | (svcUuid, writeUuid, notifyUuid) :: rest => do
    match ← services svcUuid with
    | none => discoverLoop services rest
    | some getCharacteristic =>
      let writeChar ← getCharacteristic writeUuid
      let notifyChar ← getCharacteristic notifyUuid
      match writeChar, notifyChar with
      | some writeChar, some notifyChar => return (writeChar, notifyChar)
      | _, _ => discoverLoop services rest

/-- The first service with both characteristics is taken. -/
def discoverChars (services : Services) : Py (Nat × Nat) :=
  discoverLoop services [(ttlService, ttlWrite, ttlNotify), (bongService, bongWrite, bongNotify)]

namespace Link

def new (address : String) (device : Option String) : Link where
  address := address
  device := device
  client := none
  writeChar := none
  notifyChar := none
  phase := .idle
  clients := 0
  notifying := []
  outcome := none

def isConnected (l : Link) : Bool := l.client.any (·.isConnected)

def endCall (l : Link) (call : LinkCall) (outcome : Py Unit) : Link :=
  { l with phase := .idle, outcome := some (call, outcome) }

/-- `connect` behind its `await self.disconnect()`. -/
def resolveDevice (l : Link) : Link :=
  { l with phase := if l.device = none then .scanning else .establishing }

/-- `disconnect` up to its first `await`. `connect` calls it too. -/
def beginDisconnect (l : Link) (call : LinkCall) : Link :=
  match l.client with
  | none => if call = .connect then l.resolveDevice else l.endCall call (.ok ())
  | some client =>
    if client.isConnected ∧ l.notifyChar.isSome then { l with phase := .stoppingNotify call }
    else { l with phase := .disconnecting call }

def connect (l : Link) : Link :=
  if l.isConnected then l.endCall .connect (.ok ())
  else { l with outcome := none }.beginDisconnect .connect

def disconnect (l : Link) : Link := { l with outcome := none }.beginDisconnect .disconnect

/-- Behind `await self._client.disconnect()`: the `finally` clause always runs. -/
def disconnected (l : Link) (call : LinkCall) (outcome : Py Unit) : Link :=
  let l := { l with client := none }
  match call, outcome with
  | .connect, .ok () => l.resolveDevice
  | call, outcome => l.endCall call outcome

/-- Behind `await find_lock_device(..)`. -/
def scanned (l : Link) : Py (Option String) → Link
  | .error e => l.endCall .connect (.error e)
  | .ok none => l.endCall .connect (.error (ttLockError (s!"Failed to find lock {l.address} via BLE scan: " ++
      "wake the lock by touching the keypad and try again")))
  | .ok (some device) => { l with device := some device, phase := .establishing }

/-- Behind `await establish_connection(..)`: the client is stored before its characteristics are
looked for. -/
def established (l : Link) : Except String (Bool × Services) → Link
  | .error text => l.endCall .connect (.error (ttLockError s!"Failed to connect to lock over BLE: {text}"))
  | .ok (up, services) =>
    let number := l.clients
    let l := { l with client := some ⟨number, up⟩, clients := number + 1 }
    match discoverChars services with
    | .error e => l.endCall .connect (.error e)
    | .ok (writeChar, notifyChar) =>
      { l with
        writeChar := some ⟨number, writeChar⟩
        notifyChar := some ⟨number, notifyChar⟩
        phase := .startingNotify }

/-- Behind `await self._client.start_notify(..)`. -/
def startedNotify (l : Link) : Py Unit → Link
  | .error e => l.endCall .connect (.error e)
  | .ok () => { l with
      phase := .settling
      notifying := l.notifying ++ (l.client.map (·.number)).toList }

def drop (l : Link) : Link := { l with client := l.client.map fun c => { c with isConnected := false } }

def step (l : Link) (e : LinkEvent) : Option Link :=
  match e, l.phase with
  | .connect, .idle => some l.connect
  | .disconnect, .idle => some l.disconnect
  | .drop, _ => some l.drop
  -- Whatever `stop_notify` raises is swallowed.
  | .stoppedNotify, .stoppingNotify call => some { l with phase := .disconnecting call }
  | .disconnected outcome, .disconnecting call => some (l.disconnected call outcome)
  | .scanned outcome, .scanning => some (l.scanned outcome)
  | .established outcome, .establishing => some (l.established outcome)
  | .startedNotify outcome, .startingNotify => some (l.startedNotify outcome)
  | .settled, .settling => some { l with phase := .wakeReading }
  -- Whatever the battery read raises is swallowed.
  | .wakeRead, .wakeReading => some (l.endCall .connect (.ok ()))
  | _, _ => none

end Link

/-! ## The channel -/

/-- A frame that the reassembler completed. Frames are numbered as they arrive. -/
structure Arrival where
  number : Nat
  frame : Frame
  deriving DecidableEq, Repr

/-- The `await` that an exchange is at: a chunk is being written to a client, with `rest` still to
write, or the inbox is waited for. -/
inductive ExchangePhase where
  | sending (client : Nat) (rest : List Bytes)
  | receiving
  deriving DecidableEq, Repr

structure Exchange where
  frame : Frame
  phase : ExchangePhase
  /-- How many frames had arrived, and how many had been pushed, when it began. -/
  arrivedBefore : Nat
  pushedBefore : Nat
  /-- What it took from the inbox and pushed. -/
  took : List Arrival
  deriving DecidableEq, Repr

structure Ended where
  exchange : Exchange
  outcome : Py Arrival
  deriving DecidableEq

structure Channel where
  reassembler : FrameReassembler
  inbox : List Arrival
  waitingForResponse : Int
  exchange : Option Exchange
  /-- Every frame so far, the ones handed to `on_push_frame`, the exchanges that are over, and every
  chunk written to a client. -/
  arrived : List Arrival
  pushed : List Arrival
  ended : List Ended
  written : List (Nat × Bytes)
  deriving DecidableEq

inductive ChannelEvent where
  | notify (data : Bytes)
  | exchange (frame : Frame)
  | wrote
  /-- With the text of a `BleakError`, `TimeoutError` or `OSError`. -/
  | writeFailed (text : String)
  | take
  | timeout
  | cancel
  deriving DecidableEq, Repr

/-- How many bytes are written at once. -/
def bleWriteChunk : Nat := 20

/-- The chunks that `send` cuts a frame into. -/
def wireChunks (wire : Bytes) : List Bytes :=
  (List.range ((wire.length + bleWriteChunk - 1) / bleWriteChunk)).map fun i =>
    slice wire (i * bleWriteChunk) (i * bleWriteChunk + bleWriteChunk)

namespace Channel

def new : Channel where
  reassembler := .new
  inbox := []
  waitingForResponse := 0
  exchange := none
  arrived := []
  pushed := []
  ended := []
  written := []

/-- One turn of the loop in `_on_notify`. -/
def dispatch (c : Channel) (frame : Frame) : Channel :=
  let arrival := ⟨c.arrived.length, frame⟩
  let c := { c with arrived := c.arrived ++ [arrival] }
  if c.waitingForResponse > 0 then { c with inbox := c.inbox ++ [arrival] }
  else { c with pushed := c.pushed ++ [arrival] }

/-- What the reassembler cuts out goes on frame by frame. -/
def onNotify (c : Channel) (data : Bytes) : Channel :=
  let (frames, reassembler) := c.reassembler.feed data
  frames.foldl dispatch { c with reassembler := reassembler }

/-- The exchange ends, with its `finally` clause. -/
def endExchange (c : Channel) (x : Exchange) (outcome : Py Arrival) : Channel :=
  { c with
    waitingForResponse := c.waitingForResponse - 1
    exchange := none
    ended := c.ended ++ [⟨x, outcome⟩] }

/-- The next turn of the loop in `send`, or the first wait behind it. -/
def writeNext (c : Channel) (l : Link) (x : Exchange) : List Bytes → Channel
  | [] => { c with exchange := some { x with phase := .receiving } }
  | chunk :: rest =>
    match l.client with
    | none =>
      c.endExchange x (.error ⟨.attributeError, "'NoneType' object has no attribute 'write_gatt_char'"⟩)
    | some client =>
      { c with
        exchange := some { x with phase := .sending client.number rest }
        written := c.written ++ [(client.number, chunk)] }

/-- `exchange`, and `send` with it, up to the first `await`. -/
def beginExchange (c : Channel) (l : Link) (frame : Frame) : Channel :=
  let x : Exchange := ⟨frame, .receiving, c.arrived.length, c.pushed.length, []⟩
  let c := { c with waitingForResponse := c.waitingForResponse + 1, exchange := some x }
  if l.client.isNone ∨ l.writeChar.isNone then c.endExchange x (.error ⟨.assertionError, ""⟩)
  else c.writeNext l x (wireChunks frame.build)

/-- The exchange is given the first frame of the inbox. -/
def take (isResponse : Frame → Int → Bool) (c : Channel) (x : Exchange) (candidate : Arrival)
    (rest : List Arrival) : Channel :=
  let c := { c with inbox := rest }
  if isResponse candidate.frame x.frame.command then c.endExchange x (.ok candidate)
  else { c with
    pushed := c.pushed ++ [candidate]
    exchange := some { x with took := x.took ++ [candidate] } }

def timedOut : PyExc := ttLockError "Timed out waiting 6.0s for the lock to reply"

def sendFailed (text : String) : PyExc := ttLockError s!"Failed to send frame to lock: {text}"

def step (isResponse : Frame → Int → Bool) (l : Link) (c : Channel) (e : ChannelEvent) : Option Channel :=
  match e, c.exchange with
  | .notify data, _ => some (c.onNotify data)
  | .exchange frame, none => some (c.beginExchange l frame)
  | .wrote, some x =>
    match x.phase with
    | .sending _ rest => some (c.writeNext l x rest)
    | .receiving => none
  | .writeFailed text, some x =>
    match x.phase with
    | .sending _ _ => some (c.endExchange x (.error (sendFailed text)))
    | .receiving => none
  | .take, some x =>
    match x.phase, c.inbox with
    | .receiving, candidate :: rest => some (c.take isResponse x candidate rest)
    | _, _ => none
  | .timeout, some x => if x.phase = .receiving then some (c.endExchange x (.error timedOut)) else none
  | .cancel, some x => some (c.endExchange x (.error cancelledError))
  | _, _ => none

end Channel

/-! ## The transport -/

/-- The link and the channel over it. -/
structure BleTransport where
  link : Link
  channel : Channel
  deriving DecidableEq

inductive TransportEvent where
  | link (e : LinkEvent)
  | channel (e : ChannelEvent)

namespace BleTransport

def step (isResponse : Frame → Int → Bool) (t : BleTransport) : TransportEvent → Option BleTransport
  | .link e => (t.link.step e).map fun l => { t with link := l }
  | .channel e => (t.channel.step isResponse t.link e).map fun c => { t with channel := c }

def machine (isResponse : Frame → Int → Bool) (address : String) (device : Option String) :
    Machine BleTransport TransportEvent where
  start := ⟨.new address device, .new⟩
  step := step isResponse

end BleTransport

end TtlockBle
