import TtlockBle.Code.Client

/-!
# What `get_passcodes` and `get_cards` log

The two parsers and the two scans, from the decrypted replies on, with the lines that they log.
-/

open TtlockBle.Lib

namespace TtlockBle

inductive LogLevel where
  | debug
  | info
  | warning
  deriving DecidableEq, Repr

structure LogRecord where
  level : LogLevel
  message : String
  deriving DecidableEq, Repr

/-- Code that logs, and returns or raises. -/
structure Logged (α : Type) where
  lines : List LogRecord
  outcome : Py α

namespace Logged

variable {α β : Type}

def bind (x : Logged α) (f : α → Logged β) : Logged β :=
  match x.outcome with
  | .ok a => ⟨x.lines ++ (f a).lines, (f a).outcome⟩
  | .error e => ⟨x.lines, .error e⟩

instance : Monad Logged where
  pure a := ⟨[], .ok a⟩
  bind := bind

instance : MonadLift Py Logged := ⟨fun x => ⟨[], x⟩⟩

def raise (e : PyExc) : Logged α := ⟨[], .error e⟩

def log (level : LogLevel) (message : String) : Logged Unit := ⟨[⟨level, message⟩], .ok ()⟩

def parsePasscodeListResponse (plaintext : Bytes) : Logged (Option PasscodeEntry × Nat) := do
  let (_, status, data) ← parseResponseStatus plaintext
  if status ≠ responseSuccess then
    raise (runtimeError s!"passcode list FAILED: status={hexNumber status.toNat} data_length={data.length}")
  if data.length < 4 then
    return (none, 0)
  let nextSequence := fromBytesBig (slice data 2 4)
  let item := data.drop 4
  if item.length < 4 then
    return (none, nextSequence)
  match KeyboardPwdType.trailerLength (← byteAt item 1) with
  | none =>
    log .warning "Skipping a keypad code entry: no confirmed trailer layout for its type"
    return (none, nextSequence)
  | some (pwdType, trailerLength) =>
    let newPwdLength := (← byteAt item 2).toNat
    let newPwd := slice item 3 (3 + newPwdLength)
    let pwdLengthOffset := 3 + newPwdLength
    if pwdLengthOffset ≥ item.length then
      raise (valueError "passcode list payload too short for its passcode")
    let pwdLength := (← byteAt item pwdLengthOffset).toNat
    let trailerOffset := pwdLengthOffset + 1 + pwdLength
    let trailer := slice item trailerOffset (trailerOffset + trailerLength)
    if trailer.length < trailerLength then
      raise (valueError "passcode list payload too short for its trailer")
    let (startDate, endDate, cyclicSchedule) ← decodeValidity pwdType trailer
    let passcode ← decodePasscode newPwd
    return (some ⟨passcode, pwdType, startDate, endDate, cyclicSchedule⟩, nextSequence)

/-- It logs nothing. -/
def parseCardListResponse (plaintext : Bytes) : Logged (Option CardEntry) :=
  ⟨[], TtlockBle.parseCardListResponse plaintext⟩

/-- The length is logged, and what the parser raises is wrapped. -/
def turn (what label : String) (parser : Bytes → Logged α) (plain : Bytes) : Logged α := do
  log .debug s!"{what} response: length={plain.length}"
  let parsed := parser plain
  ⟨parsed.lines, raiseAsTTLockError PyExc.isRuntimeOrValueError (s!"Failed to {label}: " ++ ·) parsed.outcome⟩

def getPasscodesTurn (plain : Bytes) : Logged (Option PasscodeEntry × Nat) :=
  turn "passcode list" "get_passcodes" parsePasscodeListResponse plain

def getCardsTurn (plain : Bytes) : Logged (Option CardEntry) :=
  turn "card list" "get_cards" parseCardListResponse plain

/-! ## The scans -/

/-- What the loops of `get_passcodes` and `get_cards` differ in, once they have a page. -/
structure Scan (α β : Type) where
  turn : Bytes → Logged α
  entry : α → Option β
  last : α → Bool
  cap : Nat
  capExceeded : PyExc
  what : String

/-- The loop, from its `k`-th reply on. -/
def scanPages (scan : Scan α β) (reply : Nat → Bytes) : Nat → Nat → List β → Logged (List β)
  | 0, _, _ => raise scan.capExceeded
  | left + 1, k, entries => do
    let page ← scan.turn (reply k)
    let entries := entries ++ (scan.entry page).toList
    if scan.last page then
      return entries
    scanPages scan reply left (k + 1) entries

def runScan (scan : Scan α β) (reply : Nat → Bytes) : Logged (List β) := do
  let entries ← scanPages scan reply scan.cap 0 []
  log .info s!"fetched {entries.length} {scan.what}"
  return entries

def passcodeScan : Scan (Option PasscodeEntry × Nat) PasscodeEntry where
  turn := getPasscodesTurn
  entry page := page.1
  last page := page.2 = 0
  cap := TTLockClient.maxPasscodeEntries
  capExceeded :=
    ttLockError (s!"Failed to get_passcodes: exceeded safety cap of {TTLockClient.maxPasscodeEntries} " ++
      "entries without the lock's cursor reaching 0")
  what := "passcode(s)"

def cardScan : Scan (Option CardEntry) CardEntry where
  turn := getCardsTurn
  entry page := page
  last page := page.isNone
  cap := TTLockClient.maxCardEntries
  capExceeded :=
    ttLockError (s!"Failed to {TTLockClient.cardListing.label}: exceeded safety cap of " ++
      s!"{TTLockClient.maxCardEntries} " ++ "entries without an end-of-list response")
  what := "card(s)"

def getPasscodes (reply : Nat → Bytes) : Logged (List PasscodeEntry) := runScan passcodeScan reply

def getCards (reply : Nat → Bytes) : Logged (List CardEntry) := runScan cardScan reply

end Logged

end TtlockBle
