import TtlockBle.Code.Exceptions
import TtlockBle.Lib.Bytes
import TtlockBle.Lib.Hex
import TtlockBle.Lib.Machine

/-!
# `ble/device_finder.py`

The scanner calls `_on_detection` from its start until its `__aexit__` is over, also between the last
check of the loop and the end of the scan. The log lines are left out.
-/

open TtlockBle.Lib

namespace TtlockBle

/-- `str.upper` and `str.lower`. -/
structure CaseMapping where
  upper : String → String
  lower : String → String

def isAsciiSpace (c : Char) : Bool := c = ' ' || '\t' ≤ c && c ≤ '\r'

def fromhexAt (position : Nat) : List Char → Py Bytes
  | [] => .ok []
  | c :: cs =>
    if isAsciiSpace c then fromhexAt (position + 1) cs
    else match hexDigitValue c, cs with
      | none, _ => .error (nonHexadecimal position)
      | some _, [] => .error (valueError "fromhex() arg must contain an even number of hexadecimal digits")
      | some top, d :: rest =>
        match hexDigitValue d with
        | none => .error (nonHexadecimal (position + 1))
        | some bot => (UInt8.ofNat (top * 16 + bot) :: ·) <$> fromhexAt (position + 2) rest
where
  nonHexadecimal (position : Nat) : PyExc :=
    valueError s!"non-hexadecimal number found in fromhex() arg at position {position}"

/-- `bytes.fromhex`. A character that is not ASCII is found first, wherever it is. -/
def fromhex (s : List Char) : Py Bytes :=
  match s.findIdx? (128 ≤ ·.toNat) with
  | some position => .error (fromhexAt.nonHexadecimal position)
  | none => fromhexAt 0 s

structure BLEDevice where
  address : String
  name : Option String
  deriving DecidableEq, Repr

structure AdvertisementData where
  localName : Option String
  deriving DecidableEq, Repr

structure Detection where
  dev : BLEDevice
  adv : AdvertisementData
  deriving DecidableEq, Repr

/-- `s or t`. -/
def strOr (s : Option String) (t : String) : String :=
  match s with
  | some s => if s = "" then t else s
  | none => t

def Detection.name (d : Detection) : String := strOr d.dev.name (strOr d.adv.localName "")

inductive ScanPhase where
  | scanning
  /-- Behind the loop, in the scanner's `__aexit__`. -/
  | stopping
  | returned
  deriving DecidableEq, Repr

structure DeviceFinder where
  target : String
  suffixBytes : String
  found : List BLEDevice
  deadline : Rat
  phase : ScanPhase
  deriving DecidableEq, Repr

inductive ScanEvent where
  | detection (d : Detection)
  /-- The condition of the loop, at this time. -/
  | polled (now : Rat)
  | stopped

namespace DeviceFinder

/-- Up to the scanner's start, at the time `now`. -/
def findLockDevice (strings : CaseMapping) (mac : String) (scanTimeout now : Rat) : Py DeviceFinder := do
  let target := strings.upper mac
  let bytes ← fromhex (target.toList.filter (· ≠ ':'))
  return {
    target
    suffixBytes := hex (bytes.drop (bytes.length - 3)).reverse
    found := []
    deadline := now + scanTimeout
    phase := .scanning }

/-- Only the first match is kept. -/
def onDetection (strings : CaseMapping) (s : DeviceFinder) (d : Detection) : DeviceFinder :=
  let name := d.name
  let macMatch := strings.upper d.dev.address = s.target ∨
    (find s.suffixBytes.toList (strings.lower name).toList).isSome
  if macMatch ∧ s.found = [] then { s with found := s.found ++ [d.dev] } else s

def step (strings : CaseMapping) (s : DeviceFinder) : ScanEvent → Option DeviceFinder
  | .detection d => if s.phase = .returned then none else some (s.onDetection strings d)
  | .polled now =>
    if s.phase = .scanning then
      if s.found = [] ∧ now < s.deadline then some s else some { s with phase := .stopping }
    else none
  | .stopped => if s.phase = .stopping then some { s with phase := .returned } else none

/-- What is returned, once it is. -/
def result (s : DeviceFinder) : Option (Option BLEDevice) :=
  if s.phase = .returned then some s.found.head? else none

def machine (strings : CaseMapping) (start : DeviceFinder) : Machine DeviceFinder ScanEvent where
  start
  step := step strings

end DeviceFinder

end TtlockBle
