import TtlockBle.Code.Client
import TtlockBle.Code.Transport

/-! # `tests/conftest.py`, and the frames and the link of the transport tests -/

open TtlockBle.Lib

namespace TtlockBle

def makeVirtualKey : VirtualKey where
  keyId := 1
  lockId := 2
  lockMac := "AA:BB:CC:11:22:33"
  lockAlias := "Test Lock"
  lockName := "DLock-XP"
  lockVersion := ⟨5, 3, 2, 1, 1⟩
  aesKeyStr := "a1,b2,c3,d4,e5,f6,07,18,29,3a,4b,5c,6d,7e,8f,90"
  unlockKey := "246813579"
  lockFlagPos := 0
  timezoneRawOffSet := -10800000
  userType := "110301"
  adminPs := "135792468"

/-- The cipher on a few messages, each with its ciphertext under the key of `makeVirtualKey`. -/
def tableAes (table : List (Bytes × Bytes)) : Aes where
  encrypt _ plaintext := ((table.find? (·.1 = plaintext)).map (·.2)).getD []
  decrypt _ ciphertext :=
    match table.find? (·.2 = ciphertext) with
    | some (plaintext, _) => .ok plaintext
    | none => .error "Invalid padding bytes."

def makeClient (table : List (Bytes × Bytes)) : TTLockClient where
  key := makeVirtualKey
  aesKey := [0xA1, 0xB2, 0xC3, 0xD4, 0xE5, 0xF6, 0x07, 0x18, 0x29, 0x3A, 0x4B, 0x5C, 0x6D, 0x7E, 0x8F, 0x90]
  aes := tableAes table
  aesKey_length := rfl

def lockFrame (data : Bytes) : Frame :=
  Frame.forLock makeVirtualKey.lockVersion 0x54 data

/-- `_request`: the data is the ciphertext of the empty payload. -/
def requestFrame (command : Int) : Frame :=
  Frame.forLock makeVirtualKey.lockVersion command
    [0x40, 0xCB, 0x2A, 0xDB, 0xCA, 0x85, 0x9E, 0x1C, 0xDC, 0xA1, 0x21, 0xE3, 0xE2, 0x04, 0x60, 0xA0]

def allServices : Services := fun _ => .ok (some fun _ => .ok (some 0))

def linkUp : List TransportEvent :=
  [.link .connect, .link (.established (.ok (true, allServices))), .link (.startedNotify (.ok ())),
    .link .settled, .link .wakeRead]

def requestSent (command : Int) : List TransportEvent :=
  [.channel (.exchange (requestFrame command)), .channel .wrote, .channel .wrote]

def notification (data : Bytes) : TransportEvent := .channel (.notify data)

def replying (reply : Frame) : (op : ClientOp) → Py op.Answer
  | .acquire | .release | .restartKeepAlive => .ok ()
  | .exchange _ _ => .ok reply
  | .now => .ok (0 : Int)
  | .readOptionalChar _ => .ok none

end TtlockBle
