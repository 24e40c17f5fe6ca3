import TtlockBle.Code.Encoding
import TtlockBle.Code.Frame
import TtlockBle.Code.Session

/-! # `models/lock_advertisement.py` and the lock type of `models/lock_version.py` -/

open TtlockBle.Lib

namespace TtlockBle

/-- The kind of lock that the versions of a protocol tell. -/
def LockVersion.lockType (v : LockVersion) : Int :=
  let pt := v.protocolType
  let sv := v.protocolVersion
  let sc := v.scene
  if pt = 5 ∧ sv = 3 ∧ sc = 7 then 8
  else if pt = 10 ∧ sv = 1 then 6
  else if pt = 5 ∧ sv = 3 then 5
  else if pt = 5 ∧ sv = 4 then 4
  else if pt = 5 ∧ sv = 1 then 3
  else if pt = 11 ∧ sv = 1 then 7
  else 5

/-- What the manufacturer data of an advertisement says. -/
structure LockAdvertisement where
  protocolType : UInt8
  protocolVersion : UInt8
  scene : UInt8
  lockState : Option LockState
  hasNewRecords : Bool
  isSettingMode : Bool
  isDormant : Bool
  battery : UInt8
  lockMac : String
  deriving DecidableEq, Repr

namespace LockAdvertisement

def minManufacturerLength : Nat := 15
def macLength : Nat := 6
def v3Header : UInt8 × UInt8 := (5, 3)
def dfuHeaders : List (UInt8 × UInt8) := [(18, 25), (0xFF, 0xFF)]
def minStatefulProtocolType : UInt8 := 5
def lockTypeV2s : Int := 3
def unlockedBit : UInt8 := 0x01
def newRecordsBit : UInt8 := 0x02
def settingModeBit : UInt8 := 0x04
def dormantBit : UInt8 := 0x10

/-- A dormant lock says nothing of its bolt. -/
def decodeLockState (flags : UInt8) : Option LockState :=
  if flags &&& dormantBit ≠ 0 then none
  else if flags &&& unlockedBit ≠ 0 then some .unlocked
  else some .locked

/-- The last byte comes first. -/
def decodeMac (tail : Bytes) : String :=
  ":".intercalate (tail.reverse.map fun byte => (hex [byte]).toUpper)

def intToBytesLe (value : Int) (length : Nat) : Py Bytes := List.reverse <$> intToBytesBe value length

/-- `from_manufacturer_data`, behind the joined bytes. -/
def ofRaw (raw : Bytes) : Py (Option LockAdvertisement) := do
  if raw.length < minManufacturerLength then
    return none
  let header := (← byteAt raw 0, ← byteAt raw 1)
  if header ∈ dfuHeaders then
    return none
  let (protocolType, protocolVersion, scene, flagsOffset) ←
    if header = v3Header then do
      pure (header.1, header.2, ← byteAt raw 2, 3)
    else do
      pure (← byteAt raw 4, ← byteAt raw 5, ← byteAt raw 7, 8)
  let version : LockVersion := ⟨protocolType.toNat, protocolVersion.toNat, scene.toNat, 0, 0⟩
  if protocolType < minStatefulProtocolType ∨ version.lockType = lockTypeV2s then
    return none
  let flags ← byteAt raw flagsOffset
  return some {
    protocolType
    protocolVersion
    scene
    lockState := decodeLockState flags
    hasNewRecords := flags &&& newRecordsBit ≠ 0
    isSettingMode := flags &&& settingModeBit ≠ 0
    isDormant := flags &&& dormantBit ≠ 0
    battery := ← byteAt raw (flagsOffset + 1)
    lockMac := decodeMac (raw.drop (raw.length - macLength)) }

/-- The first company id, with its two bytes in front of the payload. -/
def fromManufacturerData (companyId : Int) (payload : Bytes) : Py (Option LockAdvertisement) := do
  ofRaw ((← intToBytesLe companyId 2) ++ payload)

end LockAdvertisement

end TtlockBle
