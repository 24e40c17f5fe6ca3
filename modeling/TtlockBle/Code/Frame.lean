import TtlockBle.Code.Crypto

/-! # `protocol/frame.py` and its constants -/

open TtlockBle.Lib

namespace TtlockBle

def header : Bytes := [0x7F, 0x5A]
def trailer : Bytes := [0x0D, 0x0A]

@[simp]
theorem header_length : header.length = 2 := rfl

@[simp]
theorem trailer_length : trailer.length = 2 := rfl

/-- What the header says of the encryption, even of encrypted data. -/
def encryptPlain : Int := 0xAA

/-- The headers end with their length byte. -/
def v3HeaderLen : Nat := 12
def legacyHeaderLen : Nat := 6
def v3LengthIndex : Nat := 11
def crcLen : Nat := 1

/-- The cloud's `lockVersion`, which addresses the lock in every frame header. -/
structure LockVersion where
  protocolType : Int
  protocolVersion : Int
  scene : Int
  groupId : Int
  orgId : Int
  deriving DecidableEq, Repr

/-- A frame without its length and its checksum, which are computed. -/
structure Frame where
  protocolType : Int
  subVersion : Int
  scene : Int
  groupId : Int
  subOrg : Int
  command : Int
  encrypt : Int
  data : Bytes
  deriving DecidableEq, Repr

namespace Frame

def low (x : Int) : UInt8 := UInt8.ofInt x

/-- All that the checksum is about. -/
def buildBody (f : Frame) : Bytes :=
  if f.protocolType ≥ 5 then
    [0x7F, 0x5A, low f.protocolType, low f.subVersion, low f.scene, low (f.groupId >>> (8 : Nat)),
      low f.groupId, low (f.subOrg >>> (8 : Nat)), low f.subOrg, low f.command, low f.encrypt,
      low f.data.length] ++ f.data
  else
    [0x7F, 0x5A, low f.protocolType, low f.command, low f.encrypt, low f.data.length] ++ f.data

/-- Every field is cut down to its bytes. -/
def build (f : Frame) : Bytes := f.buildBody ++ [crcCompute f.buildBody] ++ trailer

/-- A frame for the lock with these versions. -/
def forLock (lockVersion : LockVersion) (command : Int) (data : Bytes)
    (encrypt : Int := encryptPlain) : Frame where
  protocolType := lockVersion.protocolType
  subVersion := lockVersion.protocolVersion
  scene := lockVersion.scene
  groupId := lockVersion.groupId
  subOrg := lockVersion.orgId
  command := command
  encrypt := encrypt
  data := data

/-- The header goes on saying that the data is plain. -/
def encryptData (aes : Aes) (f : Frame) (key : Bytes) : Py Frame := do
  let data ← aesEncrypt aes f.data key
  return { f with encrypt := encryptPlain, data := data }

/-- Raises `ValueError` only, with the text on the left: every index is in bounds. -/
def parse (raw : Bytes) : Except String Frame :=
  if h : raw.length < 7 ∨ raw[0]? ≠ some 0x7F ∨ raw[1]? ≠ some 0x5A then
    .error s!"Invalid TTLock frame: {hex raw}"
  else
    let truncatedPayload (headerLen length : Nat) : String :=
      s!"Truncated TTLock frame: declared {length} payload bytes, got {raw.length - headerLen}"
    if raw[2] ≥ 5 then
      if h12 : raw.length < v3HeaderLen then
        .error s!"Truncated TTLock frame header: {hex raw}"
      else
        have h12 : 12 ≤ raw.length := Nat.le_of_not_lt h12
        let length := raw[11].toNat
        if raw.length < v3HeaderLen + length then
          .error (truncatedPayload v3HeaderLen length)
        else
          .ok {
            protocolType := raw[2].toNat
            subVersion := raw[3].toNat
            scene := raw[4].toNat
            groupId := raw[5].toNat <<< 8 ||| raw[6].toNat
            subOrg := raw[7].toNat <<< 8 ||| raw[8].toNat
            command := raw[9].toNat
            encrypt := raw[10].toNat
            data := slice raw v3HeaderLen (v3HeaderLen + length) }
    else if raw.length < legacyHeaderLen then
      .error s!"Truncated TTLock frame header: {hex raw}"
    else
      let length := raw[5].toNat
      if raw.length < legacyHeaderLen + length then
        .error (truncatedPayload legacyHeaderLen length)
      else
        .ok {
          protocolType := raw[2].toNat
          subVersion := 0
          scene := 0
          groupId := 0
          subOrg := 0
          command := raw[3].toNat
          encrypt := raw[4].toNat
          data := slice raw legacyHeaderLen (legacyHeaderLen + length) }

end Frame

end TtlockBle
