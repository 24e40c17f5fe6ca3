import TtlockBle.Code.Exceptions
import TtlockBle.Lib.Bytes
import TtlockBle.Lib.Calendar
import TtlockBle.Lib.PyInt

/-! # `commands/encoding.py`, `commands/envelope.py` and the opcodes -/

open TtlockBle.Lib

namespace TtlockBle

/-! ## Built-in operations that can raise -/

def byteAt (data : Bytes) (i : Nat) : Py UInt8 :=
  match data[i]? with
  | some b => .ok b
  | none => .error ⟨.indexError, "index out of range"⟩

def pyInt (s : String) : Py Int :=
  match parseInt s with
  | .ok n => .ok n
  | .error text => .error (valueError text)

/-- One item of `bytes([...])`. -/
def toByte (n : Int) : Py UInt8 :=
  if 0 ≤ n ∧ n ≤ 255 then .ok (UInt8.ofInt n)
  else .error (valueError "bytes must be in range(0, 256)")

def setSlice (out : Bytes) (start stop : Nat) (new : Bytes) : Bytes :=
  out.take start ++ new ++ out.drop stop

def setByte (out : Bytes) (i : Nat) (b : UInt8) : Py Bytes :=
  if i < out.length then .ok (out.set i b)
  else .error ⟨.indexError, "bytearray index out of range"⟩

/-- The text of a codec's error; the place is a position or a range of them. -/
def notAscii (verb item place : String) : String :=
  s!"'ascii' codec can't {verb} {item} in position {place}: ordinal not in range(128)"

/-- The characters from position `i` on that cannot be encoded are refused as one run. -/
def encodeErrorText (s : String) (i : Nat) : String :=
  match (s.toList.drop i).takeWhile (128 ≤ ·.toNat) with
  | [c] => notAscii "encode" s!"character '{String.ofList (escapeChar c)}'" (toString i)
  | run => notAscii "encode" "characters" s!"{i}-{i + run.length - 1}"

/-- A character beyond ASCII raises. -/
def encodeAscii (s : String) : Py Bytes :=
  match s.toList.findIdx? (128 ≤ ·.toNat) with
  | none => .ok (s.toList.map fun c => UInt8.ofNat c.toNat)
  | some i => .error ⟨.unicodeEncodeError, encodeErrorText s i⟩

/-- A byte beyond ASCII raises. -/
def decodeAscii (data : Bytes) : Py String :=
  match data.findIdx? (128 ≤ ·) with
  | none => .ok (String.ofList (data.map fun b => Char.ofNat b.toNat))
  | some i =>
    .error ⟨.unicodeDecodeError,
      notAscii "decode" s!"byte {hexNumber (data.getD i 0).toNat}" (toString i)⟩

/-- A byte beyond ASCII is replaced. -/
def decodeAsciiReplace (data : Bytes) : String :=
  String.ofList (data.map fun b => if b < 128 then Char.ofNat b.toNat else Char.ofNat 0xFFFD)

/-! ## `encoding.py` -/

/-- `int.to_bytes(length, "big")`. -/
def intToBytesBe (value : Int) (length : Nat := 4) : Py Bytes :=
  if value < 0 then .error (overflowError "can't convert negative int to unsigned")
  else if value ≥ 256 ^ length then .error (overflowError "int too big to convert")
  else .ok (toBytesBig length value.toNat)

def pairs : List Char → List String
  | a :: b :: cs => String.ofList [a, b] :: pairs cs
  | _ => []

/-- Two digits a byte, with a zero in front of an odd number of them. -/
def decimalTimeBytes (timeStr : String) : Py Bytes :=
  let timeStr := if timeStr.length % 2 = 1 then "0" ++ timeStr else timeStr
  (pairs timeStr.toList).mapM fun pair => do toByte (← pyInt pair)

/-- Year of the century, month, day, hour and minute. -/
def decodeDate5 (raw : Bytes) : Option DateTime :=
  match raw with
  | yy :: mm :: dd :: hh :: mn :: _ =>
    DateTime.mk? (2000 + yy.toNat) mm.toNat dd.toNat hh.toNat mn.toNat
  | _ => none

/-- The same with the second. -/
def decodeDate6 (raw : Bytes) : Option DateTime :=
  match raw with
  | yy :: mm :: dd :: hh :: mn :: ss :: _ =>
    DateTime.mk? (2000 + yy.toNat) mm.toNat dd.toNat hh.toNat mn.toNat ss.toNat
  | _ => none

/-- The last byte comes first. -/
def decodeMac6 (raw : Bytes) : String :=
  ":".intercalate (raw.reverse.map fun octet => hex [octet])

/-- The text up to the first zero byte. -/
def decodeNullTerminatedAscii (raw : Bytes) : Py String :=
  decodeAscii (raw.takeWhile (· ≠ 0))

/-! ## `envelope.py` -/

/-- The status of a request that was carried out. -/
def responseSuccess : UInt8 := 1

/-- The echo of the opcode, the status, and the data. -/
def parseResponseStatus (plaintext : Bytes) : Py (UInt8 × UInt8 × Bytes) := do
  if plaintext.length < 2 then
    throw (valueError s!"response too short: length={plaintext.length}")
  return (← byteAt plaintext 0, ← byteAt plaintext 1, plaintext.drop 2)

/-! ## `opcodes.py` -/

def cmdSearchDeviceFeature : Int := 0x01
def cmdManageKeyboardPassword : Int := 0x03
def cmdManageIcCard : Int := 0x05
def cmdManageFingerprint : Int := 0x06
def cmdGetPasscodes : Int := 0x07
def cmdQueryState : Int := 0x14
def cmdGetOperateLog : Int := 0x25
def cmdCheckRandom : Int := 0x30
def cmdGetLockTime : Int := 0x34
def cmdAutoLockManage : Int := 0x36
def cmdCheckAdmin : Int := 0x41
def cmdTimeCalibrate : Int := 0x43
def cmdUnlock : Int := 0x47
def cmdCheckUserTime : Int := 0x55
def cmdLock : Int := 0x58
def cmdSetLockSound : Int := 0x62
def cmdGetDeviceProperties : Int := 0x90

end TtlockBle
