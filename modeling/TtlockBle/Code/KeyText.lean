import TtlockBle.Code.Crypto
import TtlockBle.Code.Encoding
import TtlockBle.Lib.Base64
import TtlockBle.Lib.Hex

/-! # `crypto.py`: the texts of keys and passwords -/

open TtlockBle.Lib

namespace TtlockBle

/-! ## Built-in operations on strings -/

/-- `str.strip`. Four separators count as whitespace here, but not for `int`. -/
def strip (cs : List Char) : List Char :=
  let isSpace := inRanges ((0x1C, 0x1F) :: intSpaces)
  ((cs.dropWhile isSpace).reverse.dropWhile isSpace).reverse

def pyInt16 (s : String) : Py Int :=
  match parseInt16 s with
  | some n => .ok n
  | none => .error (valueError (invalidLiteral 16 s))

def b64decode (field : String) : Py Bytes :=
  if field.toList.any (128 ≤ ·.toNat) then
    .error (valueError "string argument should contain only ASCII characters")
  else
    match Base64.decode field.toList with
    | .ok bytes => .ok bytes
    | .error text => .error (valueError text)

def decodeLatin1 (data : Bytes) : String := String.ofList (data.map fun b => Char.ofNat b.toNat)

/-! ## Passwords -/

/-- The last byte gives the constant away. -/
def codecDecode (encoded : Bytes) : Bytes :=
  if encoded.length < 2 then encoded
  else
    let xorConst := decodeTable.getD ((encoded.length - 1) % 256) 0 ^^^ encoded.getLastD 0
    encoded.dropLast.map (· ^^^ xorConst)

/-- A short field is a password already. -/
def decodePassword (field : String) : Py String := do
  if field = "" ∨ field.length ≤ 10 then
    return field
  let csv ← decodeAscii (← b64decode field)
  let raw ← ((csv.toList.splitOn ',').filter (· ≠ [])).mapM fun x => do
    return UInt8.ofInt (← pyInt (String.ofList x))
  return decodeLatin1 (codecDecode raw)

/-! ## The AES key -/

def fromHex (digits : List Char) : Bytes :=
  match digits with
  | a :: b :: rest => UInt8.ofNat (ofDigits16 ([a, b].filterMap hexDigitValue)) :: fromHex rest
  | _ => []

/-- Items between commas or dots, or 32 digits. -/
def hexKeyToBytes (hexStr : String) : Py Bytes := do
  let s := strip hexStr.toList
  if s = [] then
    throw (valueError "aesKeyStr is empty")
  if ',' ∈ s ∨ '.' ∈ s then
    let sep := if ',' ∈ s then ',' else '.'
    let parts ← (((s.splitOn sep).map strip).filter (· ≠ [])).mapM fun x => do
      return UInt8.ofInt (← pyInt16 (String.ofList x))
    if parts.length ≠ aesKeyLen then
      throw (valueError s!"AES key has {parts.length} parts, expected {aesKeyLen}")
    return parts
  if s.length = aesKeyLen * 2 ∧ s.all fun c => (hexDigitValue c).isSome then
    return fromHex s
  throw (valueError s!"Unrecognised AES key format: {reprStr printable (String.ofList s)}")

end TtlockBle
