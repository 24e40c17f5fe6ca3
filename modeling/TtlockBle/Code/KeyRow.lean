import TtlockBle.Code.Client
import TtlockBle.Code.KeyText
import TtlockBle.Lib.Json

/-! # `virtual_key.py` and `lock_version.py`: keys from the rows of the cloud -/

open TtlockBle.Lib

namespace TtlockBle

/-! ## Built-in operations on JSON values -/

def typeName : Json → String
  | .null => "NoneType"
  | .bool _ => "bool"
  | .int _ => "int"
  | .float _ => "float"
  | .str _ => "str"
  | .list _ => "list"
  | .dict _ => "dict"

/-- `data[key]`. -/
def getItem (data : Json) (key : String) : Py Json :=
  match data with
  | .dict fields =>
    match fields.lookup key with
    | some value => .ok value
    | none => .error ⟨.keyError, s!"'{key}'"⟩
  | .str _ => .error ⟨.typeError, "string indices must be integers, not 'str'"⟩
  | .list _ => .error ⟨.typeError, "list indices must be integers or slices, not str"⟩
  | data => .error ⟨.typeError, s!"'{typeName data}' object is not subscriptable"⟩

/-- `data.get(key, default)`. -/
def getOr (data : Json) (key : String) (default : Json) : Py Json :=
  match data with
  | .dict fields => .ok ((fields.lookup key).getD default)
  | data => .error ⟨.attributeError, s!"'{typeName data}' object has no attribute 'get'"⟩

def jsonLoads (py : Interpreter) (s : String) : Py Json :=
  match Json.loads py s with
  | .ok value => .ok value
  | .error (.decode msg) => .error (valueError msg)
  | .error (.integer text) => .error (valueError text)
  | .error .recursion => .error ⟨.recursionError, "maximum recursion depth exceeded"⟩

/-- `int(str(value))`. -/
def intOfStr (py : Interpreter) (value : Json) : Py Int := pyInt (value.text py)

/-! ## The records -/

namespace LockVersion

/-- The mapping itself, or the one that the string holds. -/
def parseData (py : Interpreter) (raw : Json) : Py Json :=
  match raw with
  | .str s => jsonLoads py s
  | raw => .ok raw

def parse (py : Interpreter) (raw : Json) : Py LockVersion := do
  let data ← parseData py raw
  return {
    protocolType := ← intOfStr py (← getItem data "protocolType")
    protocolVersion := ← intOfStr py (← getItem data "protocolVersion")
    scene := ← intOfStr py (← getItem data "scene")
    groupId := ← intOfStr py (← getOr data "groupId" (.int 0))
    orgId := ← intOfStr py (← getOr data "orgId" (.int 0)) }

end LockVersion

/-- `_to_int`, with the default 0. -/
def toInt (py : Interpreter) (value : Json) : Py Int :=
  match value with
  | .null | .str "" => .ok 0
  | value => intOfStr py value

/-- The key that a row of the cloud describes. -/
def VirtualKey.fromCloud (py : Interpreter) (payload : Json) (uid : Int) : Py VirtualKey := do
  let lockKeyField := (((← getOr payload "lockKey" .null).orElse (← getOr payload "noKeyPwd" .null)).orElse
    (← getOr payload "unlockKey" .null)).orElse (.str "")
  let adminField := ((← getOr payload "adminPwd" .null).orElse (← getOr payload "adminPs" .null)).orElse (.str "")
  let lockVersionRaw ← getItem payload "lockVersion"
  return {
    keyId := ← toInt py (← getItem payload "keyId")
    lockId := ← toInt py (← getItem payload "lockId")
    lockMac := (← getItem payload "lockMac").text py
    lockAlias := (← getOr payload "lockAlias" (.str "")).text py
    lockName := (← getOr payload "lockName" (.str "")).text py
    lockVersion := ← LockVersion.parse py lockVersionRaw
    aesKeyStr := (← getItem payload "aesKeyStr").text py
    unlockKey := ← decodePassword (lockKeyField.text py)
    lockFlagPos := ← toInt py (← getOr payload "lockFlagPos" (.int 0))
    timezoneRawOffSet := ← toInt py (← getOr payload "timezoneRawOffSet" (.int 0))
    startTime := ← toInt py (← getOr payload "startDate" (.int 0))
    endTime := ← toInt py (← getOr payload "endDate" (.int 0))
    keyType := ← toInt py (← getOr payload "keyType" (.int 0))
    userType := (← getOr payload "userType" (.str "")).text py
    adminPs := ← decodePassword (adminField.text py)
    keyboardPwdVersion := ← toInt py (← getOr payload "keyboardPwdVersion" (.int 0))
    specialValue := ← toInt py (← getOr payload "specialValue" (.int 0))
    featureValue := ((← getOr payload "featureValue" .null).orElse (.str "")).text py
    uid := uid }

end TtlockBle
