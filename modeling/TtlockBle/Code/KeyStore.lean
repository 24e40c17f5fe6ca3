import TtlockBle.Code.KeyRow
import TtlockBle.Lib.JsonDumps

/-!
# `virtual_key.py`: the form of a key in the cache

A key that is read from the cache keeps what JSON had for each of its fields: a dataclass checks no
types.
-/

open TtlockBle.Lib

namespace TtlockBle

/-! ## `to_dict` -/

/-- `asdict`. -/
def LockVersion.asDict (version : LockVersion) : Json :=
  .dict [("protocolType", .int version.protocolType), ("protocolVersion", .int version.protocolVersion),
    ("scene", .int version.scene), ("groupId", .int version.groupId), ("orgId", .int version.orgId)]

/-- The key as the cache has it. -/
def VirtualKey.toDict (key : VirtualKey) : Json :=
  .dict [("keyId", .int key.keyId), ("lockId", .int key.lockId), ("lockMac", .str key.lockMac),
    ("lockAlias", .str key.lockAlias), ("lockName", .str key.lockName), ("lockVersion", key.lockVersion.asDict),
    ("aesKeyStr", .str key.aesKeyStr), ("unlockKey", .str key.unlockKey), ("lockFlagPos", .int key.lockFlagPos),
    ("timezoneRawOffSet", .int key.timezoneRawOffSet), ("startTime", .int key.startTime),
    ("endTime", .int key.endTime), ("keyType", .int key.keyType), ("userType", .str key.userType),
    ("adminPs", .str key.adminPs), ("keyboardPwdVersion", .int key.keyboardPwdVersion),
    ("specialValue", .int key.specialValue), ("featureValue", .str key.featureValue), ("uid", .int key.uid)]

/-! ## `from_dict` -/

structure StoredKey where
  keyId : Json
  lockId : Json
  lockMac : Json
  lockAlias : Json
  lockName : Json
  lockVersion : LockVersion
  aesKeyStr : Json
  unlockKey : Json
  lockFlagPos : Json
  timezoneRawOffSet : Json
  startTime : Json
  endTime : Json
  keyType : Json
  userType : Json
  adminPs : Json
  keyboardPwdVersion : Json
  specialValue : Json
  featureValue : Json
  uid : Json

/-- What iterating over a value yields. -/
def iterate (value : Json) : Py (List Json) :=
  match value with
  | .list items => .ok items
  | .dict fields => .ok (fields.map fun f => .str f.1)
  | .str s => .ok (s.toList.map fun c => .str (String.singleton c))
  | value => .error ⟨.typeError, s!"'{typeName value}' object is not iterable"⟩

/-- One more entry of a dictionary, and whether a key so far is no string. -/
def addEntry (entries : List (String × Json) × Bool) (element : Json) : Py (List (String × Json) × Bool) := do
  match ← iterate element with
  | [.str key, value] => return (Json.setField entries.1 key value, entries.2)
  | [.list _, _] | [.dict _, _] => throw ⟨.typeError, "unhashable type"⟩
  | [_, _] => return (entries.1, true)
  | items => throw (valueError s!"dictionary update sequence element has length {items.length}; 2 is required")

/-- `dict(data)`. -/
def dictOf (data : Json) : Py (List (String × Json) × Bool) :=
  match data with
  | .dict fields => .ok (fields, false)
  | data => do (← iterate data).foldlM addEntry ([], false)

def requiredArguments : List String :=
  ["keyId", "lockId", "lockMac", "lockAlias", "lockName", "lockVersion", "aesKeyStr", "unlockKey", "lockFlagPos",
    "timezoneRawOffSet"]

/-- The arguments that have a default, with it. -/
def defaultArguments : List (String × Json) :=
  [("startTime", .int 0), ("endTime", .int 0), ("keyType", .int 0), ("userType", .str ""), ("adminPs", .str ""),
    ("keyboardPwdVersion", .int 0), ("specialValue", .int 0), ("featureValue", .str ""), ("uid", .int 0)]

/-- The keywords that `__init__` does not know, then the required ones that are missing. -/
def checkArguments (kwargs : List (String × Json)) : Py Unit := do
  match kwargs.find? fun f => f.1 ∉ requiredArguments ++ defaultArguments.map Prod.fst with
  | some (name, _) =>
    throw ⟨.typeError, s!"VirtualKey.__init__() got an unexpected keyword argument '{name}'"⟩
  | none => pure ()
  let missing := requiredArguments.filter fun name => name ∉ kwargs.map Prod.fst
  if missing ≠ [] then
    throw ⟨.typeError, s!"VirtualKey.__init__() missing {missing.length} required positional arguments"⟩

namespace StoredKey

/-- `LockVersion(...)` in `from_dict`. -/
def readVersion (py : Interpreter) (version : Json) : Py LockVersion := do
  return {
    protocolType := ← toInt py (← getItem version "protocolType")
    protocolVersion := ← toInt py (← getItem version "protocolVersion")
    scene := ← toInt py (← getItem version "scene")
    groupId := ← toInt py (← getItem version "groupId")
    orgId := ← toInt py (← getItem version "orgId") }

/-- The key that the cache has. -/
def fromDict (py : Interpreter) (data : Json) : Py StoredKey := do
  let (kwargs, otherKey) ← dictOf data
  let version ← readVersion py (← getItem (.dict kwargs) "lockVersion")
  if otherKey then
    throw ⟨.typeError, "keywords must be strings"⟩
  checkArguments kwargs
  let argument (name : String) : Json := ((kwargs.lookup name).or (defaultArguments.lookup name)).getD .null
  return {
    keyId := argument "keyId"
    lockId := argument "lockId"
    lockMac := argument "lockMac"
    lockAlias := argument "lockAlias"
    lockName := argument "lockName"
    lockVersion := version
    aesKeyStr := argument "aesKeyStr"
    unlockKey := argument "unlockKey"
    lockFlagPos := argument "lockFlagPos"
    timezoneRawOffSet := argument "timezoneRawOffSet"
    startTime := argument "startTime"
    endTime := argument "endTime"
    keyType := argument "keyType"
    userType := argument "userType"
    adminPs := argument "adminPs"
    keyboardPwdVersion := argument "keyboardPwdVersion"
    specialValue := argument "specialValue"
    featureValue := argument "featureValue"
    uid := argument "uid" }

end StoredKey

/-- A key as the cache has it. -/
def VirtualKey.stored (key : VirtualKey) : StoredKey where
  keyId := .int key.keyId
  lockId := .int key.lockId
  lockMac := .str key.lockMac
  lockAlias := .str key.lockAlias
  lockName := .str key.lockName
  lockVersion := key.lockVersion
  aesKeyStr := .str key.aesKeyStr
  unlockKey := .str key.unlockKey
  lockFlagPos := .int key.lockFlagPos
  timezoneRawOffSet := .int key.timezoneRawOffSet
  startTime := .int key.startTime
  endTime := .int key.endTime
  keyType := .int key.keyType
  userType := .str key.userType
  adminPs := .str key.adminPs
  keyboardPwdVersion := .int key.keyboardPwdVersion
  specialValue := .int key.specialValue
  featureValue := .str key.featureValue
  uid := .int key.uid

end TtlockBle
