import TtlockBle.Code.Account
import TtlockBle.Code.KeyStore

/-!
# `cli.py`: the key cache, `sync` and `verify`

A command asks its surroundings for HTTP, writes to the terminal and to the cache. The cache is a file
with a text, if it is there. The upper case of a string is a parameter.
-/

open TtlockBle.Lib

namespace TtlockBle.Cli

open Account

/-! ## The cache -/

/-- `_load_keys`. The file is its text, if it is there. -/
def loadKeys (py : Interpreter) (path : String) (file : Option String) : Except Raised (List StoredKey) :=
  match file with
  | none => .error (.badParameter s!"No keys cached at {path} — run `ttlock sync` first")
  | some text => ofPy do
    let raw ← jsonLoads py text
    (← iterate raw).mapM (StoredKey.fromDict py)

/-- `k.lockMac.upper()`, with the upper case of the interpreter. -/
def upperMac (upper : String → String) (lockMac : Json) : Py String :=
  match lockMac with
  | .str mac => .ok (upper mac)
  | value => .error ⟨.attributeError, s!"'{typeName value}' object has no attribute 'upper'"⟩

def isStr (value : Json) (s : String) : Bool :=
  match value with
  | .str s' => s' = s
  | _ => false

/-- The condition of the loop in `_resolve_key`. -/
def answersTo (py : Interpreter) (upper : String → String) (key : StoredKey) (target : String) : Py Bool := do
  if key.lockId.text py = target ∨ isStr key.lockAlias target then
    return true
  return (← upperMac upper key.lockMac) = upper target

/-- The loop of `_resolve_key`. -/
def firstMatch (py : Interpreter) (upper : String → String) (target : String) :
    List StoredKey → Py (Option StoredKey)
  | [] => .ok none
  | key :: keys => do
    if ← answersTo py upper key target then
      return some key
    firstMatch py upper target keys

def keyLabel (py : Interpreter) (key : StoredKey) : String := s!"{key.lockId.text py}({key.lockAlias.text py})"

/-- `_resolve_key`. -/
def resolveKey (py : Interpreter) (upper : String → String) (path : String) (file : Option String)
    (target : String) : Except Raised StoredKey := do
  let keys ← loadKeys py path file
  match ← ofPy (firstMatch py upper target keys) with
  | some key => return key
  | none =>
    throw (.badParameter (s!"No key matches '{target}'. Available: " ++
      ", ".intercalate (keys.map (keyLabel py))))

/-- What `sync` writes. -/
def storeText (keys : List VirtualKey) : Py String :=
  (Json.dumps (some 2) (.list (keys.map VirtualKey.toDict))).mapError valueError

/-! ## The account -/

structure Environment where
  email : Option String
  password : Option String

/-- `_load_env`. -/
def loadEnv (env : Environment) : Except Raised (String × String) :=
  match env.email, env.password with
  | some email, some password =>
    if email ≠ "" ∧ password ≠ "" then .ok (email, password)
    else .error (.badParameter "Set TTLOCK_EMAIL and TTLOCK_PASSWORD in .env or environment")
  | _, _ => .error (.badParameter "Set TTLOCK_EMAIL and TTLOCK_PASSWORD in .env or environment")

/-- `_resolve_cloud_app`. -/
def resolveCloudApp (name : String) : Except Raised CloudApp :=
  match cloudApps.lookup name with
  | some app => .ok app
  | none =>
    .error (.badParameter (s!"Unknown app '{name}'. Available: " ++ ", ".intercalate (cloudApps.map Prod.fst)))

inductive CliOp where
  | http (op : HttpOp)
  | aclose
  | echo (text : String)
  | writeStore (text : String)

def CliOp.Answer : CliOp → Type
  | http op => op.Answer
  | _ => Unit

abbrev CliProgram := Program CliOp CliOp.Answer Raised

abbrev CliMethod := Method Account.TTLockCloud CliOp CliOp.Answer Raised

/-- A method of the client, as part of a command. -/
def cloud {α : Type} (m : CloudMethod α) : CliMethod α := fun t => (m t).embed CliOp.http fun _ r => r

def echo (text : String) : CliMethod Unit := Method.perform (CliOp.echo text)

section Commands

variable (py : Interpreter) (digests : Digests)

/-- `exc.body.get("errorCode") == ERR_NEW_DEVICE_LOGIN`. -/
def isNewDevice (body : Json) : Py Bool := do
  match ← getOr body "errorCode" .null with
  | .int n => return n = errNewDeviceLogin
  | .float repr => return repr = "-1014.0"
  | _ => return false

/-- The handler of a refused login. -/
def refused (email : String) (body : Json) (text : String) : CliMethod CloudCredentials := do
  if ← ofPy (isNewDevice body) then
    echo "this device is not registered with TTLock yet — requesting a verification code…"
    discard (cloud (requestLoginVerificationCode py digests email codeChannelDefault))
    echo s!"code sent to {email}.\ncheck inbox, then run:\n  ttlock verify <code>"
    throw (.exit 2)
  throw (.cloudError body text)

/-- `_run_sync`, in its `async with`. -/
def runSync (email password : String) (turns : Nat) : CliMethod (List VirtualKey) := do
  tryCatch (discard (cloud (discoverSite py digests))) fun
    | .cloudError _ text => echo s!"warning: site discovery failed ({text}); using default"
    | e => throw e
  let creds ← tryCatch (cloud (login py digests email password none none)) fun
    | .cloudError body text => refused py digests email body text
    | e => throw e
  echo s!"logged in as uid={creds.uid}"
  let keys ← cloud (listKeys py digests turns)
  echo s!"fetched {keys.length} key(s)"
  return keys

/-- `_run_verify`, in its `async with`. -/
def runVerify (email code : String) : CliMethod Unit := do
  tryCatch (discard (cloud (discoverSite py digests))) fun
    | .cloudError _ _ => pure ()
    | e => throw e
  discard (cloud (validateNewDevice py digests email code))

/-- `async with TTLockCloud.for_app(cloud_app) as cloud`. -/
def withCloud {α : Type} (app : CloudApp) (m : CliMethod α) : CliProgram α :=
  ((m (Account.TTLockCloud.forApp app "en")).bind fun r => Program.ofExcept r.1).andFinally
    (Program.discard (Program.perform .aclose))

/-- The directory is made as part of the write. -/
def sync (path appName : String) (env : Environment) (turns : Nat) : CliProgram Unit := do
  let cloudApp ← resolveCloudApp appName
  let (email, password) ← loadEnv env
  let keys ← withCloud cloudApp (runSync py digests email password turns)
  let text ← ofPy (storeText keys)
  Program.discard (Program.perform (CliOp.writeStore text))
  Program.discard (Program.perform (CliOp.echo s!"saved → {path}"))

def verify (appName : String) (env : Environment) (code : String) : CliProgram Unit := do
  let cloudApp ← resolveCloudApp appName
  let (email, _) ← loadEnv env
  withCloud cloudApp (runVerify py digests email code)
  Program.discard (Program.perform (CliOp.echo "✓ device registered. Now run `ttlock sync`."))

end Commands

end TtlockBle.Cli
