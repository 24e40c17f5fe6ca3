import TtlockBle.Code.Cloud
import TtlockBle.Lib.Base64
import TtlockBle.Lib.JsonDumps
import TtlockBle.Lib.Stateful
import Mathlib.Data.List.Sort

/-!
# `cloud.py` and `_cloud_helpers.py`: an account and its requests

The client with all of its attributes, and its methods down to the HTTP requests. The digests are a
parameter. What is asked of the surroundings is the install id, the time and the response to a
request.
-/

open TtlockBle.Lib

namespace TtlockBle

/-! ## `cloud_app.py` -/

/-- What the cloud knows an app by. -/
structure CloudApp where
  appId : String
  appSecret : String
  packageName : String
  baseUrl : String
  version : String
  platform : String
  followsRegionalEndpoint : Bool := true

/-- The default app. -/
def dlockXp : CloudApp where
  appId := "9aa8af853eea43fa839a0a474ee9d8ab"
  appSecret := "07752080e28d43e5f8a7cdb8aad3c0c3"
  packageName := "com.dlock.smart"
  baseUrl := "https://servlet.ttlock.com"
  version := "2.2"
  platform := "Android-1.6.0"

/-- The only app that stays on its own endpoint. -/
def schlageBreeze : CloudApp where
  appId := "117e1efe3bbd403bb72f62759123801a"
  appSecret := "eb6af53b570ea12517951d34df1e93fe"
  packageName := "com.breeze.lock"
  baseUrl := "https://euservlet.ttlock.com"
  version := "2.2"
  platform := "iOS-2.3.0"
  followsRegionalEndpoint := false

/-- The apps by the names that the command line takes. -/
def cloudApps : List (String × CloudApp) := [("dlock_xp", dlockXp), ("schlage_breeze", schlageBreeze)]

namespace Account

/-! ## `_cloud_helpers.py` -/

/-- The error code of a login from a device that has not been validated. -/
def errNewDeviceLogin : Int := -1014

/-- The kind of verification code that validates a device. -/
def codeTypeNewDeviceLogin : Int := 4

def codeChannelDefault : Int := 1

structure Digests where
  /-- `hashlib.md5(...).hexdigest()`. -/
  md5Hex : Bytes → String
  /-- `hmac.new(key, msg, hashlib.sha256).digest()`. -/
  hmacSha256 : Bytes → Bytes → Bytes

abbrev Params := List (String × String)

def encodeUtf8 (s : String) : Bytes := s.toUTF8.toList

/-- The digest of the UTF-8 text, in hexadecimal. -/
def md5Hex (digests : Digests) (s : String) : String := digests.md5Hex (encodeUtf8 s)

/-- The order of pairs of strings. -/
def pairLe (a b : String × String) : Prop := a.1 < b.1 ∨ a.1 = b.1 ∧ a.2 ≤ b.2

instance : DecidableRel pairLe := fun a b => inferInstanceAs (Decidable (a.1 < b.1 ∨ a.1 = b.1 ∧ a.2 ≤ b.2))

def signedText (appId path : String) (params : Params) : String :=
  path ++ "?" ++ "&".intercalate ((params.insertionSort pairLe).map fun kv => s!"{kv.1}={kv.2}") ++ appId

/-- The signature header: an HMAC of the path and the sorted parameters, in base 64. -/
def signRequest (digests : Digests) (appId appSecret path : String) (params : Params) : String :=
  String.ofList (Base64.encode
    (digests.hmacSha256 (encodeUtf8 appSecret) (encodeUtf8 (signedText appId path params))))

/-! ## Errors -/

/-- A `CloudError` with its body, typer's own exceptions, or any other one. -/
inductive Raised where
  | cloudError (body : Json) (text : String)
  | badParameter (text : String)
  | exit (code : Nat)
  | other (e : PyExc)

/-- `CloudError(body)`. -/
def newCloudError (py : Interpreter) (body : Json) : Except Raised Raised :=
  match cloudError py body with
  | .ok e => .ok (.cloudError body e.text)
  | .error e => .error (.other e)

def ofPy {α : Type} (x : Py α) : Except Raised α := x.mapError .other

/-- The end of `_post`. -/
def readResponse (py : Interpreter) (resp : Response) : Except Raised Json := do
  if resp.statusCode ≥ 400 then
    match resp.json with
    | .ok errBody => throw (← newCloudError py errBody)
    | .error e =>
      if e.isValueError then
        throw (← newCloudError py (.dict [("http_status", .int resp.statusCode),
          ("text", .str (resp.text.take 500).toString)]))
      else throw (.other e)
  let body ← ofPy resp.json
  if !isNoneOrZero (← ofPy (getOr body "errcode" .null)) || !isNoneOrZero (← ofPy (getOr body "errorCode" .null)) then
    throw (← newCloudError py body)
  return body

/-! ## The client -/

/-- The attributes of the client. -/
structure TTLockCloud where
  appId : String
  appSecret : String
  baseUrl : String
  packageName : String
  version : String
  platform : String
  language : String
  followsRegionalEndpoint : Bool
  creds : Option CloudCredentials
  siteId : Int
  countryId : Int
  uniqueid : Option String

/-- `s.rstrip("/")`. -/
def rstripSlash (s : String) : String := String.ofList (s.toList.reverse.dropWhile (· = '/')).reverse

/-- `for_app`. -/
def TTLockCloud.forApp (app : CloudApp) (language : String) : TTLockCloud where
  appId := app.appId
  appSecret := app.appSecret
  baseUrl := rstripSlash app.baseUrl
  packageName := app.packageName
  version := app.version
  platform := app.platform
  language := language
  followsRegionalEndpoint := app.followsRegionalEndpoint
  creds := none
  siteId := 0
  countryId := 0
  uniqueid := none

/-- A POST: where it goes, the form and the headers. -/
structure Request where
  baseUrl : String
  fullPath : String
  data : Params
  headers : Params

/-- What a method waits for. -/
inductive HttpOp where
  | loadUniqueid
  /-- `int(time.time() * 1000)`. -/
  | now
  | post (request : Request)

def HttpOp.Answer : HttpOp → Type
  | loadUniqueid => String
  | now => Int
  | post _ => Response

abbrev CloudMethod := Method TTLockCloud HttpOp HttpOp.Answer Raised

instance : MonadLift Py CloudMethod where
  monadLift x := Method.ofExcept (ofPy x)

/-- Read from its file, or made up and written there. -/
def loadUniqueid : CloudMethod String := Method.perform HttpOp.loadUniqueid

def now : CloudMethod Int := Method.perform HttpOp.now

def send (request : Request) : CloudMethod Response := Method.perform (HttpOp.post request)

/-- `_async_uniqueid`. -/
def asyncUniqueid : CloudMethod String := do
  match (← Method.get).uniqueid with
  | some uniqueid => return uniqueid
  | none =>
    let uniqueid ← loadUniqueid
    Method.modify fun cloud => { cloud with uniqueid := some uniqueid }
    return uniqueid

/-- `params.setdefault(key, value)`. -/
def setDefault (params : Params) (key value : String) : Params :=
  if (params.lookup key).isSome then params else params ++ [(key, value)]

/-- The request of `_post`, once the time is known. -/
def TTLockCloud.request (digests : Digests) (cloud : TTLockCloud) (uniqueid path : String) (params : Params)
    (version : Option String) : Request where
  baseUrl := cloud.baseUrl
  fullPath := "/lock" ++ path
  data := params
  headers := [("appid", cloud.appId), ("appSecret", cloud.appSecret), ("version", version.getD cloud.version),
    ("platform", cloud.platform), ("language", cloud.language), ("packageName", cloud.packageName),
    ("date", (params.lookup "date").getD ""), ("uniqueid", uniqueid),
    ("signature", signRequest digests cloud.appId cloud.appSecret ("/lock" ++ path) params), ("refer", "0"),
    ("User-Agent", "Mozilla/5.0 (Linux; Android 14; ttlock-ble) AppleWebKit/537.36"),
    ("accessToken", (cloud.creds.map (·.accessToken)).getD ""),
    ("operatorUid", (cloud.creds.map fun creds => toString creds.uid).getD "")]

/-- `_post`. -/
def post (py : Interpreter) (digests : Digests) (path : String) (params : Params) (version : Option String) :
    CloudMethod Json := do
  let uniqueid ← asyncUniqueid
  let params := setDefault params "date" (toString (← now))
  let params := setDefault params "d" (toString (← now))
  let cloud ← Method.get
  let resp ← send (cloud.request digests uniqueid path params version)
  readResponse py resp

/-! ## Its methods -/

section Methods

variable (py : Interpreter) (digests : Digests)

def loginParams (cloud : TTLockCloud) (uniqueid username password : String) (countryId siteId : Option Int) : Params :=
  [("username", username), ("password", md5Hex digests password), ("platId", "1"), ("uniqueid", uniqueid),
    ("packageName", cloud.packageName), ("countryId", toString (countryId.getD cloud.countryId)),
    ("siteId", toString (siteId.getD cloud.siteId)), ("install", "install:" ++ cloud.packageName)]

/-- `raise CloudError({"message": message, "raw": body})`. -/
def refuse (message : String) (body : Json) : Except Raised Unit := do
  throw (← newCloudError py (.dict [("message", .str message), ("raw", body)]))

/-- The credentials in the response to a login. -/
def readCredentials (username : String) (body : Json) : Except Raised CloudCredentials := do
  let uidField := ((← ofPy (getOr body "uid" .null)).orElse (← ofPy (getOr body "user_id" .null))).orElse
    (← ofPy (getOr body "userId" .null))
  if uidField matches .null then
    refuse py "no uid in login response" body
  let token := (← ofPy (getOr body "accessToken" .null)).orElse (← ofPy (getOr body "access_token" .null))
  if !token.truthy then
    refuse py "no accessToken in login response" body
  return { uid := ← ofPy (intOfStr py uidField), accessToken := token.text py, username := username }

/-- A login replaces the credentials only when it has read them. -/
def login (username password : String) (countryId siteId : Option Int) : CloudMethod CloudCredentials := do
  let uniqueid ← asyncUniqueid
  let cloud ← Method.get
  let body ← post py digests "/user/login" (loginParams digests cloud uniqueid username password countryId siteId) none
  let creds ← readCredentials py username body
  Method.modify fun cloud => { cloud with creds := some creds }
  return creds

/-- The code goes to the account by the channel. -/
def requestLoginVerificationCode (account : String) (channel : Int) : CloudMethod Json := do
  let uniqueid ← asyncUniqueid
  let cloud ← Method.get
  post py digests "/user/sendValidationCode"
    [("account", account), ("uniqueid", uniqueid), ("codeType", toString codeTypeNewDeviceLogin), ("xWidth", "0"),
      ("channel", toString channel), ("language", cloud.language), ("siteId", toString cloud.siteId)] (some "2.3")

/-- The code that the account was sent, for the device of the install id. -/
def validateNewDevice (account verificationCode : String) : CloudMethod Json := do
  let uniqueid ← asyncUniqueid
  let cloud ← Method.get
  post py digests "/user/loginNewDeviceValidation"
    [("userid", account), ("uniqueid", uniqueid), ("verificationCode", verificationCode), ("platId", "1"),
      ("countryId", toString cloud.countryId), ("siteId", toString cloud.siteId)] none

/-- `int(str(field))`, where there is a field. -/
def readId (field : Json) : Py (Option Int) :=
  match field with
  | .null => .ok none
  | field => some <$> intOfStr py field

/-- Where the account lives. An app that is pinned keeps its base URL. -/
def discoverSite : CloudMethod Json := do
  let uniqueid ← asyncUniqueid
  let body ← post py digests "/system/getCountryAndSiteInfo" [("uniqueid", uniqueid)] none
  let api ← (getOr body "apiDomainName" .null : Py Json)
  Method.modify fun cloud =>
    if api.truthy && cloud.followsRegionalEndpoint then { cloud with baseUrl := rstripSlash (api.text py) } else cloud
  let siteId ← (getOr body "siteId" .null >>= readId py : Py (Option Int))
  Method.modify fun cloud => { cloud with siteId := siteId.getD cloud.siteId }
  let countryId ← (getOr body "countryId" .null >>= readId py : Py (Option Int))
  Method.modify fun cloud => { cloud with countryId := countryId.getD cloud.countryId }
  return body

/-- `json.dumps(...)` of texts. -/
def userInfo (cloud : TTLockCloud) : String :=
  String.ofList (Json.write none 0 (.dict [("appVersion", .str "1.6.0"), ("deviceName", .str "ttlock-ble"),
    ("language", .str cloud.language), ("deviceSystemVersion", .str "Linux/macOS"),
    ("packageName", .str cloud.packageName)]))

/-- The parameters of one page of keys. -/
def syncPageParams (userInfo uniqueid : String) (pageNo : Int) : Params :=
  [("lastUpdateDate", "0"), ("pageNo", toString pageNo), ("userInfo", userInfo), ("uniqueid", uniqueid)]

/-- The loop, cut after a number of turns. -/
def listKeysLoop (uid : Int) (userInfo uniqueid : String) :
    Nat → Int → List VirtualKey → CloudMethod (List VirtualKey)
  | 0, _, _ => fun _ => .cut
  | turns + 1, pageNo, keys => do
    let body ← post py digests "/check/syncDataPage" (syncPageParams userInfo uniqueid pageNo) none
    let keyInfos ← (getOr body "keyInfos" .null : Py Json)
    let keyList ← (getOr body "keyList" .null : Py Json)
    match (keyInfos.orElse keyList).orElse (.list []) with
    | .list page => do
      let more ← (readRows py uid page : Py (List VirtualKey))
      let pages ← (getOr body "pages" .null : Py Json)
      let pageNos ← (getOr body "pageNos" .null : Py Json)
      let pages ← (intOfStr py ((pages.orElse pageNos).orElse (.int 1)) : Py Int)
      if pageNo ≥ pages ∨ page.isEmpty then
        return keys ++ more
      else
        listKeysLoop uid userInfo uniqueid turns (pageNo + 1) (keys ++ more)
    | _ => return keys

/-- The keys of all pages, for which there has to be a login. -/
def listKeys (turns : Nat) : CloudMethod (List VirtualKey) := do
  let cloud ← Method.get
  match cloud.creds with
  | none => throw (← (newCloudError py (.dict [("errmsg", .str "login() before list_keys()")]) : Except Raised Raised))
  | some creds =>
    let uniqueid ← asyncUniqueid
    listKeysLoop py digests creds.uid (userInfo cloud) uniqueid turns 1 []

/-! ## Calls -/

/-- The public methods. -/
inductive Call where
  | login (username password : String) (countryId siteId : Option Int)
  | requestLoginVerificationCode (account : String) (channel : Int)
  | validateNewDevice (account verificationCode : String)
  | discoverSite
  | listKeys (turns : Nat)

def Call.run : Call → CloudMethod Unit
  | login username password countryId siteId => discard (Account.login py digests username password countryId siteId)
  | requestLoginVerificationCode account channel =>
    discard (Account.requestLoginVerificationCode py digests account channel)
  | validateNewDevice account verificationCode =>
    discard (Account.validateNewDevice py digests account verificationCode)
  | discoverSite => discard (Account.discoverSite py digests)
  | listKeys turns => discard (Account.listKeys py digests turns)

/-- Calls one after the other, whatever each of them ends with. -/
def calls : List Call → CloudMethod Unit
  | [] => pure ()
  | call :: rest => (call.run py digests).handle fun _ => calls rest

end Methods

end Account

end TtlockBle
