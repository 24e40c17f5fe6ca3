import TtlockBle.Code.KeyRow

/-!
# `cloud.py`: the keys of an account

`post path params` stands for the HTTP request and its response.
-/

open TtlockBle.Lib

namespace TtlockBle

/-! ## Responses -/

structure Response where
  statusCode : Nat
  text : String
  /-- What `json()` returns or raises. -/
  json : Py Json

/-- `in (None, 0)`. -/
def isNoneOrZero : Json → Bool
  | .null => true
  | .bool b => !b
  | .int n => n = 0
  | .float repr => repr = "0.0" || repr = "-0.0"
  | _ => false

/-- The message is the first one that the body has, or else the body. -/
def cloudError (py : Interpreter) (body : Json) : Py PyExc := do
  let msg := (((← getOr body "errmsg" .null).orElse (← getOr body "description" .null)).orElse
    (← getOr body "message" .null)).orElse (.str (body.text py))
  return ⟨.cloudError, s!"TTLock cloud error: {msg.text py}"⟩

/-- The end of `_post`. -/
def checkResponse (py : Interpreter) (resp : Response) : Py Json := do
  if resp.statusCode ≥ 400 then
    match resp.json with
    | .ok errBody => throw (← cloudError py errBody)
    | .error e =>
      if e.isValueError then
        throw (← cloudError py (.dict [("http_status", .int resp.statusCode),
          ("text", .str (resp.text.take 500).toString)]))
      else throw e
  let body ← resp.json
  if !isNoneOrZero (← getOr body "errcode" .null) || !isNoneOrZero (← getOr body "errorCode" .null) then
    throw (← cloudError py body)
  return body

/-! ## The client -/

/-- What a login leaves behind. -/
structure CloudCredentials where
  uid : Int
  accessToken : String
  username : String

/-- The client, as far as its keys go. -/
structure TTLockCloud where
  creds : Option CloudCredentials

/-- The one thing that is asked of the cloud. -/
inductive CloudOp where
  | post (path : String) (params : List (String × String))

def CloudOp.Answer : CloudOp → Type
  | post _ _ => Response

abbrev CloudProgram := Program CloudOp CloudOp.Answer PyExc

/-- The request and what its response says. -/
def post (py : Interpreter) (path : String) (params : List (String × String)) : CloudProgram Json := do
  let resp ← Program.perform (.post path params)
  Program.ofExcept (checkResponse py resp)

/-- `except (KeyError, ValueError, TypeError)`. -/
def PyExc.isMalformedRow (e : PyExc) : Bool := e.type = .keyError || e.type = .typeError || e.isValueError

/-- The rows of a page, where a malformed one is skipped. -/
def readRows (py : Interpreter) (uid : Int) : List Json → Py (List VirtualKey)
  | [] => .ok []
  | item :: page =>
    match VirtualKey.fromCloud py item uid with
    | .ok key => do return key :: (← readRows py uid page)
    | .error e => if e.isMalformedRow then readRows py uid page else .error e

/-- The parameters that tell one page from another. -/
def syncParams (pageNo : Int) : List (String × String) := [("lastUpdateDate", "0"), ("pageNo", toString pageNo)]

/-- The loop, cut after a number of turns. -/
def listKeysLoop (py : Interpreter) (uid : Int) : Nat → Int → List VirtualKey → CloudProgram (List VirtualKey)
  | 0, _, _ => .cut
  | turns + 1, pageNo, keys => do
    let body ← post py "/check/syncDataPage" (syncParams pageNo)
    let rawPage := ((← getOr body "keyInfos" .null).orElse (← getOr body "keyList" .null)).orElse (.list [])
    match rawPage with
    | .list page => do
      let more ← readRows py uid page
      let pagesField := ((← getOr body "pages" .null).orElse (← getOr body "pageNos" .null)).orElse (.int 1)
      let pages ← intOfStr py pagesField
      if pageNo ≥ pages ∨ page.isEmpty then
        return keys ++ more
      else
        listKeysLoop py uid turns (pageNo + 1) (keys ++ more)
    | _ => return keys

/-- The keys of all pages, for which there has to be a login. -/
def TTLockCloud.listKeys (py : Interpreter) (cloud : TTLockCloud) (turns : Nat) : CloudProgram (List VirtualKey) :=
  match cloud.creds with
  | none => do
    throw (← cloudError py (.dict [("errmsg", .str "login() before list_keys()")]))
  | some creds => listKeysLoop py creds.uid turns 1 []

end TtlockBle
