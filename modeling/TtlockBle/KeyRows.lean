import TtlockBle.Code.Cloud
import TtlockBle.Payloads

/-!
# Rows that hide others

`list_keys` skips a row when `from_cloud` raises one of three classes. What escapes from a row that is
no object is of a fourth, and so is what escapes from a `lockVersion` nested too deeply for
`json.loads`.
-/

open TtlockBle.Lib

namespace TtlockBle.KeyRows

open Parsers Payloads Raises Program

/-! ## Rows -/

/-- `json.loads` is reached, and gives up on the nesting of `lockVersion`. -/
structure TooDeep (py : Interpreter) (fields : List (String × Json)) : Prop where
  keyId : ∃ value n, fields.lookup "keyId" = some value ∧ toInt py value = .ok n
  lockId : ∃ value n, fields.lookup "lockId" = some value ∧ toInt py value = .ok n
  lockMac : ∃ value, fields.lookup "lockMac" = some value
  lockVersion : ∃ s, fields.lookup "lockVersion" = some (.str s) ∧ Json.loads py s = .error .recursion

def Readable (py : Interpreter) (row : Json) : Prop := ∃ fields, row = .dict fields ∧ ¬ TooDeep py fields

def accepted (py : Interpreter) (uid : Int) (row : Json) : Option VirtualKey :=
  (VirtualKey.fromCloud py row uid).toOption

/-! ## What a row raises -/

abbrev Caught (e : PyExc) : Prop := e.isMalformedRow

variable {py : Interpreter}

theorem caught_of_value (e : PyExc) (h : IsValueError e) : Caught e := by
  simp only [Caught, PyExc.isMalformedRow, Bool.or_eq_true]
  exact .inr h

theorem getItem_caught (data : Json) (key : String) : Raises Caught (getItem data key) := by
  unfold getItem
  cases data with
  | dict fields =>
    cases h : fields.lookup key with
    | some value => simp [h]
    | none =>
      simp only [h, raises_error]
      rfl
  | _ => exact (raises_error _).mpr rfl

theorem getItem_dict {data value : Json} {key : String} (h : getItem data key = .ok value) :
    ∃ fields, data = .dict fields := by
  cases data with
  | dict fields => exact ⟨fields, rfl⟩
  | _ => cases h

theorem getItem_eq_ok (fields : List (String × Json)) (key : String) (value : Json) :
    getItem (.dict fields) key = .ok value ↔ fields.lookup key = some value := by
  unfold getItem
  cases h : fields.lookup key <;> simp [h]

theorem toInt_int (n : Nat) (h : (Nat.toDigits 10 n).length ≤ maxStrDigits) : toInt py (.int n) = .ok n := by
  have htext : (Json.int n).text py = toString n := by
    simp only [Json.text, Json.repr]
    rfl
  show intOfStr py (.int n) = _
  rw [intOfStr, htext, pyInt, parseInt_toString n h]

theorem intOfStr_caught (value : Json) : Raises Caught (intOfStr py value) :=
  (pyInt_raises _).mono caught_of_value

theorem toInt_caught (value : Json) : Raises Caught (toInt py value) := by
  unfold toInt
  split
  · simp
  · simp
  · exact intOfStr_caught value

theorem decodePassword_caught (field : String) : Raises Caught (decodePassword field) := by
  have hb64 : Raises IsValueError (b64decode field) := by
    unfold b64decode
    split
    · simp
    · split <;> simp
  apply Raises.mono caught_of_value
  unfold decodePassword
  simp only [raises_ite, raises_bind, raises_pure]
  refine ⟨fun _ => trivial, fun _ => ⟨hb64, fun data _ => ⟨decodeAscii_raises data, fun csv _ => ⟨?_, by simp⟩⟩⟩⟩
  exact Raises.mapM fun item _ => by simp [pyInt_raises]

theorem jsonLoads_caught (s : String) :
    Raises Caught (jsonLoads py s) ↔ Json.loads py s ≠ .error .recursion := by
  unfold jsonLoads
  cases Json.loads py s with
  | ok value => simp
  | error e =>
    cases e with
    | recursion => simp [Caught, PyExc.isMalformedRow, PyExc.isValueError, ExcType.isValueError]
    | _ => simpa using caught_of_value _ (isValueError_valueError _)

theorem parseData_caught (raw : Json) :
    Raises Caught (LockVersion.parseData py raw) ↔ ∀ s, raw = .str s → Json.loads py s ≠ .error .recursion := by
  cases raw with
  | str s => simpa [LockVersion.parseData] using jsonLoads_caught s
  | _ => simp [LockVersion.parseData]

/-- Before `get` is reached, the data is known to be a mapping. -/
theorem parse_caught (raw : Json) :
    Raises Caught (LockVersion.parse py raw) ↔ ∀ s, raw = .str s → Json.loads py s ≠ .error .recursion := by
  rw [← parseData_caught]
  unfold LockVersion.parse
  simp only [raises_bind, raises_pure, getItem_caught, intOfStr_caught, true_and, and_iff_left_iff_imp]
  intro _ data _ protocolType hdict
  obtain ⟨fields, rfl⟩ := getItem_dict hdict
  simp [getOr]

theorem fromCloud_dict_caught (fields : List (String × Json)) (uid : Int) :
    Raises Caught (VirtualKey.fromCloud py (.dict fields) uid) ↔ ¬ TooDeep py fields := by
  unfold VirtualKey.fromCloud
  simp only [getOr, ok_bind, raises_bind, raises_pure, getItem_caught, toInt_caught, decodePassword_caught,
    parse_caught, true_and, and_true, getItem_eq_ok, implies_true]
  constructor
  · rintro h ⟨⟨keyId, n, hkeyId, hn⟩, ⟨lockId, m, hlockId, hm⟩, ⟨mac, hmac⟩, s, hversion, hdeep⟩
    exact h _ hversion _ hkeyId _ hn _ hlockId _ hm _ hmac s rfl hdeep
  · rintro h raw hversion keyId hkeyId n hn lockId hlockId m hm mac hmac s rfl hdeep
    exact h ⟨⟨keyId, n, hkeyId, hn⟩, ⟨lockId, m, hlockId, hm⟩, ⟨mac, hmac⟩, s, hversion, hdeep⟩

theorem getOr_uncaught {data : Json} (h : ∀ fields, data ≠ .dict fields) (key : String) (default : Json) :
    ∃ text, getOr data key default = .error ⟨.attributeError, text⟩ := by
  cases data with
  | dict fields => exact absurd rfl (h fields)
  | _ => exact ⟨_, rfl⟩

/-- **What `from_cloud` raises is caught**, where the row is readable and only there. -/
theorem fromCloud_caught (row : Json) (uid : Int) :
    Raises Caught (VirtualKey.fromCloud py row uid) ↔ Readable py row := by
  by_cases hobject : ∃ fields, row = .dict fields
  · obtain ⟨fields, rfl⟩ := hobject
    rw [fromCloud_dict_caught]
    constructor
    · intro h
      exact ⟨fields, rfl, h⟩
    · rintro ⟨fields', heq, h⟩
      obtain rfl := Json.dict.inj heq
      exact h
  · obtain ⟨text, htext⟩ := getOr_uncaught (not_exists.mp hobject) "lockKey" .null
    have hraised : VirtualKey.fromCloud py row uid = .error ⟨.attributeError, text⟩ := by
      unfold VirtualKey.fromCloud
      rw [htext]
      rfl
    rw [hraised, raises_error]
    constructor
    · intro h
      exact absurd h (by simp [Caught, PyExc.isMalformedRow, PyExc.isValueError, ExcType.isValueError])
    · rintro ⟨fields, rfl, -⟩
      exact absurd ⟨fields, rfl⟩ hobject

/-! ## Pages -/

theorem readRows_readable (uid : Int) (page : List Json) (h : ∀ row ∈ page, Readable py row) :
    readRows py uid page = .ok (page.filterMap (accepted py uid)) := by
  induction page with
  | nil => rfl
  | cons row page ih =>
    have hrow := (fromCloud_caught row uid).mpr (h row List.mem_cons_self)
    have hpage := ih fun row' hrow' => h row' (List.mem_cons_of_mem _ hrow')
    unfold readRows
    cases hkey : VirtualKey.fromCloud py row uid with
    | ok key =>
      have haccepted : accepted py uid row = some key := by rw [accepted, hkey]; rfl
      rw [List.filterMap_cons_some haccepted]
      simp only [hpage, ok_bind]
      rfl
    | error e =>
      have haccepted : accepted py uid row = none := by rw [accepted, hkey]; rfl
      rw [List.filterMap_cons_none haccepted]
      simp only [hpage]
      exact if_pos (hrow e hkey)

theorem readRows_escapes (uid : Int) (page : List Json) (h : ∃ row ∈ page, ¬ Readable py row) :
    ∃ e, readRows py uid page = .error e := by
  induction page with
  | nil => simp at h
  | cons row page ih =>
    unfold readRows
    cases hkey : VirtualKey.fromCloud py row uid with
    | ok key =>
      have hrow : Readable py row := (fromCloud_caught row uid).mp (by simp [hkey])
      obtain ⟨e, he⟩ := ih (by simpa [hrow] using h)
      exact ⟨e, by simp only [he]; rfl⟩
    | error e =>
      by_cases hcaught : Caught e
      · have hrow : Readable py row := (fromCloud_caught row uid).mp (by simpa [hkey] using hcaught)
        obtain ⟨e', he'⟩ := ih (by simpa [hrow] using h)
        exact ⟨e', (if_pos hcaught).trans he'⟩
      · exact ⟨e, if_neg hcaught⟩

/-- A successful response with rows, which says how many pages there are. -/
structure SyncPage (py : Interpreter) (count : Nat) where
  response : Response
  body : List (String × Json)
  rows : List Json
  succeeds : checkResponse py response = .ok (.dict body)
  keyInfos : body.lookup "keyInfos" = some (.list rows)
  nonempty : rows ≠ []
  pages : ∃ value, body.lookup "pages" = some value ∧ value.truthy ∧ intOfStr py value = .ok count

/-- The posts of a run, from this page number on. -/
def posts {count : Nat} : Int → List (SyncPage py count) → List (Event CloudOp CloudOp.Answer PyExc)
  | _, [] => []
  | pageNo, page :: pages =>
    ⟨.post "/check/syncDataPage" (syncParams pageNo), .ok page.response⟩ :: posts (pageNo + 1) pages

/-- The keys of the rows that `from_cloud` takes. -/
def acceptedKeys {count : Nat} (uid : Int) (pages : List (SyncPage py count)) : List VirtualKey :=
  pages.flatMap fun page => page.rows.filterMap (accepted py uid)

/-- What a turn does with the rows of a page, after the post. -/
def afterPost (py : Interpreter) (uid : Int) (turns : Nat) (count : Nat) (pageNo : Int) (keys : List VirtualKey)
    (rows : List Json) : CloudProgram (List VirtualKey) := do
  let more ← readRows py uid rows
  if pageNo ≥ count then
    return keys ++ more
  else
    listKeysLoop py uid turns (pageNo + 1) (keys ++ more)

theorem lift_ok_bind {α β : Type} (a : α) (f : α → CloudProgram β) :
    (liftM (.ok a : Py α) : CloudProgram α) >>= f = f a := rfl

theorem listKeysLoop_page {count : Nat} (uid : Int) (turns : Nat) (pageNo : Int) (keys : List VirtualKey)
    (page : SyncPage py count) :
    ∃ next, listKeysLoop py uid (turns + 1) pageNo keys =
        .call (.post "/check/syncDataPage" (syncParams pageNo)) next ∧
      next (.ok page.response) = afterPost py uid turns count pageNo keys page.rows := by
  obtain ⟨value, hvalue, htruthy, hcount⟩ := page.pages
  have hrows : (Json.list page.rows).truthy = true := by
    simpa [Json.truthy] using page.nonempty
  have hempty : page.rows.isEmpty = false := by
    simpa using page.nonempty
  refine ⟨_, rfl, ?_⟩
  show (Program.ofExcept (checkResponse py page.response) : CloudProgram Json) >>= _ = _
  rw [page.succeeds]
  show (liftM (.ok (.dict page.body) : Py Json) : CloudProgram Json) >>= _ = _
  simp only [getOr, page.keyInfos, hvalue, lift_ok_bind, Option.getD_some, Json.orElse, hrows, htruthy, if_true,
    hcount, hempty, Bool.false_eq_true, or_false]
  rfl

/-! ## Runs -/

theorem afterPost_readable {count : Nat} (uid : Int) (turns : Nat) (pageNo : Int) (keys : List VirtualKey)
    (page : SyncPage py count) (h : ∀ row ∈ page.rows, Readable py row) :
    afterPost py uid turns count pageNo keys page.rows =
      if pageNo ≥ count then .ret (keys ++ acceptedKeys uid [page])
      else listKeysLoop py uid turns (pageNo + 1) (keys ++ acceptedKeys uid [page]) := by
  unfold afterPost
  rw [readRows_readable uid page.rows h, lift_ok_bind]
  simp only [acceptedKeys, List.flatMap_singleton]
  rfl

theorem not_runs_escaping {count : Nat} (uid : Int) (turns : Nat) (pageNo : Int) (keys keys' : List VirtualKey)
    (page : SyncPage py count) (h : ∃ row ∈ page.rows, ¬ Readable py row)
    (es : List (Event CloudOp CloudOp.Answer PyExc)) :
    ¬ Runs (afterPost py uid turns count pageNo keys page.rows) es (.ret keys') := by
  obtain ⟨e, he⟩ := readRows_escapes uid page.rows h
  have hraise : afterPost py uid turns count pageNo keys page.rows = .raise e := by
    unfold afterPost
    rw [he]
    rfl
  rw [hraise]
  intro hrun
  cases hrun

/-- From a page on: the step is the turn, and the induction is on the pages that are left. -/
theorem runs_pages_iff {count : Nat} (uid : Int) (pages : List (SyncPage py count)) (hne : pages ≠ []) (turns : Nat)
    (hturns : pages.length ≤ turns) (pageNo : Int) (hlast : pageNo + pages.length = count + 1)
    (keys : List VirtualKey) :
    Runs (listKeysLoop py uid turns pageNo keys) (posts pageNo pages) (.ret (keys ++ acceptedKeys uid pages)) ↔
      ∀ page ∈ pages, ∀ row ∈ page.rows, Readable py row := by
  induction pages generalizing turns pageNo keys with
  | nil => exact absurd rfl hne
  | cons page pages ih =>
    cases turns with
    | zero => simp at hturns
    | succ turns =>
      simp only [List.length_cons] at hturns hlast
      obtain ⟨next, hcall, hnext⟩ := listKeysLoop_page uid turns pageNo keys page
      rw [hcall, posts, runs_call_iff, hnext, List.forall_mem_cons]
      by_cases hpage : ∀ row ∈ page.rows, Readable py row
      · have hkeys : keys ++ acceptedKeys uid (page :: pages) =
            keys ++ acceptedKeys uid [page] ++ acceptedKeys uid pages := by
          simp [acceptedKeys]
        rw [afterPost_readable uid turns pageNo keys page hpage, hkeys, and_iff_right hpage]
        cases pages with
        | nil =>
          rw [if_pos (by simp only [List.length_nil] at hlast; omega)]
          simpa [acceptedKeys, posts] using Runs.done _
        | cons page' pages =>
          rw [if_neg (by simp only [List.length_cons] at hlast; omega)]
          exact ih (by simp) turns (by omega) (pageNo + 1) (by omega) _
      · have hbad : ∃ row ∈ page.rows, ¬ Readable py row := by simpa using hpage
        constructor
        · intro hrun
          exact absurd hrun (not_runs_escaping uid turns pageNo keys _ page hbad _)
        · rintro ⟨h, -⟩
          exact absurd h hpage

/-- **One bad row hides the others** if it is no object, or nested too deeply, and only then. -/
theorem accepted_keys_iff (py : Interpreter) (creds : CloudCredentials) {count : Nat}
    (pages : List (SyncPage py count)) (hne : pages ≠ []) (hcount : pages.length = count) (turns : Nat)
    (hturns : count ≤ turns) :
    Runs (TTLockCloud.listKeys py ⟨some creds⟩ turns) (posts 1 pages) (.ret (acceptedKeys creds.uid pages)) ↔
      ∀ page ∈ pages, ∀ row ∈ page.rows, Readable py row :=
  runs_pages_iff creds.uid pages hne turns (by omega) 1 (by omega) []

/-! ### Rows that escape -/

def testInterpreter : Interpreter := ⟨fun _ => true, id, 1000⟩

/-- `_key_row` of the tests. -/
def keyRow (keyId : Nat) : List (String × Json) :=
  [("keyId", .int keyId), ("lockId", .int (100 + keyId)), ("lockMac", .str "AA:BB:CC:11:22:33"),
    ("lockAlias", .str s!"Door {keyId}"), ("lockName", .str "DLock-XP"),
    ("lockVersion", .dict [("protocolType", .int 5), ("protocolVersion", .int 3), ("scene", .int 2),
      ("groupId", .int 1), ("orgId", .int 1)]),
    ("aesKeyStr", .str "a1,b2,c3,d4,e5,f6,07,18,29,3a,4b,5c,6d,7e,8f,90"), ("lockKey", .str "246813579"),
    ("userType", .str "110301")]

def onlyPage (row : Json) : SyncPage testInterpreter 1 where
  response := ⟨200, "", .ok (.dict [("keyInfos", .list [.dict (keyRow 1), row]), ("pages", .int 1)])⟩
  body := [("keyInfos", .list [.dict (keyRow 1), row]), ("pages", .int 1)]
  rows := [.dict (keyRow 1), row]
  succeeds := rfl
  keyInfos := rfl
  nonempty := by simp
  pages := ⟨.int 1, rfl, rfl, rfl⟩

def testCreds : CloudCredentials := ⟨1, "t", "u"⟩

theorem fromCloud_keyRow :
    ∃ key, VirtualKey.fromCloud testInterpreter (.dict (keyRow 1)) 1 = .ok key ∧ key.keyId = 1 := by
  have hgood : ((VirtualKey.fromCloud testInterpreter (.dict (keyRow 1)) 1).map (·.keyId)).toOption = some 1 := by
    decide +kernel
  cases hkey : VirtualKey.fromCloud testInterpreter (.dict (keyRow 1)) 1 with
  | ok key =>
    rw [hkey] at hgood
    exact ⟨key, rfl, Option.some.inj hgood⟩
  | error e =>
    rw [hkey] at hgood
    cases hgood

theorem accepted_keyRow (row : Json) (h : accepted testInterpreter 1 row = none) :
    (acceptedKeys 1 [onlyPage row]).map (·.keyId) = [1] := by
  obtain ⟨key, hkey, hid⟩ := fromCloud_keyRow
  have haccepted : accepted testInterpreter 1 (.dict (keyRow 1)) = some key := by rw [accepted, hkey]; rfl
  simp [acceptedKeys, onlyPage, haccepted, h, hid]

def malformedRow : Json := .dict [("keyId", .str "x")]

theorem accepted_keys_malformed :
    Runs (TTLockCloud.listKeys testInterpreter ⟨some testCreds⟩ 1) (posts 1 [onlyPage malformedRow])
        (.ret (acceptedKeys 1 [onlyPage malformedRow])) ∧
      (acceptedKeys 1 [onlyPage malformedRow]).map (·.keyId) = [1] := by
  refine ⟨(accepted_keys_iff testInterpreter testCreds [onlyPage malformedRow] (by simp) rfl 1
    (by decide)).mpr ?_, accepted_keyRow _ rfl⟩
  have hgood : Readable testInterpreter (.dict (keyRow 1)) := by
    refine ⟨_, rfl, fun h => ?_⟩
    obtain ⟨s, hs, -⟩ := h.lockVersion
    cases hs
  have hmalformed : Readable testInterpreter malformedRow := by
    refine ⟨_, rfl, fun h => ?_⟩
    obtain ⟨value, hvalue⟩ := h.lockMac
    cases hvalue
  simp [onlyPage, hgood, hmalformed]

theorem runs_onlyPage (row : Json) (rest : CloudProgram (List VirtualKey)) :
    Runs (TTLockCloud.listKeys testInterpreter ⟨some testCreds⟩ 1) (posts 1 [onlyPage row]) rest ↔
      Runs (afterPost testInterpreter 1 0 1 1 [] [.dict (keyRow 1), row]) [] rest := by
  obtain ⟨next, hcall, hnext⟩ := listKeysLoop_page 1 0 1 [] (onlyPage row)
  show Runs (listKeysLoop testInterpreter 1 1 1 []) (posts 1 [onlyPage row]) rest ↔ _
  rw [hcall, posts, runs_call_iff, hnext]
  rfl

theorem null_row_hides :
    (acceptedKeys 1 [onlyPage .null]).map (·.keyId) = [1] ∧
      Runs (TTLockCloud.listKeys testInterpreter ⟨some testCreds⟩ 1) (posts 1 [onlyPage .null])
        (.raise ⟨.attributeError, "'NoneType' object has no attribute 'get'"⟩) ∧
      ¬ Runs (TTLockCloud.listKeys testInterpreter ⟨some testCreds⟩ 1) (posts 1 [onlyPage .null])
        (.ret (acceptedKeys 1 [onlyPage .null])) := by
  have hraised : readRows testInterpreter 1 [.dict (keyRow 1), .null] =
      .error ⟨.attributeError, "'NoneType' object has no attribute 'get'"⟩ := by
    obtain ⟨key, hkey, -⟩ := fromCloud_keyRow
    unfold readRows
    rw [hkey]
    rfl
  have hturn : afterPost testInterpreter 1 0 1 1 [] [.dict (keyRow 1), .null] =
      .raise ⟨.attributeError, "'NoneType' object has no attribute 'get'"⟩ := by
    unfold afterPost
    rw [hraised]
    rfl
  refine ⟨accepted_keyRow _ rfl, ?_, ?_⟩
  · rw [runs_onlyPage, hturn]
    exact .done _
  · rw [runs_onlyPage, hturn]
    intro hrun
    cases hrun

/-- However deep the interpreter may go, there is a row that is too deep for it. -/
theorem nested_not_readable (py : Interpreter) :
    ¬ Readable py (.dict (Json.setField (keyRow 1) "lockVersion"
      (.str (String.ofList (List.replicate (py.nesting + 1) '['))))) := by
  rintro ⟨fields, hfields, h⟩
  obtain rfl := Json.dict.inj hfields
  exact h ⟨⟨_, 1, rfl, toInt_int 1 (by decide)⟩, ⟨_, 101, rfl, toInt_int 101 (by decide)⟩, ⟨_, rfl⟩, _, rfl,
    Json.loads_nested py⟩

end TtlockBle.KeyRows
