import TtlockBle.Code.Account
import TtlockBle.KeyRows
import Mathlib.Data.Prod.Lex
import Mathlib.Data.String.Basic

/-!
# The requests of an account

An observer of the messages knows the install id, the credentials, the address and the place that the next
request has to carry. Whatever methods are called, and whatever they are answered, every request is one that
some call is for, with all of its parameters and headers.
-/

open TtlockBle.Lib

namespace TtlockBle.Account

open Method Program

variable (py : Interpreter) (digests : Digests) (app : CloudApp) (language : String)

/-! ## What the messages tell -/

structure Session where
  uniqueid : Option String
  creds : Option CloudCredentials
  baseUrl : String
  siteId : Int
  countryId : Int

def Session.start : Session := ⟨none, none, rstripSlash app.baseUrl, 0, 0⟩

/-- The country in the answer to a site request. It is read last. -/
def Session.placed (body : Json) (s : Session) : Session :=
  match (getOr body "countryId" .null >>= readId py : Py (Option Int)) with
  | .ok countryId => { s with countryId := countryId.getD s.countryId }
  | .error _ => s

def Session.sited (body : Json) (s : Session) : Session :=
  match (getOr body "siteId" .null >>= readId py : Py (Option Int)) with
  | .ok siteId => Session.placed py body { s with siteId := siteId.getD s.siteId }
  | .error _ => s

/-- All that the answer to a site request tells: the regional address, the site, the country. -/
def Session.moved (body : Json) (s : Session) : Session :=
  match getOr body "apiDomainName" .null with
  | .ok api =>
    Session.sited py body
      (if api.truthy && app.followsRegionalEndpoint then { s with baseUrl := rstripSlash (api.text py) } else s)
  | .error _ => s

def Session.loggedIn (username : String) (body : Json) (s : Session) : Session :=
  match readCredentials py username body with
  | .ok creds => { s with creds := some creds }
  | .error _ => s

/-- What the outcome of a request tells. -/
def Session.heard (request : Request) (outcome : Except Raised Json) (s : Session) : Session :=
  match outcome with
  | .error _ => s
  | .ok body =>
    if request.fullPath = "/lock/user/login" then
      s.loggedIn py ((request.data.lookup "username").getD "") body
    else if request.fullPath = "/lock/system/getCountryAndSiteInfo" then s.moved py app body
    else s

def Session.learn (s : Session) : (op : HttpOp) → Except Raised (HttpOp.Answer op) → Session
  | .loadUniqueid, .ok uniqueid => { s with uniqueid := some uniqueid }
  | .post request, .ok resp => s.heard py app request (readResponse py resp)
  | _, _ => s

/-! ## What a request carries -/

/-- What a request is for. -/
inductive Purpose where
  | login (username password : String) (countryId siteId : Option Int)
  | code (account : String) (channel : Int)
  | device (account verificationCode : String)
  | site
  | page (pageNo : Int)

/-- The call posts such requests. -/
def Call.Wants : Call → Purpose → Prop
  | .login username password countryId siteId, purpose => purpose = .login username password countryId siteId
  | .requestLoginVerificationCode account channel, purpose => purpose = .code account channel
  | .validateNewDevice account verificationCode, purpose => purpose = .device account verificationCode
  | .discoverSite, purpose => purpose = .site
  | .listKeys _, purpose => ∃ pageNo, 1 ≤ pageNo ∧ purpose = .page pageNo

namespace Purpose

def path : Purpose → String
  | login .. => "/user/login"
  | code .. => "/user/sendValidationCode"
  | device .. => "/user/loginNewDeviceValidation"
  | site => "/system/getCountryAndSiteInfo"
  | page _ => "/check/syncDataPage"

/-- The code request speaks a later version. -/
def version : Purpose → String
  | code .. => "2.3"
  | _ => app.version

/-- What a page request tells of the device. -/
def deviceInfo : String :=
  String.ofList (Json.write none 0 (.dict [("appVersion", .str "1.6.0"), ("deviceName", .str "ttlock-ble"),
    ("language", .str language), ("deviceSystemVersion", .str "Linux/macOS"), ("packageName", .str app.packageName)]))

/-- The parameters, but for the two dates. -/
def params (s : Session) (uniqueid : String) : Purpose → Params
  | login username password countryId siteId =>
    [("username", username), ("password", md5Hex digests password), ("platId", "1"), ("uniqueid", uniqueid),
      ("packageName", app.packageName), ("countryId", toString (countryId.getD s.countryId)),
      ("siteId", toString (siteId.getD s.siteId)), ("install", "install:" ++ app.packageName)]
  | code account channel =>
    [("account", account), ("uniqueid", uniqueid), ("codeType", "4"), ("xWidth", "0"), ("channel", toString channel),
      ("language", language), ("siteId", toString s.siteId)]
  | device account verificationCode =>
    [("userid", account), ("uniqueid", uniqueid), ("verificationCode", verificationCode), ("platId", "1"),
      ("countryId", toString s.countryId), ("siteId", toString s.siteId)]
  | site => [("uniqueid", uniqueid)]
  | page pageNo =>
    [("lastUpdateDate", "0"), ("pageNo", toString pageNo), ("userInfo", deviceInfo app language),
      ("uniqueid", uniqueid)]

def isPage : Purpose → Bool
  | page _ => true
  | _ => false

end Purpose

/-- A request that fits its purpose and what is known. A server that gets the data in any order computes the same
signature. -/
structure Fits (s : Session) (purpose : Purpose) (uniqueid : String) (date d : Int) (request : Request) : Prop where
  installed : s.uniqueid = some uniqueid
  baseUrl : request.baseUrl = s.baseUrl
  pinned : app.followsRegionalEndpoint = false → request.baseUrl = rstripSlash app.baseUrl
  fullPath : request.fullPath = "/lock" ++ purpose.path
  data : request.data = purpose.params digests app language s uniqueid ++ [("date", toString date), ("d", toString d)]
  appid : request.headers.lookup "appid" = some app.appId
  appSecret : request.headers.lookup "appSecret" = some app.appSecret
  version : request.headers.lookup "version" = some (purpose.version app)
  platform : request.headers.lookup "platform" = some app.platform
  language : request.headers.lookup "language" = some language
  packageName : request.headers.lookup "packageName" = some app.packageName
  date : request.headers.lookup "date" = some (toString date)
  uniqueid : request.headers.lookup "uniqueid" = some uniqueid
  signature : ∀ data, data.Perm request.data →
    request.headers.lookup "signature" = some (signRequest digests app.appId app.appSecret request.fullPath data)
  refer : request.headers.lookup "refer" = some "0"
  userAgent : request.headers.lookup "User-Agent" =
    some "Mozilla/5.0 (Linux; Android 14; ttlock-ble) AppleWebKit/537.36"
  accessToken : request.headers.lookup "accessToken" = some ((s.creds.map (·.accessToken)).getD "")
  operatorUid : request.headers.lookup "operatorUid" = some ((s.creds.map fun creds => toString creds.uid).getD "")
  loggedIn : purpose.isPage → s.creds.isSome

/-- A request for something that is wanted. -/
def InOrder (wanted : Purpose → Prop) (s : Session) (request : Request) : Prop :=
  ∃ purpose uniqueid date d, wanted purpose ∧ Fits digests app language s purpose uniqueid date d request

/-- The observer. The install id is asked for once. -/
def observer (wanted : Purpose → Prop) : Monitor HttpOp HttpOp.Answer Raised Session where
  allows s
    | .loadUniqueid => s.uniqueid = none
    | .now => True
    | .post request => InOrder digests app language wanted s request
  admits _ _ _ := True
  next s op r := s.learn py app op r

/-! ## What the client knows -/

structure Tracks (s : Session) (cloud : TTLockCloud) : Prop where
  appId : cloud.appId = app.appId
  appSecret : cloud.appSecret = app.appSecret
  packageName : cloud.packageName = app.packageName
  version : cloud.version = app.version
  platform : cloud.platform = app.platform
  language : cloud.language = language
  follows : cloud.followsRegionalEndpoint = app.followsRegionalEndpoint
  baseUrl : cloud.baseUrl = s.baseUrl
  pinned : app.followsRegionalEndpoint = false → s.baseUrl = rstripSlash app.baseUrl
  creds : cloud.creds = s.creds
  siteId : cloud.siteId = s.siteId
  countryId : cloud.countryId = s.countryId
  uniqueid : cloud.uniqueid = s.uniqueid

/-! ## Parameters -/

theorem lookup_setDefault (params : Params) (key value k : String) :
    (setDefault params key value).lookup k =
      if k = key then some ((params.lookup key).getD value) else params.lookup k := by
  unfold setDefault
  cases h : params.lookup key with
  | some v =>
    rw [if_pos (by simp)]
    split_ifs with hk
    · rw [hk, h]
      rfl
    · rfl
  | none =>
    rw [if_neg (by simp)]
    have happend (l : Params) :
        (l ++ [(key, value)]).lookup k = (l.lookup k).or (if k = key then some value else none) := by
      induction l with
      | nil =>
        rw [List.nil_append, List.lookup_cons, List.lookup_nil, Option.none_or]
        by_cases hk : k = key
        · rw [if_pos hk, beq_iff_eq.mpr hk]
        · rw [if_neg hk, beq_eq_false_iff_ne.mpr hk]
      | cons kv l ih =>
        rw [List.cons_append, List.lookup_cons, List.lookup_cons, ih]
        cases k == kv.1 <;> rfl
    rw [happend]
    split_ifs with hk
    · rw [hk, h]
      rfl
    · cases params.lookup k <;> rfl

/-- The parameters that `_post` sends. -/
def dated (params : Params) (date d : Int) : Params :=
  setDefault (setDefault params "date" (toString date)) "d" (toString d)

theorem lookup_dated (params : Params) (date d : Int) (k : String) (hdate : k ≠ "date") (hd : k ≠ "d") :
    (dated params date d).lookup k = params.lookup k := by
  unfold dated
  rw [lookup_setDefault, if_neg hd, lookup_setDefault, if_neg hdate]

theorem dated_eq {params : Params} (hdate : params.lookup "date" = none) (hd : params.lookup "d" = none)
    (date d : Int) :
    dated params date d = params ++ [("date", toString date), ("d", toString d)] := by
  have hd' : (setDefault params "date" (toString date)).lookup "d" = none := by
    rw [lookup_setDefault, if_neg (by decide), hd]
  unfold dated
  rw [setDefault, hd', setDefault, hdate]
  simp

theorem pairLe_iff (a b : String × String) : pairLe a b ↔ toLex a ≤ toLex b := Prod.Lex.toLex_le_toLex.symm

instance : Std.Total pairLe where
  total a b := by
    rw [pairLe_iff, pairLe_iff]
    exact le_total (toLex a) (toLex b)

instance : IsTrans (String × String) pairLe where
  trans a b c := by
    rw [pairLe_iff, pairLe_iff, pairLe_iff]
    exact le_trans

theorem insertionSort_perm {params params' : Params} (h : params.Perm params') :
    params.insertionSort pairLe = params'.insertionSort pairLe := by
  have hperm : (params.insertionSort pairLe).Perm (params'.insertionSort pairLe) :=
    (List.perm_insertionSort pairLe params).trans (h.trans (List.perm_insertionSort pairLe params').symm)
  apply hperm.eq_of_pairwise _ (List.pairwise_insertionSort pairLe params) (List.pairwise_insertionSort pairLe params')
  intro a b _ _ hab hba
  rw [pairLe_iff] at hab hba
  exact toLex.injective (le_antisymm hab hba)

theorem signRequest_perm (appId appSecret path : String) {params params' : Params} (h : params.Perm params') :
    signRequest digests appId appSecret path params = signRequest digests appId appSecret path params' := by
  unfold signRequest signedText
  rw [insertionSort_perm h]

/-! ## Rules -/

section Rules

variable {py : Interpreter} {digests : Digests} {σ : Type} {M : Monitor HttpOp HttpOp.Answer Raised σ}
  {P : σ → TTLockCloud → Prop}

theorem asyncUniqueid_rule {Q : σ → TTLockCloud → Except Raised String → Prop}
    (hknown : ∀ s t uniqueid, P s t → t.uniqueid = some uniqueid → Q s t (.ok uniqueid))
    (hload : ∀ s t, P s t → t.uniqueid = none → M.allows s .loadUniqueid ∧ ∀ r, M.admits s .loadUniqueid r →
      (∀ e, r = .error e → Q (M.next s .loadUniqueid r) t (.error e)) ∧
        ∀ uniqueid, r = .ok uniqueid →
          Q (M.next s .loadUniqueid r) { t with uniqueid := some uniqueid } (.ok uniqueid)) :
    Triple M P asyncUniqueid Q := by
  unfold asyncUniqueid
  apply triple_get_bind
  intro cloud
  cases huniqueid : cloud.uniqueid with
  | some uniqueid =>
    apply triple_pure
    rintro s _ ⟨hP, rfl⟩
    exact hknown s _ uniqueid hP huniqueid
  | none =>
    apply triple_bind (R := fun s t x => (∀ e, x = .error e → Q s t (.error e)) ∧
      ∀ uniqueid, x = .ok uniqueid → Q s { t with uniqueid := some uniqueid } (.ok uniqueid))
    · apply triple_perform
      rintro s _ ⟨hP, rfl⟩
      exact hload s _ hP huniqueid
    · intro uniqueid
      apply triple_bind (R := fun s t x => Q s t (.ok uniqueid) ∧ x = .ok ())
      · exact triple_modify fun s t h => ⟨h.2 uniqueid rfl, rfl⟩
      · exact fun _ => triple_pure fun s t h => h.1
      · rintro s t e ⟨-, hcontra⟩
        cases hcontra
    · exact fun s t e h => h.1 e rfl

/-- The one request of `_post`. `R` is what is known once the install id is. -/
theorem post_rule {path : String} {params : Params} {version : Option String} {R : String → σ → TTLockCloud → Prop}
    {Q : σ → TTLockCloud → Except Raised Json → Prop}
    (huniqueid : Triple M P asyncUniqueid fun s t x => (∀ e, x = .error e → Q s t (.error e)) ∧
      ∀ uniqueid, x = .ok uniqueid → R uniqueid s t)
    (hnow : ∀ uniqueid s t, R uniqueid s t → M.allows s .now ∧ ∀ r, M.admits s .now r →
      (∀ e, r = .error e → Q (M.next s .now r) t (.error e)) ∧ ∀ n, r = .ok n → R uniqueid (M.next s .now r) t)
    (hpost : ∀ uniqueid s t date d, R uniqueid s t →
      let request := t.request digests uniqueid path (dated params date d) version
      M.allows s (.post request) ∧ ∀ r, M.admits s (.post request) r →
        (∀ e, r = .error e → Q (M.next s (.post request) r) t (.error e)) ∧
          ∀ resp, r = .ok resp → Q (M.next s (.post request) r) t (readResponse py resp)) :
    Triple M P (post py digests path params version) Q := by
  have hclock (uniqueid : String) : Triple M (R uniqueid) now fun s t x => (∀ e, x = .error e → Q s t (.error e)) ∧
      ∀ n, x = .ok n → R uniqueid s t := triple_perform (hnow uniqueid)
  unfold post
  apply triple_bind huniqueid _ fun s t e h => h.1 e rfl
  intro uniqueid
  apply triple_bind ((hclock uniqueid).conseq (fun s t h => h.2 uniqueid rfl) fun _ _ _ h => h) _
    fun s t e h => h.1 e rfl
  intro date
  apply triple_bind ((hclock uniqueid).conseq (fun s t h => h.2 date rfl) fun _ _ _ h => h) _ fun s t e h => h.1 e rfl
  intro d
  apply triple_get_bind
  intro cloud
  apply triple_bind (R := fun s t x => (∀ e, x = .error e → Q s t (.error e)) ∧
    ∀ resp, x = .ok resp → Q s t (readResponse py resp))
  · apply triple_perform
    rintro s _ ⟨⟨-, hR⟩, rfl⟩
    exact hpost uniqueid s _ date d (hR d rfl)
  · exact fun resp => triple_ofExcept fun s t h => h.2 resp rfl
  · exact fun s t e h => h.1 e rfl

end Rules

/-! ## Methods -/

section Triples

variable {py digests app language} {wanted : Purpose → Prop}

/-- What is known, with the credentials that a method finds. -/
def At (app : CloudApp) (language : String) (creds : Option CloudCredentials) (s : Session)
    (cloud : TTLockCloud) : Prop :=
  Tracks app language s cloud ∧ cloud.creds = creds

/-- The same, and the install id has been loaded. -/
def Ready (app : CloudApp) (language : String) (creds : Option CloudCredentials) (uniqueid : String) (s : Session)
    (cloud : TTLockCloud) : Prop :=
  At app language creds s cloud ∧ s.uniqueid = some uniqueid

theorem asyncUniqueid_triple (creds : Option CloudCredentials) :
    Triple (observer py digests app language wanted) (At app language creds) asyncUniqueid fun s cloud x =>
      At app language creds s cloud ∧ ∀ uniqueid, x = .ok uniqueid → s.uniqueid = some uniqueid := by
  apply asyncUniqueid_rule
  · intro s cloud uniqueid hat huniqueid
    exact ⟨hat, fun _ h => Except.ok.inj h ▸ hat.1.uniqueid.symm.trans huniqueid⟩
  · intro s cloud hat huniqueid
    refine ⟨hat.1.uniqueid.symm.trans huniqueid, fun r _ => ⟨?_, ?_⟩⟩
    · rintro e rfl
      exact ⟨hat, by rintro _ ⟨⟩⟩
    · rintro uniqueid rfl
      exact ⟨⟨{ hat.1 with uniqueid := rfl }, hat.2⟩, fun _ h => Except.ok.inj h ▸ rfl⟩

theorem asyncUniqueid_ready (creds : Option CloudCredentials) (uniqueid : String) (F : Session → Prop) :
    Triple (observer py digests app language wanted) (fun s cloud => Ready app language creds uniqueid s cloud ∧ F s)
      asyncUniqueid fun s cloud x => (Ready app language creds uniqueid s cloud ∧ F s) ∧ x = .ok uniqueid := by
  apply asyncUniqueid_rule
  · intro s cloud found hready hfound
    refine ⟨hready, congrArg _ ?_⟩
    rw [hready.1.1.1.uniqueid, hready.1.2] at hfound
    exact (Option.some.inj hfound).symm
  · intro s cloud hready hnone
    rw [hready.1.1.1.uniqueid, hready.1.2] at hnone
    cases hnone

/-- What stands behind a request: its outcome has been heard. -/
def Heard (py : Interpreter) (app : CloudApp) (language : String) (creds : Option CloudCredentials)
    (uniqueid path : String) (params : Params) (s : Session) (cloud : TTLockCloud)
    (outcome : Except Raised Json) : Prop :=
  ∃ s₀ request, Ready app language creds uniqueid s₀ cloud ∧ request.fullPath = "/lock" ++ path ∧
    (∀ k, k ≠ "date" → k ≠ "d" → request.data.lookup k = params.lookup k) ∧ s = s₀.heard py app request outcome

theorem heard_error {creds : Option CloudCredentials} {uniqueid path : String} {params : Params} {s : Session}
    {cloud : TTLockCloud} {e : Raised} (h : Heard py app language creds uniqueid path params s cloud (.error e)) :
    Ready app language creds uniqueid s cloud := by
  obtain ⟨s₀, request, hready, -, -, rfl⟩ := h
  exact hready

/-- A request for this purpose is due, and these are its parameters. -/
def Due (digests : Digests) (app : CloudApp) (language : String) (creds : Option CloudCredentials)
    (uniqueid : String) (purpose : Purpose) (params : Params) (s : Session) (cloud : TTLockCloud) : Prop :=
  Ready app language creds uniqueid s cloud ∧ params = purpose.params digests app language s uniqueid

variable (digests app language) in
theorem params_undated (s : Session) (uniqueid : String) (purpose : Purpose) :
    (purpose.params digests app language s uniqueid).lookup "date" = none ∧
      (purpose.params digests app language s uniqueid).lookup "d" = none := by
  cases purpose <;> exact ⟨rfl, rfl⟩

theorem request_fits {creds : Option CloudCredentials} {s : Session} {cloud : TTLockCloud} {uniqueid : String}
    {purpose : Purpose} {params : Params} {version : Option String}
    (hdue : Due digests app language creds uniqueid purpose params s cloud)
    (hversion : version.getD app.version = purpose.version app) (hcreds : purpose.isPage → creds.isSome)
    (date d : Int) :
    Fits digests app language s purpose uniqueid date d
      (cloud.request digests uniqueid purpose.path (dated params date d) version) := by
  obtain ⟨⟨⟨htracks, rfl⟩, hknown⟩, rfl⟩ := hdue
  obtain ⟨hdate, hd⟩ := params_undated digests app language s uniqueid purpose
  have hdata := dated_eq hdate hd date d
  constructor
  case installed => exact hknown
  case baseUrl => exact htracks.baseUrl
  case pinned => exact fun h => htracks.baseUrl.trans (htracks.pinned h)
  case fullPath => rfl
  case data => exact hdata
  case appid => exact congrArg some htracks.appId
  case appSecret => exact congrArg some htracks.appSecret
  case version =>
    show some (version.getD cloud.version) = _
    rw [htracks.version, hversion]
  case platform => exact congrArg some htracks.platform
  case language => exact congrArg some htracks.language
  case packageName => exact congrArg some htracks.packageName
  case date =>
    show some (((dated _ date d).lookup "date").getD "") = _
    unfold dated
    rw [lookup_setDefault, if_neg (by decide), lookup_setDefault, if_pos rfl, hdate]
    rfl
  case uniqueid => rfl
  case signature =>
    intro data hperm
    rw [signRequest_perm digests app.appId app.appSecret _ hperm, ← htracks.appId, ← htracks.appSecret]
    rfl
  case refer => rfl
  case userAgent => rfl
  case accessToken =>
    rw [← htracks.creds]
    rfl
  case operatorUid =>
    rw [← htracks.creds]
    rfl
  case loggedIn =>
    rw [← htracks.creds]
    exact hcreds

theorem post_triple (creds : Option CloudCredentials) (uniqueid : String) (purpose : Purpose) (params : Params)
    (version : Option String) (hwanted : wanted purpose) (hversion : version.getD app.version = purpose.version app)
    (hcreds : purpose.isPage → creds.isSome) :
    Triple (observer py digests app language wanted) (Due digests app language creds uniqueid purpose params)
      (post py digests purpose.path params version) (Heard py app language creds uniqueid purpose.path params) := by
  have hraised (s : Session) (cloud : TTLockCloud) (e : Raised) (hready : Ready app language creds uniqueid s cloud) :
      Heard py app language creds uniqueid purpose.path params s cloud (.error e) :=
    ⟨s, { baseUrl := "", fullPath := "/lock" ++ purpose.path, data := params, headers := [] }, hready, rfl,
      fun _ _ _ => rfl, rfl⟩
  apply post_rule (R := fun found s cloud =>
    Due digests app language creds uniqueid purpose params s cloud ∧ found = uniqueid)
  · apply (asyncUniqueid_ready creds uniqueid _).conseq fun _ _ h => h
    rintro s cloud x ⟨hdue, rfl⟩
    exact ⟨by rintro e ⟨⟩, fun found h => ⟨hdue, (Except.ok.inj h).symm⟩⟩
  · intro found s cloud h
    exact ⟨trivial, fun r _ => ⟨fun e _ => hraised s cloud e h.1.1, fun _ _ => h⟩⟩
  · rintro found s cloud date d ⟨hdue, rfl⟩
    refine ⟨⟨purpose, found, date, d, hwanted, request_fits hdue hversion hcreds date d⟩, fun r _ => ⟨?_, ?_⟩⟩
    · rintro e rfl
      exact hraised s cloud e hdue.1
    · rintro resp rfl
      exact ⟨s, _, hdue.1, rfl, lookup_dated params date d, rfl⟩

/-- The client knows at the end what the messages tell. -/
def Keeps {α : Type} (py : Interpreter) (digests : Digests) (app : CloudApp) (language : String)
    (wanted : Purpose → Prop) (m : CloudMethod α) : Prop :=
  Triple (observer py digests app language wanted) (Tracks app language) m fun s cloud _ => Tracks app language s cloud

theorem keeps_of_at {α : Type} {m : CloudMethod α}
    (h : ∀ creds, Triple (observer py digests app language wanted) (At app language creds) m
      fun s cloud _ => Tracks app language s cloud) : Keeps py digests app language wanted m :=
  fun s cloud htracks => h cloud.creds s cloud ⟨htracks, rfl⟩

theorem uniqueid_get_triple {α : Type} (creds : Option CloudCredentials) (f : String → TTLockCloud → CloudMethod α)
    {Q : Session → TTLockCloud → Except Raised α → Prop}
    (hf : ∀ uniqueid cloud, Triple (observer py digests app language wanted)
      (fun s t => Ready app language creds uniqueid s t ∧ t = cloud) (f uniqueid cloud) Q)
    (herror : ∀ s cloud e, At app language creds s cloud → Q s cloud (.error e)) :
    Triple (observer py digests app language wanted) (At app language creds)
      (asyncUniqueid >>= fun uniqueid => Method.get >>= fun cloud => f uniqueid cloud) Q := by
  apply triple_bind (asyncUniqueid_triple creds)
  · intro uniqueid
    apply triple_get_bind
    intro cloud
    exact (hf uniqueid cloud).conseq (fun _ _ h => ⟨⟨h.1.1, h.1.2 uniqueid rfl⟩, h.2⟩) fun _ _ _ h => h
  · rintro s cloud e ⟨hat, -⟩
    exact herror s cloud e hat

theorem heard_other {creds : Option CloudCredentials} {uniqueid path : String} {params : Params} {s : Session}
    {cloud : TTLockCloud} {outcome : Except Raised Json} (hlogin : path ≠ "/user/login")
    (hsite : path ≠ "/system/getCountryAndSiteInfo")
    (h : Heard py app language creds uniqueid path params s cloud outcome) :
    Ready app language creds uniqueid s cloud := by
  obtain ⟨s₀, request, hready, hpath, -, rfl⟩ := h
  cases outcome with
  | error e => exact hready
  | ok body =>
    have hnotLogin : "/lock" ++ path ≠ "/lock/user/login" := fun h => hlogin (String.append_right_inj "/lock" |>.mp h)
    have hnotSite : "/lock" ++ path ≠ "/lock/system/getCountryAndSiteInfo" :=
      fun h => hsite (String.append_right_inj "/lock" |>.mp h)
    unfold Session.heard
    simp only [hpath, if_neg hnotLogin, if_neg hnotSite]
    exact hready

theorem requestLoginVerificationCode_keeps (account : String) (channel : Int)
    (hwanted : wanted (.code account channel)) :
    Keeps py digests app language wanted (requestLoginVerificationCode py digests account channel) := by
  apply keeps_of_at
  intro creds
  apply uniqueid_get_triple creds
  · intro uniqueid cloud
    apply (post_triple creds uniqueid (.code account channel) _ _ hwanted rfl nofun).conseq
    · rintro s _ ⟨hready, rfl⟩
      refine ⟨hready, ?_⟩
      simp only [Purpose.params, hready.1.1.language, hready.1.1.siteId]
      rfl
    · exact fun s cloud x h => (heard_other (show "/user/sendValidationCode" ≠ _ by decide)
        (show "/user/sendValidationCode" ≠ _ by decide) h).1.1
  · exact fun s cloud e h => h.1

theorem validateNewDevice_keeps (account verificationCode : String)
    (hwanted : wanted (.device account verificationCode)) :
    Keeps py digests app language wanted (validateNewDevice py digests account verificationCode) := by
  apply keeps_of_at
  intro creds
  apply uniqueid_get_triple creds
  · intro uniqueid cloud
    apply (post_triple creds uniqueid (.device account verificationCode) _ _ hwanted rfl nofun).conseq
    · rintro s _ ⟨hready, rfl⟩
      refine ⟨hready, ?_⟩
      simp only [Purpose.params, hready.1.1.countryId, hready.1.1.siteId]
    · exact fun s cloud x h => (heard_other (show "/user/loginNewDeviceValidation" ≠ _ by decide)
        (show "/user/loginNewDeviceValidation" ≠ _ by decide) h).1.1
  · exact fun s cloud e h => h.1

theorem login_keeps (username password : String) (countryId siteId : Option Int)
    (hwanted : wanted (.login username password countryId siteId)) :
    Keeps py digests app language wanted (login py digests username password countryId siteId) := by
  apply keeps_of_at
  intro creds
  apply uniqueid_get_triple creds
  · intro uniqueid cloud
    have hdue : ∀ s t, Ready app language creds uniqueid s t ∧ t = cloud → Due digests app language creds uniqueid
        (.login username password countryId siteId)
        (loginParams digests cloud uniqueid username password countryId siteId) s t := by
      rintro s _ ⟨hready, rfl⟩
      refine ⟨hready, ?_⟩
      simp only [Purpose.params, loginParams, hready.1.1.packageName, hready.1.1.countryId, hready.1.1.siteId]
    apply triple_bind ((post_triple creds uniqueid (.login username password countryId siteId) _ none hwanted rfl
      nofun).conseq hdue fun _ _ _ h => h)
    · intro body
      have hheard (s : Session) (cloud' : TTLockCloud) (h : Heard py app language creds uniqueid "/user/login"
          (loginParams digests cloud uniqueid username password countryId siteId) s cloud' (.ok body)) :
          ∃ s₀, At app language creds s₀ cloud' ∧ s = s₀.loggedIn py username body := by
        obtain ⟨s₀, request, hready, hpath, hlookup, rfl⟩ := h
        refine ⟨s₀, hready.1, ?_⟩
        have hlogin : request.fullPath = "/lock/user/login" := hpath
        simp only [Session.heard, if_pos hlogin, hlookup "username" (by decide) (by decide)]
        rfl
      cases hcredentials : readCredentials py username body with
      | error e =>
        apply triple_bind (R := fun s cloud x => Tracks app language s cloud ∧ x = .error e)
        · apply triple_ofExcept
          intro s cloud h
          obtain ⟨s₀, hat, rfl⟩ := hheard s cloud h
          unfold Session.loggedIn
          rw [hcredentials]
          exact ⟨hat.1, rfl⟩
        · intro found
          rintro s cloud ⟨-, hcontra⟩
          cases hcontra
        · exact fun s cloud e h => h.1
      | ok found =>
        apply triple_bind (R := fun s cloud x => (∃ s₀, At app language creds s₀ cloud ∧
          s = { s₀ with creds := some found }) ∧ x = .ok found)
        · apply triple_ofExcept
          intro s cloud h
          obtain ⟨s₀, hat, rfl⟩ := hheard s cloud h
          unfold Session.loggedIn
          rw [hcredentials]
          exact ⟨⟨s₀, hat, rfl⟩, rfl⟩
        · intro found'
          apply triple_bind (R := fun s cloud _ => Tracks app language s cloud)
          · apply triple_modify
            rintro s cloud ⟨⟨s₀, hat, rfl⟩, hfound⟩
            obtain rfl := Except.ok.inj hfound
            exact { hat.1 with creds := rfl }
          · exact fun _ => triple_pure fun _ _ h => h
          · exact fun _ _ _ h => h
        · rintro s cloud e ⟨-, hcontra⟩
          cases hcontra
    · exact fun s cloud e h => (heard_error h).1.1
  · exact fun s cloud e h => h.1

theorem lift_keeps {α : Type} (x : Except Raised α) : Keeps py digests app language wanted (Method.ofExcept x) :=
  triple_ofExcept fun _ _ h => h

theorem bind_keeps {α β : Type} {m : CloudMethod α} {f : α → CloudMethod β}
    (hm : Keeps py digests app language wanted m) (hf : ∀ a, Keeps py digests app language wanted (f a)) :
    Keeps py digests app language wanted (m >>= f) :=
  triple_bind hm hf fun _ _ _ h => h

/-- The client still has to learn what `f` tells. -/
def Behind (app : CloudApp) (language : String) (f : Session → Session) (s : Session) (cloud : TTLockCloud) : Prop :=
  ∃ s₀, Tracks app language s₀ cloud ∧ s = f s₀

/-- The client reads one field and keeps what it says. What a field that raises would tell is nothing. -/
theorem learn_triple {α β : Type} (x : Py α) {g : α → TTLockCloud → TTLockCloud} {f : Session → Session}
    (f' : Session → Session) {k : α → CloudMethod β} (herror : ∀ e s, x = .error e → f s = s)
    (hok : ∀ a s cloud, x = .ok a → Tracks app language s cloud → ∃ s',
      Tracks app language s' (g a cloud) ∧ f s = f' s')
    (hk : ∀ a, Triple (observer py digests app language wanted) (Behind app language f') (k a)
      fun s cloud _ => Tracks app language s cloud) :
    Triple (observer py digests app language wanted) (Behind app language f)
      (Method.ofExcept (ofPy x) >>= fun a => Method.modify (g a) >>= fun _ => k a)
      fun s cloud _ => Tracks app language s cloud := by
  cases x with
  | error e =>
    apply triple_ofExcept_bind
    · rintro a ⟨⟩
    · rintro _ - _ cloud ⟨s, htracks, rfl⟩
      rwa [herror e s rfl]
  | ok a =>
    apply triple_ofExcept_bind
    · rintro _ ⟨⟩
      apply triple_bind (R := fun s cloud x => Behind app language f' s cloud ∧ x = .ok ())
      · apply triple_modify
        rintro _ cloud ⟨s, htracks, rfl⟩
        obtain ⟨s', htracks', heq⟩ := hok a s cloud rfl htracks
        exact ⟨⟨s', htracks', heq⟩, rfl⟩
      · exact fun _ => (hk a).conseq (fun _ _ h => h.1) fun _ _ _ h => h
      · rintro s cloud e ⟨-, hcontra⟩
        cases hcontra
    · rintro e ⟨⟩

theorem discoverSite_keeps (hwanted : wanted .site) :
    Keeps py digests app language wanted (discoverSite py digests) := by
  apply keeps_of_at
  intro creds
  unfold discoverSite
  apply triple_bind (asyncUniqueid_triple creds) _ fun s cloud e h => h.1.1
  intro uniqueid
  apply triple_bind ((post_triple creds uniqueid .site [("uniqueid", uniqueid)] none hwanted rfl nofun).conseq
    (fun _ _ h => ⟨⟨h.1, h.2 uniqueid rfl⟩, rfl⟩) fun _ _ _ h => h) _
    fun s cloud e h => (heard_error h).1.1
  intro body
  have hbehind : ∀ s cloud, Heard py app language creds uniqueid Purpose.site.path [("uniqueid", uniqueid)] s cloud
      (.ok body) → Behind app language (Session.moved py app body) s cloud := by
    rintro s cloud ⟨s₀, request, hready, hpath, -, rfl⟩
    have hnotLogin : request.fullPath ≠ "/lock/user/login" := by rw [hpath]; decide
    have hsite : request.fullPath = "/lock/system/getCountryAndSiteInfo" := hpath
    refine ⟨s₀, hready.1.1, ?_⟩
    simp only [Session.heard, if_neg hnotLogin, if_pos hsite]
  refine Triple.conseq ?_ hbehind fun _ _ _ h => h
  apply learn_triple (getOr body "apiDomainName" .null) (Session.sited py body)
  · intro e s hx
    unfold Session.moved
    rw [hx]
  · intro api s cloud hx htracks
    unfold Session.moved
    simp only [hx, htracks.follows]
    refine ⟨_, ?_, rfl⟩
    split
    next hmoves =>
      refine { htracks with baseUrl := rfl, follows := rfl, pinned := fun hpinned => ?_ }
      rw [hpinned, Bool.and_false] at hmoves
      cases hmoves
    next => exact htracks
  intro api
  apply learn_triple (getOr body "siteId" .null >>= readId py) (Session.placed py body)
  · intro e s hx
    unfold Session.sited
    rw [hx]
  · intro siteId s cloud hx htracks
    unfold Session.sited
    rw [hx]
    refine ⟨{ s with siteId := siteId.getD s.siteId }, { htracks with siteId := ?_ }, rfl⟩
    exact congrArg siteId.getD htracks.siteId
  intro siteId
  apply learn_triple (getOr body "countryId" .null >>= readId py) id
  · intro e s hx
    unfold Session.placed
    rw [hx]
  · intro countryId s cloud hx htracks
    unfold Session.placed
    rw [hx]
    refine ⟨{ s with countryId := countryId.getD s.countryId }, { htracks with countryId := ?_ }, rfl⟩
    exact congrArg countryId.getD htracks.countryId
  intro countryId
  apply triple_pure
  rintro _ cloud ⟨s, htracks, rfl⟩
  exact htracks

/-- A turn posts and lifts, and leaves the credentials that `list_keys` found. -/
theorem listKeysLoop_triple (hwanted : ∀ pageNo, 1 ≤ pageNo → wanted (.page pageNo)) (creds : CloudCredentials)
    (uid : Int) {userInfo : String} (huserInfo : userInfo = Purpose.deviceInfo app language) (uniqueid : String)
    (turns : Nat) (pageNo : Int) (hpageNo : 1 ≤ pageNo) (keys : List VirtualKey) :
    Triple (observer py digests app language wanted)
      (Ready app language (some creds) uniqueid)
      (listKeysLoop py digests uid userInfo uniqueid turns pageNo keys)
      fun s cloud _ => Tracks app language s cloud := by
  have hweaken : ∀ s cloud, Ready app language (some creds) uniqueid s cloud → Tracks app language s cloud :=
    fun _ _ h => h.1.1
  induction turns generalizing pageNo keys with
  | zero => exact fun _ _ _ => trivial
  | succ turns ih =>
    unfold listKeysLoop
    refine triple_bind_inv ((post_triple (some creds) uniqueid (.page pageNo) (syncPageParams userInfo uniqueid pageNo)
      none (hwanted pageNo hpageNo) rfl fun _ => rfl).conseq (fun _ _ h => ⟨h, ?_⟩) fun s cloud x h =>
        heard_other (show "/check/syncDataPage" ≠ _ by decide) (show "/check/syncDataPage" ≠ _ by decide) h)
      (fun body => ?_) hweaken
    · rw [huserInfo]
      rfl
    refine triple_bind_inv triple_ofExcept_inv (fun keyInfos => ?_) hweaken
    refine triple_bind_inv triple_ofExcept_inv (fun keyList => ?_) hweaken
    cases (keyInfos.orElse keyList).orElse (.list []) with
    | list page =>
      refine triple_bind_inv triple_ofExcept_inv (fun more => ?_) hweaken
      refine triple_bind_inv triple_ofExcept_inv (fun pages => ?_) hweaken
      refine triple_bind_inv triple_ofExcept_inv (fun pageNos => ?_) hweaken
      refine triple_bind_inv triple_ofExcept_inv (fun count => ?_) hweaken
      exact triple_ite (fun _ => triple_pure hweaken) fun _ => ih _ (by omega) _
    | _ => exact triple_pure hweaken

theorem listKeys_keeps (hwanted : ∀ pageNo, 1 ≤ pageNo → wanted (.page pageNo)) (turns : Nat) :
    Keeps py digests app language wanted (listKeys py digests turns) := by
  apply triple_get_bind
  intro cloud
  cases hcreds : cloud.creds with
  | none => exact triple_bind_inv triple_ofExcept_inv (fun e => triple_throw fun s t h => h.1) fun s t h => h.1
  | some found =>
    intro s t hfound
    obtain ⟨htracks, rfl⟩ := hfound
    have huserInfo : userInfo t = Purpose.deviceInfo app language := by
      unfold userInfo Purpose.deviceInfo
      rw [htracks.language, htracks.packageName]
    apply triple_bind (asyncUniqueid_triple (some found)) _ (fun s t e h => h.1.1) s t ⟨htracks, hcreds⟩
    intro uniqueid
    exact (listKeysLoop_triple hwanted found _ huserInfo uniqueid turns 1 (by decide) []).conseq
      (fun _ _ h => ⟨h.1, h.2 uniqueid rfl⟩) fun _ _ _ h => h

theorem discard_keeps {α : Type} {m : CloudMethod α} (hm : Keeps py digests app language wanted m) :
    Keeps py digests app language wanted (discard m) := bind_keeps hm fun _ => lift_keeps _

theorem run_keeps (call : Call) (hwanted : ∀ purpose, call.Wants purpose → wanted purpose) :
    Keeps py digests app language wanted (call.run py digests) := by
  cases call with
  | login username password countryId siteId =>
    exact discard_keeps (login_keeps username password countryId siteId (hwanted _ rfl))
  | requestLoginVerificationCode account channel =>
    exact discard_keeps (requestLoginVerificationCode_keeps account channel (hwanted _ rfl))
  | validateNewDevice account verificationCode =>
    exact discard_keeps (validateNewDevice_keeps account verificationCode (hwanted _ rfl))
  | discoverSite => exact discard_keeps (discoverSite_keeps (hwanted _ rfl))
  | listKeys turns => exact discard_keeps (listKeys_keeps (fun pageNo h => hwanted _ ⟨pageNo, h, rfl⟩) turns)

theorem calls_keeps (cs : List Call) (hwanted : ∀ call ∈ cs, ∀ purpose, call.Wants purpose → wanted purpose) :
    Keeps py digests app language wanted (calls py digests cs) := by
  induction cs with
  | nil => exact triple_pure fun _ _ h => h
  | cons call cs ih =>
    rw [List.forall_mem_cons] at hwanted
    exact triple_handle (run_keeps call hwanted.1) fun _ => ih hwanted.2

end Triples

/-! ## Runs -/

theorem tracks_start : Tracks app language (Session.start app) (TTLockCloud.forApp app language) where
  appId := rfl
  appSecret := rfl
  packageName := rfl
  version := rfl
  platform := rfl
  language := rfl
  follows := rfl
  baseUrl := rfl
  pinned _ := rfl
  creds := rfl
  siteId := rfl
  countryId := rfl
  uniqueid := rfl

def Session.observed (es : List (Event HttpOp HttpOp.Answer Raised)) : Session :=
  es.foldl (fun s ev => s.learn py app ev.1 ev.2) (Session.start app)

/-- **Every request is one of a call, and fits the messages before it**, whatever is called and answered, and the
install id is asked for as long as it is not known. -/
theorem requests_in_order (cs : List Call) (before after : List (Event HttpOp HttpOp.Answer Raised)) (op : HttpOp)
    (answer : Except Raised (HttpOp.Answer op))
    (rest : Program HttpOp HttpOp.Answer Raised (Except Raised Unit × TTLockCloud))
    (hrun : Runs (calls py digests cs (TTLockCloud.forApp app language)) (before ++ ⟨op, answer⟩ :: after) rest) :
    (∀ request, op = .post request → InOrder digests app language (fun purpose => ∃ call ∈ cs, call.Wants purpose)
        (Session.observed py app before) request) ∧
      (op = .loadUniqueid → (Session.observed py app before).uniqueid = none) := by
  have hkeeps : Keeps py digests app language (fun purpose => ∃ call ∈ cs, call.Wants purpose) (calls py digests cs) :=
    calls_keeps cs fun call hcall purpose h => ⟨call, hcall, h⟩
  have hallows := sat_allows _ (hkeeps _ _ (tracks_start app language)) hrun
    (Monitor.admitsAll_of_forall (fun _ _ _ => trivial) _)
  constructor
  · rintro request rfl
    exact hallows
  · rintro rfl
    exact hallows

/-! ### A first request -/

def testDigests : Digests := ⟨fun _ => "", fun _ text => text⟩

def siteEvents : List (Event HttpOp HttpOp.Answer Raised) :=
  [⟨.loadUniqueid, .ok "0f"⟩, ⟨.now, .ok (7 : Int)⟩, ⟨.now, .ok (7 : Int)⟩]

def siteRequest : Request :=
  (TTLockCloud.forApp schlageBreeze "en").request testDigests "0f" "/system/getCountryAndSiteInfo"
    [("uniqueid", "0f"), ("date", "7"), ("d", "7")] none

theorem requests_in_order_site :
    InOrder testDigests schlageBreeze "en" (fun purpose => ∃ call ∈ [Call.discoverSite], call.Wants purpose)
      (Session.observed KeyRows.testInterpreter schlageBreeze siteEvents) siteRequest :=
  (requests_in_order KeyRows.testInterpreter testDigests schlageBreeze "en" [.discoverSite] siteEvents []
    (.post siteRequest) (.error (.other ⟨.osError, ""⟩)) _ (.call (.call (.call (.call (.done _)))))).1 siteRequest rfl

end TtlockBle.Account
