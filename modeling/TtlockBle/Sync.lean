import TtlockBle.Account
import TtlockBle.KeyStore

/-!
# The run of `sync`

An observer of the messages knows how far a run has come, and which keys the pages have held.
-/

open TtlockBle.Lib

namespace TtlockBle.Sync

open Account Cli KeyRows KeyStore Method Program Raises

variable (py : Interpreter) (digests : Digests) (email : String)

/-! ## How far a run has come -/

inductive Phase where
  | start
  | siteAsked
  | refused
  | newDevice
  | codeAsked
  | loggedIn (uid : Int)

structure Progress where
  phase : Phase
  /-- The rows that `from_cloud` takes, of all pages so far. -/
  keys : List VirtualKey
  /-- What has been written. -/
  text : Option String

/-- What follows from the outcome of the login request. -/
def loginPhase : Except Raised Json → Phase
  | .ok body =>
    match readCredentials py email body with
    | .ok creds => .loggedIn creds.uid
    | .error _ => .refused
  | .error (.cloudError body _) => if (isNewDevice body).toOption = some true then .newDevice else .refused
  | .error _ => .refused

def rowsOf : Json → List Json
  | .list page => page
  | _ => []

/-- The rows of a page. -/
def pageRows (body : Json) : List Json :=
  match getOr body "keyInfos" .null, getOr body "keyList" .null with
  | .ok keyInfos, .ok keyList => rowsOf ((keyInfos.orElse keyList).orElse (.list []))
  | _, _ => []

def pageKeys (phase : Phase) (outcome : Except Raised Json) : List VirtualKey :=
  match phase, outcome with
  | .loggedIn uid, .ok body => (pageRows body).filterMap (accepted py uid)
  | _, _ => []

def Progress.heard (fullPath : String) (outcome : Except Raised Json) (s : Progress) : Progress :=
  if fullPath = "/lock/system/getCountryAndSiteInfo" then { s with phase := .siteAsked }
  else if fullPath = "/lock/user/login" then { s with phase := loginPhase py email outcome }
  else if fullPath = "/lock/user/sendValidationCode" then { s with phase := .codeAsked }
  else if fullPath = "/lock/check/syncDataPage" then { s with keys := s.keys ++ pageKeys py s.phase outcome }
  else s

def Progress.learnHttp (s : Progress) : (op : HttpOp) → Except Raised (HttpOp.Answer op) → Progress
  | .post request, answer => s.heard py email request.fullPath (answer.bind (readResponse py))
  | _, _ => s

def Progress.learn (s : Progress) : (op : CliOp) → Except Raised (CliOp.Answer op) → Progress
  | .http op, answer => s.learnHttp py email op answer
  | .writeStore text, .ok _ => { s with text := some text }
  | _, _ => s

/-- The requests in their order: the site, the login, and then a code or pages. -/
inductive Progress.Asks (s : Progress) (fullPath : String) : Prop where
  | site (h : fullPath = "/lock/system/getCountryAndSiteInfo") (hphase : s.phase = .start)
  | login (h : fullPath = "/lock/user/login") (hphase : s.phase = .siteAsked)
  | code (h : fullPath = "/lock/user/sendValidationCode") (hphase : s.phase = .newDevice)
  | page (h : fullPath = "/lock/check/syncDataPage") (uid : Int) (hphase : s.phase = .loggedIn uid)

def Progress.AllowsHttp (s : Progress) : HttpOp → Prop
  | .post request => s.Asks request.fullPath
  | _ => True

def Progress.Allows (s : Progress) : CliOp → Prop
  | .http op => s.AllowsHttp op
  | .writeStore text => (∃ uid, s.phase = .loggedIn uid) ∧ s.text = none ∧ storeText s.keys = .ok text
  | _ => True

/-- Neither a `CloudError` nor an exception of typer. -/
def Foreign (e : Raised) : Prop := ∃ e', e = .other e'

def httpMonitor : Monitor HttpOp HttpOp.Answer Raised Progress where
  allows s op := s.AllowsHttp op
  admits _ _ r := Raises Foreign r
  next s op r := s.learnHttp py email op r

def cliMonitor : Monitor CliOp CliOp.Answer Raised Progress where
  allows s op := s.Allows op
  admits _ _ r := Raises Foreign r
  next s op r := s.learn py email op r

/-! ## Exceptions -/

section Exceptions

variable {py}

def NoExit (e : Raised) : Prop := ∀ n, e ≠ .exit n

theorem noExit_of_foreign (e : Raised) (h : Foreign e) : NoExit e := by
  obtain ⟨e', rfl⟩ := h
  rintro n ⟨⟩

theorem foreign_ofPy {α : Type} (x : Py α) : Raises Foreign (ofPy x) := by
  cases x with
  | error e => exact (raises_error _).mpr ⟨e, rfl⟩
  | ok a => exact (raises_ok a).mpr trivial

theorem ofPy_eq_ok {α : Type} {x : Py α} {a : α} (h : ofPy x = .ok a) : x = .ok a := by
  cases x with
  | error e => cases h
  | ok b => exact congrArg _ (Except.ok.inj h)

theorem noExit_ofPy {α : Type} (x : Py α) : Raises NoExit (ofPy x) := (foreign_ofPy x).mono noExit_of_foreign

theorem newCloudError_noExit (body : Json) : Raises NoExit (newCloudError py body) := by
  unfold newCloudError
  cases cloudError py body with
  | error e => exact (raises_error _).mpr (noExit_of_foreign _ ⟨e, rfl⟩)
  | ok e => exact (raises_ok _).mpr trivial

theorem newCloudError_ok (body : Json) (e : Raised) (h : newCloudError py body = .ok e) :
    ∃ text, e = .cloudError body text := by
  unfold newCloudError at h
  cases hcloud : cloudError py body with
  | error e' =>
    rw [hcloud] at h
    cases h
  | ok e' =>
    rw [hcloud] at h
    exact ⟨e'.text, (Except.ok.inj h).symm⟩

theorem newCloudError_raised (body : Json) (e : Raised) (h : newCloudError py body = .ok e) : NoExit e := by
  obtain ⟨text, rfl⟩ := newCloudError_ok body e h
  rintro n ⟨⟩

theorem readResponse_noExit (resp : Response) : Raises NoExit (readResponse py resp) := by
  unfold readResponse
  cases resp.json with
  | ok body =>
    simp only [raises_bind, raises_ite, raises_throw, raises_pure, noExit_ofPy, newCloudError_noExit, true_and,
      implies_true, and_true]
    exact ⟨fun _ e he => ⟨newCloudError_raised body e he, fun _ h => by cases h⟩,
      fun _ found hfound _ _ _ _ _ e he => newCloudError_raised found e he⟩
  | error e =>
    simp only [raises_bind, raises_ite, raises_throw, raises_pure, noExit_ofPy, newCloudError_noExit, true_and,
      implies_true, and_true]
    refine ⟨fun _ => ⟨fun _ e he => ⟨newCloudError_raised _ e he, fun _ h => by cases h⟩,
      fun _ => ⟨?_, fun _ h => by cases h⟩⟩,
      fun _ found hfound => by cases hfound⟩
    exact noExit_of_foreign _ ⟨e, rfl⟩

/-- An exception that asks for no code. -/
def Ordinary (e : Raised) : Prop := NoExit e ∧ ∀ body text, e = .cloudError body text → isNewDevice body = .ok false

theorem ordinary_of_foreign (e : Raised) (h : Foreign e) : Ordinary e := by
  obtain ⟨e', rfl⟩ := h
  exact ⟨noExit_of_foreign _ ⟨e', rfl⟩, by rintro _ _ ⟨⟩⟩

theorem ordinary_ofPy {α : Type} (x : Py α) : Raises Ordinary (ofPy x) := (foreign_ofPy x).mono ordinary_of_foreign

theorem refuse_ordinary (message : String) (body : Json) : Raises Ordinary (refuse py message body) := by
  unfold refuse
  rw [raises_bind]
  constructor
  · unfold newCloudError
    cases cloudError py (.dict [("message", .str message), ("raw", body)]) with
    | error e => exact (raises_error _).mpr (ordinary_of_foreign _ ⟨e, rfl⟩)
    | ok e => exact (raises_ok _).mpr trivial
  · intro e he
    rw [raises_throw]
    refine ⟨newCloudError_raised _ e he, ?_⟩
    obtain ⟨text, rfl⟩ := newCloudError_ok _ e he
    rintro _ _ ⟨⟩
    rfl

variable (py) in
theorem readCredentials_ordinary (username : String) (body : Json) :
    Raises Ordinary (readCredentials py username body) := by
  unfold readCredentials
  simp only [raises_bind, raises_ite, raises_pure, ordinary_ofPy, refuse_ordinary, implies_true, and_true]

theorem readCredentials_short (username : String) (body : Json) :
    Returns (fun creds => Json.shortInt creds.uid = true) (readCredentials py username body) := by
  have hint (value : Json) (n : Int) (h : ofPy (intOfStr py value) = .ok n) : Json.shortInt n = true := by
    cases hn : intOfStr py value with
    | error e =>
      rw [hn] at h
      cases h
    | ok m =>
      rw [hn] at h
      exact Except.ok.inj h ▸ shortInt_of_pyInt _ m hn
  unfold readCredentials
  simp only [Returns.returns_bind, Returns.returns_ite, Returns.returns_pure]
  exact fun _ _ _ _ _ _ => ⟨fun _ _ _ _ _ _ _ => ⟨fun _ _ _ => hint _, fun _ => hint _⟩,
    fun _ _ _ _ _ => ⟨fun _ _ _ => hint _, fun _ => hint _⟩⟩

end Exceptions

/-! ## Requests -/

section Triples

variable {py digests email}

/-- The observer has `s₀`, and the client has these credentials. -/
def At (s₀ : Progress) (creds : Option CloudCredentials) (s : Progress) (t : Account.TTLockCloud) : Prop :=
  s = s₀ ∧ t.creds = creds

theorem asyncUniqueid_triple (s₀ : Progress) (creds : Option CloudCredentials) :
    Triple (httpMonitor py email) (At s₀ creds) asyncUniqueid fun s t x => At s₀ creds s t ∧ Raises Foreign x := by
  apply asyncUniqueid_rule
  · exact fun s t uniqueid h _ => ⟨h, (raises_ok _).mpr trivial⟩
  · rintro s t ⟨rfl, rfl⟩ -
    refine ⟨trivial, fun r hr => ⟨?_, ?_⟩⟩
    · rintro e rfl
      exact ⟨⟨rfl, rfl⟩, hr⟩
    · rintro uniqueid rfl
      exact ⟨⟨rfl, rfl⟩, (raises_ok _).mpr trivial⟩

/-- A request that is due: the observer hears its outcome, or it has not been sent. -/
def Sent (py : Interpreter) (email : String) (s₀ : Progress) (creds : Option CloudCredentials) (fullPath : String)
    (s : Progress) (t : Account.TTLockCloud) (x : Except Raised Json) : Prop :=
  t.creds = creds ∧ Raises NoExit x ∧ ((s = s₀ ∧ ∃ e, x = .error e ∧ Foreign e) ∨ s = s₀.heard py email fullPath x)

theorem post_triple (s₀ : Progress) (creds : Option CloudCredentials) (path : String) (params : Params)
    (version : Option String) (hasks : s₀.Asks ("/lock" ++ path)) :
    Triple (httpMonitor py email) (At s₀ creds) (Account.post py digests path params version)
      (Sent py email s₀ creds ("/lock" ++ path)) := by
  have hraised (e : Raised) (s : Progress) (t : Account.TTLockCloud) (hat : At s₀ creds s t) (he : Foreign e) :
      Sent py email s₀ creds ("/lock" ++ path) s t (.error e) :=
    ⟨hat.2, (raises_error e).mpr (noExit_of_foreign e he), .inl ⟨hat.1, e, rfl, he⟩⟩
  apply post_rule (R := fun _ => At s₀ creds)
  · apply (asyncUniqueid_triple s₀ creds).conseq fun _ _ h => h
    rintro s t x ⟨hat, hforeign⟩
    exact ⟨fun e he => hraised e s t hat (hforeign e he), fun _ _ => hat⟩
  · intro uniqueid s t hat
    exact ⟨trivial, fun r hr => ⟨fun e he => hraised e s t hat (hr e he), fun _ _ => hat⟩⟩
  · rintro uniqueid s t date d ⟨rfl, rfl⟩
    refine ⟨hasks, fun r hr => ⟨?_, ?_⟩⟩
    · rintro e rfl
      exact ⟨rfl, (raises_error e).mpr (noExit_of_foreign e (hr e rfl)), .inr rfl⟩
    · rintro resp rfl
      exact ⟨rfl, readResponse_noExit resp, .inr rfl⟩

theorem heard_site (s : Progress) (x : Except Raised Json) :
    s.heard py email ("/lock" ++ "/system/getCountryAndSiteInfo") x = { s with phase := .siteAsked } :=
  if_pos (by decide)

theorem heard_login (s : Progress) (x : Except Raised Json) :
    s.heard py email ("/lock" ++ "/user/login") x = { s with phase := loginPhase py email x } := by
  unfold Progress.heard
  rw [if_neg (by decide), if_pos (by decide)]

theorem heard_code (s : Progress) (x : Except Raised Json) :
    s.heard py email ("/lock" ++ "/user/sendValidationCode") x = { s with phase := .codeAsked } := by
  unfold Progress.heard
  rw [if_neg (by decide), if_neg (by decide), if_pos (by decide)]

theorem heard_page (s : Progress) (x : Except Raised Json) :
    s.heard py email ("/lock" ++ "/check/syncDataPage") x = { s with keys := s.keys ++ pageKeys py s.phase x } := by
  unfold Progress.heard
  rw [if_neg (by decide), if_neg (by decide), if_neg (by decide), if_pos (by decide)]

/-- Either nothing has been sent, or the observer has come to `s₁`. -/
def Outcome {α : Type} (s₀ s₁ : Progress) (creds : Option CloudCredentials) (s : Progress) (t : Account.TTLockCloud)
    (x : Except Raised α) : Prop :=
  t.creds = creds ∧ Raises NoExit x ∧ ((s = s₀ ∧ ∃ e, x = .error e ∧ Foreign e) ∨ s = s₁)

theorem outcome_error {α β : Type} {s₀ s₁ : Progress} {creds : Option CloudCredentials} {s : Progress}
    {t : Account.TTLockCloud} {e : Raised} (h : Outcome (α := α) s₀ s₁ creds s t (.error e)) :
    Outcome (α := β) s₀ s₁ creds s t (.error e) := by
  obtain ⟨hcreds, hraises, h⟩ := h
  refine ⟨hcreds, (raises_error e).mpr (hraises e rfl), h.imp_left ?_⟩
  rintro ⟨hs, e', heq, hforeign⟩
  obtain rfl := Except.error.inj heq
  exact ⟨hs, e, rfl, hforeign⟩

theorem outcome_ok {α : Type} {s₀ s₁ : Progress} {creds : Option CloudCredentials} {s : Progress}
    {t : Account.TTLockCloud} {a : α} (h : Outcome s₀ s₁ creds s t (.ok a)) : At s₁ creds s t := by
  obtain ⟨hcreds, -, ⟨-, e, hcontra, -⟩ | hs⟩ := h
  · cases hcontra
  · exact ⟨hs, hcreds⟩

theorem outcome_bind {α β : Type} {s₀ s₁ : Progress} {creds : Option CloudCredentials}
    {P : Progress → Account.TTLockCloud → Prop} {m : CloudMethod α} {f : α → CloudMethod β}
    (hm : Triple (httpMonitor py email) P m (Outcome s₀ s₁ creds))
    (hf : ∀ a, Triple (httpMonitor py email) (At s₁ creds) (f a) (Outcome s₀ s₁ creds)) :
    Triple (httpMonitor py email) P (m >>= f) (Outcome s₀ s₁ creds) :=
  triple_bind hm (fun a => (hf a).conseq (fun _ _ h => outcome_ok h) fun _ _ _ h => h) fun _ _ _ h => outcome_error h

theorem lift_outcome {α : Type} (s₀ s₁ : Progress) (creds : Option CloudCredentials) (x : Except Raised α)
    (hx : Raises NoExit x) :
    Triple (httpMonitor py email) (At s₁ creds) (Method.ofExcept x) (Outcome s₀ s₁ creds) :=
  triple_ofExcept fun _ _ h => ⟨h.2, hx, .inr h.1⟩

theorem uniqueid_bind {α : Type} {s₀ s₁ : Progress} {creds : Option CloudCredentials} {f : String → CloudMethod α}
    (hf : ∀ uniqueid, Triple (httpMonitor py email) (At s₀ creds) (f uniqueid) (Outcome s₀ s₁ creds)) :
    Triple (httpMonitor py email) (At s₀ creds) (asyncUniqueid >>= f) (Outcome s₀ s₁ creds) := by
  apply triple_bind (asyncUniqueid_triple s₀ creds)
  · exact fun uniqueid => (hf uniqueid).conseq (fun _ _ h => h.1) fun _ _ _ h => h
  · rintro s t e ⟨hat, hforeign⟩
    have he := hforeign e rfl
    exact ⟨hat.2, (raises_error e).mpr (noExit_of_foreign e he), .inl ⟨hat.1, e, rfl, he⟩⟩

theorem discoverSite_triple (s₀ : Progress) (hphase : s₀.phase = .start) (creds : Option CloudCredentials) :
    Triple (httpMonitor py email) (At s₀ creds) (discoverSite py digests)
      (Outcome s₀ { s₀ with phase := .siteAsked } creds) := by
  apply uniqueid_bind
  intro uniqueid
  apply outcome_bind
  · apply (post_triple s₀ creds _ _ _ (.site rfl hphase)).conseq fun _ _ h => h
    intro s t x h
    rwa [Sent, heard_site] at h
  intro body
  apply outcome_bind (lift_outcome _ _ _ _ (noExit_ofPy _))
  intro api
  apply @outcome_bind _ _ _ _ s₀
  · apply triple_modify
    rintro s t ⟨rfl, rfl⟩
    exact ⟨by split_ifs <;> rfl, (raises_ok _).mpr trivial, .inr rfl⟩
  intro _
  apply outcome_bind (lift_outcome _ _ _ _ (noExit_ofPy _))
  intro siteId
  apply @outcome_bind _ _ _ _ s₀
  · exact triple_modify fun s t h => ⟨h.2, (raises_ok _).mpr trivial, .inr h.1⟩
  intro _
  apply outcome_bind (lift_outcome _ _ _ _ (noExit_ofPy _))
  intro countryId
  apply @outcome_bind _ _ _ _ s₀
  · exact triple_modify fun s t h => ⟨h.2, (raises_ok _).mpr trivial, .inr h.1⟩
  exact fun _ => lift_outcome _ _ _ _ ((raises_ok _).mpr trivial)

theorem requestCode_triple (s₀ : Progress) (hphase : s₀.phase = .newDevice) (creds : Option CloudCredentials)
    (account : String) (channel : Int) :
    Triple (httpMonitor py email) (At s₀ creds) (requestLoginVerificationCode py digests account channel)
      (Outcome s₀ { s₀ with phase := .codeAsked } creds) := by
  apply uniqueid_bind
  intro uniqueid
  apply triple_get_bind
  intro cloud
  apply (post_triple s₀ creds _ _ _ (.code rfl hphase)).conseq fun _ _ h => h.1
  intro s t x h
  rwa [Sent, heard_code] at h

/-- What a login ends with: nothing has been sent, or its phase tells. -/
def LoginOutcome (py : Interpreter) (email : String) (s₀ : Progress) (s : Progress) (t : Account.TTLockCloud)
    (x : Except Raised CloudCredentials) : Prop :=
  Raises NoExit x ∧
    (∀ creds, x = .ok creds → s = { s₀ with phase := .loggedIn creds.uid } ∧ t.creds = some creds ∧
      Json.shortInt creds.uid = true) ∧
    ∀ e, x = .error e → (s = s₀ ∧ Foreign e) ∨ s = { s₀ with phase := loginPhase py email (.error e) }

theorem loginPhase_ordinary (e : Raised) (h : Ordinary e) : loginPhase py email (.error e) = .refused := by
  cases e with
  | cloudError body text =>
    have hbody := h.2 body text rfl
    show (if (isNewDevice body).toOption = some true then Phase.newDevice else .refused) = _
    rw [hbody]
    rfl
  | _ => rfl

theorem login_triple (s₀ : Progress) (hphase : s₀.phase = .siteAsked) (creds : Option CloudCredentials)
    (password : String) (countryId siteId : Option Int) :
    Triple (httpMonitor py email) (At s₀ creds) (login py digests email password countryId siteId)
      (LoginOutcome py email s₀) := by
  apply triple_bind (asyncUniqueid_triple s₀ creds)
  · intro uniqueid
    apply triple_get_bind
    intro cloud
    apply triple_bind ((post_triple s₀ creds "/user/login" _ _ (.login rfl hphase)).conseq
      (fun _ _ h => h.1.1) fun _ _ _ h => h)
    · intro body
      have hsent {s : Progress} {t : Account.TTLockCloud}
          (h : Sent py email s₀ creds ("/lock" ++ "/user/login") s t (.ok body)) :
          s = { s₀ with phase := loginPhase py email (.ok body) } := by
        obtain ⟨-, -, ⟨-, e, hcontra, -⟩ | hs⟩ := h
        · cases hcontra
        · rwa [heard_login] at hs
      apply triple_bind (R := fun s t x => x = readCredentials py email body ∧
        s = { s₀ with phase := loginPhase py email (.ok body) })
      · exact triple_ofExcept fun s t h => ⟨rfl, hsent h⟩
      · intro found
        apply triple_bind (R := fun s t x => t.creds = some found ∧ s = { s₀ with phase := .loggedIn found.uid } ∧
          Json.shortInt found.uid = true ∧ x = .ok ())
        · apply triple_modify
          rintro s t ⟨hfound, rfl⟩
          refine ⟨rfl, ?_, readCredentials_short email body found hfound.symm, rfl⟩
          simp only [loginPhase, ← hfound]
        · rintro ⟨⟩
          apply triple_pure
          rintro s t ⟨hcreds, hs, hshort, -⟩
          refine ⟨(raises_ok _).mpr trivial, fun creds h => ?_, by rintro e ⟨⟩⟩
          obtain rfl := Except.ok.inj h
          exact ⟨hs, hcreds, hshort⟩
        · rintro s t e ⟨-, -, -, hcontra⟩
          cases hcontra
      · rintro s t e ⟨hraised, rfl⟩
        have hordinary := readCredentials_ordinary py email body e hraised.symm
        refine ⟨(raises_error e).mpr hordinary.1, by rintro _ ⟨⟩, fun e' he => .inr ?_⟩
        obtain rfl := Except.error.inj he
        rw [loginPhase_ordinary e hordinary]
        simp only [loginPhase, ← hraised]
    · rintro s t e ⟨-, hraises, h⟩
      refine ⟨(raises_error e).mpr (hraises e rfl), by rintro _ ⟨⟩, fun e' he => ?_⟩
      obtain rfl := Except.error.inj he
      rcases h with ⟨hs, e', he', hforeign⟩ | hs
      · obtain rfl := Except.error.inj he'
        exact .inl ⟨hs, hforeign⟩
      · rw [heard_login] at hs
        exact .inr hs
  · rintro s t e ⟨hat, hforeign⟩
    have he := hforeign e rfl
    refine ⟨(raises_error e).mpr (noExit_of_foreign e he), by rintro _ ⟨⟩, fun e' he' => .inl ⟨hat.1, ?_⟩⟩
    exact Except.error.inj he' ▸ he

/-- The keys that have been listed, and nothing else has changed. -/
def Listed (uid : Int) (text : Option String) (s : Progress) : Prop :=
  s.phase = .loggedIn uid ∧ s.text = text ∧ ∀ key ∈ s.keys, ShortKey key

theorem pageKeys_short (uid : Int) (huid : Json.shortInt uid = true) (outcome : Except Raised Json) :
    ∀ key ∈ pageKeys py (.loggedIn uid) outcome, ShortKey key := by
  intro key hkey
  cases outcome with
  | error e => cases hkey
  | ok body =>
    obtain ⟨row, -, hrow⟩ := List.mem_filterMap.mp hkey
    cases hcloud : VirtualKey.fromCloud py row uid with
    | error e =>
      rw [accepted, hcloud] at hrow
      cases hrow
    | ok key' =>
      rw [accepted, hcloud] at hrow
      obtain rfl := Option.some.inj hrow
      exact shortKey_of_fromCloud row uid key' huid hcloud

theorem readRows_accepted (uid : Int) (page : List Json) (keys : List VirtualKey)
    (h : readRows py uid page = .ok keys) :
    keys = page.filterMap (accepted py uid) := by
  induction page generalizing keys with
  | nil => exact (Except.ok.inj h).symm
  | cons row page ih =>
    unfold readRows at h
    cases hrow : VirtualKey.fromCloud py row uid with
    | ok key =>
      rw [hrow] at h
      obtain ⟨rest, hrest, h⟩ := bind_eq_ok.mp h
      obtain rfl := Except.ok.inj h
      rw [List.filterMap_cons_some (by rw [accepted, hrow]; rfl), ← ih rest hrest]
    | error e =>
      rw [hrow] at h
      simp only at h
      split_ifs at h
      rw [List.filterMap_cons_none (by rw [accepted, hrow]; rfl)]
      exact ih keys h

theorem post_page_triple (uid : Int) (text : Option String) (keys : List VirtualKey) (params : Params)
    (huid : Json.shortInt uid = true) :
    Triple (httpMonitor py email) (fun s _ => Listed uid text s ∧ s.keys = keys)
      (Account.post py digests "/check/syncDataPage" params none)
      fun s _ x => Listed uid text s ∧ Raises NoExit x ∧
        ∀ body, x = .ok body → s.keys = keys ++ (pageRows body).filterMap (accepted py uid) := by
  rintro s₀ t ⟨hlisted, rfl⟩
  apply sat_mono _ _ (post_triple s₀ t.creds "/check/syncDataPage" params none (.page rfl uid hlisted.1) s₀ t
      ⟨rfl, rfl⟩)
  rintro s o ⟨x, t', rfl, -, hraises, hheard⟩
  refine ⟨x, t', rfl, ?_⟩
  rcases hheard with ⟨rfl, e, rfl, -⟩ | rfl
  · exact ⟨hlisted, hraises, by rintro _ ⟨⟩⟩
  · rw [heard_page]
    refine ⟨⟨hlisted.1, hlisted.2.1, ?_⟩, hraises, ?_⟩
    · intro key hkey
      rcases List.mem_append.mp hkey with hold | hnew
      · exact hlisted.2.2 key hold
      · rw [hlisted.1] at hnew
        exact pageKeys_short uid huid x key hnew
    · rintro body rfl
      show s₀.keys ++ pageKeys py s₀.phase (.ok body) = _
      rw [hlisted.1]
      rfl

/-- The induction is on the turns, and the pages so far are what the observer has. -/
theorem listKeysLoop_triple (uid : Int) (userInfo uniqueid : String) (text : Option String) (turns : Nat)
    (pageNo : Int) (keys : List VirtualKey) (huid : Json.shortInt uid = true) :
    Triple (httpMonitor py email) (fun s _ => Listed uid text s ∧ s.keys = keys)
      (Account.listKeysLoop py digests uid userInfo uniqueid turns pageNo keys)
      fun s _ x => Listed uid text s ∧ Raises NoExit x ∧ ∀ all, x = .ok all → s.keys = all := by
  have hraised {α : Type} (x : Py α) (s : Progress) (e : Raised) (h : Listed uid text s) (he : ofPy x = .error e) :
      Listed uid text s ∧ Raises NoExit (.error e : Except Raised (List VirtualKey)) ∧
        ∀ all, (.error e : Except Raised (List VirtualKey)) = .ok all → s.keys = all :=
    ⟨h, (raises_error e).mpr (noExit_ofPy x e he), by rintro _ ⟨⟩⟩
  have hreturn (s : Progress) (all : List VirtualKey) (h : Listed uid text s) (hall : s.keys = all) :
      Listed uid text s ∧ Raises NoExit (.ok all : Except Raised (List VirtualKey)) ∧
        ∀ all', (.ok all : Except Raised (List VirtualKey)) = .ok all' → s.keys = all' :=
    ⟨h, (raises_ok _).mpr trivial, fun _ h' => Except.ok.inj h' ▸ hall⟩
  induction turns generalizing pageNo keys with
  | zero => exact fun _ _ _ => trivial
  | succ turns ih =>
    unfold Account.listKeysLoop
    apply triple_bind (post_page_triple uid text keys _ huid) _ fun s t e h =>
      ⟨h.1, (raises_error e).mpr (h.2.1 e rfl), by rintro _ ⟨⟩⟩
    intro body
    apply triple_ofExcept_bind _ fun e he s t h => hraised _ s e h.1 he
    intro keyInfos hkeyInfos
    apply triple_ofExcept_bind _ fun e he s t h => hraised _ s e h.1 he
    intro keyList hkeyList
    have hrows : pageRows body = rowsOf ((keyInfos.orElse keyList).orElse (.list [])) := by
      have hkeyInfos' : getOr body "keyInfos" .null = .ok keyInfos := ofPy_eq_ok hkeyInfos
      have hkeyList' : getOr body "keyList" .null = .ok keyList := ofPy_eq_ok hkeyList
      rw [pageRows, hkeyInfos', hkeyList']
    have hdone (h : pageRows body = []) (s : Progress) (hs : Listed uid text s ∧ Raises NoExit (.ok body) ∧
        ∀ body', .ok body = (.ok body' : Except Raised Json) →
          s.keys = keys ++ (pageRows body').filterMap (accepted py uid)) :
        Listed uid text s ∧ Raises NoExit (.ok keys : Except Raised (List VirtualKey)) ∧
          ∀ all, (.ok keys : Except Raised (List VirtualKey)) = .ok all → s.keys = all := by
      obtain ⟨hlisted, -, hkeys⟩ := hs
      apply hreturn s keys hlisted
      rw [hkeys body rfl, h, List.filterMap_nil, List.append_nil]
    cases hpage : (keyInfos.orElse keyList).orElse (.list []) with
    | list page =>
      have hrows : pageRows body = page := hrows.trans (congrArg rowsOf hpage)
      apply triple_ofExcept_bind _ fun e he s t h => hraised _ s e h.1 he
      intro more hmore
      obtain rfl := readRows_accepted uid page more (ofPy_eq_ok hmore)
      apply triple_ofExcept_bind _ fun e he s t h => hraised _ s e h.1 he
      intro pages _
      apply triple_ofExcept_bind _ fun e he s t h => hraised _ s e h.1 he
      intro pageNos _
      apply triple_ofExcept_bind _ fun e he s t h => hraised _ s e h.1 he
      intro count _
      apply triple_ite
      · intro _
        apply triple_pure
        rintro s t ⟨hlisted, -, hkeys⟩
        exact hreturn s _ hlisted (hrows ▸ hkeys body rfl)
      · intro _
        apply (ih (pageNo + 1) (keys ++ page.filterMap (accepted py uid))).conseq _ fun _ _ _ h => h
        rintro s t ⟨hlisted, -, hkeys⟩
        exact ⟨hlisted, hrows ▸ hkeys body rfl⟩
    | _ => exact triple_pure fun s t h => hdone (hrows.trans (congrArg rowsOf hpage)) s h

theorem listKeys_triple (creds : CloudCredentials) (text : Option String) (turns : Nat)
    (hshort : Json.shortInt creds.uid = true) :
    Triple (httpMonitor py email) (fun s t => Listed creds.uid text s ∧ s.keys = [] ∧ t.creds = some creds)
      (listKeys py digests turns)
      fun s _ x => Listed creds.uid text s ∧ Raises NoExit x ∧ ∀ all, x = .ok all → s.keys = all := by
  apply triple_get_bind
  intro cloud
  cases hcreds : cloud.creds with
  | none =>
    rintro s t ⟨⟨-, -, hcontra⟩, rfl⟩
    rw [hcreds] at hcontra
    cases hcontra
  | some found =>
    rintro s t ⟨⟨hlisted, hkeys, hfound⟩, rfl⟩
    obtain rfl : found = creds := by
      rw [hcreds] at hfound
      exact Option.some.inj hfound
    refine triple_bind (P := At s t.creds) (asyncUniqueid_triple s t.creds) ?_ ?_ s t ⟨rfl, rfl⟩
    · intro uniqueid
      apply (listKeysLoop_triple found.uid _ uniqueid text turns 1 [] hshort).conseq _ fun _ _ _ h => h
      rintro s' t' ⟨⟨rfl, -⟩, -⟩
      exact ⟨hlisted, hkeys⟩
    · rintro s' t' e ⟨⟨rfl, -⟩, hforeign⟩
      exact ⟨hlisted, (raises_error e).mpr (noExit_of_foreign e (hforeign e rfl)), by rintro _ ⟨⟩⟩

/-! ## The command -/

theorem cloud_triple {α : Type} {P : Progress → Account.TTLockCloud → Prop} {m : CloudMethod α}
    {Q : Progress → Account.TTLockCloud → Except Raised α → Prop} (h : Triple (httpMonitor py email) P m Q) :
    Triple (cliMonitor py email) P (cloud m) Q := by
  intro s t hP
  exact sat_embed (httpMonitor py email) (fun _ _ h => h) (fun _ _ _ h => h) (fun _ _ _ => rfl) (fun _ h => h)
    (h s t hP)

/-- Nothing has been written, and where there is no exception the observer has come to `s₁`. -/
def Reached {α : Type} (s₁ : Progress) (creds : Option CloudCredentials) (s : Progress) (t : Account.TTLockCloud)
    (x : Except Raised α) : Prop :=
  s.text = none ∧ Raises NoExit x ∧ ∀ a, x = .ok a → At s₁ creds s t

theorem echo_triple (s₁ : Progress) (creds : Option CloudCredentials) (htext : s₁.text = none) (text : String) :
    Triple (cliMonitor py email) (At s₁ creds) (echo text) (Reached s₁ creds) := by
  apply triple_perform
  rintro s t ⟨rfl, rfl⟩
  exact ⟨trivial, fun r hr => ⟨htext, fun e he => noExit_of_foreign e (hr e he), fun _ _ => ⟨rfl, rfl⟩⟩⟩

theorem reached_bind {α β : Type} {s₁ : Progress} {creds : Option CloudCredentials}
    {P : Progress → Account.TTLockCloud → Prop} {m : CliMethod α} {f : α → CliMethod β}
    {Q : Progress → Account.TTLockCloud → Except Raised β → Prop}
    (hm : Triple (cliMonitor py email) P m (Reached s₁ creds))
    (hf : ∀ a, Triple (cliMonitor py email) (At s₁ creds) (f a) Q)
    (herr : ∀ s t e, s.text = none → NoExit e → Q s t (.error e)) : Triple (cliMonitor py email) P (m >>= f) Q :=
  triple_bind hm (fun a => (hf a).conseq (fun _ _ h => h.2.2 a rfl) fun _ _ _ h => h)
    fun s t e h => herr s t e h.1 (h.2.1 e rfl)

theorem outcome_discard {α : Type} {s₀ s₁ : Progress} {creds : Option CloudCredentials}
    {P : Progress → Account.TTLockCloud → Prop} {m : CloudMethod α}
    (h : Triple (httpMonitor py email) P m (Outcome s₀ s₁ creds)) :
    Triple (cliMonitor py email) P (discard (cloud m)) (Outcome s₀ s₁ creds) :=
  triple_bind (cloud_triple h)
    (fun _ => triple_pure fun _ _ h => ⟨(outcome_ok h).2, (raises_ok _).mpr trivial, .inr (outcome_ok h).1⟩)
    fun _ _ _ h => outcome_error h

theorem triple_raise {α : Type} {P : Progress → Account.TTLockCloud → Prop} {e : Raised}
    {Q : Progress → Account.TTLockCloud → Except Raised α → Prop} (h : ∀ s t, P s t → Q s t (.error e)) :
    Triple (cliMonitor py email) P (throw e) Q := triple_throw h

def Progress.start : Progress := ⟨.start, [], none⟩

/-- A refused site request is only a warning. -/
theorem site_triple :
    Triple (cliMonitor py email) (At .start none)
      (tryCatch (discard (cloud (discoverSite py digests))) fun
        | .cloudError _ text => echo s!"warning: site discovery failed ({text}); using default"
        | e => throw e)
      (Reached ⟨.siteAsked, [], none⟩ none) := by
  apply triple_tryCatch (outcome_discard (discoverSite_triple .start rfl none))
  · intro s t _ h
    exact ⟨congrArg Progress.text (outcome_ok h).1, (raises_ok _).mpr trivial, fun _ _ => outcome_ok h⟩
  · intro e
    have hreached (s : Progress) (t : Account.TTLockCloud)
        (h : Outcome (α := Unit) .start { Progress.start with phase := .siteAsked } none s t (.error e)) :
        Reached (α := Unit) ⟨.siteAsked, [], none⟩ none s t (.error e) := by
      obtain ⟨-, hraises, ⟨rfl, -⟩ | rfl⟩ := h
      · exact ⟨rfl, hraises, by rintro _ ⟨⟩⟩
      · exact ⟨rfl, hraises, by rintro _ ⟨⟩⟩
    cases e with
    | cloudError body text =>
      apply (echo_triple ⟨.siteAsked, [], none⟩ none rfl _).conseq _ fun _ _ _ h => h
      rintro s t ⟨hcreds, -, ⟨-, e, he, e', he'⟩ | rfl⟩
      · obtain rfl := Except.error.inj he
        cases he'
      · exact ⟨rfl, hcreds⟩
    | _ => exact triple_throw hreached

/-- What the login ends with, once a refusal has been handled. -/
def Entered (s : Progress) (t : Account.TTLockCloud) (x : Except Raised CloudCredentials) : Prop :=
  s.text = none ∧
    (∀ creds, x = .ok creds → At ⟨.loggedIn creds.uid, [], none⟩ (some creds) s t ∧ Json.shortInt creds.uid = true) ∧
    ∀ n, x = .error (.exit n) → n = 2 ∧ s.phase = .codeAsked

theorem entered_error {s : Progress} {t : Account.TTLockCloud} {e : Raised} (htext : s.text = none) (he : NoExit e) :
    Entered s t (.error e) :=
  ⟨htext, by rintro _ ⟨⟩, fun n h => absurd (Except.error.inj h) (he n)⟩

theorem refused_triple (body : Json) (text : String) (creds : Option CloudCredentials) :
    Triple (cliMonitor py email) (At ⟨loginPhase py email (.error (.cloudError body text)), [], none⟩ creds)
      (refused py digests email body text) Entered := by
  unfold refused
  apply triple_ofExcept_bind
  · intro isNew hisNew
    cases isNew with
    | true =>
      have hphase : loginPhase py email (.error (.cloudError body text)) = .newDevice := by
        have hnew : isNewDevice body = .ok true := ofPy_eq_ok hisNew
        rw [loginPhase, hnew]
        rfl
      rw [hphase]
      apply reached_bind (echo_triple _ _ rfl _) _ fun _ _ _ => entered_error
      rintro ⟨⟩
      apply triple_bind (outcome_discard (requestCode_triple ⟨.newDevice, [], none⟩ rfl creds email codeChannelDefault))
      · rintro ⟨⟩
        apply (reached_bind (echo_triple ⟨.codeAsked, [], none⟩ creds rfl _) _ fun _ _ _ => entered_error).conseq
          (fun _ _ h => outcome_ok h) fun _ _ _ h => h
        rintro ⟨⟩
        apply triple_raise
        rintro s t ⟨rfl, -⟩
        exact ⟨rfl, by rintro _ ⟨⟩, by rintro n ⟨⟩; exact ⟨rfl, rfl⟩⟩
      · rintro s t e ⟨-, hraises, ⟨rfl, -⟩ | rfl⟩
        · exact entered_error rfl (hraises e rfl)
        · exact entered_error rfl (hraises e rfl)
    | false =>
      apply triple_raise
      rintro s t ⟨rfl, -⟩
      exact entered_error rfl (by rintro n ⟨⟩)
  · rintro e he s t ⟨rfl, -⟩
    exact entered_error rfl (noExit_ofPy _ e he)

/-- What the account part of the command ends with. -/
def Fetched (s : Progress) (x : Except Raised (List VirtualKey)) : Prop :=
  s.text = none ∧
    (∀ all, x = .ok all → (∃ uid, s.phase = .loggedIn uid) ∧ s.keys = all ∧ ∀ key ∈ all, ShortKey key) ∧
    ∀ n, x = .error (.exit n) → n = 2 ∧ s.phase = .codeAsked

theorem fetched_error {s : Progress} {e : Raised} (htext : s.text = none) (he : NoExit e) : Fetched s (.error e) :=
  ⟨htext, by rintro _ ⟨⟩, fun n h => absurd (Except.error.inj h) (he n)⟩

theorem enter_triple (password : String) :
    Triple (cliMonitor py email) (At ⟨.siteAsked, [], none⟩ none)
      (tryCatch (cloud (login py digests email password none none)) fun
        | .cloudError body text => refused py digests email body text
        | e => throw e)
      Entered := by
  apply triple_tryCatch (cloud_triple (login_triple ⟨.siteAsked, [], none⟩ rfl none password none none))
  · rintro s t creds ⟨-, hok, -⟩
    obtain ⟨rfl, hcreds, hshort⟩ := hok creds rfl
    refine ⟨rfl, fun creds' h => ?_, by rintro n ⟨⟩⟩
    obtain rfl := Except.ok.inj h
    exact ⟨⟨rfl, hcreds⟩, hshort⟩
  · intro e
    have hentered (s : Progress) (t : Account.TTLockCloud)
        (h : LoginOutcome py email ⟨.siteAsked, [], none⟩ s t (.error e)) : Entered s t (.error e) := by
      obtain ⟨hraises, -, herror⟩ := h
      rcases herror e rfl with ⟨rfl, -⟩ | rfl
      · exact entered_error rfl (hraises e rfl)
      · exact entered_error rfl (hraises e rfl)
    cases e with
    | cloudError body text =>
      rintro s t ⟨-, -, herror⟩
      rcases herror _ rfl with ⟨-, e', he'⟩ | rfl
      · cases he'
      · exact refused_triple body text t.creds _ t ⟨rfl, rfl⟩
    | _ => exact triple_throw hentered

theorem fetch_triple (creds : CloudCredentials) (turns : Nat) (hshort : Json.shortInt creds.uid = true) :
    Triple (cliMonitor py email) (At ⟨.loggedIn creds.uid, [], none⟩ (some creds))
      (do
        let keys ← cloud (listKeys py digests turns)
        echo s!"fetched {keys.length} key(s)"
        return keys)
      fun s _ x => Fetched s x := by
  apply triple_bind ((cloud_triple (listKeys_triple creds none turns hshort)).conseq _ fun _ _ _ h => h)
  · intro keys
    apply triple_bind (R := fun s _ x => (Listed creds.uid none s ∧ s.keys = keys) ∧ Raises NoExit x)
    · apply triple_perform
      rintro s t ⟨hlisted, -, hkeys⟩
      exact ⟨trivial, fun r hr => ⟨⟨hlisted, hkeys keys rfl⟩, fun e he => noExit_of_foreign e (hr e he)⟩⟩
    · rintro ⟨⟩
      apply triple_pure
      rintro s t ⟨⟨hlisted, rfl⟩, -⟩
      refine ⟨hlisted.2.1, fun all h => ?_, by rintro n ⟨⟩⟩
      obtain rfl := Except.ok.inj h
      exact ⟨⟨_, hlisted.1⟩, rfl, hlisted.2.2⟩
    · rintro s t e ⟨⟨hlisted, -⟩, hraises⟩
      exact fetched_error hlisted.2.1 (hraises e rfl)
  · rintro s t e ⟨hlisted, hraises, -⟩
    exact fetched_error hlisted.2.1 (hraises e rfl)
  · rintro s t ⟨rfl, hcreds⟩
    exact ⟨⟨rfl, rfl, by simp⟩, rfl, hcreds⟩

theorem runSync_triple (password : String) (turns : Nat) :
    Triple (cliMonitor py email) (At .start none) (runSync py digests email password turns)
      fun s _ x => Fetched s x := by
  apply reached_bind site_triple _ fun _ _ _ => fetched_error
  rintro ⟨⟩
  apply triple_bind (enter_triple password)
  · intro creds
    have hready (s : Progress) (t : Account.TTLockCloud) (h : Entered s t (.ok creds)) :
        At ⟨.loggedIn creds.uid, [], none⟩ (some creds) s t ∧ Json.shortInt creds.uid = true := h.2.1 creds rfl
    intro s t h
    obtain ⟨hat, hshort⟩ := hready s t h
    exact reached_bind (echo_triple _ _ rfl _) (fun _ => fetch_triple creds turns hshort) (fun _ _ _ => fetched_error)
      s t hat
  · rintro s t e ⟨htext, -, hexit⟩
    exact ⟨htext, by rintro _ ⟨⟩, fun n h => hexit n (congrArg _ (Except.error.inj h))⟩

theorem withCloud_sat (app : CloudApp) (password : String) (turns : Nat) :
    Program.Sat (cliMonitor py email) Fetched .start (withCloud app (runSync py digests email password turns)) := by
  unfold withCloud Program.andFinally Program.bind
  rw [sat_handle, sat_handle]
  apply sat_mono _ _ (runSync_triple password turns .start (Account.TTLockCloud.forApp app "en") ⟨rfl, rfl⟩)
  rintro s _ ⟨x, t, rfl, hfetched⟩
  rw [sat_ofExcept]
  refine ⟨trivial, fun r hr => ?_⟩
  cases r with
  | error e => exact fetched_error hfetched.1 (noExit_of_foreign e (hr e rfl))
  | ok _ =>
    show Program.Sat (cliMonitor py email) Fetched s (Program.ofExcept x)
    exact (sat_ofExcept _ _ _ _).mpr hfetched

/-- What the command ends with. The text holds every key, or nothing has been written. -/
structure Ends (s : Progress) (o : Except Raised Unit) : Prop where
  text : ∀ text, s.text = some text → (∃ uid, s.phase = .loggedIn uid) ∧ storeText s.keys = .ok text ∧
    ∀ key ∈ s.keys, ShortKey key
  saved : ∀ a, o = .ok a → s.text.isSome
  exit : ∀ n, o = .error (.exit n) → n = 2 ∧ s.phase = .codeAsked ∧ s.text = none

theorem ends_of_noExit {s : Progress} {e : Raised} (htext : s.text = none) (he : NoExit e) : Ends s (.error e) :=
  ⟨by rw [htext]; rintro _ ⟨⟩, by rintro _ ⟨⟩, fun n h => absurd (Except.error.inj h) (he n)⟩

theorem loadEnv_email (env : Environment) (account : String × String) (h : loadEnv env = .ok account) :
    account.1 = env.email.getD "" := by
  unfold loadEnv at h
  split at h
  · rename_i email password hemail _
    split_ifs at h
    rw [hemail, ← Except.ok.inj h]
    rfl
  · cases h

theorem loadEnv_noExit (env : Environment) : Raises NoExit (loadEnv env) := by
  intro e h
  unfold loadEnv at h
  split at h
  · split_ifs at h
    rw [← Except.error.inj h]
    rintro n ⟨⟩
  · rw [← Except.error.inj h]
    rintro n ⟨⟩

theorem resolveCloudApp_noExit (appName : String) : Raises NoExit (resolveCloudApp appName) := by
  intro e h
  unfold resolveCloudApp at h
  split at h
  · cases h
  · rw [← Except.error.inj h]
    rintro n ⟨⟩

theorem sat_ofExcept_bind {α : Type} {s : Progress} (x : Except Raised α) {f : α → CliProgram Unit}
    (htext : s.text = none) (hx : Raises NoExit x)
    (hf : ∀ a, x = .ok a → Program.Sat (cliMonitor py email) Ends s (f a)) :
    Program.Sat (cliMonitor py email) Ends s (Program.ofExcept x >>= f) := by
  cases x with
  | error e => exact ends_of_noExit htext (hx e rfl)
  | ok a => exact hf a rfl

theorem sync_sat (path appName : String) (env : Environment) (turns : Nat) :
    Program.Sat (cliMonitor py (env.email.getD "")) Ends .start (sync py digests path appName env turns) := by
  apply sat_ofExcept_bind _ rfl (resolveCloudApp_noExit appName)
  intro app _
  apply sat_ofExcept_bind _ rfl (loadEnv_noExit env)
  intro account haccount
  rw [← loadEnv_email env account haccount]
  apply sat_bind _ (withCloud_sat app account.2 turns)
  · rintro s keys ⟨htext, hok, -⟩
    obtain ⟨hphase, hkeys, hshort⟩ := hok keys rfl
    apply sat_ofExcept_bind _ htext (noExit_ofPy _)
    intro text hstore
    have hstore : storeText s.keys = .ok text := by
      rw [hkeys]
      exact ofPy_eq_ok hstore
    refine ⟨⟨hphase, htext, hstore⟩, fun r hr => ?_⟩
    cases r with
    | error e => exact ends_of_noExit htext (noExit_of_foreign e (hr e rfl))
    | ok _ =>
      have hends (o : Except Raised Unit) (ho : Raises NoExit o) : Ends { s with text := some text } o := by
        refine ⟨fun text' h => ?_, fun _ _ => rfl, fun n h => absurd h fun h => ho _ h n rfl⟩
        obtain rfl := Option.some.inj h
        exact ⟨hphase, hstore, hkeys ▸ hshort⟩
      refine ⟨trivial, fun r hr => ?_⟩
      cases r with
      | error e => exact hends _ ((raises_error e).mpr (noExit_of_foreign e (hr e rfl)))
      | ok _ => exact hends _ ((raises_ok _).mpr trivial)
  · rintro s e ⟨htext, -, hexit⟩
    refine ⟨by rw [htext]; rintro _ ⟨⟩, by rintro _ ⟨⟩, fun n h => ?_⟩
    obtain ⟨rfl, hphase⟩ := hexit n (congrArg _ (Except.error.inj h))
    exact ⟨rfl, hphase, htext⟩

end Triples

/-! ## Runs -/

def Progress.observed (es : List (Event CliOp CliOp.Answer Raised)) : Progress :=
  es.foldl (fun s ev => s.learn py email ev.1 ev.2) .start

theorem admitsAll_of_foreign (es : List (Event CliOp CliOp.Answer Raised)) (h : ∀ ev ∈ es, Raises Foreign ev.2)
    (s : Progress) : (cliMonitor py email).AdmitsAll s es :=
  Monitor.admitsAll_of_forall (fun ev hev _ => h ev hev) s

/-- **The steps of `sync` come in their order**, whatever is answered: a site, a login, then a code for a new device or
the pages. The cache is written once, after a login, and with all of the keys. -/
theorem sync_in_order (path appName : String) (env : Environment) (turns : Nat)
    (before after : List (Event CliOp CliOp.Answer Raised)) (op : CliOp) (answer : Except Raised (CliOp.Answer op))
    (rest : CliProgram Unit) (hforeign : ∀ ev ∈ before, Raises Foreign ev.2)
    (hrun : Runs (sync py digests path appName env turns) (before ++ ⟨op, answer⟩ :: after) rest) :
    (Progress.observed py (env.email.getD "") before).Allows op :=
  sat_allows _ (sync_sat path appName env turns) hrun (admitsAll_of_foreign py _ before hforeign .start)

/-! ### A run that fetches one key -/

def testEnvironment : Environment := ⟨some "a@b.c", some "p"⟩

/-- The client once the install id has been loaded. -/
def testCloud (creds : Option CloudCredentials) : Account.TTLockCloud :=
  { Account.TTLockCloud.forApp schlageBreeze "en" with uniqueid := some "0f", creds := creds }

def requestEvents (creds : Option CloudCredentials) (path : String) (params : Params) (fields : List (String × Json)) :
    List (Event CliOp CliOp.Answer Raised) :=
  [⟨.http .now, .ok (7 : Int)⟩, ⟨.http .now, .ok (7 : Int)⟩,
    ⟨.http (.post ((testCloud creds).request testDigests "0f" path (params ++ [("date", "7"), ("d", "7")]) none)),
      .ok (⟨200, "", .ok (.dict fields)⟩ : Response)⟩]

def echoEvent (text : String) : Event CliOp CliOp.Answer Raised := ⟨.echo text, .ok ()⟩

/-- All that comes before the write. -/
def fetchEvents : List (Event CliOp CliOp.Answer Raised) :=
  ⟨.http .loadUniqueid, .ok "0f"⟩ :: requestEvents none "/system/getCountryAndSiteInfo" [("uniqueid", "0f")] [] ++
    requestEvents none "/user/login" (loginParams testDigests (testCloud none) "0f" "a@b.c" "p" none none)
      [("uid", .int 1), ("accessToken", .str "t")] ++
    echoEvent "logged in as uid=1" ::
    requestEvents (some ⟨1, "t", "a@b.c"⟩) "/check/syncDataPage" (syncPageParams (userInfo (testCloud none)) "0f" 1)
      [("keyInfos", .list [.dict (keyRow 1)])] ++
    [echoEvent "fetched 1 key(s)", ⟨.aclose, .ok ()⟩]

def fetchedKeys : List VirtualKey := (accepted testInterpreter 1 (.dict (keyRow 1))).toList

def fetchedText : String :=
  match storeText fetchedKeys with
  | .ok text => text
  | .error _ => ""

def savedEvents : List (Event CliOp CliOp.Answer Raised) :=
  fetchEvents ++ ⟨.writeStore fetchedText, .ok ()⟩ :: [echoEvent "saved → keys.json"]

theorem runs_saved :
    Runs (sync testInterpreter testDigests "keys.json" "schlage_breeze" testEnvironment 1) savedEvents
      (Program.ofExcept (.ok ())) :=
  .call (.call (.call (.call (.call (.call (.call (.call (.call (.call (.call (.call (.call (.call (.call
    (.done _)))))))))))))))

theorem foreign_saved : ∀ ev ∈ savedEvents, Raises Foreign ev.2 := by
  intro ev hev e he
  have hok : ev.2.isOk = true := List.all_eq_true.mp (show savedEvents.all (·.2.isOk) = true from rfl) ev hev
  rw [he] at hok
  cases hok

theorem sync_in_order_saved :
    (Progress.observed testInterpreter "a@b.c" fetchEvents).Allows (.writeStore fetchedText) :=
  sync_in_order testInterpreter testDigests "keys.json" "schlage_breeze" testEnvironment 1 fetchEvents
    [echoEvent "saved → keys.json"] (.writeStore fetchedText) (.ok ()) (Program.ofExcept (.ok ()))
    (fun ev hev => foreign_saved ev (List.mem_append_left _ hev)) runs_saved

/-- **A target finds in the cache what it named among the fetched keys**, if there is a cache. -/
theorem sync_resolveKey (path appName : String) (env : Environment) (turns : Nat)
    (es : List (Event CliOp CliOp.Answer Raised)) (o : Except Raised Unit)
    (hforeign : ∀ ev ∈ es, Raises Foreign ev.2) (hnesting : 3 ≤ py.nesting)
    (hrun : Runs (sync py digests path appName env turns) es (Program.ofExcept o)) :
    (o = .ok () → (Progress.observed py (env.email.getD "") es).text.isSome) ∧
      (∀ n, o = .error (.exit n) → n = 2 ∧ (Progress.observed py (env.email.getD "") es).phase = .codeAsked ∧
        (Progress.observed py (env.email.getD "") es).text = none) ∧
      ∀ text, (Progress.observed py (env.email.getD "") es).text = some text → ∀ upper target,
        resolveKey py upper path (some text) target =
          ((Progress.observed py (env.email.getD "") es).keys.find? (Names upper target)).elim
            (.error (.badParameter (noMatch target (Progress.observed py (env.email.getD "") es).keys)))
            (.ok ·.stored) := by
  have hends := (sat_ofExcept _ _ _ _).mp
    (sat_run _ (sync_sat path appName env turns) hrun (admitsAll_of_foreign py _ es hforeign .start))
  refine ⟨fun h => hends.saved () h, hends.exit, fun text htext upper target => ?_⟩
  obtain ⟨-, hstore, hshort⟩ := hends.text text htext
  obtain ⟨text', hstore', hresolve⟩ := resolveKey_storeText _ hshort hnesting upper path
  obtain rfl : text' = text := Except.ok.inj (hstore'.symm.trans hstore)
  exact hresolve target

theorem sync_resolveKey_saved :
    resolveKey testInterpreter id "keys.json" (some fetchedText) "101" =
        (fetchedKeys.find? (Names id "101")).elim (.error (.badParameter (noMatch "101" fetchedKeys))) (.ok ·.stored) ∧
      (fetchedKeys.find? (Names id "101")).isSome :=
  ⟨(sync_resolveKey testInterpreter testDigests "keys.json" "schlage_breeze" testEnvironment 1 savedEvents (.ok ())
    foreign_saved (by decide) runs_saved).2.2 fetchedText rfl id "101", by decide +kernel⟩

end TtlockBle.Sync
