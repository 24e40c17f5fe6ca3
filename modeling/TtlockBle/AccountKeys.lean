import TtlockBle.Account

/-!
# The keys of an account

`list_keys` with its install id, its times and its headers ends as the program that knows the pages
alone, so what is said of the rows of the pages holds of the account.
-/

open TtlockBle.Lib

namespace TtlockBle.Account

open Program

/-- What is left of an exception without the body of a `CloudError`. -/
def Raised.withoutBody : Raised → PyExc
  | .cloudError _ text => ⟨.cloudError, text⟩
  | .other e => e
  | .badParameter text => valueError text
  | .exit _ => valueError ""

section Alike

variable (py : Interpreter) (digests : Digests) (uniqueid : String) (time : Int) (resp : String → Response)

/-- The install id, the time, and a response for each number of a page. -/
def answerPage : (op : HttpOp) → Except Raised op.Answer
  | .loadUniqueid => .ok uniqueid
  | .now => .ok time
  | .post request => .ok (resp ((request.data.lookup "pageNo").getD ""))

def answerKeys : (op : CloudOp) → Py op.Answer
  | .post _ params => .ok (resp ((params.lookup "pageNo").getD ""))

/-- With an install id at hand the method ends as the program does, and leaves the client as it is. -/
def Alike {α : Type} (cloud : TTLockCloud) (m : CloudMethod α) (p : CloudProgram α) : Prop :=
  ((m cloud).outcome (answerPage uniqueid time resp) = none ∧ p.outcome (answerKeys resp) = none) ∨
    ∃ x, (m cloud).outcome (answerPage uniqueid time resp) = some (.ok (x, cloud)) ∧
      p.outcome (answerKeys resp) = some (x.mapError Raised.withoutBody)

/-! ## Step by step -/

section Rules

variable {uniqueid time resp} {α β : Type} {cloud : TTLockCloud}

theorem alike_ofExcept {x : Except Raised α} {y : Py α} (h : x.mapError Raised.withoutBody = y) :
    Alike uniqueid time resp cloud (Method.ofExcept x) (Program.ofExcept y) := by
  refine .inr ⟨x, rfl, ?_⟩
  rw [outcome_ofExcept, h]

theorem alike_ofPy (x : Py α) : Alike uniqueid time resp cloud (Method.ofExcept (ofPy x)) (Program.ofExcept x) := by
  apply alike_ofExcept
  cases x <;> rfl

theorem alike_bind {m : CloudMethod α} {p : CloudProgram α} {f : α → CloudMethod β} {g : α → CloudProgram β}
    (hm : Alike uniqueid time resp cloud m p) (hf : ∀ a, Alike uniqueid time resp cloud (f a) (g a)) :
    Alike uniqueid time resp cloud (m >>= f) (p >>= g) := by
  have hstart : ((m >>= f) cloud).outcome (answerPage uniqueid time resp) =
      ((m cloud).outcome (answerPage uniqueid time resp)).bind fun
        | .ok (x, cloud') => (match x with
            | .ok a => f a
            | .error e => Method.ofExcept (.error e) : CloudMethod β) cloud' |>.outcome (answerPage uniqueid time resp)
        | .error e => some (.error e) := by
    show ((m cloud).bind _).outcome _ = _
    rw [Program.bind, outcome_handle]
    congr 1
    funext r
    rcases r with e | ⟨e | a, cloud'⟩ <;> rfl
  unfold Alike
  rw [hstart, outcome_bind]
  rcases hm with ⟨hm, hp⟩ | ⟨e | a, hm, hp⟩
  · exact .inl ⟨by rw [hm]; rfl, by rw [hp]; rfl⟩
  · exact .inr ⟨.error e, by rw [hm]; rfl, by rw [hp]; rfl⟩
  · rcases hf a with ⟨hnone, hnone'⟩ | ⟨x, hsome, hsome'⟩
    · exact .inl ⟨by rw [hm]; exact hnone, by rw [hp]; exact hnone'⟩
    · exact .inr ⟨x, by rw [hm]; exact hsome, by rw [hp]; exact hsome'⟩

theorem alike_get {f : TTLockCloud → CloudMethod α} {p : CloudProgram α}
    (h : Alike uniqueid time resp cloud (f cloud) p) : Alike uniqueid time resp cloud (Method.get >>= f) p := h

end Rules

/-! ## Responses -/

theorem cloudError_type (body : Json) (e : PyExc) (h : cloudError py body = .ok e) : e = ⟨.cloudError, e.text⟩ := by
  unfold cloudError at h
  simp only [bind_eq_ok] at h
  obtain ⟨_, _, _, _, _, _, h⟩ := h
  obtain rfl := Except.ok.inj h
  rfl

theorem raised_withoutBody {α : Type} (body : Json) :
    ((newCloudError py body >>= fun e => throw e : Except Raised α)).mapError Raised.withoutBody =
      (cloudError py body >>= fun e => throw e) := by
  unfold newCloudError
  cases h : cloudError py body with
  | error e => rfl
  | ok e => exact congrArg Except.error (cloudError_type py body e h).symm

theorem mapError_bind {α β : Type} (x : Except Raised α) (f : α → Except Raised β) :
    (x >>= f).mapError Raised.withoutBody =
      x.mapError Raised.withoutBody >>= fun a => (f a).mapError Raised.withoutBody := by
  cases x <;> rfl

theorem ofPy_withoutBody {α : Type} (x : Py α) : (ofPy x).mapError Raised.withoutBody = x := by
  cases x <;> rfl

theorem readResponse_withoutBody (response : Response) :
    (readResponse py response).mapError Raised.withoutBody = checkResponse py response := by
  unfold readResponse checkResponse
  split_ifs with hstatus
  · cases hjson : response.json with
    | ok body => exact raised_withoutBody py body
    | error e =>
      dsimp only
      split_ifs
      · exact raised_withoutBody py _
      · rfl
  · rw [mapError_bind, ofPy_withoutBody]
    refine congrArg (response.json >>= ·) (funext fun body => ?_)
    rw [mapError_bind, ofPy_withoutBody]
    refine congrArg (getOr body "errcode" .null >>= ·) (funext fun errcode => ?_)
    rw [mapError_bind, ofPy_withoutBody]
    refine congrArg (getOr body "errorCode" .null >>= ·) (funext fun errorCode => ?_)
    split_ifs
    · exact raised_withoutBody py body
    · rfl

/-! ## The loop -/

variable {cloud : TTLockCloud} (hinstalled : cloud.uniqueid = some uniqueid)
include hinstalled

theorem asyncUniqueid_installed {α : Type} (f : String → CloudMethod α) :
    (asyncUniqueid >>= f) cloud = f uniqueid cloud := by
  have hget : asyncUniqueid cloud = .ret (.ok uniqueid, cloud) := by
    unfold asyncUniqueid
    rw [Method.get_bind]
    simp only [hinstalled]
    rfl
  show (asyncUniqueid cloud).bind _ = _
  rw [hget]
  rfl

theorem alike_asyncUniqueid {α : Type} {f : String → CloudMethod α} {p : CloudProgram α}
    (h : Alike uniqueid time resp cloud (f uniqueid) p) :
    Alike uniqueid time resp cloud (asyncUniqueid >>= f) p := by
  unfold Alike
  rwa [asyncUniqueid_installed uniqueid hinstalled]

theorem alike_post {path : String} {params params' : Params} {version : Option String}
    (hpage : params.lookup "pageNo" = params'.lookup "pageNo") :
    Alike uniqueid time resp cloud (post py digests path params version) (TtlockBle.post py path params') := by
  have hlookup : (setDefault (setDefault params "date" (toString time)) "d" (toString time)).lookup "pageNo" =
      params'.lookup "pageNo" := by
    rw [lookup_setDefault, if_neg (by decide), lookup_setDefault, if_neg (by decide), hpage]
  have hpost : (post py digests path params version cloud).outcome (answerPage uniqueid time resp) =
      some (.ok (readResponse py (resp ((params'.lookup "pageNo").getD "")), cloud)) := by
    rw [← hlookup]
    unfold post
    rw [asyncUniqueid_installed uniqueid hinstalled]
    rfl
  refine .inr ⟨_, hpost, ?_⟩
  rw [readResponse_withoutBody]
  show ((Program.perform (.post path params') : CloudProgram Response) >>= _).outcome _ = _
  rw [outcome_bind, outcome_perform]
  exact outcome_ofExcept (answerKeys resp) _

theorem alike_listKeysLoop (uid : Int) (userInfo : String) (turns : Nat) (pageNo : Int) (keys : List VirtualKey) :
    Alike uniqueid time resp cloud (listKeysLoop py digests uid userInfo uniqueid turns pageNo keys)
      (TtlockBle.listKeysLoop py uid turns pageNo keys) := by
  induction turns generalizing pageNo keys with
  | zero => exact .inl ⟨rfl, rfl⟩
  | succ turns ih =>
    unfold listKeysLoop TtlockBle.listKeysLoop
    refine alike_bind (alike_post py digests uniqueid time resp hinstalled rfl) fun body => ?_
    refine alike_bind (alike_ofPy _) fun keyInfos => ?_
    refine alike_bind (alike_ofPy _) fun keyList => ?_
    cases (keyInfos.orElse keyList).orElse (.list []) with
    | list page =>
      refine alike_bind (alike_ofPy _) fun more => ?_
      refine alike_bind (alike_ofPy _) fun pages => ?_
      refine alike_bind (alike_ofPy _) fun pageNos => ?_
      refine alike_bind (alike_ofPy _) fun count => ?_
      split_ifs
      · exact alike_ofExcept rfl
      · exact ih _ _
    | _ => exact alike_ofExcept rfl

/-- **The keys of an account are the keys of its pages.** -/
theorem alike_listKeys (turns : Nat) :
    Alike uniqueid time resp cloud (listKeys py digests turns)
      (TtlockBle.TTLockCloud.listKeys py ⟨cloud.creds⟩ turns) := by
  unfold listKeys TtlockBle.TTLockCloud.listKeys
  refine alike_get ?_
  dsimp only
  cases cloud.creds with
  | none =>
    unfold newCloudError
    cases h : cloudError py (.dict [("errmsg", .str "login() before list_keys()")]) with
    | error e => exact .inr ⟨.error (.other e), rfl, rfl⟩
    | ok e =>
      refine .inr ⟨.error (.cloudError _ e.text), rfl, ?_⟩
      exact congrArg (some ∘ Except.error) (cloudError_type py _ e h)
  | some creds =>
    exact alike_asyncUniqueid uniqueid time resp hinstalled
      (alike_listKeysLoop py digests uniqueid time resp hinstalled _ _ turns 1 [])

end Alike

end TtlockBle.Account
