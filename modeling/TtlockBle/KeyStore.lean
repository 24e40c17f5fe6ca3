import TtlockBle.Code.Cli
import TtlockBle.NullFields

/-!
# The key cache

What `sync` writes is read back as the same keys, and a target finds in the cache what it would find
among the keys that were fetched.
-/

open TtlockBle.Lib

namespace TtlockBle.KeyStore

open Account Cli KeyRows Raises

/-! ## Integers -/

/-- Integers that Python writes as text. -/
structure ShortVersion (version : LockVersion) : Prop where
  protocolType : Json.shortInt version.protocolType = true
  protocolVersion : Json.shortInt version.protocolVersion = true
  scene : Json.shortInt version.scene = true
  groupId : Json.shortInt version.groupId = true
  orgId : Json.shortInt version.orgId = true

structure ShortKey (key : VirtualKey) : Prop where
  keyId : Json.shortInt key.keyId = true
  lockId : Json.shortInt key.lockId = true
  lockVersion : ShortVersion key.lockVersion
  lockFlagPos : Json.shortInt key.lockFlagPos = true
  timezoneRawOffSet : Json.shortInt key.timezoneRawOffSet = true
  startTime : Json.shortInt key.startTime = true
  endTime : Json.shortInt key.endTime = true
  keyType : Json.shortInt key.keyType = true
  keyboardPwdVersion : Json.shortInt key.keyboardPwdVersion = true
  specialValue : Json.shortInt key.specialValue = true
  uid : Json.shortInt key.uid = true

variable {py : Interpreter}

theorem shortInt_of_pyInt (s : String) (n : Int) (h : pyInt s = .ok n) : Json.shortInt n = true := by
  unfold pyInt at h
  split at h
  · rename_i m hm
    obtain rfl := Except.ok.inj h
    exact decide_eq_true (parseInt_short s m hm)
  · cases h

theorem shortInt_of_toInt (value : Json) (n : Int) (h : toInt py value = .ok n) : Json.shortInt n = true := by
  unfold toInt at h
  split at h
  · obtain rfl := Except.ok.inj h
    decide
  · obtain rfl := Except.ok.inj h
    decide
  · exact shortInt_of_pyInt _ n h

theorem shortVersion_of_parse (raw : Json) (version : LockVersion) (h : LockVersion.parse py raw = .ok version) :
    ShortVersion version := by
  unfold LockVersion.parse at h
  simp only [bind_eq_ok] at h
  obtain ⟨data, -, _, -, type, htype, _, -, sub, hsub, _, -, scene, hscene, _, -, group, hgroup, _, -, org,
    horg, h⟩ := h
  obtain rfl := Except.ok.inj h
  exact ⟨shortInt_of_pyInt _ _ htype, shortInt_of_pyInt _ _ hsub, shortInt_of_pyInt _ _ hscene,
    shortInt_of_pyInt _ _ hgroup, shortInt_of_pyInt _ _ horg⟩

theorem shortKey_of_fromCloud (row : Json) (uid : Int) (key : VirtualKey) (huid : Json.shortInt uid = true)
    (h : VirtualKey.fromCloud py row uid = .ok key) : ShortKey key := by
  cases row with
  | dict fields =>
    have hreads := (NullFields.fromCloud_ok_iff fields uid key).mp h
    obtain ⟨_, _, hkeyId⟩ := hreads.keyId
    obtain ⟨_, _, hlockId⟩ := hreads.lockId
    obtain ⟨_, _, hversion⟩ := hreads.lockVersion
    exact ⟨shortInt_of_toInt _ _ hkeyId, shortInt_of_toInt _ _ hlockId, shortVersion_of_parse _ _ hversion,
      shortInt_of_toInt _ _ hreads.lockFlagPos, shortInt_of_toInt _ _ hreads.timezoneRawOffSet,
      shortInt_of_toInt _ _ hreads.startTime, shortInt_of_toInt _ _ hreads.endTime,
      shortInt_of_toInt _ _ hreads.keyType, shortInt_of_toInt _ _ hreads.keyboardPwdVersion,
      shortInt_of_toInt _ _ hreads.specialValue, hreads.uid ▸ huid⟩
  | _ => cases h

/-! ## One key -/

theorem asDict_plain (version : LockVersion) (h : ShortVersion version) : version.asDict.plain = true := by
  simp only [LockVersion.asDict, Json.plain, Json.plainFields, h.protocolType, h.protocolVersion, h.scene, h.groupId,
    h.orgId, List.map_cons, List.map_nil]
  decide

theorem toDict_plain (key : VirtualKey) (h : ShortKey key) : key.toDict.plain = true := by
  simp only [VirtualKey.toDict, Json.plain, Json.plainFields, asDict_plain _ h.lockVersion, h.keyId, h.lockId,
    h.lockFlagPos, h.timezoneRawOffSet, h.startTime, h.endTime, h.keyType, h.keyboardPwdVersion, h.specialValue, h.uid,
    List.map_cons, List.map_nil]
  decide

theorem toDict_depth (key : VirtualKey) : key.toDict.depth = 2 := by
  simp [VirtualKey.toDict, LockVersion.asDict, Json.depth, Json.depthFields]

theorem toInt_int (n : Int) (h : Json.shortInt n = true) : toInt py (.int n) = .ok n := by
  have htext : (Json.int n).text py = toString n := by
    simp only [Json.text, Json.repr]
  show intOfStr py (.int n) = _
  rw [intOfStr, htext, pyInt, parseInt_toString_int n (by simpa [Json.shortInt] using h)]

theorem readVersion_asDict (version : LockVersion) (h : ShortVersion version) :
    StoredKey.readVersion py version.asDict = .ok version := by
  simp [StoredKey.readVersion, LockVersion.asDict, getItem, Json.lookup_cons, ok_bind, toInt_int, h.protocolType,
    h.protocolVersion, h.scene, h.groupId, h.orgId]

theorem checkArguments_ok (kwargs : List (String × Json))
    (hknown : ∀ name ∈ kwargs.map Prod.fst, name ∈ requiredArguments ++ defaultArguments.map Prod.fst)
    (hrequired : ∀ name ∈ requiredArguments, name ∈ kwargs.map Prod.fst) : checkArguments kwargs = .ok () := by
  have hfind : kwargs.find? (fun f => f.1 ∉ requiredArguments ++ defaultArguments.map Prod.fst) = none := by
    rw [List.find?_eq_none]
    intro f hf
    rw [decide_eq_true_iff, not_not]
    exact hknown f.1 (List.mem_map_of_mem hf)
  have hmissing : requiredArguments.filter (fun name => name ∉ kwargs.map Prod.fst) = [] := by
    rw [List.filter_eq_nil_iff]
    intro name hname
    simpa using hrequired name hname
  unfold checkArguments
  simp only [hfind, hmissing]
  rfl

/-- **`from_dict` reverses `to_dict`.** -/
theorem fromDict_toDict (key : VirtualKey) (h : ShortKey key) :
    StoredKey.fromDict py key.toDict = .ok key.stored := by
  have hcheck : checkArguments [("keyId", .int key.keyId), ("lockId", .int key.lockId), ("lockMac", .str key.lockMac),
      ("lockAlias", .str key.lockAlias), ("lockName", .str key.lockName), ("lockVersion", key.lockVersion.asDict),
      ("aesKeyStr", .str key.aesKeyStr), ("unlockKey", .str key.unlockKey), ("lockFlagPos", .int key.lockFlagPos),
      ("timezoneRawOffSet", .int key.timezoneRawOffSet), ("startTime", .int key.startTime),
      ("endTime", .int key.endTime), ("keyType", .int key.keyType), ("userType", .str key.userType),
      ("adminPs", .str key.adminPs), ("keyboardPwdVersion", .int key.keyboardPwdVersion),
      ("specialValue", .int key.specialValue), ("featureValue", .str key.featureValue), ("uid", .int key.uid)] =
      .ok () := by
    apply checkArguments_ok <;> simp only [List.map_cons, List.map_nil] <;> decide
  unfold StoredKey.fromDict VirtualKey.toDict dictOf
  simp [getItem, Json.lookup_cons, ok_bind, readVersion_asDict _ h.lockVersion, hcheck]
  rfl

/-! ## The cache -/

theorem mapM_fromDict (keys : List VirtualKey) (h : ∀ key ∈ keys, ShortKey key) :
    (keys.map VirtualKey.toDict).mapM (StoredKey.fromDict py) = .ok (keys.map VirtualKey.stored) := by
  induction keys with
  | nil => rfl
  | cons key keys ih =>
    rw [List.forall_mem_cons] at h
    rw [List.map_cons, List.mapM_cons, fromDict_toDict key h.1, ok_bind, ih h.2]
    rfl

/-- **The cache is read as it was written.** It nests three values. -/
theorem loadKeys_storeText (keys : List VirtualKey) (h : ∀ key ∈ keys, ShortKey key) (hnesting : 3 ≤ py.nesting)
    (path : String) :
    ∃ text, storeText keys = .ok text ∧ text.toList.all Json.isAsciiText = true ∧
      loadKeys py path (some text) = .ok (keys.map VirtualKey.stored) := by
  have hplain : (Json.list (keys.map VirtualKey.toDict)).plain = true := by
    unfold Json.plain
    rw [Json.plainItems_iff]
    rintro _ hitem
    obtain ⟨key, hkey, rfl⟩ := List.mem_map.mp hitem
    exact toDict_plain key (h key hkey)
  have hdepth : (Json.list (keys.map VirtualKey.toDict)).depth ≤ py.nesting := by
    unfold Json.depth
    apply Nat.le_trans (Nat.succ_le_succ _) hnesting
    rw [Json.depthItems_le]
    rintro _ hitem
    obtain ⟨key, -, rfl⟩ := List.mem_map.mp hitem
    exact (toDict_depth key).le
  obtain ⟨text, hdumps, hascii, hloads⟩ := Json.loads_dumps py (some 2) _ hplain hdepth
  refine ⟨text, by rw [storeText, hdumps]; rfl, hascii, ?_⟩
  have hjson : jsonLoads py text = .ok (.list (keys.map VirtualKey.toDict)) := by rw [jsonLoads, hloads]
  simp only [loadKeys, hjson, ok_bind, iterate, mapM_fromDict keys h]
  rfl

/-! ## Targets -/

/-- Whether a target names a key: by its id, its alias, or its address in either case. -/
def Names (upper : String → String) (target : String) (key : VirtualKey) : Bool :=
  toString key.lockId = target || key.lockAlias = target || upper key.lockMac = upper target

theorem text_int (n : Int) : (Json.int n).text py = toString n := by
  simp only [Json.text, Json.repr]

theorem answersTo_stored (upper : String → String) (key : VirtualKey) (target : String) :
    answersTo py upper key.stored target = .ok (Names upper target key) := by
  have hfirst : (key.stored.lockId.text py = target ∨ isStr key.stored.lockAlias target = true) ↔
      toString key.lockId = target ∨ key.lockAlias = target := by
    simp only [VirtualKey.stored, text_int, isStr, decide_eq_true_iff]
  unfold answersTo Names
  by_cases h : toString key.lockId = target ∨ key.lockAlias = target
  · rw [if_pos (hfirst.mpr h)]
    have hnames : (toString key.lockId = target || key.lockAlias = target) = true := by simpa using h
    rw [hnames]
    rfl
  · rw [if_neg (mt hfirst.mp h)]
    have hnames : (toString key.lockId = target || key.lockAlias = target) = false := by simpa using h
    rw [hnames]
    rfl

theorem firstMatch_stored (upper : String → String) (target : String) (keys : List VirtualKey) :
    firstMatch py upper target (keys.map VirtualKey.stored) =
      .ok ((keys.find? (Names upper target)).map VirtualKey.stored) := by
  induction keys with
  | nil => rfl
  | cons key keys ih =>
    rw [List.map_cons, firstMatch, answersTo_stored, ok_bind]
    cases hnames : Names upper target key with
    | true =>
      rw [List.find?_cons_of_pos hnames]
      rfl
    | false =>
      rw [List.find?_cons_of_neg (by simp [hnames])]
      exact ih

/-- The text of the exception where no key is named. -/
def noMatch (target : String) (keys : List VirtualKey) : String :=
  s!"No key matches '{target}'. Available: " ++
    ", ".intercalate (keys.map fun key => s!"{toString key.lockId}({key.lockAlias})")

/-- **A target finds in the cache what it names among the fetched keys**, the first of them, and the exception lists
them all. -/
theorem resolveKey_storeText (keys : List VirtualKey) (h : ∀ key ∈ keys, ShortKey key) (hnesting : 3 ≤ py.nesting)
    (upper : String → String) (path : String) :
    ∃ text, storeText keys = .ok text ∧ ∀ target, resolveKey py upper path (some text) target =
      (keys.find? (Names upper target)).elim (.error (.badParameter (noMatch target keys))) (.ok ·.stored) := by
  obtain ⟨text, htext, -, hload⟩ := loadKeys_storeText keys h hnesting path
  refine ⟨text, htext, fun target => ?_⟩
  have hlabels : (keys.map VirtualKey.stored).map (keyLabel py) =
      keys.map fun key => s!"{toString key.lockId}({key.lockAlias})" := by
    rw [List.map_map]
    apply List.map_congr_left
    intro key _
    show s!"{(Json.int key.lockId).text py}({(Json.str key.lockAlias).text py})" = _
    rw [text_int]
    rfl
  unfold resolveKey
  rw [hload, ok_bind, firstMatch_stored]
  cases keys.find? (Names upper target) with
  | none =>
    show Except.error _ = _
    rw [hlabels]
    rfl
  | some key => rfl

end TtlockBle.KeyStore
