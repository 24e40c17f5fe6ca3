import TtlockBle.KeyRows

/-!
# Null and absent fields

`from_cloud` reads an optional field in one of four ways. Two of them take null for a text: `str` in
the row, and `int(str)` in `lockVersion`.
-/

open TtlockBle.Lib

namespace TtlockBle.NullFields

open KeyRows

/-! ## The fields -/

def requiredFields : List String := ["keyId", "lockId", "lockMac", "aesKeyStr"]

def passwordFields : List String := ["lockKey", "noKeyPwd", "unlockKey", "adminPwd", "adminPs"]

def textFields : List String := ["lockAlias", "lockName", "userType"]

def numberFields : List String :=
  ["lockFlagPos", "timezoneRawOffSet", "startDate", "endDate", "keyType", "keyboardPwdVersion", "specialValue"]

def optionalFields : List String := passwordFields ++ textFields ++ numberFields ++ ["featureValue"]

theorem required_not_optional : ∀ key ∈ requiredFields, key ∉ optionalFields := by decide

theorem ne_of_required : ∀ key ∈ requiredFields, key ≠ "lockVersion" := by decide

theorem ne_of_orNull : ∀ key ∈ "featureValue" :: passwordFields, key ≠ "lockVersion" := by decide

theorem ne_of_text : ∀ key ∈ textFields, key ≠ "lockVersion" := by decide

theorem ne_of_number : ∀ key ∈ numberFields, key ≠ "lockVersion" := by decide

def versionFields : List String := ["groupId", "orgId"]

abbrev Fields := List (String × Json)

/-- The row with some fields null, and what its `lockVersion` then is. -/
def nulled (row : Fields) (keys : List String) (version : Json) : Fields :=
  Json.setField (Json.setNull row keys) "lockVersion" version

def removed (row : Fields) (keys : List String) (version : Json) : Fields :=
  Json.setField (Json.removeFields row keys) "lockVersion" version

def lockKeyField (row : Fields) : Json :=
  ((((row.lookup "lockKey").getD .null).orElse ((row.lookup "noKeyPwd").getD .null)).orElse
    ((row.lookup "unlockKey").getD .null)).orElse (.str "")

def adminField (row : Fields) : Json :=
  (((row.lookup "adminPwd").getD .null).orElse ((row.lookup "adminPs").getD .null)).orElse (.str "")

def PasswordsDecode (py : Interpreter) (row : Fields) : Prop :=
  (∃ password, decodePassword ((lockKeyField row).text py) = .ok password) ∧
    ∃ password, decodePassword ((adminField row).text py) = .ok password

/-! ## What a row gives -/

variable {py : Interpreter}

structure Reads (py : Interpreter) (row : Fields) (uid : Int) (key : VirtualKey) : Prop where
  keyId : ∃ value, row.lookup "keyId" = some value ∧ toInt py value = .ok key.keyId
  lockId : ∃ value, row.lookup "lockId" = some value ∧ toInt py value = .ok key.lockId
  lockMac : ∃ value, row.lookup "lockMac" = some value ∧ value.text py = key.lockMac
  lockAlias : ((row.lookup "lockAlias").getD (.str "")).text py = key.lockAlias
  lockName : ((row.lookup "lockName").getD (.str "")).text py = key.lockName
  lockVersion : ∃ value, row.lookup "lockVersion" = some value ∧ LockVersion.parse py value = .ok key.lockVersion
  aesKeyStr : ∃ value, row.lookup "aesKeyStr" = some value ∧ value.text py = key.aesKeyStr
  unlockKey : decodePassword ((lockKeyField row).text py) = .ok key.unlockKey
  lockFlagPos : toInt py ((row.lookup "lockFlagPos").getD (.int 0)) = .ok key.lockFlagPos
  timezoneRawOffSet : toInt py ((row.lookup "timezoneRawOffSet").getD (.int 0)) = .ok key.timezoneRawOffSet
  startTime : toInt py ((row.lookup "startDate").getD (.int 0)) = .ok key.startTime
  endTime : toInt py ((row.lookup "endDate").getD (.int 0)) = .ok key.endTime
  keyType : toInt py ((row.lookup "keyType").getD (.int 0)) = .ok key.keyType
  userType : ((row.lookup "userType").getD (.str "")).text py = key.userType
  adminPs : decodePassword ((adminField row).text py) = .ok key.adminPs
  keyboardPwdVersion : toInt py ((row.lookup "keyboardPwdVersion").getD (.int 0)) = .ok key.keyboardPwdVersion
  specialValue : toInt py ((row.lookup "specialValue").getD (.int 0)) = .ok key.specialValue
  featureValue : (((row.lookup "featureValue").getD .null).orElse (.str "")).text py = key.featureValue
  uid : uid = key.uid

theorem fromCloud_ok_iff (row : Fields) (uid : Int) (key : VirtualKey) :
    VirtualKey.fromCloud py (.dict row) uid = .ok key ↔ Reads py row uid key := by
  unfold VirtualKey.fromCloud
  simp only [getOr, ok_bind, bind_eq_ok, getItem_eq_ok]
  constructor
  · rintro ⟨version, hversion, keyId, hkeyId, n, hn, lockId, hlockId, m, hm, mac, hmac, lockVersion, hparse, aesKey,
      haesKey, unlockKey, hunlockKey, flagPos, hflagPos, offset, hoffset, startTime, hstart, endTime, hend, keyType,
      hkeyType, adminPs, hadminPs, pwdVersion, hpwdVersion, special, hspecial, hkey⟩
    obtain rfl := Except.ok.inj hkey
    exact ⟨⟨_, hkeyId, hn⟩, ⟨_, hlockId, hm⟩, ⟨_, hmac, rfl⟩, rfl, rfl, ⟨_, hversion, hparse⟩, ⟨_, haesKey, rfl⟩,
      hunlockKey, hflagPos, hoffset, hstart, hend, hkeyType, rfl, hadminPs, hpwdVersion, hspecial, rfl, rfl⟩
  · intro h
    obtain ⟨keyId, hkeyId, hn⟩ := h.keyId
    obtain ⟨lockId, hlockId, hm⟩ := h.lockId
    obtain ⟨mac, hmac, hmacText⟩ := h.lockMac
    obtain ⟨version, hversion, hparse⟩ := h.lockVersion
    obtain ⟨aesKey, haesKey, haesKeyText⟩ := h.aesKeyStr
    refine ⟨version, hversion, keyId, hkeyId, _, hn, lockId, hlockId, _, hm, mac, hmac, _, hparse, aesKey, haesKey,
      _, h.unlockKey, _, h.lockFlagPos, _, h.timezoneRawOffSet, _, h.startTime, _, h.endTime, _, h.keyType, _,
      h.adminPs, _, h.keyboardPwdVersion, _, h.specialValue, ?_⟩
    rw [hmacText, haesKeyText, h.lockAlias, h.lockName, h.userType, h.featureValue, h.uid]
    rfl

theorem fromCloud_congr (row row' : Fields) (uid : Int) (version version' : Json)
    (hrequired : ∀ key ∈ requiredFields, row.lookup key = row'.lookup key)
    (hversion : row.lookup "lockVersion" = some version) (hversion' : row'.lookup "lockVersion" = some version')
    (hparse : LockVersion.parse py version = LockVersion.parse py version')
    (horNull : ∀ key ∈ "featureValue" :: passwordFields, (row.lookup key).getD .null = (row'.lookup key).getD .null)
    (htexts : ∀ key ∈ textFields, (row.lookup key).getD (.str "") = (row'.lookup key).getD (.str ""))
    (hnumbers : ∀ key ∈ numberFields,
      toInt py ((row.lookup key).getD (.int 0)) = toInt py ((row'.lookup key).getD (.int 0))) :
    VirtualKey.fromCloud py (.dict row) uid = VirtualKey.fromCloud py (.dict row') uid := by
  simp only [List.forall_mem_cons, requiredFields, passwordFields] at hrequired horNull
  simp only [List.forall_mem_cons, textFields, numberFields] at htexts hnumbers
  obtain ⟨hkeyId, hlockId, hmac, haesKey, -⟩ := hrequired
  obtain ⟨hfeature, hlockKey, hnoKeyPwd, hunlockKey, hadminPwd, hadminPs, -⟩ := horNull
  obtain ⟨halias, hname, huserType, -⟩ := htexts
  obtain ⟨hflagPos, hoffset, hstart, hend, hkeyType, hpwdVersion, hspecial, -⟩ := hnumbers
  unfold VirtualKey.fromCloud
  simp only [getOr, getItem, ok_bind, hversion, hversion', hparse, hkeyId, hlockId, hmac, haesKey, hfeature,
    hlockKey, hnoKeyPwd, hunlockKey, hadminPwd, hadminPs, halias, hname, huserType, hflagPos, hoffset, hstart, hend,
    hkeyType, hpwdVersion, hspecial]

/-! ## Null in the row -/

section Row

variable (row : Fields) (keys : List String) (version version' : Json)

@[simp]
theorem lookup_nulled_version : (nulled row keys version).lookup "lockVersion" = some version := by
  rw [nulled, Json.lookup_setField, if_pos rfl]

@[simp]
theorem lookup_removed_version : (removed row keys version).lookup "lockVersion" = some version := by
  rw [removed, Json.lookup_setField, if_pos rfl]

variable {key : String} (hkey : key ≠ "lockVersion")

include hkey

theorem lookup_nulled :
    (nulled row keys version).lookup key = if key ∈ keys then some .null else row.lookup key := by
  rw [nulled, Json.lookup_setField, if_neg hkey, Json.lookup_setNull]

theorem lookup_removed :
    (removed row keys version).lookup key = if key ∈ keys then none else row.lookup key := by
  rw [removed, Json.lookup_setField, if_neg hkey, Json.lookup_removeFields]

theorem lookup_unchanged (hnot : key ∉ keys) :
    (nulled row keys version).lookup key = (removed row keys version').lookup key := by
  rw [lookup_nulled _ _ _ hkey, lookup_removed _ _ _ hkey, if_neg hnot, if_neg hnot]

end Row

theorem toInt_absent : toInt py (.int 0) = .ok 0 := toInt_int 0 (by decide)

theorem intOfStr_null : intOfStr py .null = .error (valueError "invalid literal for int() with base 10: 'None'") := by
  have htext : Json.null.text py = "None" := by simp [Json.text, Json.repr]
  rw [intOfStr, htext]
  rfl

/-- With a default of null, null is absent. So it is for `_to_int`; for `str` it is not. -/
theorem fromCloud_nulled (row : Fields) (uid : Int) (keys : List String) (version version' : Json)
    (hkeys : ∀ key ∈ keys, key ∈ optionalFields) (htexts : ∀ key ∈ keys, key ∉ textFields)
    (hparse : LockVersion.parse py version = LockVersion.parse py version') :
    VirtualKey.fromCloud py (.dict (nulled row keys version)) uid =
      VirtualKey.fromCloud py (.dict (removed row keys version')) uid := by
  apply fromCloud_congr _ _ uid version version'
  · intro key hkey
    exact lookup_unchanged _ _ _ _ (ne_of_required key hkey) fun hmem =>
      required_not_optional key hkey (hkeys key hmem)
  · exact lookup_nulled_version row keys version
  · exact lookup_removed_version row keys version'
  · exact hparse
  · intro key hkey
    rw [lookup_nulled _ _ _ (ne_of_orNull key hkey), lookup_removed _ _ _ (ne_of_orNull key hkey)]
    split <;> rfl
  · intro key hkey
    rw [lookup_unchanged _ _ _ version' (ne_of_text key hkey) fun hmem => htexts key hmem hkey]
  · intro key hkey
    rw [lookup_nulled _ _ _ (ne_of_number key hkey), lookup_removed _ _ _ (ne_of_number key hkey)]
    split
    · exact toInt_absent.symm
    · rfl

theorem exists_fromCloud_removed (row : Fields) (uid : Int) (key : VirtualKey) (keys : List String)
    (version : Json) (lockVersion : LockVersion) (hkeys : ∀ key ∈ keys, key ∈ optionalFields)
    (hrow : Reads py row uid key) (hparse : LockVersion.parse py version = .ok lockVersion)
    (hpasswords : PasswordsDecode py (removed row keys version)) :
    ∃ key, VirtualKey.fromCloud py (.dict (removed row keys version)) uid = .ok key := by
  have hrequired : ∀ key ∈ requiredFields, (removed row keys version).lookup key = row.lookup key := by
    intro key hkey
    rw [lookup_removed _ _ _ (ne_of_required key hkey),
      if_neg fun hmem => required_not_optional key hkey (hkeys key hmem)]
  have hnumber : ∀ key ∈ numberFields, (∃ n, toInt py ((row.lookup key).getD (.int 0)) = .ok n) →
      ∃ n, toInt py (((removed row keys version).lookup key).getD (.int 0)) = .ok n := by
    intro key hkey hn
    rw [lookup_removed _ _ _ (ne_of_number key hkey)]
    split
    · exact ⟨0, toInt_absent⟩
    · exact hn
  obtain ⟨unlockKey, hunlockKey⟩ := hpasswords.1
  obtain ⟨adminPs, hadminPs⟩ := hpasswords.2
  obtain ⟨flagPos, hflagPos⟩ := hnumber "lockFlagPos" (by decide) ⟨_, hrow.lockFlagPos⟩
  obtain ⟨offset, hoffset⟩ := hnumber "timezoneRawOffSet" (by decide) ⟨_, hrow.timezoneRawOffSet⟩
  obtain ⟨startTime, hstart⟩ := hnumber "startDate" (by decide) ⟨_, hrow.startTime⟩
  obtain ⟨endTime, hend⟩ := hnumber "endDate" (by decide) ⟨_, hrow.endTime⟩
  obtain ⟨keyType, hkeyType⟩ := hnumber "keyType" (by decide) ⟨_, hrow.keyType⟩
  obtain ⟨pwdVersion, hpwdVersion⟩ := hnumber "keyboardPwdVersion" (by decide) ⟨_, hrow.keyboardPwdVersion⟩
  obtain ⟨special, hspecial⟩ := hnumber "specialValue" (by decide) ⟨_, hrow.specialValue⟩
  obtain ⟨keyId, hkeyId, hn⟩ := hrow.keyId
  obtain ⟨lockId, hlockId, hm⟩ := hrow.lockId
  obtain ⟨mac, hmac, -⟩ := hrow.lockMac
  obtain ⟨aesKey, haesKey, -⟩ := hrow.aesKeyStr
  rw [← hrequired _ (by decide)] at hkeyId hlockId hmac haesKey
  unfold lockKeyField at hunlockKey
  unfold adminField at hadminPs
  unfold VirtualKey.fromCloud
  simp only [getOr, getItem, ok_bind, lookup_removed_version, hkeyId, hlockId, hmac, haesKey, hn, hm, hparse,
    hunlockKey, hadminPs, hflagPos, hoffset, hstart, hend, hkeyType, hpwdVersion, hspecial]
  exact ⟨_, rfl⟩

theorem text_null (py : Interpreter) (row : Fields) (keys : List String) (version version' : Json) (key : String)
    (hmem : key ∈ keys) (hkey : key ∈ textFields) :
    (((nulled row keys version).lookup key).getD (.str "")).text py ≠
      (((removed row keys version').lookup key).getD (.str "")).text py := by
  rw [lookup_nulled _ _ _ (ne_of_text key hkey), lookup_removed _ _ _ (ne_of_text key hkey), if_pos hmem,
    if_pos hmem]
  simp [Json.text, Json.repr]

/-! ## Null in `lockVersion` -/

theorem parse_congr (raw raw' : Json) (h : LockVersion.parseData py raw = LockVersion.parseData py raw') :
    LockVersion.parse py raw = LockVersion.parse py raw' := by
  unfold LockVersion.parse
  rw [h]

theorem parse_reads (raw : Json) (data : Fields) (v : LockVersion)
    (hdata : LockVersion.parseData py raw = .ok (.dict data)) (h : LockVersion.parse py raw = .ok v)
    (key : String) (hkey : key ∈ versionFields) :
    ∃ n, intOfStr py ((data.lookup key).getD (.int 0)) = .ok n := by
  unfold LockVersion.parse at h
  rw [hdata] at h
  simp only [getOr, ok_bind, bind_eq_ok] at h
  obtain ⟨_, _, _, _, _, _, _, _, _, _, _, _, groupId, hgroupId, orgId, horgId, -⟩ := h
  simp only [versionFields, List.mem_cons, List.not_mem_nil, or_false] at hkey
  rcases hkey with rfl | rfl
  · exact ⟨groupId, hgroupId⟩
  · exact ⟨orgId, horgId⟩

theorem parse_null_refused (raw : Json) (data : Fields) (v : LockVersion) (keys : List String)
    (hkeys : ∀ key ∈ keys, key ∈ versionFields)
    (hdata : LockVersion.parseData py raw = .ok (.dict (Json.setNull data keys)))
    (h : LockVersion.parse py raw = .ok v) : keys = [] := by
  by_contra hne
  obtain ⟨key, hkey⟩ := List.exists_mem_of_ne_nil keys hne
  obtain ⟨n, hn⟩ := parse_reads raw _ v hdata h key (hkeys key hkey)
  rw [Json.lookup_setNull, if_pos hkey, Option.getD_some, intOfStr_null] at hn
  cases hn

/-! ## Any set of fields -/

theorem passwordsDecode_removed (row : Fields) (keys : List String) (version : Json) :
    PasswordsDecode py (removed row keys version) ↔ PasswordsDecode py (Json.removeFields row keys) := by
  have hlookup : ∀ key ∈ passwordFields,
      (removed row keys version).lookup key = (Json.removeFields row keys).lookup key := by
    intro key hkey
    rw [lookup_removed _ _ _ (ne_of_orNull key (List.mem_cons_of_mem _ hkey)), Json.lookup_removeFields]
  simp only [List.forall_mem_cons, passwordFields] at hlookup
  obtain ⟨hlockKey, hnoKeyPwd, hunlockKey, hadminPwd, hadminPs, -⟩ := hlookup
  simp only [PasswordsDecode, lockKeyField, adminField, hlockKey, hnoKeyPwd, hunlockKey, hadminPwd, hadminPs]

/-- **Null is absent** in an accepted row, except for the fields that are read by `str` alone. -/
theorem null_is_absent_iff (py : Interpreter) (row : Fields) (uid : Int) (keys versionKeys : List String)
    (raw rawNulled rawRemoved : Json) (data : Fields)
    (haccepted : ∃ key, VirtualKey.fromCloud py (.dict row) uid = .ok key)
    (hkeys : ∀ key ∈ keys, key ∈ optionalFields) (hversionKeys : ∀ key ∈ versionKeys, key ∈ versionFields)
    (hraw : row.lookup "lockVersion" = some raw) (hdata : LockVersion.parseData py raw = .ok (.dict data))
    (hnulled : LockVersion.parseData py rawNulled = .ok (.dict (Json.setNull data versionKeys)))
    (hremoved : LockVersion.parseData py rawRemoved = .ok (.dict (Json.removeFields data versionKeys))) :
    ((∃ key, VirtualKey.fromCloud py (.dict (nulled row keys rawNulled)) uid = .ok key ∧
        VirtualKey.fromCloud py (.dict (removed row keys rawRemoved)) uid = .ok key) ↔
      PasswordsDecode py (Json.removeFields row keys) ∧ (∀ key ∈ keys, key ∉ textFields) ∧ versionKeys = []) ∧
    ((∀ key ∈ keys, key ∉ textFields) ∧ versionKeys = [] →
      VirtualKey.fromCloud py (.dict (nulled row keys rawNulled)) uid =
        VirtualKey.fromCloud py (.dict (removed row keys rawRemoved)) uid) := by
  have hsame : (∀ key ∈ keys, key ∉ textFields) ∧ versionKeys = [] →
      VirtualKey.fromCloud py (.dict (nulled row keys rawNulled)) uid =
        VirtualKey.fromCloud py (.dict (removed row keys rawRemoved)) uid := by
    rintro ⟨htexts, rfl⟩
    apply fromCloud_nulled row uid keys rawNulled rawRemoved hkeys htexts
    apply parse_congr
    rw [hnulled, hremoved]
    simp [Json.setNull, Json.removeFields]
  refine ⟨⟨?_, ?_⟩, hsame⟩
  · rintro ⟨key, hnull, hgone⟩
    rw [fromCloud_ok_iff] at hnull hgone
    refine ⟨(passwordsDecode_removed row keys rawRemoved).mp ⟨⟨_, hgone.unlockKey⟩, _, hgone.adminPs⟩, ?_, ?_⟩
    · intro field hmem htext
      have hdiffers := text_null py row keys rawNulled rawRemoved field hmem htext
      simp only [textFields, List.mem_cons, List.not_mem_nil, or_false] at htext
      rcases htext with rfl | rfl | rfl
      · exact hdiffers (hnull.lockAlias.trans hgone.lockAlias.symm)
      · exact hdiffers (hnull.lockName.trans hgone.lockName.symm)
      · exact hdiffers (hnull.userType.trans hgone.userType.symm)
    · obtain ⟨version, hversion, hparse⟩ := hnull.lockVersion
      rw [lookup_nulled_version] at hversion
      obtain rfl := Option.some.inj hversion
      exact parse_null_refused rawNulled data _ versionKeys hversionKeys hnulled hparse
  · rintro ⟨hpasswords, htexts, rfl⟩
    obtain ⟨key, hkey⟩ := haccepted
    have hrow := (fromCloud_ok_iff row uid key).mp hkey
    obtain ⟨version, hversion, hparse⟩ := hrow.lockVersion
    obtain rfl := Option.some.inj (hraw.symm.trans hversion)
    have hparseRemoved : LockVersion.parse py rawRemoved = .ok key.lockVersion := by
      rw [← hparse]
      apply parse_congr
      rw [hremoved, hdata]
      simp [Json.removeFields]
    obtain ⟨key', hkey'⟩ := exists_fromCloud_removed row uid key keys rawRemoved _ hkeys hrow hparseRemoved
      ((passwordsDecode_removed row keys rawRemoved).mpr hpasswords)
    exact ⟨key', (hsame ⟨htexts, rfl⟩).trans hkey', hkey'⟩

/-! ### A key without a name -/

/-- The `lockVersion` of a test row. -/
def keyVersion : Fields :=
  [("protocolType", .int 5), ("protocolVersion", .int 3), ("scene", .int 2), ("groupId", .int 1), ("orgId", .int 1)]

def read (row : Fields) : Option VirtualKey := (VirtualKey.fromCloud testInterpreter (.dict row) 1).toOption

theorem null_lockKey_is_absent :
    ∃ key, VirtualKey.fromCloud testInterpreter
          (.dict (nulled (keyRow 1) ["lockKey", "keyType"] (.dict keyVersion))) 1 = .ok key ∧
        VirtualKey.fromCloud testInterpreter
          (.dict (removed (keyRow 1) ["lockKey", "keyType"] (.dict keyVersion))) 1 = .ok key := by
  refine (null_is_absent_iff testInterpreter (keyRow 1) 1 ["lockKey", "keyType"] [] (.dict keyVersion)
    (.dict keyVersion) (.dict keyVersion) keyVersion (fromCloud_keyRow.imp fun _ h => h.1) (by decide) (by decide) rfl
    rfl rfl rfl).1.mpr ⟨⟨⟨"", ?_⟩, ⟨"", ?_⟩⟩, by decide, rfl⟩
  · rfl
  · rfl

theorem null_alias_is_text :
    (read (nulled (keyRow 1) ["lockAlias"] (.dict keyVersion))).map (·.lockAlias) = some "None" ∧
      (read (removed (keyRow 1) ["lockAlias"] (.dict keyVersion))).map (·.lockAlias) = some "" ∧
      read (nulled (keyRow 1) [] (.dict (Json.setNull keyVersion ["groupId"]))) = none ∧
      (read (removed (keyRow 1) [] (.dict (Json.removeFields keyVersion ["groupId"])))).map
        (·.lockVersion.groupId) = some 0 := by
  decide +kernel

end TtlockBle.NullFields
