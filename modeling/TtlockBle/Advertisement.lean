import TtlockBle.Code.Advertisement
import TtlockBle.Payloads

/-!
# Fields of an advertisement

The state is read from the front and the address from the back. In the shifted layout the battery
byte is the tenth, which is the first byte of the address of the shortest accepted advertisement.
-/

open TtlockBle.Lib

namespace TtlockBle.Advertisement

open LockAdvertisement Payloads

/-! ## What is read -/

/-- The company identifier is put back in front. -/
def joined (companyId : Int) (payload : Bytes) : Bytes := (toBytesBig 2 companyId.toNat).reverse ++ payload

def headerOf (raw : Bytes) : UInt8 × UInt8 := (raw.getD 0 0, raw.getD 1 0)

/-- Protocol type and version, scene, and where the flags are. -/
def layoutOf (raw : Bytes) : UInt8 × UInt8 × UInt8 × Nat :=
  if headerOf raw = v3Header then (raw.getD 0 0, raw.getD 1 0, raw.getD 2 0, 3)
  else (raw.getD 4 0, raw.getD 5 0, raw.getD 7 0, 8)

def versionOf (raw : Bytes) : LockVersion :=
  ⟨(layoutOf raw).1.toNat, (layoutOf raw).2.1.toNat, (layoutOf raw).2.2.1.toNat, 0, 0⟩

/-- The front of the advertisement is that of a lock which sends its state. -/
def Stateful (raw : Bytes) : Prop :=
  headerOf raw ∉ dfuHeaders ∧
    ¬ ((layoutOf raw).1 < minStatefulProtocolType ∨ (versionOf raw).lockType = lockTypeV2s)

instance (raw : Bytes) : Decidable (Stateful raw) := inferInstanceAs (Decidable (_ ∧ _))

def flagsOf (raw : Bytes) : UInt8 := raw.getD (layoutOf raw).2.2.2 0

def batteryOf (raw : Bytes) : UInt8 := raw.getD ((layoutOf raw).2.2.2 + 1) 0

def stateOf (raw : Bytes) : LockAdvertisement where
  protocolType := (layoutOf raw).1
  protocolVersion := (layoutOf raw).2.1
  scene := (layoutOf raw).2.2.1
  lockState := decodeLockState (flagsOf raw)
  hasNewRecords := flagsOf raw &&& newRecordsBit ≠ 0
  isSettingMode := flagsOf raw &&& settingModeBit ≠ 0
  isDormant := flagsOf raw &&& dormantBit ≠ 0
  battery := batteryOf raw
  lockMac := decodeMac (raw.drop (raw.length - macLength))

theorem byteAt_getD (raw : Bytes) (i : Nat) (h : i < raw.length) : byteAt raw i = .ok (raw.getD i 0) := by
  rw [Parsers.byteAt_of_lt raw i h, List.getD_eq_getElem raw 0 h]

theorem intToBytesLe_eq (companyId : Int) (h : 0 ≤ companyId ∧ companyId < 65536) :
    intToBytesLe companyId 2 = .ok (toBytesBig 2 companyId.toNat).reverse := by
  unfold intToBytesLe
  rw [intToBytesBe_eq companyId 2 h.1 (by omega)]
  rfl

/-- Nothing is raised, and what is returned is in the first ten bytes and the last six. -/
theorem ofRaw_eq (raw : Bytes) :
    ofRaw raw = .ok (if 15 ≤ raw.length ∧ Stateful raw then some (stateOf raw) else none) := by
  rcases Nat.lt_or_ge raw.length minManufacturerLength with hlt | hge
  · have hshort : ¬ 15 ≤ raw.length := Nat.not_le.mpr hlt
    unfold ofRaw
    rw [if_pos hlt, if_neg fun h => hshort h.1]
    rfl
  · have hget (i : Nat) (hi : i < 15) : byteAt raw i = .ok (raw.getD i 0) :=
      byteAt_getD raw i (Nat.lt_of_lt_of_le hi hge)
    unfold ofRaw
    rw [if_neg (Nat.not_lt.mpr hge)]
    simp only [hget 0 (by omega), hget 1 (by omega), hget 2 (by omega), hget 4 (by omega), hget 5 (by omega),
      hget 7 (by omega), bind, Except.bind]
    by_cases hdfu : headerOf raw ∈ dfuHeaders
    · rw [if_pos (show (raw.getD 0 0, raw.getD 1 0) ∈ dfuHeaders from hdfu), if_neg fun h => h.2.1 hdfu]
      rfl
    rw [if_neg (show (raw.getD 0 0, raw.getD 1 0) ∉ dfuHeaders from hdfu)]
    have hcarries : (15 ≤ raw.length ∧ Stateful raw) ↔
        ¬ ((layoutOf raw).1 < minStatefulProtocolType ∨ (versionOf raw).lockType = lockTypeV2s) :=
      ⟨fun h => h.2.2, fun h => ⟨hge, hdfu, h⟩⟩
    rw [if_congr hcarries rfl rfl, ite_not]
    unfold stateOf batteryOf flagsOf versionOf layoutOf
    by_cases hv3 : headerOf raw = v3Header
    · rw [if_pos (show (raw.getD 0 0, raw.getD 1 0) = v3Header from hv3), if_pos hv3]
      simp only [hget 3 (by omega), hget 4 (by omega), pure, Except.pure]
      split <;> rfl
    · rw [if_neg (show ¬ (raw.getD 0 0, raw.getD 1 0) = v3Header from hv3), if_neg hv3]
      simp only [hget 8 (by omega), hget 9 (by omega), pure, Except.pure]
      split <;> rfl

theorem fromManufacturerData_eq (companyId : Int) (payload : Bytes) (h : 0 ≤ companyId ∧ companyId < 65536) :
    fromManufacturerData companyId payload =
      .ok (if 15 ≤ (joined companyId payload).length ∧ Stateful (joined companyId payload) then
        some (stateOf (joined companyId payload)) else none) := by
  unfold fromManufacturerData
  rw [intToBytesLe_eq companyId h]
  exact ofRaw_eq _

/-! ## What the address can touch -/

/-- Both are rejected, or both are accepted with the same fields but for the address. -/
def SameState (x y : Py (Option LockAdvertisement)) : Prop :=
  ∃ a b, x = .ok a ∧ y = .ok b ∧
    a.map (fun adv => { adv with lockMac := "" }) = b.map (fun adv => { adv with lockMac := "" })

/-- Nothing is raised, and another address changes nothing but the address. -/
def Separate (companyId : Int) (payload : Bytes) : Prop :=
  ∀ payload' : Bytes, payload'.length = payload.length →
    payload'.take (payload.length - macLength) = payload.take (payload.length - macLength) →
    SameState (fromManufacturerData companyId payload) (fromManufacturerData companyId payload')

/-- The shortest advertisement there is, in the shifted layout and with a state. -/
def Overlaps (companyId : Int) (payload : Bytes) : Prop :=
  payload.length = 13 ∧ headerOf (joined companyId payload) ≠ v3Header ∧ Stateful (joined companyId payload)

theorem joined_length (companyId : Int) (payload : Bytes) :
    (joined companyId payload).length = payload.length + 2 := by
  unfold joined
  simp
  omega

section Same

variable {raw raw' : Bytes}

theorem getD_same (n i : Nat) (h : raw'.take n = raw.take n) (hi : i < n) : raw'.getD i 0 = raw.getD i 0 := by
  rw [List.getD_eq_getElem?_getD, List.getD_eq_getElem?_getD, ← List.getElem?_take_of_lt hi, h,
    List.getElem?_take_of_lt hi]

/-- Nine bytes decide whether there is a state, and everything in it but the battery. -/
theorem layoutOf_same (h : raw'.take 9 = raw.take 9) :
    headerOf raw' = headerOf raw ∧ layoutOf raw' = layoutOf raw ∧ flagsOf raw' = flagsOf raw := by
  have hget (i : Nat) (hi : i < 9) := getD_same 9 i h hi
  have hheader : headerOf raw' = headerOf raw := by
    unfold headerOf
    rw [hget 0 (by omega), hget 1 (by omega)]
  have hlayout : layoutOf raw' = layoutOf raw := by
    unfold layoutOf
    rw [hheader, hget 0 (by omega), hget 1 (by omega), hget 2 (by omega), hget 4 (by omega), hget 5 (by omega),
      hget 7 (by omega)]
  refine ⟨hheader, hlayout, ?_⟩
  unfold flagsOf
  rw [hlayout]
  apply hget
  unfold layoutOf
  split <;> simp

theorem stateful_same (h : raw'.take 9 = raw.take 9) : Stateful raw' ↔ Stateful raw := by
  obtain ⟨hheader, hlayout, -⟩ := layoutOf_same h
  unfold Stateful versionOf
  rw [hheader, hlayout]

theorem stateOf_same (h : raw'.take 9 = raw.take 9) (hbattery : batteryOf raw' = batteryOf raw) :
    { stateOf raw' with lockMac := "" } = { stateOf raw with lockMac := "" } := by
  obtain ⟨-, hlayout, hflags⟩ := layoutOf_same h
  simp only [stateOf, hlayout, hflags, hbattery]

end Same

theorem joined_take (companyId : Int) (payload : Bytes) (n : Nat) :
    (joined companyId payload).take (n + 2) = (toBytesBig 2 companyId.toNat).reverse ++ payload.take n := by
  unfold joined
  rw [List.take_append, List.take_of_length_le (by simp)]
  simp

theorem joined_getD (companyId : Int) (payload : Bytes) (i : Nat) :
    (joined companyId payload).getD (i + 2) 0 = payload.getD i 0 := by
  unfold joined
  rw [List.getD_append_right _ _ _ _ (by simp)]
  simp

theorem joined_nine (companyId : Int) {payload payload' : Bytes} (hlong : 13 ≤ payload.length)
    (h : payload'.take (payload.length - macLength) = payload.take (payload.length - macLength)) :
    (joined companyId payload').take 9 = (joined companyId payload).take 9 := by
  have hseven := congrArg (List.take 7) h
  have hroom : 7 ≤ payload.length - macLength := by
    unfold macLength
    omega
  rw [List.take_take, List.take_take, Nat.min_eq_left hroom] at hseven
  rw [joined_take, joined_take, hseven]

theorem batteryOf_same (companyId : Int) (payload payload' : Bytes) (hlong : 13 ≤ payload.length)
    (hoverlaps : ¬ Overlaps companyId payload) (hstateful : Stateful (joined companyId payload))
    (h : payload'.take (payload.length - macLength) = payload.take (payload.length - macLength)) :
    batteryOf (joined companyId payload') = batteryOf (joined companyId payload) := by
  have hbattery : (layoutOf (joined companyId payload)).2.2.2 + 1 < payload.length - macLength + 2 := by
    unfold layoutOf macLength
    by_cases hv3 : headerOf (joined companyId payload) = v3Header
    · rw [if_pos hv3]
      simp only
      omega
    · have hne : payload.length ≠ 13 := fun h13 => hoverlaps ⟨h13, hv3, hstateful⟩
      rw [if_neg hv3]
      simp only
      omega
  unfold batteryOf
  rw [(layoutOf_same (joined_nine companyId hlong h)).2.1]
  apply getD_same _ _ _ hbattery
  rw [joined_take, joined_take, h]

theorem separate_of_not_overlaps (companyId : Int) (payload : Bytes) (h : 0 ≤ companyId ∧ companyId < 65536)
    (hoverlaps : ¬ Overlaps companyId payload) : Separate companyId payload := by
  intro payload' hlength hsame
  refine ⟨_, _, fromManufacturerData_eq companyId payload h, fromManufacturerData_eq companyId payload' h, ?_⟩
  rw [joined_length, joined_length, hlength]
  rcases Nat.lt_or_ge payload.length 13 with hshort | hlong
  · rw [if_neg (by omega), if_neg (by omega)]
  have hnine := joined_nine companyId hlong hsame
  by_cases hstateful : Stateful (joined companyId payload)
  · rw [if_pos ⟨by omega, hstateful⟩, if_pos ⟨by omega, (stateful_same hnine).mpr hstateful⟩, Option.map_some,
      Option.map_some, stateOf_same hnine (batteryOf_same companyId payload payload' hlong hoverlaps hstateful hsame)]
  · rw [if_neg fun h => hstateful h.2, if_neg fun h => hstateful ((stateful_same hnine).mp h.2)]

theorem exists_other (b : UInt8) : ∃ v : UInt8, v ≠ b := by
  by_cases h : b = 0
  · exact ⟨1, by rw [h]; decide⟩
  · exact ⟨0, fun h0 => h h0.symm⟩

theorem not_separate_of_overlaps (companyId : Int) (payload : Bytes) (h : 0 ≤ companyId ∧ companyId < 65536)
    (hoverlaps : Overlaps companyId payload) : ¬ Separate companyId payload := by
  obtain ⟨hlength, hv3, hstateful⟩ := hoverlaps
  intro hseparate
  obtain ⟨v, hv⟩ := exists_other (batteryOf (joined companyId payload))
  have hlength' : (payload.take 7 ++ List.replicate 6 v).length = payload.length := by
    simp
    omega
  have htake : (payload.take 7 ++ List.replicate 6 v).take 7 = payload.take 7 :=
    List.take_left' (by simp; omega)
  have hnine : (joined companyId (payload.take 7 ++ List.replicate 6 v)).take 9 =
      (joined companyId payload).take 9 := by
    rw [joined_take, joined_take, htake]
  have hfilled : batteryOf (joined companyId (payload.take 7 ++ List.replicate 6 v)) = v := by
    unfold batteryOf
    rw [(layoutOf_same hnine).2.1, layoutOf, if_neg hv3]
    rw [joined_getD companyId _ 7, List.getD_append_right _ _ _ _ (by simp)]
    simp [hlength]
  obtain ⟨a, b, ha, hb, hab⟩ := hseparate (payload.take 7 ++ List.replicate 6 v) hlength' (by rwa [hlength])
  rw [fromManufacturerData_eq companyId _ h, joined_length, hlength, if_pos ⟨by omega, hstateful⟩] at ha
  rw [fromManufacturerData_eq companyId _ h, joined_length, hlength', hlength,
    if_pos ⟨by omega, (stateful_same hnine).mpr hstateful⟩] at hb
  obtain rfl := Except.ok.inj ha
  obtain rfl := Except.ok.inj hb
  have hbattery := congrArg LockAdvertisement.battery (Option.some.inj hab)
  apply hv
  rw [← hfilled]
  exact hbattery.symm

/-- **Another address changes nothing else**, unless the advertisement is so short that its battery
byte is part of the address. -/
theorem separate_iff (companyId : Int) (payload : Bytes) (h : 0 ≤ companyId ∧ companyId < 65536) :
    Separate companyId payload ↔ ¬ Overlaps companyId payload :=
  ⟨fun hseparate hoverlaps => not_separate_of_overlaps companyId payload h hoverlaps hseparate,
    separate_of_not_overlaps companyId payload h⟩

theorem separate_iff_legacy :
    Separate 0x0102 [0, 0, 5, 4, 0, 3, 3, 42, 0, 0x33, 0x22, 0x11, 0xCC, 0xBB, 0xAA] ↔
      ¬ Overlaps 0x0102 [0, 0, 5, 4, 0, 3, 3, 42, 0, 0x33, 0x22, 0x11, 0xCC, 0xBB, 0xAA] :=
  separate_iff 0x0102 _ (by decide)

/-- Two locks, with addresses that end in `33` and `34`: the battery levels are 51 and 52. -/
theorem address_is_battery :
    (∃ a b, fromManufacturerData 0x0102 [0, 0, 5, 4, 0, 3, 3, 0x33, 0x22, 0x11, 0xCC, 0xBB, 0xAA] = .ok (some a) ∧
      fromManufacturerData 0x0102 [0, 0, 5, 4, 0, 3, 3, 0x34, 0x22, 0x11, 0xCC, 0xBB, 0xAA] = .ok (some b) ∧
      a.battery = 51 ∧ b.battery = 52) ∧
    ¬ ∀ companyId payload, 0 ≤ companyId ∧ companyId < 65536 → Separate companyId payload := by
  refine ⟨⟨stateOf (joined 0x0102 [0, 0, 5, 4, 0, 3, 3, 0x33, 0x22, 0x11, 0xCC, 0xBB, 0xAA]),
    stateOf (joined 0x0102 [0, 0, 5, 4, 0, 3, 3, 0x34, 0x22, 0x11, 0xCC, 0xBB, 0xAA]), ?_, ?_, rfl, rfl⟩, fun h => ?_⟩
  · rw [fromManufacturerData_eq _ _ (by decide), if_pos (by decide)]
  · rw [fromManufacturerData_eq _ _ (by decide), if_pos (by decide)]
  · exact not_separate_of_overlaps 0x0102 [0, 0, 5, 4, 0, 3, 3, 0x33, 0x22, 0x11, 0xCC, 0xBB, 0xAA] (by decide)
      ⟨rfl, by decide, by decide⟩ (h _ _ (by decide))

end TtlockBle.Advertisement
