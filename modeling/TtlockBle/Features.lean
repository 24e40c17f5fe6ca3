import TtlockBle.Code.Features
import TtlockBle.Parsers

/-!
# Feature bits

The words of a reply as one mask, as the numeral of the cloud, as members of `LockFeature`, and as the
mask of a key with that numeral.
-/

open TtlockBle.Lib

namespace TtlockBle.Features

open Parsers

/-! ## What the words say -/

def featureWord (words : Bytes) (i : Nat) : Bytes := slice words (i * 4) ((i + 1) * 4)

/-- Beyond the last complete word, no bit is set. -/
def featureBit (words : Bytes) (k : Nat) : Bool :=
  decide (k / 32 < words.length / 4) && (fromBytesBig (featureWord words (k / 32))).testBit (k % 32)

/-- The digits of `count` words, each new word in front. -/
def stitched (words : Bytes) : Nat → List Char
  | 0 => []
  | count + 1 => (hex (featureWord words count)).toList.map Char.toUpper ++ stitched words count

/-- The bits of a reply with these words, in all the forms that they are given in. -/
structure Represents (words : Bytes) (features : DeviceFeatures) : Prop where
  mask : ∀ k, features.mask.testBit k = featureBit words k
  featureValue : features.featureValue = String.ofList (stripZeros (stitched words (words.length / 4)))
  members : ∃ known unnamed, features.known = .ok known ∧ features.unnamedBits = .ok unnamed ∧
    (known.map LockFeature.value).Pairwise (· < ·) ∧ unnamed.Pairwise (· < ·) ∧
    (known.map LockFeature.value).Disjoint unnamed ∧
    ∀ k, k ∈ known.map LockFeature.value ∨ k ∈ unnamed ↔ features.mask.testBit k
  key : ∀ key : VirtualKey, key.featureValue = features.featureValue →
    key.featureMask = features.mask ∧ ∀ k, key.hasFeature k = features.supports k

/-! ## The mask -/

/-- The mask after `count` rounds of the loop. -/
def maskUpTo (words : Bytes) (count : Nat) : Nat :=
  (List.range count).foldl
    (fun mask index => mask ||| fromBytesBig (slice words (index * 4) ((index + 1) * 4)) <<< (32 * index)) 0

theorem maskUpTo_succ (words : Bytes) (count : Nat) :
    maskUpTo words (count + 1) =
      maskUpTo words count ||| fromBytesBig (featureWord words count) <<< (32 * count) := by
  unfold maskUpTo
  rw [List.range_succ, List.foldl_concat]
  rfl

theorem featureWord_length (words : Bytes) (i : Nat) (h : i < words.length / 4) :
    (featureWord words i).length = 4 := by
  unfold featureWord
  rw [slice_length]
  omega

theorem featureWord_lt (words : Bytes) (i : Nat) : fromBytesBig (featureWord words i) < 2 ^ 32 := by
  have h := fromBytesBig_lt (featureWord words i) 4 (by unfold featureWord; rw [slice_length]; omega)
  simpa using h

theorem testBit_maskUpTo (words : Bytes) (count k : Nat) :
    (maskUpTo words count).testBit k =
      (decide (k / 32 < count) && (fromBytesBig (featureWord words (k / 32))).testBit (k % 32)) := by
  induction count with
  | zero => simp [maskUpTo]
  | succ count ih =>
    rw [maskUpTo_succ, Nat.testBit_or, ih, Nat.testBit_shiftLeft]
    rcases Nat.lt_trichotomy (k / 32) count with hlt | rfl | hgt
    · have hlow : ¬ 32 * count ≤ k := by omega
      simp [hlt, hlow, Nat.lt_succ_of_lt hlt]
    · have hlow : 32 * (k / 32) ≤ k := by omega
      have hk : k - 32 * (k / 32) = k % 32 := by omega
      simp [hlow, hk]
    · have hhigh : 32 ≤ k - 32 * count := by omega
      have hzero : (fromBytesBig (featureWord words count)).testBit (k - 32 * count) = false :=
        Nat.testBit_lt_two_pow ((featureWord_lt words count).trans_le (Nat.pow_le_pow_right (by decide) hhigh))
      have hbeyond : ¬ k / 32 < count + 1 := by omega
      simp [hzero, Nat.not_lt_of_gt hgt, hbeyond]

/-! ## The numeral -/

def nibbles (data : Bytes) : List Nat := data.flatMap fun b => [b.toNat / 16, b.toNat % 16]

theorem nibbles_length (data : Bytes) : (nibbles data).length = 2 * data.length := by
  unfold nibbles
  rw [List.length_flatMap]
  simp
  omega

theorem nibbles_lt (data : Bytes) : ∀ d ∈ nibbles data, d < 16 := by
  intro d hd
  obtain ⟨b, -, hb⟩ := List.mem_flatMap.mp hd
  have hbyte := b.toNat_lt
  rcases List.mem_cons.mp hb with rfl | hb
  · omega
  · rw [List.mem_singleton.mp hb]
    omega

theorem ofDigits16_nibbles (data : Bytes) : ofDigits16 (nibbles data) = fromBytesBig data := by
  induction data using List.reverseRecOn with
  | nil => rfl
  | append_singleton data b ih =>
    have hlast : nibbles (data ++ [b]) = nibbles data ++ [b.toNat / 16, b.toNat % 16] := by
      simp [nibbles]
    rw [hlast, ofDigits16_append, ih, fromBytesBig, fromBytesBig, List.foldl_concat]
    simp [ofDigits16]
    omega

theorem hex_upper (data : Bytes) : (hex data).toList.map Char.toUpper = (nibbles data).map upperDigit := by
  unfold hex nibbles
  rw [String.toList_ofList, List.map_flatMap, List.map_flatMap]
  rfl

def stitchedDigits (words : Bytes) : Nat → List Nat
  | 0 => []
  | count + 1 => nibbles (featureWord words count) ++ stitchedDigits words count

theorem stitched_eq (words : Bytes) (count : Nat) :
    stitched words count = (stitchedDigits words count).map upperDigit := by
  induction count with
  | zero => rfl
  | succ count ih => rw [stitched, stitchedDigits, List.map_append, ih, hex_upper]

theorem stitchedDigits_lt (words : Bytes) (count : Nat) : ∀ d ∈ stitchedDigits words count, d < 16 := by
  induction count with
  | zero =>
    intro d hd
    cases hd
  | succ count ih =>
    intro d hd
    rcases List.mem_append.mp hd with hd | hd
    · exact nibbles_lt _ d hd
    · exact ih d hd

theorem stitchedDigits_length (words : Bytes) (count : Nat) (h : count ≤ words.length / 4) :
    (stitchedDigits words count).length = 8 * count := by
  induction count with
  | zero => rfl
  | succ count ih =>
    rw [stitchedDigits, List.length_append, nibbles_length, featureWord_length words count h, ih (by omega)]
    omega

theorem maskUpTo_eq (words : Bytes) (count : Nat) (h : count ≤ words.length / 4) :
    maskUpTo words count = ofDigits16 (stitchedDigits words count) := by
  induction count with
  | zero => rfl
  | succ count ih =>
    have hlength := stitchedDigits_length words count (by omega)
    have hpow : 16 ^ (8 * count) = 2 ^ (32 * count) := by
      rw [show (16 : Nat) = 2 ^ 4 by decide, ← Nat.pow_mul]
      congr 1
      omega
    have hlow : maskUpTo words count < 2 ^ (32 * count) := by
      rw [ih (by omega), ← hpow, ← hlength]
      exact ofDigits16_lt _ (stitchedDigits_lt words count)
    rw [maskUpTo_succ, Nat.or_comm, ← Nat.shiftLeft_add_eq_or_of_lt hlow, stitchedDigits, ofDigits16_append,
      ofDigits16_nibbles, hlength, hpow, Nat.shiftLeft_eq, ih (by omega)]

theorem featureValue_eq (words : Bytes) (battery : UInt8) :
    (DeviceFeatures.mk (featureMask words) battery).featureValue =
      String.ofList (stripZeros (stitched words (words.length / 4))) := by
  rw [stitched_eq, stripZeros_map _ (stitchedDigits_lt words _), ← maskUpTo_eq words _ (Nat.le_refl _)]
  rfl

/-! ## The members -/

theorem filterM_ok {α : Type} (p : α → Bool) (f : α → Py Bool) (l : List α) (h : ∀ a ∈ l, f a = .ok (p a)) :
    l.filterM f = .ok (l.filter p) := by
  have haux (l acc : List α) (h : ∀ a ∈ l, f a = .ok (p a)) :
      l.filterAuxM f acc = .ok ((l.filter p).reverse ++ acc) := by
    induction l generalizing acc with
    | nil => rfl
    | cons a l ih =>
      rw [List.filterAuxM, h a (by simp)]
      show List.filterAuxM f l _ = _
      rw [ih _ fun b hb => h b (by simp [hb])]
      cases hp : p a <;> simp [hp]
  unfold List.filterM
  rw [haux l [] h]
  simp [bind, Except.bind, pure, Except.pure]

theorem bitSet_nat (mask k : Nat) : bitSet mask k = .ok (mask.testBit k) := by
  have hnonneg : ¬ (k : Int) < 0 := by omega
  have hshift : (mask : Int) >>> (k : Int).toNat = ((mask / 2 ^ k : Nat) : Int) := by
    rw [Int.toNat_natCast, ← Nat.shiftRight_eq_div_pow]
    rfl
  unfold bitSet
  rw [if_neg hnonneg, hshift, Nat.testBit_eq_decide_div_mod_eq]
  generalize mask / 2 ^ k = m
  rw [decide_eq_decide.mpr (show (m : Int) % 2 ≠ 0 ↔ m % 2 = 1 by omega)]

theorem known_eq (features : DeviceFeatures) :
    features.known = .ok (LockFeature.all.filter fun feature => features.mask.testBit feature.value) :=
  filterM_ok _ _ _ fun feature _ => bitSet_nat features.mask feature.value

theorem unnamedBits_eq (features : DeviceFeatures) :
    features.unnamedBits = .ok ((List.range features.mask.size).filter fun bit =>
      features.mask.testBit bit && bit ∉ LockFeature.all.map LockFeature.value) := by
  apply filterM_ok
  intro bit _
  unfold DeviceFeatures.supports
  rw [bitSet_nat]
  rfl

theorem all_ascending : (LockFeature.all.map LockFeature.value).Pairwise (· < ·) := by decide

theorem mem_known (features : DeviceFeatures) (k : Nat) :
    k ∈ (LockFeature.all.filter fun feature => features.mask.testBit feature.value).map LockFeature.value ↔
      features.mask.testBit k ∧ k ∈ LockFeature.all.map LockFeature.value := by
  simp only [List.mem_map, List.mem_filter]
  constructor
  · rintro ⟨feature, ⟨hall, hbit⟩, rfl⟩
    exact ⟨hbit, feature, hall, rfl⟩
  · rintro ⟨hbit, feature, hall, rfl⟩
    exact ⟨feature, ⟨hall, hbit⟩, rfl⟩

theorem members_partition (features : DeviceFeatures) :
    ∃ known unnamed, features.known = .ok known ∧ features.unnamedBits = .ok unnamed ∧
      (known.map LockFeature.value).Pairwise (· < ·) ∧ unnamed.Pairwise (· < ·) ∧
      (known.map LockFeature.value).Disjoint unnamed ∧
      ∀ k, k ∈ known.map LockFeature.value ∨ k ∈ unnamed ↔ features.mask.testBit k := by
  refine ⟨_, _, known_eq features, unnamedBits_eq features, ?_, ?_, ?_, fun k => ?_⟩
  · exact all_ascending.sublist (List.filter_sublist.map _)
  · exact List.pairwise_lt_range.sublist List.filter_sublist
  · intro k hknown hunnamed
    simp only [List.mem_filter, Bool.and_eq_true, decide_eq_true_eq] at hunnamed
    exact hunnamed.2.2 ((mem_known features k).mp hknown).2
  · rw [mem_known, List.mem_filter, List.mem_range]
    constructor
    · rintro (⟨hbit, -⟩ | ⟨-, hbit⟩)
      · exact hbit
      · exact (Bool.and_eq_true_iff.mp hbit).1
    · intro hbit
      have hsize : k < features.mask.size := Nat.lt_size.mpr (Nat.ge_two_pow_of_testBit hbit)
      by_cases hnamed : k ∈ LockFeature.all.map LockFeature.value
      · exact Or.inl ⟨hbit, hnamed⟩
      · exact Or.inr ⟨hsize, by simp only [hbit, hnamed, not_false_eq_true, decide_true, Bool.and_self]⟩

/-! ## A key with the numeral -/

theorem featureMask_of_value (features : DeviceFeatures) (key : VirtualKey)
    (h : key.featureValue = features.featureValue) : key.featureMask = features.mask := by
  unfold VirtualKey.featureMask DeviceFeatures.featureValue at *
  rw [h, parseInt16_upperNumeral]

theorem represents (words : Bytes) (battery : UInt8) : Represents words ⟨featureMask words, battery⟩ where
  mask := testBit_maskUpTo words (words.length / 4)
  featureValue := featureValue_eq words battery
  members := members_partition _
  key key h := by
    have hmask := featureMask_of_value _ key h
    refine ⟨hmask, fun k => ?_⟩
    unfold VirtualKey.hasFeature DeviceFeatures.supports
    rw [hmask]

/-- **Feature bits survive every representation.** -/
theorem parse_represents (echo battery : UInt8) (words : Bytes) (h : 4 ≤ words.length) :
    ∃ features, parseDeviceFeatureResponse (echo :: responseSuccess :: battery :: words) = .ok features ∧
      features.battery = battery ∧ Represents words features := by
  refine ⟨⟨featureMask words, battery⟩, ?_, rfl, represents words battery⟩
  unfold parseDeviceFeatureResponse
  rw [parseResponseStatus_cons]
  have hlong : ¬ (battery :: words).length < 5 := by
    rw [List.length_cons]
    omega
  simp only [bind, Except.bind, ne_eq, not_true_eq_false, if_false, if_neg hlong]
  rfl

theorem parse_represents_words :
    ∃ features, parseDeviceFeatureResponse
        (0x01 :: responseSuccess :: 80 :: [0, 0, 0, 0x11, 0x80, 0, 0, 1, 0xFF]) = .ok features ∧
      features.battery = 80 ∧ Represents [0, 0, 0, 0x11, 0x80, 0, 0, 1, 0xFF] features :=
  parse_represents 0x01 80 _ (by decide)

end TtlockBle.Features
