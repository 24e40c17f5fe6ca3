import TtlockBle.Code.Encoding

/-! # ASCII text -/

open TtlockBle.Lib

namespace TtlockBle.Ascii

/-- A byte a character. -/
def bytes (cs : List Char) : Bytes := cs.map fun c => UInt8.ofNat c.toNat

def chars (data : Bytes) : List Char := data.map fun b => Char.ofNat b.toNat

theorem toNat_byte (c : Char) (h : c.toNat < 128) : (UInt8.ofNat c.toNat).toNat = c.toNat :=
  UInt8.toNat_ofNat_of_lt' (Nat.lt_trans h (by decide))

theorem chars_bytes (cs : List Char) (h : ∀ c ∈ cs, c.toNat < 128) : chars (bytes cs) = cs := by
  unfold chars bytes
  rw [List.map_map]
  refine (List.map_congr_left fun c hc => ?_).trans (List.map_id cs)
  show Char.ofNat (UInt8.ofNat c.toNat).toNat = c
  rw [toNat_byte c (h c hc), Char.ofNat_toNat]

theorem bytes_injective {cs cs' : List Char} (h : ∀ c ∈ cs, c.toNat < 128) (h' : ∀ c ∈ cs', c.toNat < 128)
    (heq : bytes cs = bytes cs') : cs = cs' := by
  rw [← chars_bytes cs h, heq, chars_bytes cs' h']

theorem encodeAscii_ok_iff (s : String) (data : Bytes) :
    encodeAscii s = .ok data ↔ (∀ c ∈ s.toList, c.toNat < 128) ∧ data = bytes s.toList := by
  unfold encodeAscii
  cases hfind : s.toList.findIdx? (128 ≤ ·.toNat) with
  | none =>
    simp only [List.findIdx?_eq_none_iff, decide_eq_false_iff_not, Nat.not_le] at hfind
    simp only [Except.ok.injEq]
    exact ⟨fun h => ⟨hfind, h.symm⟩, fun h => h.2.symm⟩
  | some i =>
    simp only [reduceCtorEq, false_iff, not_and]
    intro hall
    have hnone : s.toList.findIdx? (128 ≤ ·.toNat) = none := by
      simpa [List.findIdx?_eq_none_iff] using hall
    rw [hnone] at hfind
    cases hfind

theorem decodeAscii_bytes (cs : List Char) (h : ∀ c ∈ cs, c.toNat < 128) :
    decodeAscii (bytes cs) = .ok (String.ofList cs) := by
  have hnone : (bytes cs).findIdx? (128 ≤ ·) = none := by
    rw [List.findIdx?_eq_none_iff]
    intro b hb
    obtain ⟨c, hc, rfl⟩ := List.mem_map.mp hb
    simpa [UInt8.le_iff_toNat_le, toNat_byte c (h c hc)] using h c hc
  unfold decodeAscii
  rw [hnone]
  show Except.ok (String.ofList (chars (bytes cs))) = _
  rw [chars_bytes cs h]

theorem decodeAscii_encodeAscii (s : String) (data : Bytes) (h : encodeAscii s = .ok data) :
    decodeAscii data = .ok s := by
  obtain ⟨hascii, rfl⟩ := (encodeAscii_ok_iff s data).mp h
  rw [decodeAscii_bytes s.toList hascii, String.ofList_toList]

/-! ## Digits -/

def IsDigit (c : Char) : Prop := '0' ≤ c ∧ c ≤ '9'

instance (c : Char) : Decidable (IsDigit c) := inferInstanceAs (Decidable (_ ∧ _))

theorem isDigit_bounds (c : Char) : IsDigit c ↔ 48 ≤ c.toNat ∧ c.toNat ≤ 57 := Iff.rfl

theorem isDigit_of_char (c : Char) (h : c.isDigit) : IsDigit c := by
  have hval : 48 ≤ c.val ∧ c.val ≤ 57 := by simpa [Char.isDigit] using h
  exact hval

theorem isDigit_lt (c : Char) (h : IsDigit c) : c.toNat < 128 := by
  have := (isDigit_bounds c).mp h
  omega

theorem isDigit_iff (c : Char) (h : c.toNat < 128) :
    ((decimalValue c).isSome || inRanges otherDigits c) = decide (IsDigit c) := by
  have hall : ∀ n : Fin 128, ((decimalValue (Char.ofNat n)).isSome || inRanges otherDigits (Char.ofNat n)) =
      decide (IsDigit (Char.ofNat n)) := by
    decide +kernel
  simpa using hall ⟨c.toNat, h⟩

theorem isDigit_digitChar (n : Nat) : IsDigit (Nat.digitChar (n % 10)) := by
  have hall : ∀ n : Fin 10, IsDigit (Nat.digitChar n) := by decide
  exact hall ⟨n % 10, Nat.mod_lt n (by decide)⟩

theorem eq_digitChar (c : Char) (h : IsDigit c) : c = Nat.digitChar (c.toNat - 48) := by
  have hall : ∀ n : Fin 10, Char.ofNat (48 + n) = Nat.digitChar n := by decide
  have hc := (isDigit_bounds c).mp h
  have hn := hall ⟨c.toNat - 48, by omega⟩
  simp only [Nat.add_sub_cancel' hc.1, Char.ofNat_toNat] at hn
  exact hn

end TtlockBle.Ascii
