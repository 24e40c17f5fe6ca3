import TtlockBle.Ascii
import TtlockBle.Code.KeyText
import TtlockBle.Lib.Raises

/-!
# Passwords of the cloud

`decode_password` inverts three encodings, one in the other. An encoded password is never short
enough to be passed through.
-/

open TtlockBle.Lib

namespace TtlockBle.Passwords

open Ascii

/-! ## The encoding -/

/-- Every byte with the constant, then the constant with the entry for the length. -/
def codecEncode (password : Bytes) (const : UInt8) : Bytes :=
  password.map (· ^^^ const) ++ [const ^^^ decodeTable.getD (password.length % 256) 0]

/-- Decimal numbers with commas between them. -/
def csv (encoded : Bytes) : List Char := [','].intercalate (encoded.map fun b => (toString b.toNat).toList)

def encodePassword (password : Bytes) (const : UInt8) : String :=
  String.ofList (Base64.encode (bytes (csv (codecEncode password const))))

/-! ## The constant -/

theorem codecDecode_codecEncode (password : Bytes) (const : UInt8) (hne : password ≠ []) :
    codecDecode (codecEncode password const) = password := by
  have hpos := List.length_pos_iff.mpr hne
  have hlength : (codecEncode password const).length = password.length + 1 := by simp [codecEncode]
  have hlast : (codecEncode password const).getLastD 0 = const ^^^ decodeTable.getD (password.length % 256) 0 := by
    simp [codecEncode]
  have hfront : (codecEncode password const).dropLast = password.map (· ^^^ const) := by simp [codecEncode]
  have hconst : decodeTable.getD (password.length % 256) 0 ^^^
      (const ^^^ decodeTable.getD (password.length % 256) 0) = const := by
    rw [UInt8.xor_comm const, ← UInt8.xor_assoc, UInt8.xor_self, UInt8.zero_xor]
  unfold codecDecode
  rw [if_neg (by omega), hlast, hfront, hlength, Nat.add_sub_cancel, hconst, List.map_map]
  refine (List.map_congr_left fun b _ => ?_).trans (List.map_id password)
  show b ^^^ const ^^^ const = b
  rw [UInt8.xor_assoc, UInt8.xor_self, UInt8.xor_zero]

/-! ## The numbers -/

theorem number_facts (b : UInt8) : (toString b.toNat).toList ≠ [] ∧
    (∀ c ∈ (toString b.toNat).toList, IsDigit c) ∧ parseInt (toString b.toNat) = .ok (b.toNat : Int) := by
  have hlt := b.toNat_lt
  have hlength : (Nat.toDigits 10 b.toNat).length ≤ 3 :=
    (Nat.length_toDigits_le_iff (by decide) (by decide)).mpr (by omega)
  have hlist : (toString b.toNat).toList = Nat.toDigits 10 b.toNat := by
    rw [Nat.toString_eq_ofList_toDigits, String.toList_ofList]
  refine ⟨?_, ?_, parseInt_toString b.toNat (Nat.le_trans hlength (by decide))⟩
  · rw [hlist]
    exact Nat.toDigits_ne_nil
  · intro c hc
    rw [hlist] at hc
    exact isDigit_of_char c (Nat.isDigit_of_mem_toDigits (by decide) (by decide) hc)

theorem csv_splitOn (encoded : Bytes) (hne : encoded ≠ []) :
    ((csv encoded).splitOn ',').filter (· ≠ []) = encoded.map fun b => (toString b.toNat).toList := by
  have hcomma : ∀ l ∈ encoded.map fun b => (toString b.toNat).toList, ',' ∉ l := by
    intro l hl hmem
    obtain ⟨b, -, rfl⟩ := List.mem_map.mp hl
    exact absurd ((number_facts b).2.1 ',' hmem) (by decide)
  rw [csv, List.splitOn_intercalate ',' hcomma (by simpa using hne), List.filter_eq_self]
  intro l hl
  obtain ⟨b, -, rfl⟩ := List.mem_map.mp hl
  simp

theorem mapM_numbers (encoded : Bytes) :
    (encoded.map fun b => (toString b.toNat).toList).mapM (fun x => do
      return UInt8.ofInt (← pyInt (String.ofList x)) : List Char → Py UInt8) = .ok encoded := by
  have hitem : ∀ b : UInt8, (do return UInt8.ofInt (← pyInt (String.ofList (toString b.toNat).toList)) : Py UInt8) =
      pure b := by
    intro b
    rw [String.ofList_toList, pyInt, (number_facts b).2.2]
    show (Except.ok (UInt8.ofInt b.toNat) : Py UInt8) = .ok b
    rw [ofInt_toNat]
  rw [List.mapM_map]
  show encoded.mapM (fun b =>
    (do return UInt8.ofInt (← pyInt (String.ofList (toString b.toNat).toList)) : Py UInt8)) = _
  rw [funext hitem, List.mapM_pure, List.map_id']
  rfl

theorem csv_cons (b : UInt8) (encoded : Bytes) (hne : encoded ≠ []) :
    csv (b :: encoded) = (toString b.toNat).toList ++ ',' :: csv encoded := by
  obtain ⟨b', rest, rfl⟩ := List.exists_cons_of_ne_nil hne
  simp [csv]

theorem csv_ascii (encoded : Bytes) : ∀ c ∈ csv encoded, c.toNat < 128 := by
  have hnumber : ∀ b : UInt8, ∀ c ∈ (toString b.toNat).toList, c.toNat < 128 :=
    fun b c hc => isDigit_lt c ((number_facts b).2.1 c hc)
  induction encoded with
  | nil => simp [csv]
  | cons b encoded ih =>
    by_cases hne : encoded = []
    · simpa [hne, csv] using hnumber b
    · intro c hc
      rw [csv_cons b encoded hne] at hc
      rcases List.mem_append.mp hc with hc | hc
      · exact hnumber b c hc
      · rcases List.mem_cons.mp hc with rfl | hc
        · decide
        · exact ih c hc

theorem csv_length (encoded : Bytes) (hne : encoded ≠ []) : 2 * encoded.length ≤ (csv encoded).length + 1 := by
  induction encoded with
  | nil => exact absurd rfl hne
  | cons b encoded ih =>
    have hb : 0 < (toString b.toNat).toList.length := List.length_pos_iff.mpr (number_facts b).1
    by_cases hrest : encoded = []
    · subst hrest
      have hcsv : csv [b] = (toString b.toNat).toList := by simp [csv]
      rw [hcsv, List.length_singleton]
      omega
    · have := ih hrest
      rw [csv_cons b encoded hrest, List.length_append]
      simp only [List.length_cons]
      omega

/-! ## The whole field -/

theorem encodePassword_length (password : Bytes) (const : UInt8) (h : 3 ≤ password.length) :
    10 < (encodePassword password const).length := by
  have hlength : (codecEncode password const).length = password.length + 1 := by simp [codecEncode]
  have hcsv := csv_length (codecEncode password const) (List.ne_nil_of_length_pos (by omega))
  have hbytes : (bytes (csv (codecEncode password const))).length = (csv (codecEncode password const)).length := by
    simp [bytes]
  rw [encodePassword, String.length_ofList, Base64.encode_length]
  omega

theorem b64decode_encode (data : Bytes) : b64decode (String.ofList (Base64.encode data)) = .ok data := by
  have hascii : (Base64.encode data).any (128 ≤ ·.toNat) = false := by
    simpa using Base64.encode_ascii data
  unfold b64decode
  rw [String.toList_ofList, hascii, Base64.decode_encode]
  rfl

theorem decodePassword_encode (password : Bytes) (const : UInt8) (h : 3 ≤ password.length) :
    decodePassword (encodePassword password const) = .ok (decodeLatin1 password) := by
  have hlong := encodePassword_length password const h
  have hshort : ¬ (encodePassword password const = "" ∨ (encodePassword password const).length ≤ 10) := by
    rintro (hempty | hle)
    · rw [hempty] at hlong
      exact absurd hlong (by decide)
    · omega
  have hencoded : codecEncode password const ≠ [] := by simp [codecEncode]
  have hpassword : password ≠ [] := List.ne_nil_of_length_pos (by omega)
  have hb64 : b64decode (encodePassword password const) = .ok (bytes (csv (codecEncode password const))) :=
    b64decode_encode _
  unfold decodePassword
  rw [if_neg hshort, hb64]
  simp only [ok_bind, decodeAscii_bytes _ (csv_ascii _), String.toList_ofList, csv_splitOn _ hencoded,
    mapM_numbers]
  rw [codecDecode_codecEncode password const hpassword]
  rfl

/-- **Encoded passwords are decoded**, and short fields are passed through. -/
theorem decodePassword_inverts :
    (∀ (password : Bytes) (const : UInt8), 3 ≤ password.length →
      10 < (encodePassword password const).length ∧
        decodePassword (encodePassword password const) = .ok (decodeLatin1 password)) ∧
    ∀ field : String, field.length ≤ 10 → decodePassword field = .ok field := by
  constructor
  · intro password const h
    exact ⟨encodePassword_length password const h, decodePassword_encode password const h⟩
  · intro field h
    unfold decodePassword
    rw [if_pos (.inr h)]
    rfl

theorem decodePassword_inverts_admin :
    decodePassword "MTU4LDE1MSwxNTksMTU3LDE1NSwxNTMsMTE1" = .ok "091357" ∧ decodePassword "091357" = .ok "091357" := by
  have hencode : encodePassword [0x30, 0x39, 0x31, 0x33, 0x35, 0x37] 0xAE = "MTU4LDE1MSwxNTksMTU3LDE1NSwxNTMsMTE1" := by
    decide +kernel
  have hdecode := (decodePassword_inverts.1 [0x30, 0x39, 0x31, 0x33, 0x35, 0x37] 0xAE (by decide)).2
  rw [hencode] at hdecode
  exact ⟨hdecode, decodePassword_inverts.2 "091357" (by decide)⟩

end TtlockBle.Passwords
