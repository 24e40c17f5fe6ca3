import TtlockBle.Code.Conftest
import TtlockBle.Lib.Padding
import TtlockBle.Lib.Raises

/-!
# The cipher

What the code relies on of AES-128-CBC with PKCS7 padding: decryption undoes encryption and nothing
else, and a ciphertext is the next multiple of 16 bytes.
-/

open TtlockBle.Lib

namespace TtlockBle.Cipher

structure PaddedCipher (aes : Aes) (key : Bytes) : Prop where
  decrypts : ∀ ciphertext plaintext,
    aes.decrypt key ciphertext = .ok plaintext ↔ aes.encrypt key plaintext = ciphertext
  length : ∀ plaintext, (aes.encrypt key plaintext).length = 16 * (plaintext.length / 16 + 1)

section Client

variable {client : TTLockClient} (hcipher : PaddedCipher client.aes client.aesKey)

theorem aesEncrypt_eq (client : TTLockClient) (plaintext : Bytes) :
    aesEncrypt client.aes plaintext client.aesKey = .ok (client.aes.encrypt client.aesKey plaintext) := by
  unfold aesEncrypt checkKey
  rw [if_neg (not_not_intro client.aesKey_length)]
  rfl

theorem frame_eq (client : TTLockClient) (opcode : Int) (payload : Bytes) :
    client.frame opcode payload = .ok
      (Frame.forLock client.key.lockVersion opcode (client.aes.encrypt client.aesKey payload)) := by
  unfold TTLockClient.frame Frame.encryptData
  rw [Frame.forLock, aesEncrypt_eq]
  rfl

include hcipher

theorem aesDecrypt_eq_ok_iff (ciphertext plaintext : Bytes) :
    aesDecrypt client.aes ciphertext client.aesKey = .ok plaintext ↔
      client.aes.encrypt client.aesKey plaintext = ciphertext := by
  rw [← hcipher.decrypts]
  unfold aesDecrypt checkKey
  rw [if_neg (not_not_intro client.aesKey_length)]
  cases client.aes.decrypt client.aesKey ciphertext with
  | ok found =>
    show (.ok found : Py Bytes) = .ok plaintext ↔ _
    simp
  | error text =>
    show (.error (valueError text) : Py Bytes) = .ok plaintext ↔ _
    simp

theorem aesDecrypt_length (ciphertext : Bytes) :
    Returns (fun plaintext => ciphertext.length = 16 * (plaintext.length / 16 + 1))
      (aesDecrypt client.aes ciphertext client.aesKey) := by
  intro plaintext h
  rw [← (aesDecrypt_eq_ok_iff hcipher _ _).mp h]
  exact hcipher.length plaintext

end Client

/-! ## A cipher with a table -/

/-- A cipher that is AES on the messages of a table. It pads, and swaps each padded message with its
ciphertext. -/
def swapAes (table : List (Bytes × Bytes)) : Aes where
  encrypt _ plaintext := swaps (table.map fun row => (pad 16 row.1, row.2)) (pad 16 plaintext)
  decrypt _ ciphertext :=
    match unpad 16 ((swaps (table.map fun row => (pad 16 row.1, row.2))).symm ciphertext) with
    | some plaintext => .ok plaintext
    | none => .error "Invalid padding bytes."

theorem paddedCipher_swapAes (table : List (Bytes × Bytes))
    (h : ∀ row ∈ table, (pad 16 row.1).length = row.2.length) (key : Bytes) :
    PaddedCipher (swapAes table) key where
  decrypts ciphertext plaintext := by
    generalize hperm : swaps (table.map fun row => (pad 16 row.1, row.2)) = perm
    have hiff : unpad 16 (perm.symm ciphertext) = some plaintext ↔ perm (pad 16 plaintext) = ciphertext := by
      rw [unpad_eq_some_iff 16 (by decide) (by decide), Equiv.eq_symm_apply]
    unfold swapAes
    simp only [hperm]
    rw [← hiff]
    cases unpad 16 (perm.symm ciphertext) <;> simp
  length plaintext := by
    unfold swapAes
    simp only
    rw [swaps_length _ ?_, pad_length 16 (by decide)]
    intro row hrow
    obtain ⟨row', hrow', rfl⟩ := List.mem_map.mp hrow
    exact h row' hrow'

end TtlockBle.Cipher
