import Mathlib.Logic.Equiv.Basic
import TtlockBle.Lib.Bytes

/-!
# PKCS7 padding

Padding fills up the last block, or adds a whole one, with bytes that say how many they are. So what is
padded can be told from what is not, and padding can be taken off again.
-/

namespace TtlockBle.Lib

def pad (block : Nat) (data : Bytes) : Bytes :=
  let n := block - data.length % block
  data ++ List.replicate n (UInt8.ofNat n)

/-- Takes off as many bytes as the last one says, if that is what padding put there. -/
def unpad (block : Nat) (padded : Bytes) : Option Bytes :=
  let data := padded.take (padded.length - (padded.getLastD 0).toNat)
  if pad block data = padded then some data else none

section Padding

variable (block : Nat) (hblock : 0 < block)
include hblock

theorem pad_length (data : Bytes) : (pad block data).length = block * (data.length / block + 1) := by
  have hlt := Nat.mod_lt data.length hblock
  have hdiv := Nat.div_add_mod data.length block
  unfold pad
  rw [List.length_append, List.length_replicate, Nat.mul_add, Nat.mul_one]
  omega

theorem unpad_pad (hbyte : block < 256) (data : Bytes) : unpad block (pad block data) = some data := by
  have hlt := Nat.mod_lt data.length hblock
  have hlast : ((pad block data).getLastD 0).toNat = block - data.length % block := by
    unfold pad
    simp only
    obtain ⟨n, hn⟩ : ∃ n, block - data.length % block = n + 1 := ⟨block - data.length % block - 1, by omega⟩
    rw [hn, List.replicate_succ', ← List.append_assoc, List.getLastD_concat, UInt8.toNat_ofNat']
    omega
  have htake : (pad block data).take ((pad block data).length - (block - data.length % block)) = data := by
    apply List.take_left'
    unfold pad
    rw [List.length_append, List.length_replicate]
    omega
  unfold unpad
  rw [hlast, htake]
  exact if_pos rfl

theorem unpad_eq_some_iff (hbyte : block < 256) (padded data : Bytes) :
    unpad block padded = some data ↔ pad block data = padded := by
  constructor
  · unfold unpad
    simp only [Option.ite_none_right_eq_some]
    rintro ⟨h, h'⟩
    rw [Option.some.injEq] at h'
    rwa [h'] at h
  · rintro rfl
    exact unpad_pad block hblock hbyte data

end Padding

/-! ## Permutations of byte strings -/

/-- The permutation that swaps the two strings of each row, row after row. -/
def swaps : List (Bytes × Bytes) → Equiv.Perm Bytes
  | [] => Equiv.refl _
  | row :: rows => (Equiv.swap row.1 row.2).trans (swaps rows)

theorem swaps_length (rows : List (Bytes × Bytes)) (h : ∀ row ∈ rows, row.1.length = row.2.length) (data : Bytes) :
    (swaps rows data).length = data.length := by
  induction rows generalizing data with
  | nil => rfl
  | cons row rows ih =>
    have hrow := h row List.mem_cons_self
    have hswap : (Equiv.swap row.1 row.2 data).length = data.length := by
      rw [Equiv.swap_apply_def]
      split
      · rename_i heq
        rw [heq, hrow]
      · split
        · rename_i heq
          rw [heq, hrow]
        · rfl
    exact (ih (fun row' h' => h row' (List.mem_cons_of_mem _ h')) _).trans hswap

end TtlockBle.Lib
