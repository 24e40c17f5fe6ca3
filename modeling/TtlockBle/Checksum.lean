import Mathlib.Logic.Function.Iterate
import TtlockBle.Code.Crypto
import TtlockBle.Lib.TableFold

/-!
# What the frame checksum detects

The table is the one of the CRC-8 with the reflected polynomial `0x8C`, with one entry wrong: entry
33 repeats entry 79. A single changed byte goes unnoticed exactly where one message looks up the
one and the other message the other.
-/

open TtlockBle.Lib

namespace TtlockBle.Checksum

/-! ## The table -/

/-- One bit of the CRC-8 with the reflected polynomial `0x8C`. -/
def shift (crc : UInt8) : UInt8 :=
  if crc &&& 1 = 1 then (crc >>> 1) ^^^ 0x8C else crc >>> 1

def crcEntry (i : UInt8) : UInt8 := shift^[8] i

/-- The shift undone. -/
def unshift (crc : UInt8) : UInt8 :=
  if 0x80 ≤ crc then ((crc ^^^ 0x8C) <<< 1) ||| 1 else crc <<< 1

theorem unshift_shift (crc : UInt8) : unshift (shift crc) = crc := by
  have h : ∀ i < 256, unshift (shift (UInt8.ofNat i)) = UInt8.ofNat i := by decide +kernel
  simpa using h crc.toNat crc.toNat_lt

theorem crcEntry_injective : Function.Injective crcEntry :=
  Function.Injective.iterate (Function.LeftInverse.injective unshift_shift) 8

theorem decodeTable_eq :
    decodeTable = ((List.range 256).map fun i => crcEntry (UInt8.ofNat i)).set 33 0x07 := by decide +kernel

/-- The table is right but for entry 33, which should be `0x7D`. -/
theorem decodeTable_getD (i : UInt8) :
    decodeTable.getD i.toNat 0 = if i = 33 then 0x07 else crcEntry i := by
  have hi := i.toNat_lt
  rw [decodeTable_eq, List.getD_eq_getElem?_getD, List.getElem?_set]
  split
  · rename_i h
    rw [if_pos (UInt8.toNat_inj.mp h.symm)]
    simp
  · rename_i h
    rw [if_neg (fun h' => h (by rw [h']; rfl))]
    simp [hi]

example : crcEntry 33 = 0x7D := by decide

/-! ## The walk -/

theorem xor_left_injective (a b c : UInt8) (h : a ^^^ b = a ^^^ c) : b = c := by
  have := congrArg (a ^^^ ·) h
  simpa [← UInt8.xor_assoc] using this

theorem xor_right_injective (a b c : UInt8) (h : a ^^^ c = b ^^^ c) : a = b := by
  rw [UInt8.xor_comm a, UInt8.xor_comm b] at h
  exact xor_left_injective _ _ _ h

/-- The loop of `_table_crc`. -/
def crcFold : TableFold UInt8 UInt8 UInt8 where
  index crc byte := byte ^^^ crc
  table i := decodeTable.getD i.toNat 0
  index_state h := xor_left_injective _ _ _ h
  index_item h := xor_right_injective _ _ _ h

theorem crcCompute_eq_run (data : Bytes) : crcCompute data = crcFold.run 0 data := rfl

theorem table_eq (u : UInt8) : crcFold.table u = if u = 33 then 0x07 else crcEntry u := decodeTable_getD u

/-- The table holds each value once, but for the one in entries 33 and 79. -/
theorem collide_iff (u v : UInt8) :
    crcFold.Collide u v ↔ u = 33 ∧ v = 79 ∨ u = 79 ∧ v = 33 := by
  have h79 : crcEntry 79 = 0x07 := by decide
  unfold TableFold.Collide
  rw [table_eq, table_eq]
  by_cases hu : u = 33
  · by_cases hv : v = 33
    · simp [hu, hv]
    · rw [if_pos hu, if_neg hv, ← h79, crcEntry_injective.eq_iff]
      subst hu
      simp [eq_comm]
      rintro rfl
      decide
  · by_cases hv : v = 33
    · rw [if_neg hu, if_pos hv, ← h79, crcEntry_injective.eq_iff]
      subst hv
      simp
      rintro rfl
      decide
    · rw [if_neg hu, if_neg hv, crcEntry_injective.eq_iff]
      simp [hu, hv]

/-! ## One changed byte -/

/-- The two messages have one length and differ in exactly one position. -/
def OneByteApart (a b : Bytes) : Prop := a.length = b.length ∧ ∃! i : Nat, a[i]? ≠ b[i]?

theorem oneByteApart_split (a b : Bytes) (h : OneByteApart a b) :
    ∃ before x y after, x ≠ y ∧ a = before ++ x :: after ∧ b = before ++ y :: after := by
  obtain ⟨hlen, i, hi, huniq⟩ := h
  have hia : i < a.length := by
    apply Classical.byContradiction
    intro hge
    apply hi
    rw [List.getElem?_eq_none (by omega), List.getElem?_eq_none (by omega)]
  have hib : i < b.length := hlen ▸ hia
  have hsame : ∀ j, j ≠ i → a[j]? = b[j]? := fun j hj => Classical.not_not.mp (mt (huniq j) hj)
  have htake : a.take i = b.take i := by
    apply List.ext_getElem?
    intro j
    rw [List.getElem?_take, List.getElem?_take]
    split
    · exact hsame j (by omega)
    · rfl
  have hdrop : a.drop (i + 1) = b.drop (i + 1) := by
    apply List.ext_getElem?
    intro j
    rw [List.getElem?_drop, List.getElem?_drop]
    exact hsame _ (by omega)
  refine ⟨a.take i, a[i], b[i], a.drop (i + 1), ?_, ?_, ?_⟩
  · rwa [List.getElem?_eq_getElem hia, List.getElem?_eq_getElem hib, ne_eq, Option.some.injEq] at hi
  · rw [← List.drop_eq_getElem_cons hia, List.take_append_drop]
  · rw [htake, hdrop, ← List.drop_eq_getElem_cons hib, List.take_append_drop]

/-- The indices into `_DECODE_TABLE` that `crc_compute` reads, in order. -/
def reads (data : Bytes) : List UInt8 := crcFold.lookups 0 data

/-- At some position one message reads the wrong entry and the other one the entry it repeats. -/
def ReadsRepeated (a b : Bytes) : Prop :=
  ∃ p ∈ (reads a).zip (reads b), p.1 = 33 ∧ p.2 = 79 ∨ p.1 = 79 ∧ p.2 = 33

/-- **A changed byte changes the checksum** exactly if the wrong entry is never read against the one
it repeats. -/
theorem crc_detects_iff (a b : Bytes) (h : OneByteApart a b) :
    crcCompute a ≠ crcCompute b ↔ ¬ ReadsRepeated a b := by
  obtain ⟨before, x, y, after, hne, rfl, rfl⟩ := oneByteApart_split a b h
  rw [crcCompute_eq_run, crcCompute_eq_run, ne_eq, crcFold.run_replace_iff 0 before after hne]
  unfold TableFold.Clash ReadsRepeated reads
  simp only [collide_iff]

theorem oneByteApart_of_split (before after : Bytes) (x y : UInt8) (hne : x ≠ y) :
    OneByteApart (before ++ x :: after) (before ++ y :: after) := by
  refine ⟨by simp, before.length, by simpa using hne, ?_⟩
  intro j hj
  rcases Nat.lt_trichotomy j before.length with hlt | heq | hgt
  · rw [List.getElem?_append_left hlt, List.getElem?_append_left hlt] at hj
    exact absurd rfl hj
  · exact heq
  · obtain ⟨k, rfl⟩ := Nat.exists_eq_add_of_lt hgt
    rw [List.getElem?_append_right (by omega), List.getElem?_append_right (by omega)] at hj
    simp [show before.length + k + 1 - before.length = k + 1 by omega] at hj

theorem crc_detects_iff_known :
    OneByteApart [0x7F, 0x20, 0x5A] [0x7F, 0x21, 0x5A] ∧
      (crcCompute [0x7F, 0x20, 0x5A] ≠ crcCompute [0x7F, 0x21, 0x5A] ↔
        ¬ ReadsRepeated [0x7F, 0x20, 0x5A] [0x7F, 0x21, 0x5A]) := by
  have h := oneByteApart_of_split [0x7F] [0x5A] 0x20 0x21 (by decide)
  exact ⟨h, crc_detects_iff _ _ h⟩

/-- The bytes 33 and 79 alone have one checksum. -/
theorem crc_misses : ¬ ∀ a b, OneByteApart a b → crcCompute a ≠ crcCompute b := by
  intro h
  exact h [33] [79] (oneByteApart_of_split [] [] 33 79 (by decide)) (by decide)

end TtlockBle.Checksum
