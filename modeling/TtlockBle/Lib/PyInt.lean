import TtlockBle.Lib.Repr

/-!
# `int` of a string

What Python's `int(s)` and `s.isdigit()` accept. The tables are those of Unicode 16.
-/

namespace TtlockBle.Lib

/-- The zero of each run of ten decimal digits (category `Nd`). -/
def decimalZeros : List Nat :=
  [0x30, 0x660, 0x6F0, 0x7C0, 0x966, 0x9E6, 0xA66, 0xAE6, 0xB66, 0xBE6, 0xC66, 0xCE6, 0xD66,
    0xDE6, 0xE50, 0xED0, 0xF20, 0x1040, 0x1090, 0x17E0, 0x1810, 0x1946, 0x19D0, 0x1A80, 0x1A90,
    0x1B50, 0x1BB0, 0x1C40, 0x1C50, 0xA620, 0xA8D0, 0xA900, 0xA9D0, 0xA9F0, 0xAA50, 0xABF0,
    0xFF10, 0x104A0, 0x10D30, 0x10D40, 0x11066, 0x110F0, 0x11136, 0x111D0, 0x112F0, 0x11450,
    0x114D0, 0x11650, 0x116C0, 0x116D0, 0x116DA, 0x11730, 0x118E0, 0x11950, 0x11BF0, 0x11C50,
    0x11D50, 0x11DA0, 0x11F50, 0x16130, 0x16A60, 0x16AC0, 0x16B50, 0x16D70, 0x1CCF0, 0x1D7CE,
    0x1D7D8, 0x1D7E2, 0x1D7EC, 0x1D7F6, 0x1E140, 0x1E2F0, 0x1E4F0, 0x1E5F1, 0x1E950, 0x1FBF0]

/-- Digits that are no decimal digits: superscripts, circled digits and their like. -/
def otherDigits : List (Nat × Nat) :=
  [(0xB2, 0xB3), (0xB9, 0xB9), (0x1369, 0x1371), (0x19DA, 0x19DA), (0x2070, 0x2070),
    (0x2074, 0x2079), (0x2080, 0x2089), (0x2460, 0x2468), (0x2474, 0x247C), (0x2488, 0x2490),
    (0x24EA, 0x24EA), (0x24F5, 0x24FD), (0x24FF, 0x24FF), (0x2776, 0x277E), (0x2780, 0x2788),
    (0x278A, 0x2792), (0x10A40, 0x10A43), (0x10E60, 0x10E68), (0x11052, 0x1105A),
    (0x1F100, 0x1F10A)]

/-- The whitespace that `int` skips. -/
def intSpaces : List (Nat × Nat) :=
  [(0x9, 0xD), (0x20, 0x20), (0x85, 0x85), (0xA0, 0xA0), (0x1680, 0x1680), (0x2000, 0x200A),
    (0x2028, 0x2029), (0x202F, 0x202F), (0x205F, 0x205F), (0x3000, 0x3000)]

def decimalValue (c : Char) : Option Nat :=
  (decimalZeros.find? fun z => z ≤ c.toNat && c.toNat < z + 10).map (c.toNat - ·)

def isDigit (s : String) : Bool :=
  s ≠ "" && s.toList.all fun c => (decimalValue c).isSome || inRanges otherDigits c

/-- Digits may be grouped by single underscores. -/
def digitValues (cs : List Char) : Option (List Nat) :=
  let groups := cs.splitOn '_'
  if groups.all (· ≠ []) then groups.flatten.mapM decimalValue else none

def maxStrDigits : Nat := 4300

def trimSpaces (cs : List Char) : List Char :=
  ((cs.dropWhile (inRanges intSpaces)).reverse.dropWhile (inRanges intSpaces)).reverse

def splitSign : List Char → Bool × List Char
  | '-' :: cs => (true, cs)
  | '+' :: cs => (false, cs)
  | cs => (false, cs)

/-- At most 200 characters of the literal are shown. -/
def invalidLiteral (base : Nat) (s : String) : String :=
  s!"invalid literal for int() with base {base}: " ++ String.ofList ((reprStr printable s).toList.take 200)

/-- `int(s)`, or the text of its `ValueError`. -/
def parseInt (s : String) : Except String Int :=
  let (negative, body) := splitSign (trimSpaces s.toList)
  match digitValues body with
  | none => .error (invalidLiteral 10 s)
  | some digits =>
    if digits.length > maxStrDigits then
      .error (s!"Exceeds the limit ({maxStrDigits} digits) for integer string conversion: " ++
        s!"value has {digits.length} digits; use sys.set_int_max_str_digits() to increase the limit")
    else
      let value : Nat := digits.foldl (fun acc d => acc * 10 + d) 0
      .ok (if negative then -(value : Int) else value)

/-! ## Plain numerals -/

theorem trimSpaces_of_none (cs : List Char) (h : ∀ c ∈ cs, inRanges intSpaces c = false) :
    trimSpaces cs = cs := by
  have hkeep (l : List Char) (hl : ∀ c ∈ l, inRanges intSpaces c = false) :
      l.dropWhile (inRanges intSpaces) = l := by
    cases l with
    | nil => rfl
    | cons c l => rw [List.dropWhile_cons_of_neg (by simp [hl c])]
  unfold trimSpaces
  rw [hkeep cs h, hkeep cs.reverse (by simpa using h), List.reverse_reverse]

theorem splitSign_of_none (cs : List Char) (h : ∀ c ∈ cs, c ≠ '-' ∧ c ≠ '+') : splitSign cs = (false, cs) := by
  unfold splitSign
  split
  · exact absurd rfl (h '-' (by simp)).1
  · exact absurd rfl (h '+' (by simp)).2
  · rfl

theorem decimal_facts (c : Char) (h : c.isDigit) :
    decimalValue c = some (c.toNat - '0'.toNat) ∧ inRanges intSpaces c = false ∧ c ≠ '_' ∧ c ≠ '-' ∧ c ≠ '+' := by
  have hall : ∀ n : Fin 10, decimalValue (Char.ofNat (48 + n)) = some n.val ∧
      inRanges intSpaces (Char.ofNat (48 + n)) = false ∧ Char.ofNat (48 + n) ≠ '_' ∧
      Char.ofNat (48 + n) ≠ '-' ∧ Char.ofNat (48 + n) ≠ '+' := by
    decide +kernel
  have hc : 48 ≤ c.toNat ∧ c.toNat ≤ 57 := by
    simpa [Char.isDigit, UInt32.le_iff_toNat_le] using h
  have hn := hall ⟨c.toNat - 48, by omega⟩
  simp only [Nat.add_sub_cancel' hc.1, Char.ofNat_toNat] at hn
  exact hn

theorem mapM_decimalValue (cs : List Char) (h : ∀ c ∈ cs, c.isDigit) :
    cs.mapM decimalValue = some (cs.map fun c => c.toNat - '0'.toNat) := by
  induction cs with
  | nil => rfl
  | cons c cs ih =>
    rw [List.mapM_cons, (decimal_facts c (h c (by simp))).1, ih fun c hc => h c (by simp [hc])]
    rfl

theorem digitValues_of_digits (cs : List Char) (hne : cs ≠ []) (h : ∀ c ∈ cs, c.isDigit) :
    digitValues cs = some (cs.map fun c => c.toNat - '0'.toNat) := by
  have hunderscore : '_' ∉ cs := fun hmem => (decimal_facts '_' (h '_' hmem)).2.2.1 rfl
  unfold digitValues
  rw [List.splitOn_eq_singleton hunderscore]
  simp [hne, mapM_decimalValue cs h]

theorem parseInt_of_digits (cs : List Char) (hne : cs ≠ []) (h : ∀ c ∈ cs, c.isDigit)
    (hlength : cs.length ≤ maxStrDigits) : parseInt (String.ofList cs) = .ok (Nat.ofDigitChars 10 cs 0 : Int) := by
  unfold parseInt
  rw [String.toList_ofList, trimSpaces_of_none cs fun c hc => (decimal_facts c (h c hc)).2.1,
    splitSign_of_none cs fun c hc => (decimal_facts c (h c hc)).2.2.2]
  simp only [digitValues_of_digits cs hne h]
  rw [if_neg (by simpa using hlength)]
  simp [Nat.ofDigitChars, List.foldl_map, Nat.mul_comm]

theorem parseInt_toString (n : Nat) (hlength : (Nat.toDigits 10 n).length ≤ maxStrDigits) :
    parseInt (toString n) = .ok (n : Int) := by
  rw [Nat.toString_eq_ofList_toDigits, parseInt_of_digits _ Nat.toDigits_ne_nil
    (fun c hc => Nat.isDigit_of_mem_toDigits (by decide) (by decide) hc) hlength, Nat.ofDigitChars_ten_toDigits]

theorem parseInt_neg_of_digits (cs : List Char) (hne : cs ≠ []) (h : ∀ c ∈ cs, c.isDigit)
    (hlength : cs.length ≤ maxStrDigits) :
    parseInt (String.ofList ('-' :: cs)) = .ok (-(Nat.ofDigitChars 10 cs 0 : Int)) := by
  have hspace : ∀ c ∈ '-' :: cs, inRanges intSpaces c = false :=
    List.forall_mem_cons.mpr ⟨by decide, fun c hc => (decimal_facts c (h c hc)).2.1⟩
  unfold parseInt
  rw [String.toList_ofList, trimSpaces_of_none _ hspace]
  simp only [splitSign, digitValues_of_digits cs hne h]
  rw [if_neg (by simpa using hlength)]
  simp [Nat.ofDigitChars, List.foldl_map, Nat.mul_comm]

theorem toString_int (n : Int) :
    toString n = String.ofList ((if n < 0 then ['-'] else []) ++ Nat.toDigits 10 n.natAbs) := by
  cases n with
  | ofNat n =>
    rw [if_neg (by simp)]
    exact Nat.toString_eq_ofList_toDigits
  | negSucc n =>
    rw [if_pos (Int.negSucc_lt_zero n)]
    show "-" ++ toString (n + 1) = _
    rw [Nat.toString_eq_ofList_toDigits, List.singleton_append, String.ofList_cons]
    rfl

theorem parseInt_toString_int (n : Int) (hlength : (Nat.toDigits 10 n.natAbs).length ≤ maxStrDigits) :
    parseInt (toString n) = .ok n := by
  have hdigits : ∀ c ∈ Nat.toDigits 10 n.natAbs, c.isDigit :=
    fun c hc => Nat.isDigit_of_mem_toDigits (by decide) (by decide) hc
  rw [toString_int]
  split_ifs with hn
  · rw [List.singleton_append, parseInt_neg_of_digits _ Nat.toDigits_ne_nil hdigits hlength,
      Nat.ofDigitChars_ten_toDigits]
    exact congrArg Except.ok (by omega)
  · rw [List.nil_append, parseInt_of_digits _ Nat.toDigits_ne_nil hdigits hlength, Nat.ofDigitChars_ten_toDigits]
    exact congrArg Except.ok (by omega)

/-! ## The size of what is read -/

theorem decimalValue_lt (c : Char) (d : Nat) (h : decimalValue c = some d) : d < 10 := by
  obtain ⟨z, hz, rfl⟩ := Option.map_eq_some_iff.mp h
  have hrange := List.find?_some hz
  simp only [Bool.and_eq_true, decide_eq_true_iff] at hrange
  omega

theorem digitValues_lt (cs : List Char) (digits : List Nat) (h : digitValues cs = some digits) :
    ∀ d ∈ digits, d < 10 := by
  unfold digitValues at h
  simp only at h
  split_ifs at h
  generalize (cs.splitOn '_').flatten = ds at h
  induction ds generalizing digits with
  | nil =>
    obtain rfl : [] = digits := by simpa using h
    simp
  | cons c ds ih =>
    rw [List.mapM_cons, Option.bind_eq_bind, Option.bind_eq_some_iff] at h
    obtain ⟨d, hd, hrest⟩ := h
    rw [Option.bind_eq_bind, Option.bind_eq_some_iff] at hrest
    obtain ⟨rest, hmap, hcons⟩ := hrest
    obtain rfl : d :: rest = digits := by simpa using hcons
    exact List.forall_mem_cons.mpr ⟨decimalValue_lt c d hd, ih rest hmap⟩

theorem foldl_digits_lt (digits : List Nat) (h : ∀ d ∈ digits, d < 10) (acc : Nat) :
    digits.foldl (fun acc d => acc * 10 + d) acc < (acc + 1) * 10 ^ digits.length := by
  induction digits generalizing acc with
  | nil => simp
  | cons d digits ih =>
    rw [List.forall_mem_cons] at h
    calc (d :: digits).foldl (fun acc d => acc * 10 + d) acc
        < (acc * 10 + d + 1) * 10 ^ digits.length := ih h.2 _
      _ ≤ (acc + 1) * 10 * 10 ^ digits.length := Nat.mul_le_mul_right _ (by omega)
      _ = (acc + 1) * 10 ^ (d :: digits).length := by rw [List.length_cons, Nat.pow_succ']; exact Nat.mul_assoc _ _ _

theorem parseInt_short (s : String) (n : Int) (h : parseInt s = .ok n) :
    (Nat.toDigits 10 n.natAbs).length ≤ maxStrDigits := by
  unfold parseInt at h
  generalize splitSign (trimSpaces s.toList) = signed at h
  obtain ⟨negative, body⟩ := signed
  simp only at h
  cases hdigits : digitValues body with
  | none =>
    rw [hdigits] at h
    cases h
  | some digits =>
    rw [hdigits] at h
    simp only at h
    split_ifs at h with hlong hnegative
    all_goals
      obtain rfl := Except.ok.inj h
      have hlt := foldl_digits_lt digits (digitValues_lt body digits hdigits) 0
      apply Nat.toDigits_length _ _ _ (by decide)
      apply Nat.lt_of_lt_of_le _ (Nat.pow_le_pow_right (by decide) (Nat.not_lt.mp hlong))
      simpa using hlt

example : parseInt " +2_46 " = .ok 246 := by rfl

end TtlockBle.Lib
