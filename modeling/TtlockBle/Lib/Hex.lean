import TtlockBle.Lib.Bytes
import TtlockBle.Lib.PyInt
import Mathlib.Data.List.Induction
import Mathlib.Tactic.IntervalCases
import Mathlib.Tactic.Ring

/-!
# Hexadecimal numerals

What Python's `int(s, 16)` accepts, and the numerals that `format(n, "X")` writes.
-/

namespace TtlockBle.Lib

def hexDigitValue (c : Char) : Option Nat :=
  if '0' ≤ c ∧ c ≤ '9' then some (c.toNat - '0'.toNat)
  else if 'a' ≤ c ∧ c ≤ 'f' then some (c.toNat - 'a'.toNat + 10)
  else if 'A' ≤ c ∧ c ≤ 'F' then some (c.toNat - 'A'.toNat + 10)
  else none

/-- Decimal digits of other scripts count as well. -/
def digitValue16 (c : Char) : Option Nat := (hexDigitValue c).or (decimalValue c)

def digitValues16 (cs : List Char) : Option (List Nat) :=
  let groups := cs.splitOn '_'
  if groups.all (· ≠ []) then groups.flatten.mapM digitValue16 else none

/-- Without `0x`, and one underscore behind it. -/
def dropPrefix16 : List Char → List Char
  | z :: x :: cs =>
    if decimalValue z = some 0 ∧ (x = 'x' ∨ x = 'X') then
      if cs.head? = some '_' then cs.tail else cs
    else z :: x :: cs
  | cs => cs

/-- The number whose digits these are, the first one highest. -/
def ofDigits16 (digits : List Nat) : Nat := digits.foldl (fun acc d => acc * 16 + d) 0

/-- `int(s, 16)`, or nothing where it raises `ValueError`. -/
def parseInt16 (s : String) : Option Int :=
  let (negative, body) := splitSign (trimSpaces s.toList)
  (digitValues16 (dropPrefix16 body)).map fun digits =>
    if negative then -(ofDigits16 digits : Int) else ofDigits16 digits

/-! ## Digits -/

theorem ofDigits16_append (ds ds' : List Nat) :
    ofDigits16 (ds ++ ds') = ofDigits16 ds * 16 ^ ds'.length + ofDigits16 ds' := by
  induction ds' using List.reverseRecOn with
  | nil => simp [ofDigits16]
  | append_singleton ds' d ih =>
    unfold ofDigits16 at ih ⊢
    rw [← List.append_assoc, List.foldl_concat, List.foldl_concat, ih, List.length_append, Nat.pow_add]
    simp
    ring

theorem ofDigits16_lt (ds : List Nat) (h : ∀ d ∈ ds, d < 16) : ofDigits16 ds < 16 ^ ds.length := by
  induction ds using List.reverseRecOn with
  | nil => simp [ofDigits16]
  | append_singleton ds d ih =>
    have hfront := ih fun d hd => h d (by simp [hd])
    have hd := h d (by simp)
    rw [ofDigits16_append, List.length_append, Nat.pow_add]
    simp [ofDigits16] at hfront ⊢
    omega

/-! ## Numerals -/

def upperDigit (d : Nat) : Char := (Nat.digitChar d).toUpper

/-- What `format(n, "X")` writes. -/
def upperNumeral (n : Nat) : List Char := (Nat.toDigits 16 n).map Char.toUpper

theorem upperNumeral_of_lt (n : Nat) (h : n < 16) : upperNumeral n = [upperDigit n] := by
  rw [upperNumeral, Nat.toDigits_of_lt_base h]
  rfl

theorem upperNumeral_of_ge (n : Nat) (h : 16 ≤ n) :
    upperNumeral n = upperNumeral (n / 16) ++ [upperDigit (n % 16)] := by
  rw [upperNumeral, Nat.toDigits_of_base_le (by decide) h, List.map_append]
  rfl

theorem upperNumeral_eq_map (n : Nat) :
    ∃ ds : List Nat, upperNumeral n = ds.map upperDigit ∧ ds ≠ [] ∧ (∀ d ∈ ds, d < 16) ∧ ofDigits16 ds = n := by
  induction n using Nat.strongRecOn with
  | ind n ih =>
    rcases Nat.lt_or_ge n 16 with hlt | hge
    · exact ⟨[n], upperNumeral_of_lt n hlt, by simp, by simpa using hlt, by simp [ofDigits16]⟩
    · obtain ⟨ds, hds, -, hsmall, hvalue⟩ := ih (n / 16) (by omega)
      refine ⟨ds ++ [n % 16], ?_, by simp, ?_, ?_⟩
      · rw [upperNumeral_of_ge n hge, hds, List.map_append]
        rfl
      · intro d hd
        rcases List.mem_append.mp hd with hd | hd
        · exact hsmall d hd
        · rw [List.mem_singleton.mp hd]
          exact Nat.mod_lt n (by decide)
      · rw [ofDigits16_append, hvalue]
        simp [ofDigits16]
        omega

/-- Leading zeros are dropped, but not the last digit. -/
def stripZeros (cs : List Char) : List Char :=
  if cs.dropWhile (· = '0') = [] then ['0'] else cs.dropWhile (· = '0')

theorem upperDigit_eq_zero (d : Nat) (h : d < 16) : upperDigit d = '0' ↔ d = 0 := by
  interval_cases d <;> decide

theorem dropWhile_zeros (ds : List Nat) (h : ∀ d ∈ ds, d < 16) :
    (ds.map upperDigit).dropWhile (· = '0') = if ofDigits16 ds = 0 then [] else upperNumeral (ofDigits16 ds) := by
  induction ds using List.reverseRecOn with
  | nil => simp [ofDigits16]
  | append_singleton ds d ih =>
    have hd : d < 16 := h d (by simp)
    have hvalue : ofDigits16 (ds ++ [d]) = ofDigits16 ds * 16 + d := by
      rw [ofDigits16_append]
      simp [ofDigits16]
    rw [List.map_append, List.dropWhile_append, ih fun d hd => h d (by simp [hd]), hvalue]
    by_cases hzero : ofDigits16 ds = 0
    · rw [if_pos hzero, hzero, Nat.zero_mul, Nat.zero_add, upperNumeral_of_lt d hd]
      simp [List.dropWhile_cons, upperDigit_eq_zero d hd]
    · have hne : upperNumeral (ofDigits16 ds) ≠ [] := by simp [upperNumeral]
      rw [if_neg hzero, if_neg (by simpa using hne), if_neg (by omega),
        upperNumeral_of_ge (ofDigits16 ds * 16 + d) (by omega)]
      have hdiv : (ofDigits16 ds * 16 + d) / 16 = ofDigits16 ds := by omega
      have hmod : (ofDigits16 ds * 16 + d) % 16 = d := by omega
      rw [hdiv, hmod]
      rfl

theorem stripZeros_map (ds : List Nat) (h : ∀ d ∈ ds, d < 16) :
    stripZeros (ds.map upperDigit) = upperNumeral (ofDigits16 ds) := by
  unfold stripZeros
  rw [dropWhile_zeros ds h]
  by_cases hzero : ofDigits16 ds = 0
  · rw [if_pos hzero, if_pos rfl, hzero]
    rfl
  · rw [if_neg hzero, if_neg (by simp [upperNumeral])]

/-! ## Reading a numeral -/

theorem hexDigitValue_upperDigit (d : Nat) (h : d < 16) : hexDigitValue (upperDigit d) = some d := by
  interval_cases d <;> decide

theorem dropPrefix16_of_none (cs : List Char) (h : ∀ c ∈ cs, c ≠ 'x' ∧ c ≠ 'X') : dropPrefix16 cs = cs := by
  match cs with
  | [] => rfl
  | [_] => rfl
  | _ :: x :: cs =>
    have hx := h x (by simp)
    simp [dropPrefix16, hx.1, hx.2]

theorem digitValues16_of_digits (cs : List Char) (ds : List Nat) (hne : cs ≠ []) (h : '_' ∉ cs)
    (hds : cs.mapM digitValue16 = some ds) : digitValues16 cs = some ds := by
  unfold digitValues16
  rw [List.splitOn_eq_singleton h]
  simp [hne, hds]

theorem hexDigitValue_ascii (c : Char) (d : Nat) (h : hexDigitValue c = some d) : c.toNat < 128 := by
  have hbound : ∀ c' : Char, c'.toNat < 128 → c ≤ c' → c.toNat < 128 := fun c' hc' hle => Nat.lt_of_le_of_lt hle hc'
  unfold hexDigitValue at h
  split_ifs at h with h1 h2 h3
  · exact hbound '9' (by decide) h1.2
  · exact hbound 'f' (by decide) h2.2
  · exact hbound 'F' (by decide) h3.2

theorem hexDigitValue_facts (c : Char) (d : Nat) (h : hexDigitValue c = some d) :
    d < 16 ∧ digitValue16 c = some d ∧ inRanges intSpaces c = false ∧ c ≠ '_' ∧ (c ≠ '-' ∧ c ≠ '+') ∧
      c ≠ 'x' ∧ c ≠ 'X' := by
  have hall : ∀ n : Fin 128, ∀ d ∈ hexDigitValue (Char.ofNat n), d < 16 ∧
      inRanges intSpaces (Char.ofNat n) = false ∧ Char.ofNat n ≠ '_' ∧
      (Char.ofNat n ≠ '-' ∧ Char.ofNat n ≠ '+') ∧ Char.ofNat n ≠ 'x' ∧ Char.ofNat n ≠ 'X' := by
    decide +kernel
  have hc := hall ⟨c.toNat, hexDigitValue_ascii c d h⟩ d (by simpa using h)
  simp only [Char.ofNat_toNat] at hc
  exact ⟨hc.1, by rw [digitValue16, h]; rfl, hc.2⟩

theorem mapM_digitValue16 (cs : List Char) (ds : List Nat) (h : cs.mapM hexDigitValue = some ds) :
    cs.mapM digitValue16 = some ds := by
  induction cs generalizing ds with
  | nil => exact h
  | cons c cs ih =>
    rw [List.mapM_cons] at h ⊢
    cases hc : hexDigitValue c with
    | none =>
      rw [hc] at h
      cases h
    | some d =>
      cases hcs : cs.mapM hexDigitValue with
      | none =>
        rw [hc, hcs] at h
        cases h
      | some ds' =>
        rw [hc, hcs] at h
        rw [(hexDigitValue_facts c d hc).2.1, ih ds' hcs]
        exact h

theorem exists_hexDigitValue {cs : List Char} {ds : List Nat} (h : cs.mapM hexDigitValue = some ds) :
    ∀ c ∈ cs, ∃ d ∈ ds, hexDigitValue c = some d := by
  induction cs generalizing ds with
  | nil => simp
  | cons c cs ih =>
    rw [List.mapM_cons] at h
    cases hc : hexDigitValue c with
    | none =>
      rw [hc] at h
      cases h
    | some d =>
      cases hcs : cs.mapM hexDigitValue with
      | none =>
        rw [hc, hcs] at h
        cases h
      | some ds' =>
        rw [hc, hcs] at h
        obtain rfl := Option.some.inj h
        intro c' hc'
        rcases List.mem_cons.mp hc' with rfl | hc'
        · exact ⟨d, by simp, hc⟩
        · obtain ⟨d', hd', hvalue⟩ := ih hcs c' hc'
          exact ⟨d', by simp [hd'], hvalue⟩

theorem parseInt16_of_digits (cs : List Char) (ds : List Nat) (hne : cs ≠ [])
    (h : cs.mapM hexDigitValue = some ds) : parseInt16 (String.ofList cs) = some (ofDigits16 ds : Int) := by
  have hfacts : ∀ c ∈ cs, inRanges intSpaces c = false ∧ c ≠ '_' ∧ (c ≠ '-' ∧ c ≠ '+') ∧ c ≠ 'x' ∧ c ≠ 'X' := by
    intro c hc
    obtain ⟨d, -, hd⟩ := exists_hexDigitValue h c hc
    exact (hexDigitValue_facts c d hd).2.2
  unfold parseInt16
  rw [String.toList_ofList, trimSpaces_of_none _ fun c hc => (hfacts c hc).1,
    splitSign_of_none _ fun c hc => (hfacts c hc).2.2.1]
  simp only
  rw [dropPrefix16_of_none _ fun c hc => (hfacts c hc).2.2.2,
    digitValues16_of_digits _ ds hne (fun h => (hfacts _ h).2.1 rfl) (mapM_digitValue16 cs ds h)]
  simp

theorem parseInt16_upperNumeral (n : Nat) : parseInt16 (String.ofList (upperNumeral n)) = some (n : Int) := by
  obtain ⟨ds, hds, hne, hsmall, hvalue⟩ := upperNumeral_eq_map n
  have hvalues : (upperNumeral n).mapM hexDigitValue = some ds := by
    rw [hds]
    clear hds hne hvalue
    induction ds with
    | nil => rfl
    | cons d ds ih =>
      rw [List.map_cons, List.mapM_cons, hexDigitValue_upperDigit d (hsmall d (by simp)),
        ih fun d hd => hsmall d (by simp [hd])]
      rfl
  rw [parseInt16_of_digits _ ds (by simp [upperNumeral]) hvalues, hvalue]

/-! ## What is accepted -/

theorem mapM_isSome_iff {α β : Type} (f : α → Option β) (xs : List α) :
    (xs.mapM f).isSome ↔ ∀ x ∈ xs, (f x).isSome := by
  induction xs with
  | nil => simp
  | cons x xs ih =>
    rw [List.forall_mem_cons, ← ih, List.mapM_cons]
    cases f x <;> cases xs.mapM f <;> simp

theorem mem_splitSign {cs : List Char} {c : Char} (h : c ∈ cs) : c ∈ ['-', '+'] ∨ c ∈ (splitSign cs).2 := by
  unfold splitSign
  split <;> grind

theorem mem_dropPrefix16 {cs : List Char} {c : Char} (h : c ∈ cs) :
    c ∈ ['x', 'X', '_'] ∨ (digitValue16 c).isSome ∨ c ∈ dropPrefix16 cs := by
  match cs with
  | [] => cases h
  | [_] => exact .inr (.inr h)
  | z :: x :: cs =>
    rw [dropPrefix16]
    by_cases hletter : decimalValue z = some 0 ∧ (x = 'x' ∨ x = 'X')
    · have hzero : (digitValue16 z).isSome := by
        rw [digitValue16, hletter.1]
        cases hexDigitValue z <;> rfl
      rw [if_pos hletter]
      cases cs <;> grind
    · rw [if_neg hletter]
      exact .inr (.inr h)

theorem mem_flatten_splitOn {cs : List Char} {sep c : Char} (h : c ∈ cs) (hne : c ≠ sep) :
    c ∈ (cs.splitOn sep).flatten := by
  induction cs with
  | nil => cases h
  | cons x xs ih =>
    obtain ⟨group, groups, hsplit⟩ := List.exists_cons_of_ne_nil (List.splitOn_ne_nil sep xs)
    rw [List.splitOn_cons_eq_if_modifyHead, hsplit, List.modifyHead_cons]
    rw [hsplit] at ih
    split_ifs with hx <;> grind

theorem mem_digitValues16 {cs : List Char} {c : Char} (h : (digitValues16 cs).isSome) (hc : c ∈ cs) :
    c = '_' ∨ (digitValue16 c).isSome := by
  unfold digitValues16 at h
  dsimp only at h
  by_cases hunderscore : c = '_'
  · exact .inl hunderscore
  · split_ifs at h
    · exact .inr ((mapM_isSome_iff _ _).mp h c (mem_flatten_splitOn hc hunderscore))
    · cases h

end TtlockBle.Lib
