import TtlockBle.Lib.Json

/-!
# `json.dumps`

The text of a value, in ASCII alone, on one line or indented. `json.loads` reads it back.
-/

namespace TtlockBle.Lib.Json

/-! ## Writing -/

def newline : Char := Char.ofNat 0x0A

/-- A code unit of UTF-16, with four digits. -/
def writeUnit (n : Nat) : List Char := [backslash, 'u'] ++ hexDigits 4 n

def writeChar (c : Char) : List Char :=
  if c = quotationMark ∨ c = backslash then [backslash, c]
  else if c.toNat = 0x08 then [backslash, 'b']
  else if c.toNat = 0x0C then [backslash, 'f']
  else if c.toNat = 0x0A then [backslash, 'n']
  else if c.toNat = 0x0D then [backslash, 'r']
  else if c.toNat = 0x09 then [backslash, 't']
  else if 0x20 ≤ c.toNat ∧ c.toNat ≤ 0x7E then [c]
  else if c.toNat < 0x10000 then writeUnit c.toNat
  else writeUnit (0xD800 + (c.toNat - 0x10000) / 0x400) ++ writeUnit (0xDC00 + (c.toNat - 0x10000) % 0x400)

def writeString (s : String) : List Char := quotationMark :: (s.toList.flatMap writeChar ++ [quotationMark])

def writeFloat (repr : String) : String :=
  if repr = "nan" then "NaN" else if repr = "inf" then "Infinity" else if repr = "-inf" then "-Infinity" else repr

/-- The line break before something on this level, where there are lines. -/
def lineBreak (indent : Option Nat) (level : Nat) : List Char :=
  match indent with
  | none => []
  | some n => newline :: List.replicate (n * level) ' '

def itemSeparator (indent : Option Nat) : List Char := if indent.isNone then [',', ' '] else [',']

mutual

def write (indent : Option Nat) (level : Nat) : Json → List Char
  | null => "null".toList
  | bool b => (if b then "true" else "false").toList
  | int n => (toString n).toList
  | float repr => (writeFloat repr).toList
  | str s => writeString s
  | list [] => ['[', ']']
  | list (item :: items) =>
    '[' :: (lineBreak indent (level + 1) ++ write indent (level + 1) item ++ writeItems indent (level + 1) items ++
      lineBreak indent level ++ [']'])
  | dict [] => [openBrace, closeBrace]
  | dict ((key, value) :: fields) =>
    openBrace :: (lineBreak indent (level + 1) ++ writeString key ++ [':', ' '] ++ write indent (level + 1) value ++
      writeFields indent (level + 1) fields ++ lineBreak indent level ++ [closeBrace])

/-- The items behind the first one. -/
def writeItems (indent : Option Nat) (level : Nat) : List Json → List Char
  | [] => []
  | item :: items =>
    itemSeparator indent ++ lineBreak indent level ++ write indent level item ++ writeItems indent level items

/-- The fields behind the first one. -/
def writeFields (indent : Option Nat) (level : Nat) : List (String × Json) → List Char
  | [] => []
  | (key, value) :: fields =>
    itemSeparator indent ++ lineBreak indent level ++ writeString key ++ [':', ' '] ++ write indent level value ++
      writeFields indent level fields

end

def shortInt (n : Int) : Bool := (Nat.toDigits 10 n.natAbs).length ≤ maxStrDigits

mutual

/-- Every integer of the value is short enough to be written. -/
def shortInts : Json → Bool
  | int n => shortInt n
  | list items => shortIntsItems items
  | dict fields => shortIntsFields fields
  | _ => true

def shortIntsItems : List Json → Bool
  | [] => true
  | item :: items => item.shortInts && shortIntsItems items

def shortIntsFields : List (String × Json) → Bool
  | [] => true
  | (_, value) :: fields => value.shortInts && shortIntsFields fields

end

/-- `json.dumps(value, indent=indent)`, or the text of its `ValueError`. -/
def dumps (indent : Option Nat) (value : Json) : Except String String :=
  if value.shortInts then .ok (String.ofList (write indent 0 value))
  else
    .error (s!"Exceeds the limit ({maxStrDigits} digits) for integer string conversion; " ++
      "use sys.set_int_max_str_digits() to increase the limit")

mutual

/-- No float in it, integers that can be written, and keys that differ. -/
def plain : Json → Bool
  | float _ => false
  | int n => shortInt n
  | list items => plainItems items
  | dict fields => decide (fields.map Prod.fst).Nodup && plainFields fields
  | _ => true

def plainItems : List Json → Bool
  | [] => true
  | item :: items => item.plain && plainItems items

def plainFields : List (String × Json) → Bool
  | [] => true
  | (_, value) :: fields => value.plain && plainFields fields

end

mutual

/-- How many lists and dictionaries stand around the innermost value. -/
def depth : Json → Nat
  | list items => depthItems items + 1
  | dict fields => depthFields fields + 1
  | _ => 0

def depthItems : List Json → Nat
  | [] => 0
  | item :: items => max item.depth (depthItems items)

def depthFields : List (String × Json) → Nat
  | [] => 0
  | (_, value) :: fields => max value.depth (depthFields fields)

end

theorem plainItems_iff (items : List Json) : plainItems items = true ↔ ∀ item ∈ items, item.plain = true := by
  induction items with
  | nil => simp [plainItems]
  | cons item items ih => simp [plainItems, ih]

theorem plainFields_iff (fields : List (String × Json)) :
    plainFields fields = true ↔ ∀ field ∈ fields, field.2.plain = true := by
  induction fields with
  | nil => simp [plainFields]
  | cons field fields ih => simp [plainFields, ih]

theorem depthItems_le (items : List Json) (n : Nat) : depthItems items ≤ n ↔ ∀ item ∈ items, item.depth ≤ n := by
  induction items with
  | nil => simp [depthItems]
  | cons item items ih => simp [depthItems, ih]

theorem depthFields_le (fields : List (String × Json)) (n : Nat) :
    depthFields fields ≤ n ↔ ∀ field ∈ fields, field.2.depth ≤ n := by
  induction fields with
  | nil => simp [depthFields]
  | cons field fields ih => simp [depthFields, ih]

/-! ## Reading it again: strings -/

/-- `x` reads `value` and leaves `rest`. -/
def Reads {α : Type} {cs : List Char} (x : Except LoadsError (Scanned α cs)) (value : α) (rest : List Char) : Prop :=
  ∃ shorter, x = .ok ⟨value, rest, shorter⟩

theorem hexDigitValue_digitChar (d : Nat) (h : d < 16) : hexDigitValue (Nat.digitChar d) = some d := by
  have hall : ∀ d : Fin 16, hexDigitValue (Nat.digitChar d) = some d.val := by decide
  exact hall ⟨d, h⟩

theorem hexDigits_four (n : Nat) :
    hexDigits 4 n = [Nat.digitChar (n / 16 ^ 3 % 16), Nat.digitChar (n / 16 ^ 2 % 16),
      Nat.digitChar (n / 16 ^ 1 % 16), Nat.digitChar (n / 16 ^ 0 % 16)] := rfl

theorem hex4_digits (n : Nat) (h : n < 0x10000) :
    hex4 (Nat.digitChar (n / 16 ^ 3 % 16)) (Nat.digitChar (n / 16 ^ 2 % 16))
      (Nat.digitChar (n / 16 ^ 1 % 16)) (Nat.digitChar (n / 16 ^ 0 % 16)) = some n := by
  have hdigit (k : Nat) : hexDigitValue (Nat.digitChar (n / 16 ^ k % 16)) = some (n / 16 ^ k % 16) :=
    hexDigitValue_digitChar _ (Nat.mod_lt _ (by decide))
  simp only [hex4, List.mapM_cons, List.mapM_nil, hdigit, Option.pure_def, Option.bind_eq_bind, Option.bind_some,
    Option.map_some, ofDigits16, List.foldl_cons, List.foldl_nil, Option.some.injEq]
  omega

theorem ofCodeUnit_toNat (c : Char) : ofCodeUnit c.toNat = c := by
  have hvalid := c.valid
  unfold ofCodeUnit
  rw [if_neg, Char.ofNat_toNat]
  have : c.toNat = c.val.toNat := rfl
  simp only [UInt32.isValidChar, Nat.isValidChar] at hvalid
  omega

theorem not_surrogate (c : Char) : ¬ (0xD800 ≤ c.toNat ∧ c.toNat ≤ 0xDBFF) := by
  have hvalid := c.valid
  have : c.toNat = c.val.toNat := rfl
  simp only [UInt32.isValidChar, Nat.isValidChar] at hvalid
  omega

theorem lowSurrogate_writeUnit (n : Nat) (h : 0xDC00 ≤ n ∧ n ≤ 0xDFFF) (rest : List Char) :
    lowSurrogate (writeUnit n ++ rest) = some n := by
  simp only [writeUnit, hexDigits_four, lowSurrogate, List.cons_append, List.nil_append, and_self, if_true]
  rw [hex4_digits n (by omega)]
  simp [h]

theorem reads_escape (e c : Char) (rest : List Char) (he : e ≠ 'u') (h : escapes.lookup e = some c) :
    Reads (scanChar (backslash :: e :: rest)) (some c) rest := by
  have hbackslash : backslash ≠ quotationMark ∧ ¬ backslash.toNat < 0x20 := by decide
  simp only [scanChar, if_neg hbackslash.1, if_neg hbackslash.2, if_true, if_neg he]
  split
  · rename_i found hfound
    obtain rfl := Option.some.inj (hfound.symm.trans h)
    exact ⟨_, rfl⟩
  · rename_i hnone
    rw [h] at hnone
    cases hnone

theorem reads_unit (n : Nat) (rest : List Char) (h : n < 0x10000) (hhigh : ¬ (0xD800 ≤ n ∧ n ≤ 0xDBFF)) :
    Reads (scanChar (writeUnit n ++ rest)) (some (ofCodeUnit n)) rest := by
  have hbackslash : backslash ≠ quotationMark ∧ ¬ backslash.toNat < 0x20 := by decide
  simp only [writeUnit, hexDigits_four, List.cons_append, List.nil_append, scanChar, if_neg hbackslash.1,
    if_neg hbackslash.2, if_true, hex4_digits n h, if_neg hhigh]
  exact ⟨_, rfl⟩

theorem reads_pair (high low : Nat) (rest : List Char) (hhigh : 0xD800 ≤ high ∧ high ≤ 0xDBFF)
    (hlow : 0xDC00 ≤ low ∧ low ≤ 0xDFFF) :
    Reads (scanChar (writeUnit high ++ writeUnit low ++ rest))
      (some (Char.ofNat (0x10000 + (high - 0xD800) * 0x400 + (low - 0xDC00)))) rest := by
  have hbackslash : backslash ≠ quotationMark ∧ ¬ backslash.toNat < 0x20 := by decide
  rw [List.append_assoc]
  simp only [writeUnit, hexDigits_four high, List.cons_append, List.nil_append, scanChar, if_neg hbackslash.1,
    if_neg hbackslash.2, if_true, hex4_digits high (by omega), if_pos hhigh]
  have hunit := lowSurrogate_writeUnit low hlow rest
  simp only [writeUnit, List.cons_append, List.nil_append] at hunit
  simp only [hunit]
  exact ⟨_, rfl⟩

theorem reads_writeChar (c : Char) (rest : List Char) : Reads (scanChar (writeChar c ++ rest)) (some c) rest := by
  have hc {n : Nat} (h : c.toNat = n) : c = Char.ofNat n := by rw [← h, Char.ofNat_toNat]
  generalize hw : writeChar c = written
  unfold writeChar at hw
  split_ifs at hw with hquote h08 h0C h0A h0D h09 hplain hunit <;> subst hw
  · rcases hquote with rfl | rfl <;> exact reads_escape _ _ rest (by decide) (by decide)
  · exact hc h08 ▸ reads_escape _ _ rest (by decide) (by decide)
  · exact hc h0C ▸ reads_escape _ _ rest (by decide) (by decide)
  · exact hc h0A ▸ reads_escape _ _ rest (by decide) (by decide)
  · exact hc h0D ▸ reads_escape _ _ rest (by decide) (by decide)
  · exact hc h09 ▸ reads_escape _ _ rest (by decide) (by decide)
  · rw [not_or] at hquote
    simp only [List.cons_append, List.nil_append, scanChar, if_neg hquote.1, if_neg hquote.2,
      if_neg (Nat.not_lt.mpr hplain.1)]
    exact ⟨_, rfl⟩
  · have hread := reads_unit c.toNat rest hunit (not_surrogate c)
    rwa [ofCodeUnit_toNat] at hread
  · have hlt : c.toNat < 0x110000 := by
      have hvalid := c.valid
      have : c.toNat = c.val.toNat := rfl
      simp only [UInt32.isValidChar, Nat.isValidChar] at hvalid
      omega
    have hread := reads_pair (0xD800 + (c.toNat - 0x10000) / 0x400) (0xDC00 + (c.toNat - 0x10000) % 0x400) rest
      (by omega) (by omega)
    rwa [← hc (by omega)] at hread

theorem reads_string_body (cs rest : List Char) :
    Reads (scanString (cs.flatMap writeChar ++ quotationMark :: rest)) (String.ofList cs) rest := by
  induction cs with
  | nil =>
    rw [List.flatMap_nil, List.nil_append, scanString]
    simp only [scanChar, if_true]
    exact ⟨_, rfl⟩
  | cons c cs ih =>
    obtain ⟨_, hfirst⟩ := reads_writeChar c (cs.flatMap writeChar ++ quotationMark :: rest)
    obtain ⟨_, htail⟩ := ih
    rw [List.flatMap_cons, List.append_assoc, scanString, hfirst]
    simp only [htail]
    rw [String.ofList_cons]
    exact ⟨_, rfl⟩

/-! ## Numbers -/

/-- What stands behind a value that `dumps` writes. -/
def Delimited (rest : List Char) : Prop :=
  ∀ c, rest.head? = some c → c = ',' ∨ c = ']' ∨ c = closeBrace ∨ c = newline

theorem delimited_facts (rest : List Char) (h : Delimited rest) :
    rest.takeWhile isAsciiDigit = [] ∧ fraction rest = [] ∧ exponent rest = [] := by
  cases rest with
  | nil => exact ⟨rfl, rfl, rfl⟩
  | cons c rest =>
    have hc : isAsciiDigit c = false ∧ c ≠ '.' ∧ c ≠ 'e' ∧ c ≠ 'E' := by
      rcases h c rfl with rfl | rfl | rfl | rfl <;> decide
    refine ⟨List.takeWhile_cons_of_neg (by simp [hc.1]), ?_, ?_⟩
    · unfold fraction
      split
      · rename_i heq
        exact absurd (List.cons.inj heq).1 hc.2.1
      · rfl
    · unfold exponent
      simp [hc.2.2]

theorem isAsciiDigit_eq (c : Char) : isAsciiDigit c = c.isDigit := rfl

theorem toDigits_head (n : Nat) (h : (Nat.toDigits 10 n).head? = some '0') : Nat.toDigits 10 n = ['0'] := by
  induction n using Nat.strong_induction_on with
  | _ n ih =>
    rcases Nat.lt_or_ge n 10 with hn | hn
    · rw [Nat.toDigits_of_lt_base hn] at h ⊢
      exact congrArg (fun c => [c]) (Option.some.inj h)
    · exfalso
      rw [Nat.toDigits_of_base_le (by decide) hn, List.head?_append_of_ne_nil _ Nat.toDigits_ne_nil] at h
      have hzero := ih (n / 10) (by omega) h
      have hvalue := congrArg (Nat.ofDigitChars 10 · 0) hzero
      simp only [Nat.ofDigitChars_ten_toDigits] at hvalue
      have : Nat.ofDigitChars 10 ['0'] 0 = 0 := rfl
      omega

theorem integerPart_digits (digits rest : List Char) (hdigits : ∀ c ∈ digits, c.isDigit) (hne : digits ≠ [])
    (hzero : digits.head? = some '0' → digits = ['0']) (hrest : rest.takeWhile isAsciiDigit = []) :
    integerPart (digits ++ rest) = digits := by
  unfold integerPart
  rw [List.head?_append_of_ne_nil _ hne]
  split_ifs with h
  · exact (hzero h).symm
  · have hascii : ∀ c ∈ digits, isAsciiDigit c = true := fun c hc => (isAsciiDigit_eq c).trans (hdigits c hc)
    rw [List.takeWhile_append_of_pos hascii, hrest, List.append_nil]

theorem reads_number (py : Interpreter) (sign digits rest : List Char) (n : Int) (hsign : sign = [] ∨ sign = ['-'])
    (hdigits : ∀ c ∈ digits, c.isDigit) (hne : digits ≠ []) (hzero : digits.head? = some '0' → digits = ['0'])
    (hrest : Delimited rest) (hint : parseInt (String.ofList (sign ++ digits)) = .ok n) :
    Reads (scanNumber py (sign ++ digits ++ rest)) (.int n) rest := by
  obtain ⟨htake, hfraction, hexponent⟩ := delimited_facts rest hrest
  have hminus : ((sign ++ digits ++ rest).take 1).filter (· = '-') = sign := by
    rcases hsign with rfl | rfl
    · obtain ⟨d, ds, rfl⟩ := List.exists_cons_of_ne_nil hne
      have hd := (decimal_facts d (hdigits d (by simp))).2.2.2.1
      simp [hd]
    · simp
  have hinteger : integerPart ((sign ++ digits ++ rest).drop sign.length) = digits := by
    rw [List.append_assoc, List.drop_left]
    exact integerPart_digits digits rest hdigits hne hzero htake
  have hbehind : (sign ++ digits ++ rest).drop (sign ++ digits).length = rest := List.drop_left
  have hcs : ¬ (digits = [] ∨ sign ++ digits ++ rest = []) := by simp [hne]
  unfold scanNumber
  simp only [hminus, hinteger, hbehind, hfraction, List.append_nil, hexponent, dif_neg hcs, and_self, if_true]
  split
  · rename_i text herror
    rw [hint] at herror
    cases herror
  · rename_i m hm
    obtain rfl := Except.ok.inj (hint.symm.trans hm)
    exact ⟨_, rfl⟩

theorem constants_of_digit (sign cs : List Char) (d : Char) (hsign : sign = [] ∨ sign = ['-']) (hd : d.isDigit) :
    constants.find? (fun k => k.1.toList <+: sign ++ d :: cs) = none := by
  have hne : ∀ c ∈ ['n', 't', 'f', 'N', 'I', '-'], c ≠ d := by
    rintro c hc rfl
    simp only [List.mem_cons, List.not_mem_nil, or_false] at hc
    rcases hc with rfl | rfl | rfl | rfl | rfl | rfl <;> exact absurd hd (by decide)
  simp only [List.forall_mem_cons, List.not_mem_nil, false_imp_iff, implies_true, and_true] at hne
  rw [List.find?_eq_none]
  intro k hk
  simp only [constants, List.mem_cons, List.not_mem_nil, or_false] at hk
  rcases hsign with rfl | rfl <;> rcases hk with rfl | rfl | rfl | rfl | rfl | rfl <;>
    simp [List.cons_prefix_cons, hne]

theorem reads_int (py : Interpreter) (n : Int) (rest : List Char) (hshort : shortInt n = true)
    (hrest : Delimited rest) : Reads (scanScalar py ((toString n).toList ++ rest)) (.int n) rest := by
  have hlength : (Nat.toDigits 10 n.natAbs).length ≤ maxStrDigits := by simpa [shortInt] using hshort
  have hdigits : ∀ c ∈ Nat.toDigits 10 n.natAbs, c.isDigit :=
    fun c hc => Nat.isDigit_of_mem_toDigits (by decide) (by decide) hc
  have hsign : (if n < 0 then ['-'] else []) = [] ∨ (if n < 0 then ['-'] else []) = ['-'] := by
    split_ifs
    · exact .inr rfl
    · exact .inl rfl
  have hint := parseInt_toString_int n hlength
  rw [toString_int] at hint
  have hread := reads_number py _ _ rest n hsign hdigits Nat.toDigits_ne_nil (toDigits_head n.natAbs) hrest hint
  rw [toString_int, String.toList_ofList]
  have hconstants : constants.find? (fun k => k.1.toList <+:
      (if n < 0 then ['-'] else []) ++ Nat.toDigits 10 n.natAbs ++ rest) = none := by
    obtain ⟨d, ds, hds⟩ := List.exists_cons_of_ne_nil (Nat.toDigits_ne_nil (b := 10) (n := n.natAbs))
    rw [hds, List.append_assoc, List.cons_append]
    exact constants_of_digit _ _ d hsign (hdigits d (by simp [hds]))
  unfold scanScalar
  split
  · rename_i k hk
    rw [hconstants] at hk
    cases hk
  · exact hread

/-! ## Values -/

def isSpace (c : Char) : Bool := c ∈ [' ', Char.ofNat 0x09, Char.ofNat 0x0A, Char.ofNat 0x0D]

theorem skipSpace_self {c : Char} (cs : List Char) (hc : isSpace c = false) : skipSpace (c :: cs) = c :: cs :=
  List.dropWhile_cons_of_neg (by simpa [isSpace] using hc)

theorem skipSpace_lineBreak (indent : Option Nat) (level : Nat) (c : Char) (cs : List Char)
    (hc : isSpace c = false) : skipSpace (lineBreak indent level ++ c :: cs) = c :: cs := by
  have hstop := skipSpace_self cs hc
  cases indent with
  | none => exact hstop
  | some n =>
    unfold lineBreak skipSpace
    rw [List.cons_append, List.dropWhile_cons_of_pos (by decide), List.dropWhile_append_of_pos]
    · exact hstop
    · intro d hd
      rw [List.eq_of_mem_replicate hd]
      decide

theorem expect_some {c : Char} {cs rest : List Char} (h : skipSpace cs = c :: rest) :
    ∃ shorter, expect c cs = some ⟨(), rest, shorter⟩ := by
  have shorter : rest.length < cs.length := by
    have hlength := skipSpace_length cs
    rw [h, List.length_cons] at hlength
    omega
  unfold expect
  split
  · rename_i hnil
    rw [h] at hnil
    cases hnil
  · rename_i d rest' hcons
    obtain ⟨rfl, rfl⟩ := List.cons.inj (h.symm.trans hcons)
    exact ⟨shorter, if_pos rfl⟩

theorem expect_other {c d : Char} {cs rest : List Char} (h : skipSpace cs = d :: rest) (hne : d ≠ c) :
    expect c cs = none := by
  unfold expect
  split
  · rfl
  · rename_i d' rest' hcons
    obtain ⟨rfl, rfl⟩ := List.cons.inj (h.symm.trans hcons)
    exact if_neg hne

theorem write_front (indent : Option Nat) (level : Nat) (v : Json) (hplain : v.plain = true) :
    ∃ c cs, write indent level v = c :: cs ∧ isSpace c = false ∧ c ≠ ']' ∧ c ≠ closeBrace := by
  cases v with
  | null => exact ⟨'n', _, rfl, by decide⟩
  | bool b => cases b <;> exact ⟨_, _, rfl, by decide⟩
  | int n =>
    obtain ⟨d, ds, hds⟩ := List.exists_cons_of_ne_nil (Nat.toDigits_ne_nil (b := 10) (n := n.natAbs))
    have hd : d.isDigit := Nat.isDigit_of_mem_toDigits (by decide) (by decide) (hds ▸ List.mem_cons_self)
    unfold write
    rw [toString_int, String.toList_ofList, hds]
    split_ifs
    · exact ⟨'-', _, rfl, by decide⟩
    · refine ⟨d, ds, rfl, ?_⟩
      have hne : ∀ c ∈ [' ', Char.ofNat 0x09, Char.ofNat 0x0A, Char.ofNat 0x0D, ']', closeBrace], d ≠ c := by
        rintro c hc rfl
        simp only [List.mem_cons, List.not_mem_nil, or_false] at hc
        rcases hc with rfl | rfl | rfl | rfl | rfl | rfl <;> exact absurd hd (by decide)
      simp only [List.forall_mem_cons, List.not_mem_nil, false_imp_iff, implies_true, and_true] at hne
      simp [isSpace, hne]
  | float repr => cases hplain
  | str s => exact ⟨quotationMark, _, rfl, by decide⟩
  | list items => cases items <;> exact ⟨'[', _, rfl, by decide⟩
  | dict fields => cases fields <;> exact ⟨openBrace, _, rfl, by decide⟩

/-! ### Lists and dictionaries -/

def ReadsBack (py : Interpreter) (indent : Option Nat) (depth : Nat) (v : Json) : Prop :=
  ∀ level rest, Delimited rest → Reads (scanOnce py depth (write indent level v ++ rest)) v rest

theorem delimited_lineBreak (indent : Option Nat) (level : Nat) (c : Char) (rest : List Char)
    (hc : c = ',' ∨ c = ']' ∨ c = closeBrace) : Delimited (lineBreak indent level ++ c :: rest) := by
  intro d hd
  cases indent with
  | none =>
    obtain rfl := Option.some.inj hd
    rcases hc with rfl | rfl | rfl <;> decide
  | some n =>
    obtain rfl := Option.some.inj hd
    decide

theorem expect_separator (indent : Option Nat) (level : Nat) {c : Char} {cs more : List Char} (hmore : more = c :: cs)
    (hc : isSpace c = false) :
    let text := itemSeparator indent ++ (lineBreak indent level ++ more)
    Delimited text ∧ (∀ d, d ≠ ',' → expect d text = none) ∧
      ∃ behind shorter, expect ',' text = some ⟨(), behind, shorter⟩ ∧ skipSpace behind = more := by
  subst hmore
  have hself (rest : List Char) : skipSpace (',' :: rest) = ',' :: rest := skipSpace_self rest (by decide)
  have hbreak := skipSpace_lineBreak indent level c cs hc
  cases indent with
  | none =>
    obtain ⟨shorter, hcomma⟩ := expect_some (hself (' ' :: c :: cs))
    refine ⟨delimited_lineBreak none 0 ',' _ (.inl rfl), fun d hd => expect_other (hself _) hd.symm, _, shorter,
      hcomma, ?_⟩
    exact (List.dropWhile_cons_of_pos (by decide)).trans hbreak
  | some n =>
    obtain ⟨shorter, hcomma⟩ := expect_some (hself (lineBreak (some n) level ++ c :: cs))
    exact ⟨delimited_lineBreak none 0 ',' _ (.inl rfl), fun d hd => expect_other (hself _) hd.symm, _, shorter,
      hcomma, hbreak⟩

theorem expect_colon {c : Char} {cs more : List Char} (hmore : more = c :: cs) (hc : isSpace c = false) :
    ∃ behind shorter, expect ':' (':' :: ' ' :: more) = some ⟨(), behind, shorter⟩ ∧ skipSpace behind = more := by
  subst hmore
  obtain ⟨shorter, hcolon⟩ := expect_some (skipSpace_self (c := ':') (' ' :: c :: cs) (by decide))
  exact ⟨_, shorter, hcolon, (List.dropWhile_cons_of_pos (by decide)).trans (skipSpace_self cs hc)⟩

section Items

variable {py : Interpreter} {indent : Option Nat} {depth : Nat}

theorem reads_items (level outer : Nat) (item : Json) (items : List Json) (rest : List Char) (before : List Json)
    (hread : ∀ v ∈ item :: items, ReadsBack py indent depth v) (hplain : ∀ v ∈ item :: items, v.plain = true) :
    Reads (scanItems py depth (write indent level item ++
      (writeItems indent level items ++ (lineBreak indent outer ++ ']' :: rest))) before)
      (before ++ item :: items) rest := by
  induction items generalizing item before with
  | nil =>
    obtain ⟨_, hitem⟩ := hread item (by simp) level (lineBreak indent outer ++ ']' :: rest)
      (delimited_lineBreak _ _ _ _ (by decide))
    obtain ⟨_, hdone⟩ := expect_some (skipSpace_lineBreak indent outer ']' rest (by decide))
    rw [writeItems, List.nil_append, scanItems, hitem]
    simp only [hdone]
    exact ⟨_, rfl⟩
  | cons next items ih =>
    have hitems := ih next (before ++ [item]) (fun v hv => hread v (List.mem_cons_of_mem _ hv))
      (fun v hv => hplain v (List.mem_cons_of_mem _ hv))
    obtain ⟨c, cs, hfront, hspace, hbracket, _⟩ := write_front indent level next (hplain next (by simp))
    have hmore : write indent level next ++ (writeItems indent level items ++ (lineBreak indent outer ++ ']' :: rest)) =
        c :: (cs ++ (writeItems indent level items ++ (lineBreak indent outer ++ ']' :: rest))) := by
      rw [hfront, List.cons_append]
    obtain ⟨hdelimited, hother, behind, _, hcomma, hskip⟩ := expect_separator indent level hmore hspace
    rw [← hskip] at hitems
    obtain ⟨_, hitems⟩ := hitems
    obtain ⟨_, hitem⟩ := hread item (by simp) level _ hdelimited
    have hhead : (skipSpace behind).head? ≠ some ']' := by
      rw [hskip, hmore]
      simpa using hbracket
    rw [writeItems, List.append_assoc, List.append_assoc, List.append_assoc, scanItems, hitem]
    simp only [hother ']' (by decide), hcomma, if_neg hhead, hitems]
    rw [List.append_assoc, List.singleton_append]
    exact ⟨_, rfl⟩

theorem setField_of_notMem (fields : List (String × Json)) (key : String) (value : Json)
    (h : key ∉ fields.map Prod.fst) : setField fields key value = fields ++ [(key, value)] := by
  induction fields with
  | nil => rfl
  | cons field fields ih =>
    rw [List.map_cons, List.mem_cons, not_or] at h
    unfold setField
    rw [if_neg (Ne.symm h.1), ih h.2, List.cons_append]

theorem reads_field (level : Nat) (key : String) (value : Json) (rest : List Char)
    (hread : ReadsBack py indent depth value) (hplain : value.plain = true) (hrest : Delimited rest) :
    ∃ behind, (∃ h, scanString (key.toList.flatMap writeChar ++ quotationMark :: ':' :: ' ' ::
        (write indent level value ++ rest)) = .ok ⟨key, ':' :: ' ' :: (write indent level value ++ rest), h⟩) ∧
      (∃ h, expect ':' (':' :: ' ' :: (write indent level value ++ rest)) = some ⟨(), behind, h⟩) ∧
      Reads (scanOnce py depth (skipSpace behind)) value rest := by
  obtain ⟨c, cs, hfront, hspace, _⟩ := write_front indent level value hplain
  have hmore : write indent level value ++ rest = c :: (cs ++ rest) := by rw [hfront, List.cons_append]
  obtain ⟨behind, hshorter, hcolon, hskip⟩ := expect_colon hmore hspace
  have hkey := reads_string_body key.toList (':' :: ' ' :: (write indent level value ++ rest))
  rw [String.ofList_toList] at hkey
  exact ⟨behind, hkey, ⟨hshorter, hcolon⟩, hskip ▸ hread level rest hrest⟩

theorem reads_fields_last (level : Nat) (key : String) (value : Json) {after rest : List Char}
    (before : List (String × Json)) (hread : ReadsBack py indent depth value) (hplain : value.plain = true)
    (hafter : Delimited after) (hdone : ∃ h, expect closeBrace after = some ⟨(), rest, h⟩) :
    Reads (scanFields py depth (writeString key ++ ([':', ' '] ++ (write indent level value ++ after))) before)
      (setField before key value) rest := by
  obtain ⟨behind, ⟨_, hkey⟩, ⟨_, hcolon⟩, _, hvalue⟩ := reads_field level key value after hread hplain hafter
  obtain ⟨_, hdone⟩ := hdone
  rw [writeString, List.cons_append, List.append_assoc, List.singleton_append, scanFields]
  simp only [ne_eq, not_true, if_false, List.cons_append, List.nil_append, hkey, hcolon, hvalue, hdone]
  exact ⟨_, rfl⟩

theorem reads_fields_more (level : Nat) (key : String) (value : Json) {after behindComma rest : List Char}
    (before all : List (String × Json)) (hread : ReadsBack py indent depth value) (hplain : value.plain = true)
    (hafter : Delimited after) (hmore : expect closeBrace after = none)
    (hcomma : ∃ h, expect ',' after = some ⟨(), behindComma, h⟩)
    (hhead : (skipSpace behindComma).head? ≠ some closeBrace)
    (hall : Reads (scanFields py depth (skipSpace behindComma) (setField before key value)) all rest) :
    Reads (scanFields py depth (writeString key ++ ([':', ' '] ++ (write indent level value ++ after))) before)
      all rest := by
  obtain ⟨behind, ⟨_, hkey⟩, ⟨_, hcolon⟩, _, hvalue⟩ := reads_field level key value after hread hplain hafter
  obtain ⟨_, hcomma⟩ := hcomma
  obtain ⟨_, hall⟩ := hall
  rw [writeString, List.cons_append, List.append_assoc, List.singleton_append, scanFields]
  simp only [ne_eq, not_true, if_false, List.cons_append, List.nil_append, hkey, hcolon, hvalue, hmore, hcomma,
    if_neg hhead, hall]
  exact ⟨_, rfl⟩

theorem reads_fields (level outer : Nat) (key : String) (value : Json) (fields : List (String × Json))
    (rest : List Char) (before : List (String × Json))
    (hread : ∀ f ∈ (key, value) :: fields, ReadsBack py indent depth f.2)
    (hplain : ∀ f ∈ (key, value) :: fields, f.2.plain = true)
    (hkeys : ((before ++ (key, value) :: fields).map Prod.fst).Nodup) :
    Reads (scanFields py depth (writeString key ++ ([':', ' '] ++ (write indent level value ++
      (writeFields indent level fields ++ (lineBreak indent outer ++ closeBrace :: rest))))) before)
      (before ++ (key, value) :: fields) rest := by
  have hnew {key : String} {value : Json} {before fields : List (String × Json)}
      (h : ((before ++ (key, value) :: fields).map Prod.fst).Nodup) :
      setField before key value = before ++ [(key, value)] := by
    rw [List.map_append, List.map_cons, List.nodup_append] at h
    exact setField_of_notMem before key value fun hmem => h.2.2 key hmem key (by simp) rfl
  induction fields generalizing key value before with
  | nil =>
    rw [writeFields, List.nil_append, ← hnew hkeys]
    exact reads_fields_last level key value before (hread (key, value) (by simp)) (hplain (key, value) (by simp))
      (delimited_lineBreak _ _ _ _ (by decide))
      (expect_some (skipSpace_lineBreak indent outer closeBrace rest (by decide)))
  | cons next fields ih =>
    obtain ⟨nextKey, nextValue⟩ := next
    have hfields := ih nextKey nextValue (before ++ [(key, value)]) (fun f hf => hread f (List.mem_cons_of_mem _ hf))
      (fun f hf => hplain f (List.mem_cons_of_mem _ hf)) (by rwa [List.append_assoc, List.singleton_append])
    have hmore : writeString nextKey ++ ([':', ' '] ++ (write indent level nextValue ++
        (writeFields indent level fields ++ (lineBreak indent outer ++ closeBrace :: rest)))) =
          quotationMark :: _ := rfl
    obtain ⟨hdelimited, hother, behindComma, hshorter, hcomma, hskip⟩ := expect_separator indent level hmore (by decide)
    have hhead : (skipSpace behindComma).head? ≠ some closeBrace := by
      rw [hskip]
      exact fun h => absurd (Option.some.inj h) (by decide)
    have hall : before ++ (key, value) :: (nextKey, nextValue) :: fields =
        setField before key value ++ (nextKey, nextValue) :: fields := by
      rw [hnew hkeys, List.append_assoc, List.singleton_append]
    rw [← hskip, ← hnew hkeys] at hfields
    rw [hall, writeFields, List.append_assoc, List.append_assoc, List.append_assoc, List.append_assoc,
      List.append_assoc]
    exact reads_fields_more level key value before _ (hread (key, value) (by simp)) (hplain (key, value) (by simp))
      hdelimited (hother closeBrace (by decide)) ⟨hshorter, hcomma⟩ hhead hfields

end Items

theorem scanOnce_scalar (py : Interpreter) (depth : Nat) (c : Char) (cs : List Char) (hquote : c ≠ quotationMark)
    (hopen : c ≠ openBrace ∧ c ≠ '[') : scanOnce py depth (c :: cs) = scanScalar py (c :: cs) := by
  rw [scanOnce, if_neg hquote, if_neg (not_or.mpr hopen)]

theorem reads_constant (py : Interpreter) (k : String × Json) (cs : List Char)
    (hk : constants.find? (fun k => k.1.toList <+: cs) = some k) :
    Reads (scanScalar py cs) k.2 (cs.drop k.1.toList.length) := by
  unfold scanScalar
  split
  · rename_i k' hk'
    obtain rfl := Option.some.inj (hk.symm.trans hk')
    exact ⟨_, rfl⟩
  · rename_i hnone
    rw [hk] at hnone
    cases hnone

theorem reads_string (py : Interpreter) (depth : Nat) (s : String) (rest : List Char) :
    Reads (scanOnce py depth (writeString s ++ rest)) (.str s) rest := by
  obtain ⟨_, hbody⟩ := reads_string_body s.toList rest
  rw [writeString, List.cons_append, List.append_assoc, List.singleton_append, scanOnce, if_pos rfl, hbody,
    String.ofList_toList]
  exact ⟨_, rfl⟩

theorem int_front (n : Int) :
    ∃ c cs, (toString n).toList = c :: cs ∧ c ≠ quotationMark ∧ c ≠ openBrace ∧ c ≠ '[' := by
  obtain ⟨d, ds, hds⟩ := List.exists_cons_of_ne_nil (Nat.toDigits_ne_nil (b := 10) (n := n.natAbs))
  have hd : d.isDigit := Nat.isDigit_of_mem_toDigits (by decide) (by decide) (hds ▸ List.mem_cons_self)
  rw [toString_int, String.toList_ofList, hds]
  split_ifs
  · exact ⟨'-', _, rfl, by decide⟩
  · refine ⟨d, ds, rfl, ?_, ?_, ?_⟩ <;> rintro rfl <;> exact absurd hd (by decide)

theorem reads_scalar (py : Interpreter) (indent : Option Nat) (depth : Nat) (v : Json) (hplain : v.plain = true)
    (hscalar : v.depth = 0) : ReadsBack py indent depth v := by
  intro level rest hrest
  have hopen : ∀ c ∈ ['n', 't', 'f', '-'], c ≠ quotationMark ∧ c ≠ openBrace ∧ c ≠ '[' := by
    simp only [List.forall_mem_cons, List.not_mem_nil, false_imp_iff, implies_true, and_true]
    decide
  cases v with
  | null =>
    show Reads (scanOnce py depth ('n' :: _)) _ _
    rw [scanOnce_scalar py depth 'n' _ (hopen 'n' (by simp)).1 (hopen 'n' (by simp)).2]
    exact reads_constant py ("null", .null) ("null".toList ++ rest) (by simp [constants])
  | bool b =>
    cases b
    · show Reads (scanOnce py depth ('f' :: _)) _ _
      rw [scanOnce_scalar py depth 'f' _ (hopen 'f' (by simp)).1 (hopen 'f' (by simp)).2]
      exact reads_constant py ("false", .bool false) ("false".toList ++ rest) (by simp [constants])
    · show Reads (scanOnce py depth ('t' :: _)) _ _
      rw [scanOnce_scalar py depth 't' _ (hopen 't' (by simp)).1 (hopen 't' (by simp)).2]
      exact reads_constant py ("true", .bool true) ("true".toList ++ rest) (by simp [constants])
  | int n =>
    have hread := reads_int py n rest hplain hrest
    obtain ⟨c, cs, hfront, hc⟩ := int_front n
    show Reads (scanOnce py depth ((toString n).toList ++ rest)) _ _
    rw [hfront, List.cons_append] at hread ⊢
    rwa [scanOnce_scalar py depth c _ hc.1 hc.2]
  | float repr => cases hplain
  | str s => exact reads_string py depth s rest
  | list items => cases hscalar
  | dict fields => cases hscalar

section Items

variable {py : Interpreter} {indent : Option Nat} {depth : Nat}

theorem reads_list (items : List Json) (hread : ∀ v ∈ items, ReadsBack py indent depth v)
    (hplain : ∀ v ∈ items, v.plain = true) : ReadsBack py indent (depth + 1) (.list items) := by
  intro level rest hrest
  have hbracket : '[' ≠ quotationMark ∧ '[' ≠ openBrace := by decide
  cases items with
  | nil =>
    obtain ⟨_, hdone⟩ := expect_some (skipSpace_self (c := ']') rest (by decide))
    rw [write, List.cons_append, List.singleton_append, scanOnce]
    simp only [if_neg hbracket.1, if_neg hbracket.2, or_true, if_true, hdone]
    exact ⟨_, rfl⟩
  | cons item items =>
    obtain ⟨c, cs, hfront, hspace, hclose, _⟩ := write_front indent (level + 1) item (hplain item (by simp))
    have hitems := reads_items (level + 1) level item items rest [] hread hplain
    have hmore : write indent (level + 1) item ++ (writeItems indent (level + 1) items ++
        (lineBreak indent level ++ ']' :: rest)) = c :: (cs ++ (writeItems indent (level + 1) items ++
        (lineBreak indent level ++ ']' :: rest))) := by
      rw [hfront, List.cons_append]
    have hskip := skipSpace_lineBreak indent (level + 1) c (cs ++ (writeItems indent (level + 1) items ++
      (lineBreak indent level ++ ']' :: rest))) hspace
    have hnone := expect_other hskip hclose
    rw [← hmore] at hskip hnone
    rw [← hskip] at hitems
    obtain ⟨_, hitems⟩ := hitems
    rw [write, List.cons_append, List.append_assoc, List.append_assoc, List.append_assoc, List.append_assoc,
      List.singleton_append, scanOnce]
    simp only [if_neg hbracket.1, if_neg hbracket.2, or_true, if_true, hnone, hitems]
    exact ⟨_, rfl⟩

theorem reads_dict (fields : List (String × Json)) (hread : ∀ f ∈ fields, ReadsBack py indent depth f.2)
    (hplain : ∀ f ∈ fields, f.2.plain = true) (hkeys : (fields.map Prod.fst).Nodup) :
    ReadsBack py indent (depth + 1) (.dict fields) := by
  intro level rest hrest
  have hbrace : openBrace ≠ quotationMark := by decide
  cases fields with
  | nil =>
    obtain ⟨_, hdone⟩ := expect_some (skipSpace_self (c := closeBrace) rest (by decide))
    rw [write, List.cons_append, List.singleton_append, scanOnce]
    simp only [if_neg hbrace, true_or, if_true, hdone]
    exact ⟨_, rfl⟩
  | cons field fields =>
    obtain ⟨key, value⟩ := field
    have hfields := reads_fields (level + 1) level key value fields rest [] hread hplain hkeys
    have hskip := skipSpace_lineBreak indent (level + 1) quotationMark ((key.toList.flatMap writeChar ++
      [quotationMark]) ++ ([':', ' '] ++ (write indent (level + 1) value ++ (writeFields indent (level + 1) fields ++
      (lineBreak indent level ++ closeBrace :: rest))))) (by decide)
    have hnone := expect_other (c := closeBrace) hskip (by decide)
    rw [← List.cons_append, ← writeString] at hskip hnone
    rw [← hskip] at hfields
    obtain ⟨_, hfields⟩ := hfields
    rw [write, List.cons_append, List.append_assoc, List.append_assoc, List.append_assoc, List.append_assoc,
      List.append_assoc, List.append_assoc, List.singleton_append, scanOnce]
    simp only [if_neg hbrace, true_or, if_true, hnone, hfields]
    exact ⟨_, rfl⟩

end Items

theorem reads_value (py : Interpreter) (indent : Option Nat) (depth : Nat) (v : Json) (hplain : v.plain = true)
    (hdepth : v.depth ≤ depth) : ReadsBack py indent depth v := by
  by_cases hscalar : v.depth = 0
  · exact reads_scalar py indent depth v hplain hscalar
  induction depth generalizing v with
  | zero => exact absurd (Nat.le_zero.mp hdepth) hscalar
  | succ depth ih =>
    have hinner (w : Json) (hw : w.plain = true) (hdepth : w.depth ≤ depth) : ReadsBack py indent depth w := by
      by_cases hscalar : w.depth = 0
      · exact reads_scalar py indent depth w hw hscalar
      · exact ih w hw hdepth hscalar
    cases v with
    | list items =>
      have hitems := (plainItems_iff items).mp hplain
      exact reads_list items (fun w hw => hinner w (hitems w hw)
        ((depthItems_le items depth).mp (Nat.le_of_succ_le_succ hdepth) w hw)) hitems
    | dict fields =>
      unfold plain at hplain
      rw [Bool.and_eq_true, decide_eq_true_iff] at hplain
      have hfields := (plainFields_iff fields).mp hplain.2
      exact reads_dict fields (fun f hf => hinner f.2 (hfields f hf)
        ((depthFields_le fields depth).mp (Nat.le_of_succ_le_succ hdepth) f hf)) hfields hplain.1
    | _ => exact absurd rfl hscalar

/-! ## The text -/

def isAsciiText (c : Char) : Bool := c = newline || 0x20 ≤ c.toNat && c.toNat ≤ 0x7E

theorem hexDigits_ascii (n : Nat) : (hexDigits 4 n).all isAsciiText = true := by
  have hdigit : ∀ d : Fin 16, isAsciiText (Nat.digitChar d) = true := by decide
  have hk (k : Nat) : isAsciiText (Nat.digitChar (n / 16 ^ k % 16)) = true :=
    hdigit ⟨n / 16 ^ k % 16, Nat.mod_lt _ (by decide)⟩
  simp only [hexDigits_four, List.all_cons, List.all_nil, hk, Bool.and_self]

theorem writeUnit_ascii (n : Nat) : (writeUnit n).all isAsciiText = true := by
  rw [writeUnit, List.all_append, hexDigits_ascii, Bool.and_true]
  decide

theorem writeChar_ascii (c : Char) : (writeChar c).all isAsciiText = true := by
  unfold writeChar
  split_ifs with hquote _ _ _ _ _ hplain
  · rcases hquote with rfl | rfl <;> decide
  all_goals try decide
  · simp [isAsciiText, hplain]
  · exact writeUnit_ascii _
  · rw [List.all_append, writeUnit_ascii, writeUnit_ascii, Bool.and_self]

theorem writeString_ascii (s : String) : (writeString s).all isAsciiText = true := by
  have hbody : (s.toList.flatMap writeChar).all isAsciiText = true := by
    rw [List.all_flatMap, List.all_eq_true]
    exact fun c _ => writeChar_ascii c
  rw [writeString, List.all_cons, List.all_append, hbody]
  decide

theorem lineBreak_ascii (indent : Option Nat) (level : Nat) : (lineBreak indent level).all isAsciiText = true := by
  cases indent with
  | none => rfl
  | some n =>
    rw [lineBreak, List.all_cons, List.all_replicate]
    split_ifs <;> decide

theorem itemSeparator_ascii (indent : Option Nat) : (itemSeparator indent).all isAsciiText = true := by
  cases indent <;> rfl

theorem int_ascii (n : Int) : (toString n).toList.all isAsciiText = true := by
  have hdigits : (Nat.toDigits 10 n.natAbs).all isAsciiText = true := by
    rw [List.all_eq_true]
    intro c hc
    have hdigit : 48 ≤ c.toNat ∧ c.toNat ≤ 57 := by
      simpa [Char.isDigit, UInt32.le_iff_toNat_le] using Nat.isDigit_of_mem_toDigits (by decide) (by decide) hc
    simp only [isAsciiText, Bool.or_eq_true, Bool.and_eq_true, decide_eq_true_iff]
    omega
  rw [toString_int, String.toList_ofList, List.all_append, hdigits, Bool.and_true]
  split_ifs <;> decide

mutual

theorem write_ascii (indent : Option Nat) (level : Nat) (v : Json) (hplain : v.plain = true) :
    (write indent level v).all isAsciiText = true := by
  match v with
  | null => rfl
  | bool b => cases b <;> rfl
  | int n => exact int_ascii n
  | float repr => cases hplain
  | str s => exact writeString_ascii s
  | list [] => rfl
  | list (item :: items) =>
    simp only [plain, plainItems, Bool.and_eq_true] at hplain
    simp only [write, List.all_cons, List.all_append, List.all_nil, lineBreak_ascii,
      write_ascii indent (level + 1) item hplain.1, writeItems_ascii indent (level + 1) items hplain.2]
    decide
  | dict [] => rfl
  | dict ((key, value) :: fields) =>
    simp only [plain, plainFields, Bool.and_eq_true] at hplain
    simp only [write, List.all_cons, List.all_append, List.all_nil, lineBreak_ascii, writeString_ascii,
      write_ascii indent (level + 1) value hplain.2.1, writeFields_ascii indent (level + 1) fields hplain.2.2]
    decide

theorem writeItems_ascii (indent : Option Nat) (level : Nat) (items : List Json) (hplain : plainItems items = true) :
    (writeItems indent level items).all isAsciiText = true := by
  match items with
  | [] => rfl
  | item :: items =>
    simp only [plainItems, Bool.and_eq_true] at hplain
    simp only [writeItems, List.all_append, lineBreak_ascii, itemSeparator_ascii,
      write_ascii indent level item hplain.1, writeItems_ascii indent level items hplain.2, Bool.and_self]

theorem writeFields_ascii (indent : Option Nat) (level : Nat) (fields : List (String × Json))
    (hplain : plainFields fields = true) : (writeFields indent level fields).all isAsciiText = true := by
  match fields with
  | [] => rfl
  | (key, value) :: fields =>
    simp only [plainFields, Bool.and_eq_true] at hplain
    simp only [writeFields, List.all_append, lineBreak_ascii, itemSeparator_ascii, writeString_ascii,
      write_ascii indent level value hplain.1, writeFields_ascii indent level fields hplain.2]
    decide

end

/-! ## The round trip -/

mutual

theorem shortInts_of_plain (v : Json) (hplain : v.plain = true) : v.shortInts = true := by
  match v with
  | null | bool _ | str _ => rfl
  | int _ => exact hplain
  | float _ => cases hplain
  | list items => exact shortIntsItems_of_plain items hplain
  | dict fields =>
    rw [plain, Bool.and_eq_true] at hplain
    exact shortIntsFields_of_plain fields hplain.2

theorem shortIntsItems_of_plain (items : List Json) (hplain : plainItems items = true) :
    shortIntsItems items = true := by
  match items with
  | [] => rfl
  | item :: items =>
    rw [plainItems, Bool.and_eq_true] at hplain
    rw [shortIntsItems, shortInts_of_plain item hplain.1, shortIntsItems_of_plain items hplain.2, Bool.and_self]

theorem shortIntsFields_of_plain (fields : List (String × Json)) (hplain : plainFields fields = true) :
    shortIntsFields fields = true := by
  match fields with
  | [] => rfl
  | (_, value) :: fields =>
    rw [plainFields, Bool.and_eq_true] at hplain
    rw [shortIntsFields, shortInts_of_plain value hplain.1, shortIntsFields_of_plain fields hplain.2, Bool.and_self]

end

/-- **Round trip.** -/
theorem loads_dumps (py : Interpreter) (indent : Option Nat) (v : Json) (hplain : v.plain = true)
    (hdepth : v.depth ≤ py.nesting) :
    ∃ text, dumps indent v = .ok text ∧ text.toList.all isAsciiText = true ∧ loads py text = .ok v := by
  have hascii := write_ascii indent 0 v hplain
  refine ⟨String.ofList (write indent 0 v), if_pos (shortInts_of_plain v hplain), ?_, ?_⟩
  · rwa [String.toList_ofList]
  obtain ⟨c, cs, hfront, hspace, _⟩ := write_front indent 0 v hplain
  have hbom : (write indent 0 v).head? ≠ some (Char.ofNat 0xFEFF) := by
    intro h
    have := List.all_eq_true.mp hascii _ (List.mem_of_head? h)
    exact absurd this (by decide)
  have hskip : skipSpace (write indent 0 v) = write indent 0 v := by
    rw [hfront, skipSpace_self cs hspace]
  have hread := reads_value py indent py.nesting v hplain hdepth 0 [] (by simp [Delimited])
  rw [List.append_nil, ← hskip] at hread
  obtain ⟨_, hread⟩ := hread
  unfold loads
  rw [String.toList_ofList]
  simp only [if_neg hbom, hread]
  exact if_pos rfl

end TtlockBle.Lib.Json
