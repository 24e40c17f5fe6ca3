import TtlockBle.Code.KeyText
import TtlockBle.Parsers
import Mathlib.Data.List.DropRight

/-!
# Texts of an AES key

Between separators `int` takes more than digits, and what it makes of them is cut down to a byte.
-/

open TtlockBle.Lib

namespace TtlockBle.AesKeyText

open Parsers

/-! ## What a text denotes -/

/-- Hexadecimal digits only, with a value of at most `ff`. -/
def Numeral (item : List Char) (b : UInt8) : Prop :=
  item ≠ [] ∧ ∃ digits, item.mapM hexDigitValue = some digits ∧ ofDigits16 digits = b.toNat

/-- Two digits a byte. -/
inductive Spells : List Char → Bytes → Prop where
  | nil : Spells [] []
  | cons {c d b cs bytes} : Numeral [c, d] b → Spells cs bytes → Spells (c :: d :: cs) (b :: bytes)

/-- The separator, which is a comma if there is one. -/
def separator (s : List Char) : Option Char :=
  if ',' ∈ s then some ',' else if '.' ∈ s then some '.' else none

/-- What stands between the separators. Blank items do not count. -/
def items (s : List Char) (sep : Char) : List (List Char) := ((s.splitOn sep).map strip).filter (· ≠ [])

/-- The documented forms of a key. -/
def Denotes (text : String) (key : Bytes) : Prop :=
  key.length = aesKeyLen ∧
    ((strip text.toList).length = aesKeyLen * 2 ∧ Spells (strip text.toList) key ∨
      ∃ sep ∈ separator (strip text.toList), List.Forall₂ Numeral (items (strip text.toList) sep) key)

/-- Exactly the texts that denote a key are accepted, as that key. -/
def Exact (text : String) : Prop :=
  (∀ key, hexKeyToBytes text = .ok key ↔ Denotes text key) ∧
    ((∀ key, ¬ Denotes text key) → ∃ e, hexKeyToBytes text = .error e ∧ IsValueError e)

/-- Sixteen items between separators, all of which `int` takes, but not all are plain numerals. -/
def Disguised (text : String) : Prop :=
  ∃ sep ∈ separator (strip text.toList),
    (items (strip text.toList) sep).length = aesKeyLen ∧
    (∀ item ∈ items (strip text.toList) sep, (parseInt16 (String.ofList item)).isSome) ∧
    ∃ item ∈ items (strip text.toList) sep, ∀ b, ¬ Numeral item b

/-! ## Items -/

theorem numeral_parseInt16 (item : List Char) (b : UInt8) (h : Numeral item b) :
    parseInt16 (String.ofList item) = some (b.toNat : Int) := by
  obtain ⟨hne, digits, hdigits, hvalue⟩ := h
  rw [parseInt16_of_digits item digits hne hdigits, hvalue]

theorem numeral_unique (item : List Char) (b b' : UInt8) (h : Numeral item b) (h' : Numeral item b') : b = b' := by
  have := (numeral_parseInt16 item b h).symm.trans (numeral_parseInt16 item b' h')
  simp only [Option.some.injEq] at this
  apply UInt8.toNat_inj.mp
  omega

/-- An item, as the code reads it. -/
def itemByte (item : List Char) : Py UInt8 := do
  return UInt8.ofInt (← pyInt16 (String.ofList item))

theorem pyInt16_raises (s : String) : Raises IsValueError (pyInt16 s) := by
  unfold pyInt16
  split <;> simp

theorem itemByte_numeral (item : List Char) (b : UInt8) (h : Numeral item b) : itemByte item = .ok b := by
  unfold itemByte pyInt16
  rw [numeral_parseInt16 item b h]
  show (Except.ok (UInt8.ofInt (b.toNat : Int)) : Py UInt8) = .ok b
  rw [ofInt_toNat]

theorem itemByte_ok_iff (item : List Char) :
    (∃ b, itemByte item = .ok b) ↔ (parseInt16 (String.ofList item)).isSome := by
  unfold itemByte pyInt16
  cases parseInt16 (String.ofList item) with
  | none => exact ⟨fun ⟨b, h⟩ => (nomatch h), fun h => (nomatch h)⟩
  | some n => exact ⟨fun _ => rfl, fun _ => ⟨_, rfl⟩⟩

/-! ## The code, by separator -/

theorem separator_eq_none (s : List Char) : separator s = none ↔ ',' ∉ s ∧ '.' ∉ s := by
  unfold separator
  split_ifs with hcomma hdot <;> simp_all

theorem separator_mem (s : List Char) (sep : Char) (h : separator s = some sep) :
    sep ∈ s ∧ (sep = ',' ∨ sep = '.') := by
  unfold separator at h
  split_ifs at h with hcomma hdot
  · obtain rfl := Option.some.inj h
    exact ⟨hcomma, .inl rfl⟩
  · obtain rfl := Option.some.inj h
    exact ⟨hdot, .inr rfl⟩

theorem hexKeyToBytes_raises (text : String) : Raises IsValueError (hexKeyToBytes text) := by
  unfold hexKeyToBytes
  simp
  intro _ _
  exact Raises.mapM fun item _ => by simp [pyInt16_raises]

theorem hexKeyToBytes_separated (text : String) (sep : Char) (h : separator (strip text.toList) = some sep) :
    hexKeyToBytes text = (do
      let parts ← (items (strip text.toList) sep).mapM itemByte
      if parts.length ≠ aesKeyLen then
        throw (valueError s!"AES key has {parts.length} parts, expected {aesKeyLen}")
      return parts) := by
  have hne : strip text.toList ≠ [] := List.ne_nil_of_mem (separator_mem _ _ h).1
  have hsep : (',' ∈ strip text.toList ∨ '.' ∈ strip text.toList) ∧
      (if ',' ∈ strip text.toList then ',' else '.') = sep := by
    unfold separator at h
    split_ifs at h ⊢ with hcomma hdot
    · exact ⟨.inl hcomma, Option.some.inj h⟩
    · exact ⟨.inr hdot, Option.some.inj h⟩
  unfold hexKeyToBytes
  simp only [hne, hsep, if_true, if_false]
  rfl

/-! ## Without a separator -/

theorem spells_fromHex (s : List Char) (k : Nat) (hlength : s.length = 2 * k)
    (h : ∀ c ∈ s, (hexDigitValue c).isSome) : Spells s (fromHex s) ∧ (fromHex s).length = k := by
  induction s using fromHex.induct generalizing k with
  | case1 c d rest ih =>
    simp only [List.length_cons] at hlength
    obtain ⟨hrest, hk⟩ := ih (k - 1) (by omega) fun e he => h e (by simp [he])
    obtain ⟨x, hx⟩ := Option.isSome_iff_exists.mp (h c (by simp))
    obtain ⟨y, hy⟩ := Option.isSome_iff_exists.mp (h d (by simp))
    have hx16 := (hexDigitValue_facts c x hx).1
    have hy16 := (hexDigitValue_facts d y hy).1
    have hvalue : ofDigits16 ([c, d].filterMap hexDigitValue) = x * 16 + y := by simp [hx, hy, ofDigits16]
    refine ⟨.cons ⟨by simp, [x, y], by simp [hx, hy], ?_⟩ hrest, ?_⟩
    · rw [hvalue, UInt8.toNat_ofNat', Nat.mod_eq_of_lt (by omega)]
      simp [ofDigits16]
    · rw [fromHex, List.length_cons, hk]
      omega
  | case2 s hshort =>
    rcases s with _ | ⟨c, _ | ⟨d, rest⟩⟩
    · exact ⟨.nil, by simp [fromHex] at hlength ⊢; omega⟩
    · simp only [List.length_cons, List.length_nil] at hlength
      omega
    · exact (hshort c d rest rfl).elim

theorem spells_unique (s : List Char) (key key' : Bytes) (h : Spells s key) (h' : Spells s key') : key = key' := by
  induction h generalizing key' with
  | nil =>
    cases h'
    rfl
  | cons hnumeral _ ih =>
    cases h' with
    | cons hnumeral' hrest => rw [numeral_unique _ _ _ hnumeral hnumeral', ih _ hrest]

theorem numeral_digit (item : List Char) (b : UInt8) (h : Numeral item b) :
    ∀ c ∈ item, (hexDigitValue c).isSome := by
  obtain ⟨-, digits, hdigits, -⟩ := h
  intro c hc
  obtain ⟨d, -, hd⟩ := exists_hexDigitValue hdigits c hc
  rw [hd]
  rfl

theorem spells_digits (s : List Char) (key : Bytes) (h : Spells s key) : ∀ c ∈ s, (hexDigitValue c).isSome := by
  induction h with
  | nil => simp
  | @cons c d b cs bytes hnumeral _ ih =>
    intro e he
    rcases List.mem_append.mp (show e ∈ [c, d] ++ cs from he) with he | he
    · exact numeral_digit _ _ hnumeral e he
    · exact ih e he

theorem spells_length (s : List Char) (key : Bytes) (h : Spells s key) : s.length = 2 * key.length := by
  induction h with
  | nil => rfl
  | cons _ _ ih =>
    simp only [List.length_cons, ih]
    omega

theorem hexKeyToBytes_plain (text : String) (h : separator (strip text.toList) = none) (key : Bytes) :
    hexKeyToBytes text = .ok key ↔ (strip text.toList).length = aesKeyLen * 2 ∧ Spells (strip text.toList) key := by
  have hsep : ¬ (',' ∈ strip text.toList ∨ '.' ∈ strip text.toList) := not_or.mpr ((separator_eq_none _).mp h)
  unfold hexKeyToBytes
  simp only [hsep, if_false]
  by_cases hne : strip text.toList = []
  · rw [if_pos hne, hne]
    constructor
    · intro hkey
      cases hkey
    · rintro ⟨hlength, -⟩
      cases hlength
  rw [if_neg hne]
  by_cases hdigits : (strip text.toList).length = aesKeyLen * 2 ∧
      (strip text.toList).all fun c => (hexDigitValue c).isSome
  · have hspells := (spells_fromHex _ 16 hdigits.1 (List.all_eq_true.mp hdigits.2)).1
    rw [if_pos hdigits]
    constructor
    · intro hkey
      obtain rfl := Except.ok.inj hkey
      exact ⟨hdigits.1, hspells⟩
    · rintro ⟨-, hkey⟩
      rw [spells_unique _ _ _ hkey hspells]
      rfl
  · rw [if_neg hdigits]
    constructor
    · intro hkey
      cases hkey
    · rintro ⟨hlength, hkey⟩
      exact absurd ⟨hlength, List.all_eq_true.mpr (spells_digits _ _ hkey)⟩ hdigits

/-! ## With a separator -/

theorem not_spells (s : List Char) (sep : Char) (h : separator s = some sep) (key : Bytes) : ¬ Spells s key := by
  intro hspells
  obtain ⟨hmem, hsep⟩ := separator_mem s sep h
  have := spells_digits s key hspells sep hmem
  rcases hsep with rfl | rfl <;> cases this

theorem denotes_separated (text : String) (sep : Char) (h : separator (strip text.toList) = some sep) (key : Bytes) :
    Denotes text key ↔
      key.length = aesKeyLen ∧ List.Forall₂ Numeral (items (strip text.toList) sep) key := by
  have hspells := not_spells _ sep h key
  simp [Denotes, h, hspells]

theorem exists_numerals (its : List (List Char)) (h : ∀ item ∈ its, ∃ b, Numeral item b) :
    ∃ key, List.Forall₂ Numeral its key := by
  induction its with
  | nil => exact ⟨[], .nil⟩
  | cons item its ih =>
    obtain ⟨⟨b, hb⟩, hits⟩ := List.forall_mem_cons.mp h
    obtain ⟨key, hkey⟩ := ih hits
    exact ⟨b :: key, .cons hb hkey⟩

theorem mapM_numerals (its : List (List Char)) (key : Bytes) (h : List.Forall₂ Numeral its key) :
    its.mapM itemByte = .ok key := by
  induction h with
  | nil => rfl
  | cons hnumeral _ ih =>
    rw [List.mapM_cons, itemByte_numeral _ _ hnumeral, ih]
    rfl

theorem forall₂_numerals {its : List (List Char)} {key : Bytes} (h : List.Forall₂ Numeral its key) :
    ∀ item ∈ its, ∃ b, Numeral item b := by
  induction h with
  | nil => simp
  | cons hnumeral _ ih => exact List.forall_mem_cons.mpr ⟨⟨_, hnumeral⟩, ih⟩

section Separated

variable {text : String} {sep : Char} (hsep : separator (strip text.toList) = some sep)

include hsep

theorem hexKeyToBytes_ok_iff (key : Bytes) : hexKeyToBytes text = .ok key ↔
    (items (strip text.toList) sep).mapM itemByte = .ok key ∧ key.length = aesKeyLen := by
  rw [hexKeyToBytes_separated text sep hsep]
  cases hparts : (items (strip text.toList) sep).mapM itemByte with
  | error e => simp [bind, Except.bind]
  | ok parts =>
    by_cases hlength : parts.length = aesKeyLen
    · simp [bind, Except.bind, pure, Except.pure, hlength]
      rintro rfl
      exact hlength
    · simp [bind, Except.bind, throw, throwThe, MonadExceptOf.throw, hlength]
      rintro rfl
      exact hlength

theorem ok_iff_denotes (h : ∀ item ∈ items (strip text.toList) sep, ∃ b, Numeral item b) (key : Bytes) :
    hexKeyToBytes text = .ok key ↔ Denotes text key := by
  obtain ⟨key', hkey'⟩ := exists_numerals _ h
  rw [hexKeyToBytes_ok_iff hsep, denotes_separated text sep hsep, and_comm, mapM_numerals _ _ hkey']
  refine and_congr_right fun _ => ⟨?_, ?_⟩
  · intro heq
    rwa [← Except.ok.inj heq]
  · intro hkey
    exact (mapM_numerals _ _ hkey').symm.trans (mapM_numerals _ _ hkey)

theorem accepted_iff : (∃ key, hexKeyToBytes text = .ok key) ↔
    (items (strip text.toList) sep).length = aesKeyLen ∧
      ∀ item ∈ items (strip text.toList) sep, (parseInt16 (String.ofList item)).isSome := by
  simp only [hexKeyToBytes_ok_iff hsep, ← itemByte_ok_iff, ← Raises.exists_mapM_iff]
  constructor
  · rintro ⟨key, hkey, hlength⟩
    exact ⟨(Returns.mapM_length _ _ key hkey).symm.trans hlength, key, hkey⟩
  · rintro ⟨hlength, key, hkey⟩
    exact ⟨key, hkey, (Returns.mapM_length _ _ key hkey).trans hlength⟩

end Separated

theorem exact_of_iff (text : String) (h : ∀ key, hexKeyToBytes text = .ok key ↔ Denotes text key) : Exact text := by
  refine ⟨h, fun hnone => ?_⟩
  cases hkey : hexKeyToBytes text with
  | ok key => exact absurd ((h key).mp hkey) (hnone key)
  | error e => exact ⟨e, rfl, hexKeyToBytes_raises text e hkey⟩

/-- **AES key texts.** A text is accepted as what it denotes, or else refused, unless it has sixteen
items that `int` takes and one of them is no plain numeral of a byte. -/
theorem exact_iff (text : String) : Exact text ↔ ¬ Disguised text := by
  cases hsep : separator (strip text.toList) with
  | none =>
    have hplain : ¬ Disguised text := by simp [Disguised, hsep]
    refine ⟨fun _ => hplain, fun _ => exact_of_iff text fun key => ?_⟩
    rw [hexKeyToBytes_plain text hsep, Denotes, hsep]
    simp only [Option.mem_def, reduceCtorEq, false_and, exists_false, or_false]
    refine ⟨fun h => ⟨?_, h⟩, And.right⟩
    have := spells_length _ _ h.2
    omega
  | some sep =>
    by_cases hnumerals : ∀ item ∈ items (strip text.toList) sep, ∃ b, Numeral item b
    · have hplain : ¬ Disguised text := by
        rintro ⟨sep', hsep', -, -, item, hitem, hnone⟩
        obtain rfl := Option.some.inj (hsep.symm.trans hsep')
        obtain ⟨b, hb⟩ := hnumerals item hitem
        exact hnone b hb
      exact ⟨fun _ => hplain, fun _ => exact_of_iff text (ok_iff_denotes hsep hnumerals)⟩
    · have hnever : ∀ key, ¬ Denotes text key := fun key hkey =>
        hnumerals (forall₂_numerals ((denotes_separated text sep hsep key).mp hkey).2)
      simp only [not_forall, not_exists] at hnumerals
      obtain ⟨item, hitem, hnone⟩ := hnumerals
      have haccepted : (∃ key, hexKeyToBytes text = .ok key) ↔ Disguised text := by
        rw [accepted_iff hsep]
        constructor
        · rintro ⟨hlength, hsome⟩
          exact ⟨sep, hsep, hlength, hsome, item, hitem, hnone⟩
        · rintro ⟨sep', hsep', hlength, hsome, -⟩
          obtain rfl := Option.some.inj (hsep.symm.trans hsep')
          exact ⟨hlength, hsome⟩
      rw [← haccepted]
      constructor
      · rintro ⟨hexact, -⟩ ⟨key, hkey⟩
        exact hnever key ((hexact key).mp hkey)
      · intro hrefused
        refine exact_of_iff text fun key => ⟨fun hkey => absurd ⟨key, hkey⟩ hrefused, fun hkey => ?_⟩
        exact absurd hkey (hnever key)

/-! ## What `int` takes beyond numerals -/

/-- No digit `0` to `f`, but something that `int` takes in base 16: a sign, the letter of a prefix, an underscore, or
a decimal digit of another script. -/
def Foreign (c : Char) : Prop :=
  hexDigitValue c = none ∧ (c ∈ ['-', '+', 'x', 'X', '_'] ∨ (decimalValue c).isSome)

theorem foreign_or {c : Char} (h : c ∈ ['-', '+', 'x', 'X', '_'] ∨ (digitValue16 c).isSome) :
    (hexDigitValue c).isSome ∨ Foreign c := by
  cases hhex : hexDigitValue c with
  | some d => exact .inl rfl
  | none =>
    refine .inr ⟨hhex, h.imp_right fun hdigit => ?_⟩
    rwa [digitValue16, hhex] at hdigit

theorem strip_ends {cs : List Char} {p : Char → Bool} (h : ((cs.dropWhile p).reverse.dropWhile p).reverse = cs) :
    cs.dropWhile p = cs ∧ cs.reverse.dropWhile p = cs.reverse := by
  have hfront : cs.dropWhile p = cs := by
    refine (List.dropWhile_suffix p).eq_of_length_le ?_
    calc cs.length = ((cs.dropWhile p).reverse.dropWhile p).reverse.length := by rw [h]
      _ ≤ (cs.dropWhile p).reverse.length := by
        rw [List.length_reverse]
        exact (List.dropWhile_suffix p).length_le
      _ = (cs.dropWhile p).length := List.length_reverse
  rw [hfront] at h
  exact ⟨hfront, List.reverse_injective (by rw [h, List.reverse_reverse])⟩

/-- `strip` takes away all that `int` skips. -/
theorem trimSpaces_of_strip {cs : List Char} (h : strip cs = cs) : trimSpaces cs = cs := by
  have hspaces : ∀ c, inRanges intSpaces c = true → inRanges ((0x1C, 0x1F) :: intSpaces) c = true := by
    intro c hc
    rw [inRanges, List.any_cons, ← inRanges, hc, Bool.or_true]
  have hkept : ∀ l : List Char, l.dropWhile (inRanges ((0x1C, 0x1F) :: intSpaces)) = l →
      l.dropWhile (inRanges intSpaces) = l := by
    intro l hl
    rw [List.dropWhile_eq_self_iff] at hl ⊢
    exact fun hpos hspace => hl hpos (hspaces _ hspace)
  obtain ⟨hfront, hback⟩ := strip_ends h
  rw [trimSpaces, hkept _ hfront, hkept _ hback, List.reverse_reverse]

theorem strip_strip (cs : List Char) : strip (strip cs) = strip cs := by
  show ((cs.dropWhile _).rdropWhile _ |>.dropWhile _).rdropWhile _ = (cs.dropWhile _).rdropWhile _
  generalize inRanges ((0x1C, 0x1F) :: intSpaces) = p
  have hinitial := List.rdropWhile_prefix p (cs.dropWhile p)
  have hfront : ((cs.dropWhile p).rdropWhile p).dropWhile p = (cs.dropWhile p).rdropWhile p := by
    rw [List.dropWhile_eq_self_iff]
    intro hpos
    rw [hinitial.getElem hpos]
    exact List.dropWhile_eq_self_iff.mp (List.dropWhile_idempotent p cs) _
  rw [hfront]
  exact List.rdropWhile_idempotent p _

theorem hex_or_foreign {item : List Char} (hstrip : strip item = item) (h : (parseInt16 (String.ofList item)).isSome) :
    ∀ c ∈ item, (hexDigitValue c).isSome ∨ Foreign c := by
  intro c hc
  rw [parseInt16, String.toList_ofList, trimSpaces_of_strip hstrip, Option.isSome_map] at h
  apply foreign_or
  rcases mem_splitSign hc with hsign | hc
  · exact .inl (by grind)
  rcases mem_dropPrefix16 hc with hletter | hdigit | hc
  · exact .inl (by grind)
  · exact .inr hdigit
  · rcases mem_digitValues16 h hc with rfl | hdigit
    · exact .inl (by simp)
    · exact .inr hdigit

theorem not_numeral_iff {item : List Char} (hne : item ≠ []) (hstrip : strip item = item)
    (h : (parseInt16 (String.ofList item)).isSome) :
    (∀ b, ¬ Numeral item b) ↔
      (∃ c ∈ item, Foreign c) ∨ ∃ digits, item.mapM hexDigitValue = some digits ∧ 255 < ofDigits16 digits := by
  cases hdigits : item.mapM hexDigitValue with
  | none =>
    have hforeign : ∃ c ∈ item, Foreign c := by
      by_contra hnone
      have hall := (mapM_isSome_iff hexDigitValue item).mpr fun c hc =>
        (hex_or_foreign hstrip h c hc).resolve_right fun hforeign => hnone ⟨c, hc, hforeign⟩
      rw [hdigits] at hall
      cases hall
    exact iff_of_true (fun b ⟨_, _, hb, _⟩ => by cases hdigits.symm.trans hb) (.inl hforeign)
  | some digits =>
    have hplain : ¬ ∃ c ∈ item, Foreign c := by
      rintro ⟨c, hc, hnone, -⟩
      have hall := (mapM_isSome_iff hexDigitValue item).mp (by rw [hdigits]; rfl) c hc
      rw [hnone] at hall
      cases hall
    constructor
    · intro hnumeral
      refine .inr ⟨digits, rfl, Nat.lt_of_not_le fun hle => ?_⟩
      refine hnumeral (UInt8.ofNat (ofDigits16 digits)) ⟨hne, digits, hdigits, ?_⟩
      rw [UInt8.toNat_ofNat', Nat.mod_eq_of_lt (by omega)]
    · rintro (hforeign | ⟨digits', hsome, hbig⟩) b ⟨-, digits'', hb, hvalue⟩
      · exact hplain hforeign
      · obtain rfl := Option.some.inj hsome
        obtain rfl := Option.some.inj (hdigits.symm.trans hb)
        have := b.toNat_lt
        omega

/-- **The texts that are taken for keys which they do not denote**, item by item. -/
theorem disguised_iff (text : String) :
    Disguised text ↔ ∃ sep ∈ separator (strip text.toList),
      (items (strip text.toList) sep).length = aesKeyLen ∧
      (∀ item ∈ items (strip text.toList) sep, (parseInt16 (String.ofList item)).isSome) ∧
      ∃ item ∈ items (strip text.toList) sep, (∃ c ∈ item, Foreign c) ∨
        ∃ digits, item.mapM hexDigitValue = some digits ∧ 255 < ofDigits16 digits := by
  refine exists_congr fun sep => and_congr_right fun _ => and_congr_right fun _ => and_congr_right fun hint => ?_
  refine exists_congr fun item => and_congr_right fun hitem => ?_
  obtain ⟨hmem, hne⟩ := List.mem_filter.mp hitem
  obtain ⟨part, -, rfl⟩ := List.mem_map.mp hmem
  exact not_numeral_iff (of_decide_eq_true hne) (strip_strip part) (hint _ hitem)

/-! ## An item that is cut down -/

def disguisedText : String := "1a1,b2,c3,d4,e5,f6,07,18,29,3a,4b,5c,6d,7e,8f,-1"

/-- `1a1` is taken for `a1`, and `-1` for `ff`. -/
theorem disguised_accepted :
    hexKeyToBytes disguisedText = .ok [0xA1, 0xB2, 0xC3, 0xD4, 0xE5, 0xF6, 0x07, 0x18, 0x29, 0x3A, 0x4B, 0x5C,
      0x6D, 0x7E, 0x8F, 0xFF] ∧ ¬ Exact disguisedText := by
  have hkey : hexKeyToBytes disguisedText = .ok [0xA1, 0xB2, 0xC3, 0xD4, 0xE5, 0xF6, 0x07, 0x18, 0x29, 0x3A,
      0x4B, 0x5C, 0x6D, 0x7E, 0x8F, 0xFF] := by
    decide +kernel
  have hsep : separator (strip disguisedText.toList) = some ',' := by decide +kernel
  have hitem : ['-', '1'] ∈ items (strip disguisedText.toList) ',' := by decide +kernel
  refine ⟨hkey, ?_⟩
  rintro ⟨hexact, -⟩
  have hnumerals := ((denotes_separated _ _ hsep _).mp ((hexact _).mp hkey)).2
  obtain ⟨b, hb⟩ := forall₂_numerals hnumerals _ hitem
  cases numeral_digit _ _ hb '-' (by simp)

end TtlockBle.AesKeyText
