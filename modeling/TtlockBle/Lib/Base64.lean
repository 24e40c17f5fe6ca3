import TtlockBle.Lib.Bytes

/-!
# Base64

What Python's `binascii.a2b_base64` makes of a text, and the standard encoding, which it inverts.
-/

namespace TtlockBle.Lib.Base64

def alphabet : List Char := "ABCDEFGHIJKLMNOPQRSTUVWXYZabcdefghijklmnopqrstuvwxyz0123456789+/".toList

def digit (v : Nat) : Char := alphabet.getD v '='

def value (c : Char) : Option Nat := alphabet.findIdx? (· = c)

/-! ## Decoding -/

/-- The loop of `a2b_base64`, not strict. `left` is what the last digit has not given out yet, and
`quadPos` is its place among four. Other characters are skipped, and so is a `=` too early. -/
def decodeLoop : List Char → (quadPos left pads : Nat) → Bytes → Except String Bytes
  | [], quadPos, _, _, out =>
    if quadPos = 0 then .ok out
    else if quadPos = 1 then
      .error (s!"Invalid base64-encoded string: number of data characters ({out.length / 3 * 4 + 1}) " ++
        "cannot be 1 more than a multiple of 4")
    else .error "Incorrect padding"
  | c :: cs, quadPos, left, pads, out =>
    if c = '=' then
      if quadPos < 2 then decodeLoop cs quadPos left pads out
      else if quadPos + (pads + 1) ≥ 4 then .ok out
      else decodeLoop cs quadPos left (pads + 1) out
    else
      match value c with
      | none => decodeLoop cs quadPos left pads out
      | some v =>
        match quadPos with
        | 0 => decodeLoop cs 1 v 0 out
        | 1 => decodeLoop cs 2 (v % 16) 0 (out ++ [UInt8.ofNat (left * 4 + v / 16)])
        | 2 => decodeLoop cs 3 (v % 4) 0 (out ++ [UInt8.ofNat (left * 16 + v / 4)])
        | _ => decodeLoop cs 0 0 0 (out ++ [UInt8.ofNat (left * 64 + v)])

def decode (cs : List Char) : Except String Bytes := decodeLoop cs 0 0 0 []

/-! ## Encoding -/

def encode : Bytes → List Char
  | [] => []
  | [a] => [digit (a.toNat / 4), digit (a.toNat % 4 * 16), '=', '=']
  | [a, b] => [digit (a.toNat / 4), digit (a.toNat % 4 * 16 + b.toNat / 16), digit (b.toNat % 16 * 4), '=']
  | a :: b :: c :: rest =>
    [digit (a.toNat / 4), digit (a.toNat % 4 * 16 + b.toNat / 16), digit (b.toNat % 16 * 4 + c.toNat / 64),
      digit (c.toNat % 64)] ++ encode rest

theorem encode_length (bytes : Bytes) : (encode bytes).length = 4 * ((bytes.length + 2) / 3) := by
  induction bytes using encode.induct with
  | case1 => rfl
  | case2 a => simp [encode]
  | case3 a b => simp [encode]
  | case4 a b c rest ih =>
    rw [encode, List.length_append, ih]
    simp only [List.length_cons, List.length_nil]
    omega

theorem digit_ascii (v : Nat) : (digit v).toNat < 128 := by
  have hall : ∀ c ∈ alphabet, c.toNat < 128 := by
    have : (alphabet.all fun c => c.toNat < 128) = true := by decide +kernel
    simpa using this
  unfold digit
  rcases Nat.lt_or_ge v alphabet.length with hv | hv
  · rw [List.getD_eq_getElem _ _ hv]
    exact hall _ (List.getElem_mem hv)
  · rw [List.getD_eq_default _ _ hv]
    decide

theorem encode_ascii (bytes : Bytes) : ∀ c ∈ encode bytes, c.toNat < 128 := by
  induction bytes using encode.induct with
  | case1 => simp [encode]
  | case2 a => simp [encode, digit_ascii]
  | case3 a b => simp [encode, digit_ascii]
  | case4 a b c rest ih => simpa [encode, digit_ascii] using ih

/-! ## The round trip -/

theorem value_digit (v : Nat) (h : v < 64) : digit v ≠ '=' ∧ value (digit v) = some v := by
  have hall : ∀ v : Fin 64, digit v ≠ '=' ∧ value (digit v) = some v.val := by decide +kernel
  exact hall ⟨v, h⟩

section Loop

variable {cs : List Char} {v left pads : Nat} {out : Bytes} (h : v < 64)

include h

theorem decodeLoop_first : decodeLoop (digit v :: cs) 0 left pads out = decodeLoop cs 1 v 0 out := by
  obtain ⟨hpad, hvalue⟩ := value_digit v h
  rw [decodeLoop, if_neg hpad, hvalue]
  rfl

theorem decodeLoop_second : decodeLoop (digit v :: cs) 1 left pads out =
    decodeLoop cs 2 (v % 16) 0 (out ++ [UInt8.ofNat (left * 4 + v / 16)]) := by
  obtain ⟨hpad, hvalue⟩ := value_digit v h
  rw [decodeLoop, if_neg hpad, hvalue]
  rfl

theorem decodeLoop_third : decodeLoop (digit v :: cs) 2 left pads out =
    decodeLoop cs 3 (v % 4) 0 (out ++ [UInt8.ofNat (left * 16 + v / 4)]) := by
  obtain ⟨hpad, hvalue⟩ := value_digit v h
  rw [decodeLoop, if_neg hpad, hvalue]
  rfl

theorem decodeLoop_fourth : decodeLoop (digit v :: cs) 3 left pads out =
    decodeLoop cs 0 0 0 (out ++ [UInt8.ofNat (left * 64 + v)]) := by
  obtain ⟨hpad, hvalue⟩ := value_digit v h
  rw [decodeLoop, if_neg hpad, hvalue]
  rfl

end Loop

theorem ofNat_eq (b : UInt8) (n : Nat) (h : n = b.toNat) : UInt8.ofNat n = b := by
  rw [h, UInt8.ofNat_toNat]

theorem decodeLoop_encode (bytes out : Bytes) : decodeLoop (encode bytes) 0 0 0 out = .ok (out ++ bytes) := by
  induction bytes using encode.induct generalizing out with
  | case1 =>
    rw [encode, decodeLoop, if_pos rfl, List.append_nil]
  | case2 a =>
    have ha := a.toNat_lt
    rw [encode, decodeLoop_first (by omega), decodeLoop_second (by omega), ofNat_eq a _ (by omega)]
    simp [decodeLoop]
  | case3 a b =>
    have ha := a.toNat_lt
    have hb := b.toNat_lt
    rw [encode, decodeLoop_first (by omega), decodeLoop_second (by omega), decodeLoop_third (by omega),
      ofNat_eq a _ (by omega), ofNat_eq b _ (by omega)]
    simp [decodeLoop]
  | case4 a b c rest ih =>
    have ha := a.toNat_lt
    have hb := b.toNat_lt
    have hc := c.toNat_lt
    rw [encode]
    simp only [List.cons_append, List.nil_append]
    rw [decodeLoop_first (by omega), decodeLoop_second (by omega), decodeLoop_third (by omega),
      decodeLoop_fourth (by omega), ofNat_eq a _ (by omega), ofNat_eq b _ (by omega), ofNat_eq c _ (by omega), ih]
    simp

theorem decode_encode (bytes : Bytes) : decode (encode bytes) = .ok bytes := decodeLoop_encode bytes []

end TtlockBle.Lib.Base64
