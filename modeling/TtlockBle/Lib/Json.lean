import TtlockBle.Lib.Hex

/-!
# JSON values

The values that Python's `json` makes, `str` of them, and `json.loads`. What the interpreter adds is
a parameter: which characters are printable, how a float is written, and how deep values may nest.
-/

namespace TtlockBle.Lib

/-- A float is given by its `repr`. -/
inductive Json where
  | null
  | bool (b : Bool)
  | int (n : Int)
  | float (repr : String)
  | str (s : String)
  | list (items : List Json)
  | dict (fields : List (String × Json))

structure Interpreter where
  printable : Char → Bool
  /-- `repr(float(literal))`. -/
  floatRepr : String → String
  nesting : Nat

namespace Json

def truthy : Json → Bool
  | null => false
  | bool b => b
  | int n => n ≠ 0
  | float repr => repr ≠ "0.0" && repr ≠ "-0.0"
  | str s => s ≠ ""
  | list items => !items.isEmpty
  | dict fields => !fields.isEmpty

/-- `x or y`. -/
def orElse (x y : Json) : Json := if x.truthy then x else y

/-- `fields[key] = value`. A key that is there keeps its place. -/
def setField (fields : List (String × Json)) (key : String) (value : Json) : List (String × Json) :=
  match fields with
  | [] => [(key, value)]
  | (k, v) :: rest => if k = key then (k, value) :: rest else (k, v) :: setField rest key value

/-- The fields with all of `keys` set to null, where those that were not there come last. -/
def setNull (fields : List (String × Json)) (keys : List String) : List (String × Json) :=
  keys.foldl (fun fields key => setField fields key null) fields

def removeFields (fields : List (String × Json)) (keys : List String) : List (String × Json) :=
  fields.filter (·.1 ∉ keys)

theorem lookup_cons (fields : List (String × Json)) (key k : String) (value : Json) :
    ((key, value) :: fields).lookup k = if k = key then some value else fields.lookup k := by
  rw [List.lookup_cons]
  by_cases hk : k = key
  · simp [hk]
  · rw [beq_false_of_ne hk, if_neg hk]

theorem lookup_setField (fields : List (String × Json)) (key k : String) (value : Json) :
    (setField fields key value).lookup k = if k = key then some value else fields.lookup k := by
  induction fields with
  | nil => exact lookup_cons [] key k value
  | cons field fields ih =>
    obtain ⟨k', v⟩ := field
    unfold setField
    by_cases hkey : k' = key
    · rw [if_pos hkey, lookup_cons, lookup_cons, hkey]
      split <;> rfl
    · rw [if_neg hkey, lookup_cons, lookup_cons, ih]
      by_cases hk : k = k'
      · simp [hk, hkey]
      · simp [hk]

theorem lookup_setNull (fields : List (String × Json)) (keys : List String) (k : String) :
    (setNull fields keys).lookup k = if k ∈ keys then some null else fields.lookup k := by
  induction keys generalizing fields with
  | nil => rfl
  | cons key keys ih =>
    show (setNull (setField fields key null) keys).lookup k = _
    rw [ih, lookup_setField]
    by_cases hkeys : k ∈ keys <;> by_cases hk : k = key <;> simp [hkeys, hk]

theorem lookup_removeFields (fields : List (String × Json)) (keys : List String) (k : String) :
    (removeFields fields keys).lookup k = if k ∈ keys then none else fields.lookup k := by
  unfold removeFields
  induction fields with
  | nil => simp
  | cons field fields ih =>
    obtain ⟨k', v⟩ := field
    rw [lookup_cons]
    by_cases hkeys : k' ∈ keys
    · rw [List.filter_cons_of_neg (by simpa using hkeys), ih]
      by_cases hk : k = k'
      · simp [hk, hkeys]
      · simp [hk]
    · rw [List.filter_cons_of_pos (by simpa using hkeys), lookup_cons, ih]
      by_cases hk : k = k'
      · simp [hk, hkeys]
      · simp [hk]

/-! ## `str` -/

def openBrace : Char := Char.ofNat 0x7B
def closeBrace : Char := Char.ofNat 0x7D

mutual

def repr (py : Interpreter) : Json → String
  | null => "None"
  | bool b => if b then "True" else "False"
  | int n => toString n
  | float repr => repr
  | str s => reprStr py.printable s
  | list items => "[" ++ ", ".intercalate (reprItems py items) ++ "]"
  | dict fields =>
    String.singleton openBrace ++ ", ".intercalate (reprFields py fields) ++ String.singleton closeBrace

def reprItems (py : Interpreter) : List Json → List String
  | [] => []
  | item :: items => repr py item :: reprItems py items

def reprFields (py : Interpreter) : List (String × Json) → List String
  | [] => []
  | (key, value) :: fields => (reprStr py.printable key ++ ": " ++ repr py value) :: reprFields py fields

end

/-- `str(value)`. -/
def text (py : Interpreter) : Json → String
  | str s => s
  | value => repr py value

/-! ## `json.loads` -/

inductive LoadsError where
  | decode (msg : String)
  | integer (text : String)
  | recursion

/-- A value, and what is left behind it. -/
structure Scanned (α : Type) (cs : List Char) where
  value : α
  rest : List Char
  shorter : rest.length < cs.length

def skipSpace (cs : List Char) : List Char :=
  cs.dropWhile (· ∈ [' ', Char.ofNat 0x09, Char.ofNat 0x0A, Char.ofNat 0x0D])

theorem skipSpace_length (cs : List Char) : (skipSpace cs).length ≤ cs.length :=
  (List.dropWhile_suffix _).length_le

/-! ### Strings -/

def escapes : List (Char × Char) :=
  [(quotationMark, quotationMark), (backslash, backslash), ('/', '/'), ('b', Char.ofNat 0x08),
    ('f', Char.ofNat 0x0C), ('n', Char.ofNat 0x0A), ('r', Char.ofNat 0x0D), ('t', Char.ofNat 0x09)]

def hex4 (a b c d : Char) : Option Nat := ([a, b, c, d].mapM hexDigitValue).map ofDigits16

/-- Half a surrogate pair is no character here, and becomes U+FFFD. -/
def ofCodeUnit (n : Nat) : Char := if 0xD800 ≤ n ∧ n ≤ 0xDFFF then Char.ofNat 0xFFFD else Char.ofNat n

def lowSurrogate : List Char → Option Nat
  | b :: u :: a :: b' :: c :: d :: _ =>
    if b = backslash ∧ u = 'u' then (hex4 a b' c d).filter fun n => 0xDC00 ≤ n ∧ n ≤ 0xDFFF else none
  | _ => none

/-- The next character of a string, or none at its end. -/
def scanChar (cs : List Char) : Except LoadsError (Scanned (Option Char) cs) :=
  match cs with
  | [] => .error (.decode "Unterminated string starting at")
  | c :: cs =>
    if c = quotationMark then .ok ⟨none, cs, by simp⟩
    else if c.toNat < 0x20 then .error (.decode "Invalid control character at")
    else if c = backslash then
      match cs with
      | [] => .error (.decode "Unterminated string starting at")
      | e :: cs =>
        if e = 'u' then
          match cs with
          | a₁ :: a₂ :: a₃ :: a₄ :: cs =>
            match hex4 a₁ a₂ a₃ a₄ with
            | none => .error (.decode "Invalid \\uXXXX escape")
            | some high =>
              match (if 0xD800 ≤ high ∧ high ≤ 0xDBFF then lowSurrogate cs else none) with
              | none => .ok ⟨some (ofCodeUnit high), cs, by simp only [List.length_cons]; omega⟩
              | some low =>
                .ok ⟨some (Char.ofNat (0x10000 + (high - 0xD800) * 0x400 + (low - 0xDC00))), cs.drop 6,
                  by rw [List.length_drop]; simp only [List.length_cons]; omega⟩
          | _ => .error (.decode "Invalid \\uXXXX escape")
        else
          match escapes.lookup e with
          | some char => .ok ⟨some char, cs, by simp only [List.length_cons]; omega⟩
          | none => .error (.decode "Invalid \\escape")
    else .ok ⟨some c, cs, by simp⟩

/-- From behind the opening quotation mark on. -/
def scanString (cs : List Char) : Except LoadsError (Scanned String cs) :=
  match scanChar cs with
  | .error e => .error e
  | .ok first =>
    match first.value with
    | none => .ok ⟨"", first.rest, first.shorter⟩
    | some c =>
      match scanString first.rest with
      | .error e => .error e
      | .ok tail => .ok ⟨String.singleton c ++ tail.value, tail.rest, Nat.lt_trans tail.shorter first.shorter⟩
termination_by cs.length
decreasing_by exact first.shorter

/-! ### Numbers -/

def isAsciiDigit (c : Char) : Bool := '0' ≤ c && c ≤ '9'

/-- The digits of the integer part. A zero stands alone. -/
def integerPart (cs : List Char) : List Char :=
  if cs.head? = some '0' then ['0'] else cs.takeWhile isAsciiDigit

def fraction : List Char → List Char
  | '.' :: cs => if cs.takeWhile isAsciiDigit = [] then [] else '.' :: cs.takeWhile isAsciiDigit
  | _ => []

def exponent : List Char → List Char
  | e :: cs =>
    let sign := (cs.take 1).filter fun c => c = '+' ∨ c = '-'
    let digits := (cs.drop sign.length).takeWhile isAsciiDigit
    if (e = 'e' ∨ e = 'E') ∧ digits ≠ [] then e :: (sign ++ digits) else []
  | [] => []

/-- The longest number at the front, if there is one. -/
def scanNumber (py : Interpreter) (cs : List Char) : Except LoadsError (Scanned Json cs) :=
  let sign := (cs.take 1).filter (· = '-')
  let integer := integerPart (cs.drop sign.length)
  let front := sign ++ integer
  let frac := fraction (cs.drop front.length)
  let exp := exponent (cs.drop (front ++ frac).length)
  let literal := front ++ frac ++ exp
  if h : integer = [] ∨ cs = [] then .error (.decode "Expecting value")
  else
    have shorter : (cs.drop literal.length).length < cs.length := by
      have hinteger := List.length_pos_iff.mpr (not_or.mp h).1
      have hcs := List.length_pos_iff.mpr (not_or.mp h).2
      simp only [literal, front, List.length_append, List.length_drop]
      omega
    if frac = [] ∧ exp = [] then
      match parseInt (String.ofList literal) with
      | .error text => .error (.integer text)
      | .ok n => .ok ⟨.int n, cs.drop literal.length, shorter⟩
    else .ok ⟨.float (py.floatRepr (String.ofList literal)), cs.drop literal.length, shorter⟩

/-! ### Values -/

def constants : List (String × Json) :=
  [("null", .null), ("true", .bool true), ("false", .bool false), ("NaN", .float "nan"), ("Infinity", .float "inf"),
    ("-Infinity", .float "-inf")]

theorem constants_ne_nil : ∀ c ∈ constants, c.1.toList ≠ [] := by simp [constants]

def scanScalar (py : Interpreter) (cs : List Char) : Except LoadsError (Scanned Json cs) :=
  match h : constants.find? fun c => c.1.toList <+: cs with
  | some c =>
    have shorter : (cs.drop c.1.toList.length).length < cs.length := by
      have hprefix : c.1.toList <+: cs := by simpa using List.find?_some h
      have hpos := List.length_pos_iff.mpr (constants_ne_nil c (List.mem_of_find?_eq_some h))
      have := hprefix.length_le
      rw [List.length_drop]
      omega
    .ok ⟨c.2, cs.drop c.1.toList.length, shorter⟩
  | none => scanNumber py cs

/-- The character at the front, behind spaces. -/
def expect (c : Char) (cs : List Char) : Option (Scanned Unit cs) :=
  match h : skipSpace cs with
  | [] => none
  | d :: rest =>
    if d = c then
      some ⟨(), rest, by have := skipSpace_length cs; rw [h, List.length_cons] at this; omega⟩
    else none

mutual

/-- `depth` more values may be opened. -/
def scanOnce (py : Interpreter) (depth : Nat) (cs : List Char) : Except LoadsError (Scanned Json cs) :=
  match cs with
  | [] => .error (.decode "Expecting value")
  | c :: rest =>
    if c = quotationMark then do
      let s ← scanString rest
      return ⟨.str s.value, s.rest, Nat.lt_succ_of_lt s.shorter⟩
    else if c = openBrace ∨ c = '[' then
      have hspace : (skipSpace rest).length < (c :: rest).length := Nat.lt_succ_of_le (skipSpace_length rest)
      match depth with
      | 0 => .error .recursion
      | depth + 1 =>
        if c = openBrace then
          match expect closeBrace rest with
          | some done => .ok ⟨.dict [], done.rest, Nat.lt_succ_of_lt done.shorter⟩
          | none => do
            let fields ← scanFields py depth (skipSpace rest) []
            return ⟨.dict fields.value, fields.rest, Nat.lt_trans fields.shorter hspace⟩
        else
          match expect ']' rest with
          | some done => .ok ⟨.list [], done.rest, Nat.lt_succ_of_lt done.shorter⟩
          | none => do
            let items ← scanItems py depth (skipSpace rest) []
            return ⟨.list items.value, items.rest, Nat.lt_trans items.shorter hspace⟩
    else scanScalar py (c :: rest)
termination_by (cs.length, 0)

/-- From the first item on, or from behind a comma. -/
def scanItems (py : Interpreter) (depth : Nat) (cs : List Char) (items : List Json) :
    Except LoadsError (Scanned (List Json) cs) :=
  match scanOnce py depth cs with
  | .error e => .error e
  | .ok item =>
    match expect ']' item.rest with
    | some done => .ok ⟨items ++ [item.value], done.rest, Nat.lt_trans done.shorter item.shorter⟩
    | none =>
      match expect ',' item.rest with
      | none => .error (.decode "Expecting ',' delimiter")
      | some comma =>
        if (skipSpace comma.rest).head? = some ']' then
          .error (.decode "Illegal trailing comma before end of array")
        else
          have shorter : (skipSpace comma.rest).length < cs.length :=
            Nat.lt_of_le_of_lt (skipSpace_length _) (Nat.lt_trans comma.shorter item.shorter)
          match scanItems py depth (skipSpace comma.rest) (items ++ [item.value]) with
          | .error e => .error e
          | .ok all => .ok ⟨all.value, all.rest, Nat.lt_trans all.shorter shorter⟩
termination_by (cs.length, 1)

/-- From the first key on, or from behind a comma. -/
def scanFields (py : Interpreter) (depth : Nat) (cs : List Char) (fields : List (String × Json)) :
    Except LoadsError (Scanned (List (String × Json)) cs) :=
  match cs with
  | [] => .error (.decode "Expecting property name enclosed in double quotes")
  | c :: cs =>
    if c ≠ quotationMark then .error (.decode "Expecting property name enclosed in double quotes")
    else
      match scanString cs with
      | .error e => .error e
      | .ok key =>
        match expect ':' key.rest with
        | none => .error (.decode "Expecting ':' delimiter")
        | some colon =>
          have hcolon : (skipSpace colon.rest).length < cs.length :=
            Nat.lt_of_le_of_lt (skipSpace_length _) (Nat.lt_trans colon.shorter key.shorter)
          match scanOnce py depth (skipSpace colon.rest) with
          | .error e => .error e
          | .ok value =>
            have hvalue : value.rest.length < cs.length := Nat.lt_trans value.shorter hcolon
            match expect closeBrace value.rest with
            | some done =>
              .ok ⟨setField fields key.value value.value, done.rest,
                Nat.lt_succ_of_lt (Nat.lt_trans done.shorter hvalue)⟩
            | none =>
              match expect ',' value.rest with
              | none => .error (.decode "Expecting ',' delimiter")
              | some comma =>
                if (skipSpace comma.rest).head? = some closeBrace then
                  .error (.decode "Illegal trailing comma before end of object")
                else
                  have shorter : (skipSpace comma.rest).length < cs.length :=
                    Nat.lt_of_le_of_lt (skipSpace_length _) (Nat.lt_trans comma.shorter hvalue)
                  match scanFields py depth (skipSpace comma.rest) (setField fields key.value value.value) with
                  | .error e => .error e
                  | .ok all => .ok ⟨all.value, all.rest, Nat.lt_succ_of_lt (Nat.lt_trans all.shorter shorter)⟩
termination_by (cs.length, 1)

end

/-- `json.loads(text)`. -/
def loads (py : Interpreter) (text : String) : Except LoadsError Json :=
  let cs := text.toList
  if cs.head? = some (Char.ofNat 0xFEFF) then .error (.decode "Unexpected UTF-8 BOM (decode using utf-8-sig)")
  else
    match scanOnce py py.nesting (skipSpace cs) with
    | .error e => .error e
    | .ok value => if skipSpace value.rest = [] then .ok value.value else .error (.decode "Extra data")

/-! ### Too deep -/

theorem expect_ne {c d : Char} (rest : List Char) (hc : c ≠ d) (hspace : skipSpace (d :: rest) = d :: rest) :
    expect c (d :: rest) = none := by
  unfold expect
  split
  · rfl
  · rename_i h
    rw [hspace] at h
    obtain ⟨rfl, rfl⟩ := List.cons.inj h
    exact if_neg (Ne.symm hc)

theorem skipSpace_bracket (rest : List Char) : skipSpace ('[' :: rest) = '[' :: rest := by
  simp [skipSpace]

theorem scanOnce_nested (py : Interpreter) (depth : Nat) :
    scanOnce py depth (List.replicate (depth + 1) '[') = .error .recursion := by
  induction depth with
  | zero =>
    rw [List.replicate_succ, scanOnce]
    simp [quotationMark]
  | succ depth ih =>
    have hbracket : ¬ '[' = quotationMark ∧ ¬ '[' = openBrace := by decide
    have hspace : skipSpace (List.replicate (depth + 1) '[') = List.replicate (depth + 1) '[' :=
      skipSpace_bracket _
    have hexpect : expect ']' (List.replicate (depth + 1) '[') = none := expect_ne _ (by decide) (skipSpace_bracket _)
    have hitems : scanItems py depth (skipSpace (List.replicate (depth + 1) '[')) [] = .error .recursion := by
      rw [hspace, scanItems, ih]
    rw [List.replicate_succ, scanOnce]
    simp only [if_neg hbracket.1, hbracket.2, hexpect, or_true, if_true, if_false]
    rw [hitems]
    rfl

theorem loads_nested (py : Interpreter) :
    loads py (String.ofList (List.replicate (py.nesting + 1) '[')) = .error .recursion := by
  have hscan : scanOnce py py.nesting (skipSpace (List.replicate (py.nesting + 1) '[')) = .error .recursion := by
    rw [List.replicate_succ, skipSpace_bracket, ← List.replicate_succ]
    exact scanOnce_nested py py.nesting
  unfold loads
  rw [String.toList_ofList]
  simp only [hscan]
  exact if_neg (by simp [List.replicate_succ])

end Json

end TtlockBle.Lib
