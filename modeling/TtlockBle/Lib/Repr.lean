import Mathlib.Data.List.Basic
import Mathlib.Data.Nat.Digits.Defs

/-!
# `repr` of a string
-/

namespace TtlockBle.Lib

def inRanges (ranges : List (Nat × Nat)) (c : Char) : Bool :=
  ranges.any fun r => r.1 ≤ c.toNat && c.toNat ≤ r.2

def quotationMark : Char := Char.ofNat 0x22
def apostrophe : Char := Char.ofNat 0x27
def backslash : Char := Char.ofNat 0x5C

/-- The lowest digits, in lower case. -/
def hexDigits (width n : Nat) : List Char :=
  (List.range width).reverse.map fun i => Nat.digitChar (n / 16 ^ i % 16)

/-- Controls, formats, separators and private characters. -/
def unprintables : List (Nat × Nat) :=
  [(0x0, 0x1F), (0x7F, 0xA0), (0xAD, 0xAD), (0x600, 0x605), (0x61C, 0x61C), (0x6DD, 0x6DD), (0x70F, 0x70F),
    (0x890, 0x891), (0x8E2, 0x8E2), (0x1680, 0x1680), (0x180E, 0x180E), (0x2000, 0x200F), (0x2028, 0x202F),
    (0x205F, 0x2064), (0x2066, 0x206F), (0x3000, 0x3000), (0xE000, 0xF8FF), (0xFEFF, 0xFEFF), (0xFFF9, 0xFFFB),
    (0x110BD, 0x110BD), (0x110CD, 0x110CD), (0x13430, 0x1343F), (0x1BCA0, 0x1BCA3), (0x1D173, 0x1D17A),
    (0xE0001, 0xE0001), (0xE0020, 0xE007F), (0xF0000, 0xFFFFD), (0x100000, 0x10FFFD)]

/-- `str.isprintable` of an assigned character. -/
def printable (c : Char) : Bool := !inRanges unprintables c

/-- `\xNN`, `\uNNNN` or `\UNNNNNNNN`. -/
def escapeChar (c : Char) : List Char :=
  if c.toNat ≤ 0xFF then [backslash, 'x'] ++ hexDigits 2 c.toNat
  else if c.toNat ≤ 0xFFFF then [backslash, 'u'] ++ hexDigits 4 c.toNat
  else [backslash, 'U'] ++ hexDigits 8 c.toNat

def reprChar (printable : Char → Bool) (quote c : Char) : List Char :=
  if c = quote ∨ c = backslash then [backslash, c]
  else if c.toNat = 0x09 then [backslash, 't']
  else if c.toNat = 0x0A then [backslash, 'n']
  else if c.toNat = 0x0D then [backslash, 'r']
  else if c.toNat < 0x20 ∨ c.toNat = 0x7F then escapeChar c
  else if c.toNat < 0x7F ∨ printable c then [c]
  else escapeChar c

def reprStr (printable : Char → Bool) (s : String) : String :=
  let quote := if apostrophe ∈ s.toList ∧ quotationMark ∉ s.toList then quotationMark else apostrophe
  String.ofList ([quote] ++ s.toList.flatMap (reprChar printable quote) ++ [quote])

end TtlockBle.Lib
