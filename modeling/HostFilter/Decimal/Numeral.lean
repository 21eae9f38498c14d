/-!
# Numerals

Whole numbers in decimal notation: a numeral is one or more ASCII digits, with
any number of leading zeros, and may carry a sign in front.

Main results:

- Theorem `natural?_toDigits`: the digits of a natural number read back as it.
-/

namespace HostFilter
namespace Decimal

/-- Is this a non-empty run of ASCII digits? -/
def isNumeral (cs : List Char) : Bool :=
  !cs.isEmpty && cs.all Char.isDigit

/-- The number that a run of digits denotes. -/
def value (digits : List Char) : Nat :=
  Nat.ofDigitChars 10 digits 0

/-- Read an unsigned numeral. -/
def natural? (cs : List Char) : Option Nat :=
  if isNumeral cs then some (value cs) else none

/-- Take one sign off the front; the first component says whether it was a minus. -/
def splitSign : List Char → Bool × List Char
  | '-' :: cs => (true, cs)
  | '+' :: cs => (false, cs)
  | cs => (false, cs)

/-- A magnitude with the given sign. -/
def signed (negative : Bool) (n : Nat) : Int :=
  if negative then -(n : Int) else n

/-- Read a numeral with an optional sign. -/
def integer? (cs : List Char) : Option Int :=
  (natural? (splitSign cs).2).map (signed (splitSign cs).1)

/-- Does a signed word of 64 bits hold the integer? -/
def fitsWord (i : Int) : Bool :=
  -9223372036854775808 ≤ i && i ≤ 9223372036854775807

/-- Does an unsigned word of 64 bits hold the number? -/
def fitsUnsigned (n : Nat) : Bool :=
  n ≤ 18446744073709551615

/-- The numeral of an integer, with a minus in front of a negative one. -/
def integerText : Int → List Char
  | .ofNat n => Nat.toDigits 10 n
  | .negSucc n => '-' :: Nat.toDigits 10 (n + 1)

/-- The digits of a natural number form a numeral of it. -/
theorem natural?_toDigits (n : Nat) : natural? (Nat.toDigits 10 n) = some n := by
  have hdigits : (Nat.toDigits 10 n).all Char.isDigit = true := by
    simp only [List.all_eq_true]
    intro c hc
    exact Nat.isDigit_of_mem_toDigits (by decide) (by decide) hc
  have hne : (Nat.toDigits 10 n).isEmpty = false := by
    have := Nat.length_toDigits_pos (b := 10) (n := n)
    cases h : Nat.toDigits 10 n with
    | nil => simp [h] at this
    | cons => rfl
  simp [natural?, isNumeral, hdigits, hne, value, Nat.ofDigitChars_toDigits]

end Decimal
end HostFilter
