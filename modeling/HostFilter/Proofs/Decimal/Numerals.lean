import HostFilter.Decimal.Numeral
import HostFilter.Scalar

/-!
# Numerals of integers

The numeral of an integer is made of digits behind at most one minus, and it reads back as
the integer.  So no two integers have one numeral, and no numeral is a word of another kind.

Main results:

- Theorem `integer?_integerText`: the numeral of an integer reads back as it.
- Theorem `Scalar.ofText_integerText`: as a word, the numeral of an integer of 64 bits spells
  this integer.
-/

namespace HostFilter
namespace Decimal

/-- The digits of a natural number are digits. -/
theorem isDigit_of_mem_toDigits {n : Nat} {c : Char} (hc : c ∈ Nat.toDigits 10 n) :
    c.isDigit = true :=
  Nat.isDigit_of_mem_toDigits (by decide) (by decide) hc

/-- A natural number has a first digit. -/
theorem exists_toDigits_eq_cons (n : Nat) :
    ∃ c cs, Nat.toDigits 10 n = c :: cs ∧ c.isDigit = true := by
  cases h : Nat.toDigits 10 n with
  | nil =>
    have hlength := @Nat.length_toDigits_pos 10 n
    simp [h] at hlength
  | cons c cs => exact ⟨c, cs, rfl, isDigit_of_mem_toDigits (by rw [h]; exact List.mem_cons_self)⟩

/-- A numeral is made of digits and minuses. -/
theorem isDigit_or_minus_of_mem_integerText {i : Int} {c : Char} (hc : c ∈ integerText i) :
    (c.isDigit || c = '-') = true := by
  cases i with
  | ofNat n => simp [isDigit_of_mem_toDigits hc]
  | negSucc n =>
    rcases List.mem_cons.mp hc with rfl | hc
    · rfl
    · simp [isDigit_of_mem_toDigits hc]

/-- A numeral starts with a digit or a minus. -/
theorem exists_integerText_eq_cons (i : Int) :
    ∃ c cs, integerText i = c :: cs ∧ (c.isDigit || c = '-') = true := by
  cases i with
  | ofNat n =>
    rcases exists_toDigits_eq_cons n with ⟨c, cs, hcons, hc⟩
    exact ⟨c, cs, hcons, by simp [hc]⟩
  | negSucc n => exact ⟨'-', _, rfl, rfl⟩

/-- Digits carry no sign. -/
theorem splitSign_toDigits (n : Nat) :
    splitSign (Nat.toDigits 10 n) = (false, Nat.toDigits 10 n) := by
  rcases exists_toDigits_eq_cons n with ⟨c, cs, hcons, hc⟩
  rw [hcons, splitSign]
  · rintro cs' ⟨⟩
    exact absurd hc (by decide)
  · rintro cs' ⟨⟩
    exact absurd hc (by decide)

/-- The numeral of an integer reads back as it. -/
theorem integer?_integerText (i : Int) : integer? (integerText i) = some i := by
  cases i with
  | ofNat n =>
    rw [integerText, integer?, splitSign_toDigits, natural?_toDigits]
    rfl
  | negSucc n =>
    rw [integerText, integer?, splitSign, natural?_toDigits]
    rfl

end Decimal

/-- The numeral of an integer of 64 bits spells this integer. -/
theorem Scalar.ofText_integerText {i : Int} (hi : Decimal.fitsWord i = true) :
    ofText (String.ofList (Decimal.integerText i)) = .int i := by
  have hnoword (word : String) (hword : Decimal.integer? word.toList = none) :
      String.ofList (Decimal.integerText i) ≠ word := by
    rintro rfl
    rw [String.toList_ofList, Decimal.integer?_integerText] at hword
    cases hword
  have htrue := hnoword "true" (by decide)
  have hfalse := hnoword "false" (by decide)
  simp [ofText, htrue, hfalse, Decimal.integer?_integerText, hi]

end HostFilter
