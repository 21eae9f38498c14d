import HostFilter.Decimal.Literal
import HostFilter.Proofs.Token.Layout
import Mathlib

/-!
# How numbers are spelled

An integer is spelled by one digit or more behind an optional sign, and a decimal by digits on
both sides of a point.  Neither has a longest spelling, for leading zeros are digits.  The
spellings are said here without their readers: a text is taken apart at its sign and its point,
and a digit counts by its place.  The readers find exactly these spellings, and no text is
spelled in both ways.

Main results:

- Theorem `value_eq_placeValue`: reading digits one by one adds them up by their places.
- Theorem `integer?_eq_some_iff`: an integer is read exactly if the text spells it.
- Theorem `fixedPoint?_eq_some_iff`: so is a decimal.
- Theorem `SpellsDecimal.integer?_eq_none`: a decimal is no integer.
-/

namespace HostFilter
namespace Decimal

/-! ## Spellings -/

/-- The number that digits denote by their places: a digit counts ten times as much for each
digit behind it. -/
def placeValue : List Char → Nat
  | [] => 0
  | c :: cs => (c.toNat - '0'.toNat) * 10 ^ cs.length + placeValue cs

/-- One ASCII digit or more. -/
def IsDigits (cs : List Char) : Prop :=
  cs ≠ [] ∧ ∀ c ∈ cs, c.isDigit = true

/-- The ways to put a sign in front of a text, or none; with whether it is a minus. -/
inductive WithSign : List Char → Bool → List Char → Prop where
  | none (body : List Char) : WithSign body false body
  | plus (body : List Char) : WithSign ('+' :: body) false body
  | minus (body : List Char) : WithSign ('-' :: body) true body

/-- The text is an optional sign and digits, and the integer is what they denote. -/
def SpellsInteger (cs : List Char) (i : Int) : Prop :=
  ∃ negative digits, WithSign cs negative digits ∧ IsDigits digits ∧
    i = signed negative (placeValue digits)

/-- The text is an optional sign and digits on both sides of a point, and the literal is what
they denote: all the digits, in units of the last place. -/
def SpellsDecimal (cs : List Char) (l : Literal) : Prop :=
  ∃ negative whole fraction, WithSign cs negative (whole ++ '.' :: fraction) ∧ IsDigits whole ∧
    IsDigits fraction ∧ l = ⟨negative, placeValue (whole ++ fraction), -fraction.length⟩

/-! ## Signs and digits -/

/-- Reading digits one by one adds them up by their places. -/
theorem value_eq_placeValue (digits : List Char) : value digits = placeValue digits := by
  unfold value
  induction digits with
  | nil => rfl
  | cons c cs ih =>
    rw [Nat.ofDigitChars_cons, Nat.ofDigitChars_eq_ofDigitChars_zero, ih, placeValue]
    ring

theorem isNumeral_iff {cs : List Char} : isNumeral cs = true ↔ IsDigits cs := by
  simp [isNumeral, IsDigits]

/-- Digits start with a digit. -/
theorem IsDigits.head {cs : List Char} (h : IsDigits cs) (rest : List Char) :
    ∀ c ∈ (cs ++ rest).head?, c.isDigit = true := by
  rcases h with ⟨hne, hdigits⟩
  rcases List.exists_cons_of_ne_nil hne with ⟨c, cs, rfl⟩
  simpa using hdigits c List.mem_cons_self

/-- A text is what is left behind its sign, with the sign. -/
theorem withSign_splitSign (cs : List Char) : WithSign cs (splitSign cs).1 (splitSign cs).2 := by
  unfold splitSign
  split
  · exact .minus _
  · exact .plus _
  · exact .none _

/-- A sign in front of a digit is the sign of the text. -/
theorem WithSign.splitSign_eq {cs body : List Char} {negative : Bool}
    (h : WithSign cs negative body) (hbody : ∀ c ∈ body.head?, c.isDigit = true) :
    splitSign cs = (negative, body) := by
  cases h with
  | plus => rfl
  | minus => rfl
  | none =>
    rw [splitSign]
    · rintro rest rfl
      exact absurd (hbody '-' rfl) (by decide)
    · rintro rest rfl
      exact absurd (hbody '+' rfl) (by decide)

/-! ## Readers -/

/-- An integer is read exactly if the text spells it. -/
theorem integer?_eq_some_iff {cs : List Char} {i : Int} :
    integer? cs = some i ↔ SpellsInteger cs i := by
  constructor
  · intro h
    rcases Option.map_eq_some_iff.mp h with ⟨n, hn, rfl⟩
    rw [natural?, Option.ite_none_right_eq_some] at hn
    rcases hn with ⟨hnumeral, hvalue⟩
    refine ⟨_, _, withSign_splitSign cs, isNumeral_iff.mp hnumeral, ?_⟩
    rw [← value_eq_placeValue, Option.some.inj hvalue]
  · rintro ⟨negative, digits, hsign, hdigits, rfl⟩
    have hhead := hdigits.head []
    rw [List.append_nil] at hhead
    rw [integer?, hsign.splitSign_eq hhead, natural?, if_pos (isNumeral_iff.mpr hdigits),
      value_eq_placeValue]
    rfl

/-- A decimal is read exactly if the text spells it. -/
theorem fixedPoint?_eq_some_iff {cs : List Char} {l : Literal} :
    Literal.fixedPoint? cs = some l ↔ SpellsDecimal cs l := by
  constructor
  · intro h
    simp only [Literal.fixedPoint?] at h
    split at h
    · rename_i fraction hdrop
      rw [Option.ite_none_right_eq_some, Bool.and_eq_true, isNumeral_iff, isNumeral_iff] at h
      rcases h with ⟨⟨hwhole, hfraction⟩, hl⟩
      have hbody : (splitSign cs).2.takeWhile Char.isDigit ++ '.' :: fraction =
          (splitSign cs).2 := by
        rw [← hdrop, List.takeWhile_append_dropWhile]
      have hsign := withSign_splitSign cs
      rw [← hbody] at hsign
      refine ⟨_, _, _, hsign, hwhole, hfraction, ?_⟩
      rw [← Option.some.inj hl, Literal.ofParts, value_eq_placeValue, zero_sub]
    · cases h
  · rintro ⟨negative, whole, fraction, hsign, hwhole, hfraction, rfl⟩
    have hpoint : ∀ c ∈ ('.' :: fraction).head?, c.isDigit = false := by
      simp
    rcases takeWhile_append_of_head hwhole.2 hpoint with ⟨htake, hdrop⟩
    simp only [Literal.fixedPoint?, hsign.splitSign_eq (hwhole.head _), htake, hdrop,
      isNumeral_iff.mpr hwhole, isNumeral_iff.mpr hfraction, Bool.and_self, if_true]
    rw [Literal.ofParts, value_eq_placeValue, zero_sub]

/-- A decimal is no integer: a point is no digit. -/
theorem SpellsDecimal.integer?_eq_none {cs : List Char} {l : Literal} (h : SpellsDecimal cs l) :
    integer? cs = none := by
  rcases h with ⟨negative, whole, fraction, hsign, hwhole, _, _⟩
  have hpoint : isNumeral (whole ++ '.' :: fraction) = false := by
    simp [isNumeral]
  rw [integer?, hsign.splitSign_eq (hwhole.head _), natural?, hpoint]
  rfl

end Decimal
end HostFilter
