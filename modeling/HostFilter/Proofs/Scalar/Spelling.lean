import HostFilter.Proofs.Condition.Source
import HostFilter.Proofs.Decimal.Spelling

/-!
# What a text spells as a scalar

A text is a boolean, an integer of 64 bits or a finite double if it is spelled like one, and
itself in every other case.  The cases exclude each other, so the order in which they are tried
does not show, and nothing is lost: an integer that is too large, be it by one, or a decimal
beyond the doubles stays the text that it was.  A scalar other than a double is spelled by its
own plain text.

Main results:

- Theorem `ofText_eq_iff`: a text gives exactly the scalar that it spells.
- Theorem `Spelled.exists_plainText?`: what a text spells, unless it is a double, is spelled by
  its plain text again.
- Theorem `ofText_exact`: when a text is a boolean, an integer, a double or text.
-/

namespace HostFilter

/-- A signed word of 64 bits holds the integers from `-2 ^ 63` to `2 ^ 63 - 1`. -/
theorem Decimal.fitsWord_iff {i : Int} :
    Decimal.fitsWord i = true ↔ -2 ^ 63 ≤ i ∧ i ≤ 2 ^ 63 - 1 := by
  norm_num [Decimal.fitsWord]

namespace Scalar

open Decimal (SpellsInteger SpellsDecimal)

/-- The scalar that a text spells.  Each case says on its own when it applies, and text is what
applies if no other case does. -/
inductive Spelled (text : String) : Scalar → Prop where
  | bool {b : Bool} (h : text = if b then "true" else "false") : Spelled text (.bool b)
  | int {i : Int} (h : SpellsInteger text.toList i) (hfits : -2 ^ 63 ≤ i ∧ i ≤ 2 ^ 63 - 1) :
      Spelled text (.int i)
  | float {l : Decimal.Literal} (h : SpellsDecimal text.toList l)
      (hfinite : l.toFloat.isFinite = true) : Spelled text (.float l.toFloat)
  | text (hbool : ∀ b : Bool, text ≠ if b then "true" else "false")
      (hint : ∀ i, SpellsInteger text.toList i → ¬ (-2 ^ 63 ≤ i ∧ i ≤ 2 ^ 63 - 1))
      (hfloat : ∀ l, SpellsDecimal text.toList l → l.toFloat.isFinite = false) :
      Spelled text (.text text)

/-- A text gives a scalar that it spells. -/
theorem spelled_ofText (text : String) : Spelled text (ofText text) := by
  unfold ofText
  split_ifs with htrue hfalse
  · exact .bool htrue
  · exact .bool hfalse
  · have hbool : ∀ b : Bool, text ≠ if b then "true" else "false" := by
      intro b
      cases b with
      | true => exact htrue
      | false => exact hfalse
    split
    · rename_i i hi
      have hinteger := Decimal.integer?_eq_some_iff.mp hi
      split_ifs with hfits
      · exact .int hinteger (Decimal.fitsWord_iff.mp hfits)
      · refine .text hbool ?_ ?_
        · intro k hk hkfits
          rw [Decimal.integer?_eq_some_iff.mpr hk] at hi
          exact hfits (Decimal.fitsWord_iff.mpr (Option.some.inj hi ▸ hkfits))
        · intro l hl
          rw [hl.integer?_eq_none] at hi
          cases hi
    · rename_i hnone
      have hint : ∀ i, SpellsInteger text.toList i → ¬ (-2 ^ 63 ≤ i ∧ i ≤ 2 ^ 63 - 1) := by
        intro i hi
        rw [Decimal.integer?_eq_some_iff.mpr hi] at hnone
        cases hnone
      split
      · rename_i l hl
        split_ifs with hfinite
        · exact .float (Decimal.fixedPoint?_eq_some_iff.mp hl) hfinite
        · refine .text hbool hint ?_
          intro k hk
          rw [Decimal.fixedPoint?_eq_some_iff.mpr hk] at hl
          rw [Option.some.inj hl]
          exact Bool.eq_false_iff.mpr hfinite
      · rename_i hnone'
        refine .text hbool hint ?_
        intro l hl
        rw [Decimal.fixedPoint?_eq_some_iff.mpr hl] at hnone'
        cases hnone'

/-- What spells an integer or a decimal is no boolean. -/
theorem ne_of_spells {text : String}
    (h : (∃ i, SpellsInteger text.toList i) ∨ ∃ l, SpellsDecimal text.toList l) :
    text ≠ "true" ∧ text ≠ "false" := by
  have hnumber : Decimal.integer? text.toList ≠ none ∨
      Decimal.Literal.fixedPoint? text.toList ≠ none := by
    rcases h with ⟨i, hi⟩ | ⟨l, hl⟩
    · exact .inl (by simp [Decimal.integer?_eq_some_iff.mpr hi])
    · exact .inr (by simp [Decimal.fixedPoint?_eq_some_iff.mpr hl])
  constructor
  · rintro rfl
    rcases hnumber with hnumber | hnumber <;> exact hnumber rfl
  · rintro rfl
    rcases hnumber with hnumber | hnumber <;> exact hnumber rfl

/-- A text gives every scalar that it spells. -/
theorem Spelled.ofText_eq {text : String} {x : Scalar} (h : Spelled text x) :
    ofText text = x := by
  cases h with
  | @bool b h =>
    subst h
    cases b <;> rfl
  | int h hfits =>
    rcases ne_of_spells (.inl ⟨_, h⟩) with ⟨htrue, hfalse⟩
    rw [ofText, if_neg htrue, if_neg hfalse, Decimal.integer?_eq_some_iff.mpr h]
    exact if_pos (Decimal.fitsWord_iff.mpr hfits)
  | float h hfinite =>
    rcases ne_of_spells (.inr ⟨_, h⟩) with ⟨htrue, hfalse⟩
    rw [ofText, if_neg htrue, if_neg hfalse, h.integer?_eq_none,
      Decimal.fixedPoint?_eq_some_iff.mpr h]
    exact if_pos hfinite
  | text hbool hint hfloat =>
    -- The text spells what it gives, and here that can only be text.
    have hspelled := spelled_ofText text
    generalize ofText text = x at hspelled
    cases hspelled with
    | bool h => exact absurd h (hbool _)
    | int h hfits => exact absurd hfits (hint _ h)
    | float h hfinite => exact absurd hfinite (by simp [hfloat _ h])
    | text => rfl

/-- A text gives exactly the scalar that it spells. -/
theorem ofText_eq_iff {text : String} {x : Scalar} : ofText text = x ↔ Spelled text x := by
  constructor
  · rintro rfl
    exact spelled_ofText text
  · exact Spelled.ofText_eq

/-- A text is an integer exactly if it spells one of 64 bits. -/
theorem ofText_eq_int_iff {text : String} {i : Int} :
    ofText text = .int i ↔ SpellsInteger text.toList i ∧ -2 ^ 63 ≤ i ∧ i ≤ 2 ^ 63 - 1 := by
  rw [ofText_eq_iff]
  constructor
  · intro h
    cases h with
    | int h hfits => exact ⟨h, hfits⟩
  · rintro ⟨h, hfits⟩
    exact .int h hfits

/-- A text is a double exactly if it spells a decimal for which there is a finite one. -/
theorem ofText_eq_float_iff {text : String} {y : Float} :
    ofText text = .float y ↔
      ∃ l, SpellsDecimal text.toList l ∧ l.toFloat.isFinite = true ∧ l.toFloat = y := by
  rw [ofText_eq_iff]
  constructor
  · intro h
    cases h with
    | float h hfinite => exact ⟨_, h, hfinite, rfl⟩
  · rintro ⟨l, h, hfinite, rfl⟩
    exact .float h hfinite

/-- A text is a boolean exactly if it is the word for it. -/
theorem ofText_eq_bool_iff {text : String} {b : Bool} :
    ofText text = .bool b ↔ text = if b then "true" else "false" := by
  rw [ofText_eq_iff]
  constructor
  · intro h
    cases h with
    | bool h => exact h
  · exact .bool

/-- A text stays text exactly if it spells nothing else, and then it is kept as it is. -/
theorem ofText_eq_text_iff {text s : String} :
    ofText text = .text s ↔ s = text ∧
      (∀ b : Bool, text ≠ if b then "true" else "false") ∧
      (∀ i, SpellsInteger text.toList i → ¬ (-2 ^ 63 ≤ i ∧ i ≤ 2 ^ 63 - 1)) ∧
      ∀ l, SpellsDecimal text.toList l → l.toFloat.isFinite = false := by
  rw [ofText_eq_iff]
  constructor
  · intro h
    cases h with
    | text hbool hint hfloat => exact ⟨rfl, hbool, hint, hfloat⟩
  · rintro ⟨rfl, hbool, hint, hfloat⟩
    exact .text hbool hint hfloat

/-- What a text spells, unless it is a double, is spelled by its plain text again. -/
theorem Spelled.exists_plainText? {text : String} {x : Scalar} (h : Spelled text x)
    (hx : ∀ y, x ≠ .float y) : ∃ plain, x.plainText? = some plain ∧ ofText plain = x := by
  cases h with
  | @bool b h =>
    cases b with
    | true => exact ⟨"true", rfl, rfl⟩
    | false => exact ⟨"false", rfl, rfl⟩
  | int h hfits => exact ⟨_, rfl, ofText_integerText (Decimal.fitsWord_iff.mpr hfits)⟩
  | float h hfinite => exact absurd rfl (hx _)
  | text hbool hint hfloat => exact ⟨text, rfl, Spelled.ofText_eq (.text hbool hint hfloat)⟩

/-- When a text is an integer, a double, a boolean or text.  Integers are told from text exactly
at the ends of 64 bits, whatever the number of digits, and decimals where doubles end; and what is
no double is spelled by its plain text again. -/
theorem ofText_exact (text : String) :
    (∀ i, ofText text = .int i ↔
        SpellsInteger text.toList i ∧ -2 ^ 63 ≤ i ∧ i ≤ 2 ^ 63 - 1) ∧
      (∀ y, ofText text = .float y ↔
        ∃ l, SpellsDecimal text.toList l ∧ l.toFloat.isFinite = true ∧ l.toFloat = y) ∧
      (∀ b : Bool, ofText text = .bool b ↔ text = if b then "true" else "false") ∧
      (∀ s, ofText text = .text s ↔ s = text ∧
        (∀ b : Bool, text ≠ if b then "true" else "false") ∧
        (∀ i, SpellsInteger text.toList i → ¬ (-2 ^ 63 ≤ i ∧ i ≤ 2 ^ 63 - 1)) ∧
        ∀ l, SpellsDecimal text.toList l → l.toFloat.isFinite = false) ∧
      ∀ x, ofText text = x → (∀ y, x ≠ .float y) →
        ∃ plain, x.plainText? = some plain ∧ ofText plain = x := by
  refine ⟨fun i => ofText_eq_int_iff, fun y => ofText_eq_float_iff, fun b => ofText_eq_bool_iff,
    fun s => ofText_eq_text_iff, ?_⟩
  intro x h hx
  exact (ofText_eq_iff.mp h).exists_plainText? hx

/-- The least integer of 64 bits is read behind leading zeros and comes back from its numeral;
the one below it is spelled, but stays text. -/
theorem ofText_exact_least :
    ofText "-009223372036854775808" = .int (-2 ^ 63) ∧
      (∃ plain, (Scalar.int (-2 ^ 63)).plainText? = some plain ∧
        ofText plain = .int (-2 ^ 63)) ∧
      SpellsInteger "-9223372036854775809".toList (-2 ^ 63 - 1) ∧
      ofText "-9223372036854775809" = .text "-9223372036854775809" := by
  have hleast : SpellsInteger "-009223372036854775808".toList (-2 ^ 63) :=
    Decimal.integer?_eq_some_iff.mp (by cbv)
  have hread : ofText "-009223372036854775808" = .int (-2 ^ 63) :=
    ((ofText_exact "-009223372036854775808").1 _).mpr ⟨hleast, by norm_num, by norm_num⟩
  have hbelow : SpellsInteger "-9223372036854775809".toList (-2 ^ 63 - 1) :=
    Decimal.integer?_eq_some_iff.mp (by cbv)
  refine ⟨hread, (ofText_exact _).2.2.2.2 _ hread (by simp), hbelow, ?_⟩
  cbv

end Scalar
end HostFilter
