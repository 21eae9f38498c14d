import Mathlib.Data.List.Basic

/-!
# Telling separated items apart

Items can be written one behind the other, with a separator in front of each, up to a character
that closes the row.  If the separator does not start like the closing character, and every item
ends in front of both, the items are told from the text of the row, and so is what follows it.

Main results:

- Theorem `intercalate_cons_eq_flatMap`: items with separators between them are the first one and
  the others, each behind a separator.
- Theorem `others_append_inj`: items behind separators are told from their text if each item is
  told from its own.
-/

namespace HostFilter
namespace Text

/-- Items with separators between them are the first one and the others, each behind a
separator. -/
theorem intercalate_cons_eq_flatMap {α : Type} (separator part : List α) (parts : List (List α)) :
    separator.intercalate (part :: parts) = part ++ parts.flatMap (separator ++ ·) := by
  induction parts generalizing part with
  | nil => simp
  | cons next parts ih => simp [ih]

variable {α : Type} {Ends : List Char → Prop} {close : Char} {write : α → List Char}

/-- Two items are told apart by their texts, whatever follows that ends an item. -/
def Told (Ends : List Char → Prop) (write : α → List Char) (x y : α) : Prop :=
  ∀ ⦃r s : List Char⦄, Ends r → Ends s → write x ++ r = write y ++ s → x = y ∧ r = s

/-- The separator and the closing character both end an item, and they start differently. -/
structure Separates (Ends : List Char → Prop) (close : Char) (separator : List Char) : Prop where
  start : ∃ c cs, separator = c :: cs ∧ c ≠ close
  ends_separator : ∀ rest, Ends (separator ++ rest)
  ends_close : ∀ rest, Ends (close :: rest)

/-- Whether another item follows or none, what follows ends an item. -/
theorem Separates.ends_others {separator : List Char} (h : Separates Ends close separator)
    (write : α → List Char) (xs : List α) (rest : List Char) :
    Ends (xs.flatMap (fun x => separator ++ write x) ++ close :: rest) := by
  cases xs with
  | nil => exact h.ends_close rest
  | cons x xs =>
    rw [List.flatMap_cons, List.append_assoc, List.append_assoc]
    exact h.ends_separator _

/-- Where the row closes, no separator stands. -/
theorem Separates.close_ne {separator : List Char} (h : Separates Ends close separator)
    (rest rest' : List Char) : close :: rest ≠ separator ++ rest' := by
  rcases h.start with ⟨c, cs, rfl, hc⟩
  intro heq
  exact hc (List.head_eq_of_cons_eq heq).symm

/-- Items behind separators are told from their text up to the closing character, and if there is
an item, so is the separator. -/
theorem others_append_inj {separator separator' : List Char}
    (h : Separates Ends close separator) (h' : Separates Ends close separator')
    (htold : ∀ ⦃r s : List Char⦄, separator ++ r = separator' ++ s → separator = separator' ∧ r = s)
    {xs ys : List α} (hitems : ∀ x ∈ xs, ∀ y ∈ ys, Told Ends write x y) {r s : List Char}
    (heq : xs.flatMap (fun x => separator ++ write x) ++ close :: r =
      ys.flatMap (fun y => separator' ++ write y) ++ close :: s) :
    xs = ys ∧ r = s ∧ (xs ≠ [] → separator = separator') := by
  induction xs generalizing ys with
  | nil =>
    cases ys with
    | nil => exact ⟨rfl, List.tail_eq_of_cons_eq heq, by simp⟩
    | cons y ys =>
      rw [List.flatMap_cons, List.append_assoc, List.append_assoc] at heq
      exact absurd heq (h'.close_ne r _)
  | cons x xs ih =>
    rw [List.flatMap_cons, List.append_assoc, List.append_assoc] at heq
    cases ys with
    | nil => exact absurd heq.symm (h.close_ne s _)
    | cons y ys =>
      rw [List.flatMap_cons, List.append_assoc, List.append_assoc] at heq
      rcases htold heq with ⟨hseparator, hrow⟩
      rcases hitems x (by simp) y (by simp) (h.ends_others write xs r) (h'.ends_others write ys s)
        hrow with ⟨rfl, hrest⟩
      rcases ih (fun x' hx y' hy => hitems x' (by simp [hx]) y' (by simp [hy])) hrest with
        ⟨rfl, hrs, -⟩
      exact ⟨rfl, hrs, fun _ => hseparator⟩

end Text
end HostFilter
