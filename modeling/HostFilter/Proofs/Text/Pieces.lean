import HostFilter.Text.Affix
import Mathlib.Data.List.Infix
import Mathlib.Tactic.SplitIfs

/-!
# Affixes and pieces of a text

Removing a beginning or an end of a text undoes putting it there.  Cutting a text at a separator
that is not empty is cutting it at the leftmost occurrence, then the rest in the same way, until
the separator occurs no more; a separator may overlap itself, and then only the leftmost of two
overlapping occurrences counts.  The pieces with the separator between them are the text again.

Main results:

- Theorem `after?_eq_some_iff`, `before?_eq_some_iff`: what follows a beginning, and what
  precedes an end.
- Theorem `splitsInto_iff`: a text is split, leftmost first, into its pieces and nothing else.
- Theorem `intercalate_pieces`: the pieces with the separator between them are the text.
-/

namespace HostFilter
namespace Text

/-! ## Beginnings and ends -/

theorem after?_eq_some_iff {front text rest : String} :
    after? front text = some rest ↔ text = front ++ rest := by
  simp only [after?, Option.map_eq_some_iff, dropFront?_eq_some_iff]
  constructor
  · rintro ⟨cs, hcs, rfl⟩
    exact String.toList_injective (by simp [hcs])
  · rintro rfl
    exact ⟨rest.toList, by simp, by simp⟩

theorem before?_eq_some_iff {back text rest : String} :
    before? back text = some rest ↔ text = rest ++ back := by
  simp only [before?, Option.map_eq_some_iff, dropBack?_eq_some_iff]
  constructor
  · rintro ⟨cs, hcs, rfl⟩
    exact String.toList_injective (by simp [hcs])
  · rintro rfl
    exact ⟨rest.toList, by simp, by simp⟩

/-! ## Leftmost occurrences -/

/-- No occurrence of the separator in `front ++ separator ++ rest` lies further left than the
one in front of `rest`. -/
def IsLeftmost (separator front rest : List Char) : Prop :=
  ∀ front' rest' : List Char, front ++ separator ++ rest = front' ++ separator ++ rest' →
    front.length ≤ front'.length

/-- The characters are split at the separator, leftmost first. -/
inductive Splits (separator : List Char) : List Char → List (List Char) → Prop where
  /-- Where the separator does not occur, nothing is split. -/
  | whole {cs : List Char} (hnone : ¬ separator <:+: cs) : Splits separator cs [cs]
  /-- Else what stands in front of the leftmost occurrence is the first piece. -/
  | more {front rest : List Char} {parts : List (List Char)}
      (hleft : IsLeftmost separator front rest) (hrest : Splits separator rest parts) :
      Splits separator (front ++ separator ++ rest) (front :: parts)

/-- The leftmost occurrence is one. -/
theorem IsLeftmost.unique {separator front rest front' rest' : List Char}
    (h : IsLeftmost separator front rest) (h' : IsLeftmost separator front' rest')
    (heq : front ++ separator ++ rest = front' ++ separator ++ rest') :
    front = front' ∧ rest = rest' := by
  have hlength : front.length = front'.length :=
    Nat.le_antisymm (h front' rest' heq) (h' front rest heq.symm)
  rw [List.append_assoc, List.append_assoc] at heq
  rcases List.append_inj heq hlength with ⟨hfront, hrest⟩
  exact ⟨hfront, List.append_cancel_left hrest⟩

/-- Characters are split in one way. -/
theorem Splits.unique {separator cs : List Char} {parts parts' : List (List Char)}
    (h : Splits separator cs parts) (h' : Splits separator cs parts') : parts = parts' := by
  induction h generalizing parts' with
  | whole hnone =>
    cases h' with
    | whole => rfl
    | more => exact absurd (List.infix_append _ _ _) hnone
  | @more front rest parts hleft _ ih =>
    generalize hcs : front ++ separator ++ rest = cs at h'
    cases h' with
    | whole hnone => exact absurd (hcs ▸ List.infix_append _ _ _) hnone
    | more hleft' hrest' =>
      rcases hleft.unique hleft' hcs with ⟨rfl, rfl⟩
      rw [ih hrest']

/-- The pieces with the separator between them are what was split. -/
theorem Splits.intercalate_eq {separator cs : List Char} {parts : List (List Char)}
    (h : Splits separator cs parts) : separator.intercalate parts = cs := by
  induction h with
  | whole => simp
  | @more front rest parts _ hrest ih =>
    cases hrest with
    | whole => simp
    | more =>
      rw [List.intercalate_cons_cons, ih]

/-- Put in front of a split text, a character that begins no occurrence of the separator goes to
the first piece. -/
theorem Splits.growFirst {separator : List Char} {c : Char} {cs : List Char}
    {parts : List (List Char)} (hc : ¬ separator <+: c :: cs) (h : Splits separator cs parts) :
    Splits separator (c :: cs) (growFirst c parts) := by
  cases h with
  | whole hnone =>
    refine .whole fun hinfix => ?_
    rcases List.infix_cons_iff.mp hinfix with hprefix | hinfix
    · exact hc hprefix
    · exact hnone hinfix
  | @more front rest parts hleft hrest =>
    have hgrown : IsLeftmost separator (c :: front) rest := by
      intro front' rest' heq
      cases front' with
      | nil =>
        refine absurd ?_ hc
        rw [← List.cons_append, ← List.cons_append, heq, List.nil_append]
        exact List.prefix_append _ _
      | cons c' front' =>
        have htail : front ++ separator ++ rest = front' ++ separator ++ rest' := by
          simpa using (List.cons.inj heq).2
        simpa using hleft front' rest' htail
    exact .more hgrown hrest

/-- Cutting splits leftmost first. -/
theorem splits_cutAt (s : Char) (ss cs : List Char) : Splits (s :: ss) cs (cutAt s ss cs) := by
  fun_induction cutAt s ss cs with
  | case1 => exact .whole (by simp)
  | case2 c cs rest hdrop ih =>
    rw [dropFront?_eq_some_iff.mp hdrop]
    have hleft : IsLeftmost (s :: ss) [] rest := fun front' _ _ => Nat.zero_le front'.length
    exact .more hleft ih
  | case3 c cs hdrop ih =>
    refine ih.growFirst ?_
    rintro ⟨rest, hrest⟩
    rw [dropFront?_eq_some_iff.mpr hrest.symm] at hdrop
    cases hdrop

/-! ## Pieces -/

/-- The text is split into the segments at the separator, leftmost first. -/
def SplitsInto (separator text : String) (segments : List String) : Prop :=
  Splits separator.toList text.toList (segments.map String.toList)

/-- At a separator that is not empty, a text is split into its pieces and nothing else. -/
theorem splitsInto_iff {separator text : String} (hne : separator ≠ "") {segments : List String} :
    SplitsInto separator text segments ↔ segments = pieces separator text := by
  have hpieces : SplitsInto separator text (pieces separator text) := by
    unfold SplitsInto pieces cut
    split
    · rename_i hnil
      exact absurd (String.toList_eq_nil_iff.mp hnil) hne
    · rename_i s ss hcons
      simpa [hcons, Function.comp_def] using splits_cutAt s ss text.toList
  constructor
  · intro h
    have htoList : Function.Injective String.toList := fun _ _ => String.toList_injective
    exact htoList.list_map (h.unique hpieces)
  · rintro rfl
    exact hpieces

/-- With nothing between them, parts are strung together. -/
theorem intercalate_empty (parts : List (List Char)) :
    ([] : List Char).intercalate parts = parts.flatten := by
  induction parts with
  | nil => rfl
  | cons part parts ih =>
    cases parts with
    | nil => simp
    | cons next parts =>
      rw [List.intercalate_cons_cons, ih, List.append_nil]
      rfl

/-- The pieces of a text with the separator between them are the text, also if the separator is
empty. -/
theorem intercalate_pieces (separator text : String) :
    separator.intercalate (pieces separator text) = text := by
  apply String.toList_injective
  rw [String.toList_intercalate]
  by_cases hempty : separator = ""
  · simp [hempty, pieces, cut, intercalate_empty, Function.comp_def, ← List.flatMap_def]
  · have hsplits : SplitsInto separator text (pieces separator text) :=
      (splitsInto_iff hempty).mpr rfl
    exact hsplits.intercalate_eq

end Text
end HostFilter
