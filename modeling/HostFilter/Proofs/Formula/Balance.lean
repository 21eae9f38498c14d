import HostFilter.Proofs.Formula.Progress

/-!
# The shape of a phrase

Whatever formula a phrase spells, its parentheses are balanced, and it is at least as long as
a clause: a key, an equals sign and a value.

Main results:

- Theorem `Formula.Derives.three_le_length`: a phrase has three lexemes or more.
- Theorem `Formula.Derives.balanced`: the parentheses of a phrase are balanced.
-/

namespace HostFilter

/-- The parentheses of the lexemes are balanced: read from the left, no more are closed than
were opened, and in the end all are. -/
structure Lexeme.Balanced (ls : List Lexeme) : Prop where
  closing_le : ∀ front, front <+: ls → front.count .closing ≤ front.count .opening
  closing_eq : ls.count .closing = ls.count .opening

namespace Lexeme

variable {ls ms : List Lexeme}

/-- Without parentheses there is nothing to balance. -/
theorem balanced_of_not_mem (hopening : .opening ∉ ls) (hclosing : .closing ∉ ls) :
    Balanced ls where
  closing_le := by
    intro front hfront
    have hnone : .closing ∉ front := fun hmem => hclosing (hfront.subset hmem)
    rw [List.count_eq_zero_of_not_mem hnone]
    exact Nat.zero_le _
  closing_eq := by
    rw [List.count_eq_zero_of_not_mem hopening, List.count_eq_zero_of_not_mem hclosing]

namespace Balanced

/-- Balanced lists in a row are balanced. -/
theorem append (hls : Balanced ls) (hms : Balanced ms) : Balanced (ls ++ ms) where
  closing_le := by
    intro front hfront
    rcases List.prefix_or_prefix_of_prefix hfront (List.prefix_append ls ms) with hshort | hlong
    · exact hls.closing_le front hshort
    · rcases hlong with ⟨back, rfl⟩
      have hback := hms.closing_le back ((List.prefix_append_right_inj ls).mp hfront)
      rw [List.count_append, List.count_append, hls.closing_eq]
      exact Nat.add_le_add_left hback _
  closing_eq := by
    rw [List.count_append, List.count_append, hls.closing_eq, hms.closing_eq]

/-- Parentheses around a balanced list are balanced. -/
theorem parens (hls : Balanced ls) : Balanced (.opening :: ls ++ [.closing]) where
  closing_le := by
    intro front hfront
    rcases List.prefix_concat_iff.mp hfront with rfl | hinner
    · simp [hls.closing_eq]
    · rcases List.prefix_cons_iff.mp hinner with rfl | ⟨front', rfl, hfront'⟩
      · simp
      · have hinside := hls.closing_le front' hfront'
        rw [List.count_cons_self, List.count_cons_of_ne (by simp)]
        omega
  closing_eq := by simp [hls.closing_eq]

end Balanced
end Lexeme

namespace Formula

open Lexeme

/-- Balanced operands behind keywords are balanced. -/
theorem balanced_joined {op : Connective} {others : List Phrase}
    (h : ∀ p ∈ others, Balanced p.1) : Balanced (joined op others) := by
  induction others with
  | nil => exact balanced_of_not_mem (by simp) (by simp)
  | cons p others ih =>
    rcases List.forall_mem_cons.mp h with ⟨hp, hothers⟩
    have hkeyword : Balanced [.keyword op] := balanced_of_not_mem (by simp) (by simp)
    rw [joined_cons]
    exact hkeyword.append (hp.append (ih hothers))

/-- The parentheses of a phrase are balanced. -/
theorem Derives.balanced {tier : Tier} {ls : List Lexeme} {f : Formula} (h : Derives tier ls f) :
    Balanced ls := by
  induction h with
  | @clause k v key value hkey _ hvalue =>
    have hk := not_mem_of_asWord? hkey
    have hv := not_mem_of_asWord? hvalue
    simp only [List.mem_cons, not_or] at hk hv
    exact balanced_of_not_mem (by simp [hk, hv, eq_comm]) (by simp [hk, hv, eq_comm])
  | parens _ ih => exact ih.parens
  | single _ ih => exact ih
  | group _ _ _ ihfirst ihrest => exact ihfirst.append (balanced_joined ihrest)

/-- A phrase has three lexemes or more. -/
theorem Derives.three_le_length {tier : Tier} {ls : List Lexeme} {f : Formula}
    (h : Derives tier ls f) : 3 ≤ ls.length := by
  induction h with
  | clause => simp
  | parens _ ih =>
    rw [List.length_append, List.length_cons]
    omega
  | single _ ih => exact ih
  | group _ _ _ ihfirst _ =>
    rw [List.length_append]
    omega

end Formula
end HostFilter
