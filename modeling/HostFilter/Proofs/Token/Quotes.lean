import HostFilter.Compilation
import HostFilter.Proofs.Token.Scanning

/-!
# Quotes and their partners

The scanner goes through a text from left to right, and a quote that it takes pairs with the
next one, whatever stands between them.  So it comes to an end exactly if the quotes are even in
number, wherever they stand: glued to words, to each other, or around parentheses and keywords.
If they are odd in number, all but the last one pair up, and the scan stops at the last one.

Main results:

- Theorem `exists_scanFrom_of_even`: a text with an even number of quotes is cut into tokens.
- Theorem `scanFrom_of_odd`: in a text with an odd number of quotes the last one has no partner.
- Theorem `scan_fails_iff_odd`: cutting a filter fails exactly if its quotes are odd in number,
  and the fault points at the last one.
-/

namespace HostFilter
namespace Token

/-- A text without quotes is cut into tokens. -/
theorem exists_scanFrom_of_not_mem {cs : List Char} (h : '"' ∉ cs) (offset : Nat) :
    ∃ tokens, scanFrom offset cs = .ok tokens := by
  have hstep {result : Except Nat (List Token)} {t : Token}
      (hresult : ∃ tokens, result = .ok tokens) : ∃ tokens, result.map (t :: ·) = .ok tokens := by
    rcases hresult with ⟨tokens, rfl⟩
    exact ⟨t :: tokens, rfl⟩
  fun_induction scanFrom offset cs with
  | case1 offset => exact ⟨[], rfl⟩
  | case2 offset c cs _ ih => exact ih (List.not_mem_of_not_mem_cons h)
  | case3 offset cs _ ih => exact hstep (ih (List.not_mem_of_not_mem_cons h))
  | case4 offset cs _ _ ih => exact hstep (ih (List.not_mem_of_not_mem_cons h))
  | case5 offset cs _ _ _ ih => exact hstep (ih (List.not_mem_of_not_mem_cons h))
  | case6 offset cs => exact absurd List.mem_cons_self h
  | case7 offset cs => exact absurd List.mem_cons_self h
  | case8 offset c cs =>
    rename_i ih
    refine hstep (ih fun hmem => h (List.mem_cons_of_mem c ?_))
    exact (List.dropWhile_sublist isBare).subset hmem

/-- The first quote of a text. -/
theorem exists_first_quote {cs : List Char} {n : Nat} (h : cs.count '"' = n + 1) :
    ∃ front rest, cs = front ++ '"' :: rest ∧ '"' ∉ front ∧ rest.count '"' = n := by
  have hmem : '"' ∈ cs := List.count_pos_iff.mp (by omega)
  rcases List.eq_append_cons_of_mem hmem with ⟨front, rest, rfl, hfront⟩
  rw [List.count_append, List.count_eq_zero_of_not_mem hfront, List.count_cons_self] at h
  exact ⟨front, rest, rfl, hfront, by omega⟩

/-- The last quote of a text. -/
theorem exists_last_quote {cs : List Char} {n : Nat} (h : cs.count '"' = n + 1) :
    ∃ before after, cs = before ++ '"' :: after ∧ '"' ∉ after ∧ before.count '"' = n := by
  rcases exists_first_quote (cs.count_reverse.trans h) with ⟨after, before, hcs, hafter, hbefore⟩
  refine ⟨before.reverse, after.reverse, ?_, ?_, ?_⟩
  · rw [← cs.reverse_reverse, hcs]
    simp
  · simpa using hafter
  · rw [List.count_reverse, hbefore]

/-- A text with an even number of quotes is cut into tokens. -/
theorem exists_scanFrom_of_even {cs : List Char} (h : Even (cs.count '"')) (offset : Nat) :
    ∃ tokens, scanFrom offset cs = .ok tokens := by
  rcases h with ⟨pairs, hpairs⟩
  induction pairs generalizing cs offset with
  | zero => exact exists_scanFrom_of_not_mem (List.count_eq_zero.mp hpairs) offset
  | succ pairs ih =>
    -- The first two quotes pair up, and the quotes behind them make one pair less.
    have hquotes : cs.count '"' = pairs + pairs + 1 + 1 := by omega
    rcases exists_first_quote hquotes with ⟨front, rest, rfl, hfront, hrest⟩
    rcases exists_first_quote hrest with ⟨inner, rest, rfl, hinner, hrest⟩
    rcases exists_scanFrom_of_not_mem hfront offset with ⟨tokens, hscan⟩
    rcases ih (offset + Text.byteLength front + Text.byteLength inner + 2) hrest with
      ⟨others, hothers⟩
    rw [scanFrom_append hscan (by simp [isBare]), scanFrom_quoted hinner, hothers]
    exact ⟨_, rfl⟩

/-- A quote with no other quote behind it has no partner. -/
theorem scanFrom_open {after : List Char} (hafter : '"' ∉ after) (offset : Nat) :
    scanFrom offset ('"' :: after) = .error offset := by
  have hdrop : after.dropWhile (· ≠ '"') = [] :=
    List.dropWhile_eq_nil_iff.mpr (ne_quote_of_not_mem hafter)
  rw [scanFrom, if_neg (by decide), if_neg (by decide), if_neg (by decide), if_neg (by decide),
    if_pos rfl]
  split
  · rfl
  · rename_i h
    rw [hdrop] at h
    cases h

/-- In a text with an odd number of quotes the last one has no partner. -/
theorem scanFrom_of_odd {cs : List Char} (h : Odd (cs.count '"')) (offset : Nat) :
    ∃ before after, cs = before ++ '"' :: after ∧ '"' ∉ after ∧
      scanFrom offset cs = .error (offset + Text.byteLength before) := by
  rcases h with ⟨pairs, hpairs⟩
  rcases exists_last_quote hpairs with ⟨before, after, rfl, hafter, hbefore⟩
  have heven : Even (before.count '"') := hbefore ▸ even_two_mul pairs
  rcases exists_scanFrom_of_even heven offset with ⟨tokens, hscan⟩
  refine ⟨before, after, rfl, hafter, ?_⟩
  rw [scanFrom_append hscan (by simp [isBare]), scanFrom_open hafter]
  rfl

/-- A text that is not cut into tokens has an odd number of quotes. -/
theorem odd_of_scanFrom_eq_error {cs : List Char} {offset place : Nat}
    (h : scanFrom offset cs = .error place) : Odd (cs.count '"') := by
  by_contra hodd
  rcases exists_scanFrom_of_even (Nat.not_odd_iff_even.mp hodd) offset with ⟨tokens, hscan⟩
  rw [hscan] at h
  cases h

/-- Cutting a filter into tokens fails exactly if its quotes are odd in number.  Then the filter
as a whole is refused, for a quoted word that does not end, at the byte of the last quote. -/
theorem scan_fails_iff_odd (filter : String) :
    ((∃ place, scan filter = .error place) ↔ Odd (filter.toList.count '"')) ∧
      ∀ place, scan filter = .error place →
        (∃ before after : String, filter = before ++ "\"" ++ after ∧ '"' ∉ after.toList ∧
          place = before.utf8ByteSize) ∧
        ∀ limit, ∃ fault, Formula.parse limit filter = .error (.malformed filter fault) ∧
          fault.reason = "unterminated quoted value" ∧ fault.offset? filter = some place := by
  refine ⟨⟨?_, ?_⟩, ?_⟩
  · rintro ⟨place, hplace⟩
    exact odd_of_scanFrom_eq_error hplace
  · intro hodd
    rcases scanFrom_of_odd hodd 0 with ⟨before, after, _, _, hscan⟩
    exact ⟨_, hscan⟩
  · intro place hplace
    refine ⟨?_, fun limit => ⟨.openQuote place, by rw [Formula.parse, hplace], rfl, rfl⟩⟩
    rcases scanFrom_of_odd (odd_of_scanFrom_eq_error hplace) 0 with
      ⟨before, after, hfilter, hafter, hscan⟩
    rw [scan, hscan] at hplace
    refine ⟨String.ofList before, String.ofList after, ?_, by simpa using hafter, ?_⟩
    · apply String.toList_injective
      rw [hfilter]
      simp
    · rw [Text.utf8ByteSize_ofList, ← Except.error.inj hplace, Nat.zero_add]

/-- Two of the three quotes pair up around a blank; the third one is glued to a keyword and
swallows a parenthesis, and stands behind a letter of two bytes. -/
theorem scan_fails_iff_odd_glued :
    Odd ("é=\"a b\"or\"x)".toList.count '"') ∧
      (∃ before after : String, "é=\"a b\"or\"x)" = before ++ "\"" ++ after ∧
        '"' ∉ after.toList ∧ 10 = before.utf8ByteSize) ∧
      ∃ fault, Formula.parse none "é=\"a b\"or\"x)" =
          .error (.malformed "é=\"a b\"or\"x)" fault) ∧
        fault.reason = "unterminated quoted value" ∧
          fault.offset? "é=\"a b\"or\"x)" = some 10 := by
  have hscan : scan "é=\"a b\"or\"x)" = .error 10 := by
    cbv
  rcases scan_fails_iff_odd "é=\"a b\"or\"x)" with ⟨hiff, hplace⟩
  exact ⟨hiff.mp ⟨10, hscan⟩, (hplace 10 hscan).1, (hplace 10 hscan).2 none⟩

end Token
end HostFilter
