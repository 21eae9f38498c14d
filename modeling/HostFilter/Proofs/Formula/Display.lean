import HostFilter.Proofs.Compilation.Order
import HostFilter.Proofs.Text.Separated

/-!
# Telling formulas apart by their display

For display a formula is written with `AND` and `OR` between the members of a group, and these
are bare words that a clause may hold as well: `(AND=OR AND OR=AND)`.  Still a text shows one
formula only.  A word ends at its second quote or where no bare character comes next, a clause
starts with a word and a group with a parenthesis, and behind a member stands a blank if another
member follows and a parenthesis if not.  A group has two members or more, so its connective
shows.

Main results:

- Theorem `Word.written_append_inj`: a word is told from what is written, and so is the text
  behind it.
- Theorem `Formula.WellFormed.told`: so is a well formed formula.
- Theorem `Formula.parsed_eq_of_text_eq`: formulas of filters that have one display are equal.
-/

namespace HostFilter

/-! ## Words -/

namespace Word

/-- The first character of a word tells whether it is quoted, and opens no group. -/
theorem exists_written_cons {w : Word} (hw : w.WellFormed) :
    ∃ c cs, w.written.toList = c :: cs ∧ c ≠ '(' ∧ isBare c = !w.quoted := by
  match w with
  | ⟨text, true⟩ =>
    exact ⟨'"', text.toList ++ ['"'], by simp [written], by decide, rfl⟩
  | ⟨text, false⟩ =>
    rcases hw with ⟨hne, hbare⟩
    have hcons : text.toList ≠ [] := by simpa using hne
    rcases List.exists_cons_of_ne_nil hcons with ⟨c, cs, hcs⟩
    have hc : isBare c = true := isBare_eq_true_iff.mpr (hbare c (by simp [hcs]))
    refine ⟨c, cs, by simpa [written] using hcs, ?_, hc⟩
    rintro rfl
    exact absurd hc (by decide)

/-- A word is told from what is written, and so is the text behind it, if that starts with no
bare character. -/
theorem written_append_inj {w v : Word} (hw : w.WellFormed) (hv : v.WellFormed)
    {r s : List Char} (hr : ∀ c ∈ r.head?, isBare c = false)
    (hs : ∀ c ∈ s.head?, isBare c = false)
    (h : w.written.toList ++ r = v.written.toList ++ s) : w = v ∧ r = s := by
  have hquoted : w.quoted = v.quoted := by
    rcases exists_written_cons hw with ⟨c, cs, hwcons, _, hc⟩
    rcases exists_written_cons hv with ⟨d, ds, hvcons, _, hd⟩
    rw [hwcons, hvcons] at h
    have hcd : c = d := List.head_eq_of_cons_eq h
    rw [hcd, hd] at hc
    exact Bool.not_inj hc.symm
  match w, v with
  | ⟨text, true⟩, ⟨text', true⟩ =>
    have hrest : text.toList ++ '"' :: r = text'.toList ++ '"' :: s := by
      simpa [written] using h
    rcases run_append_inj (ne_quote_of_not_mem hw) (ne_quote_of_not_mem hv) (by simp) (by simp)
      hrest with ⟨htext, hrs⟩
    obtain rfl : text = text' := String.toList_injective htext
    exact ⟨rfl, List.tail_eq_of_cons_eq hrs⟩
  | ⟨text, false⟩, ⟨text', false⟩ =>
    have hbare {text : String} (hwell : (⟨text, false⟩ : Word).WellFormed) :
        ∀ c ∈ text.toList, isBare c = true :=
      fun c hc => isBare_eq_true_iff.mpr (hwell.2 c hc)
    have hrest : text.toList ++ r = text'.toList ++ s := by
      simpa [written] using h
    rcases run_append_inj (hbare hw) (hbare hv) hr hs hrest with ⟨htext, hrs⟩
    obtain rfl : text = text' := String.toList_injective htext
    exact ⟨rfl, hrs⟩

end Word

/-! ## Formulas -/

namespace Formula

/-- The connective between two members of a group, as it is displayed. -/
def joint (op : Connective) : List Char :=
  ' ' :: op.label.toList ++ [' ']

/-- A connective is told from its display. -/
theorem joint_append_inj {op op' : Connective} {r s : List Char}
    (h : joint op ++ r = joint op' ++ s) : op = op' ∧ r = s := by
  cases op <;> cases op' <;> simp_all [joint, Connective.label]

/-- The display of a group is that of its first member, and those of the others, each behind the
connective. -/
theorem renderWith_group_cons (op : Connective) (f : Formula) (fs : List Formula) :
    (group op (f :: fs)).renderWith Connective.label =
      '(' :: (f.renderWith Connective.label ++
        fs.flatMap (fun g => joint op ++ g.renderWith Connective.label)) ++ [')'] := by
  rw [renderWith, renderAllWith_eq_map, List.map_cons, Text.intercalate_cons_eq_flatMap,
    List.flatMap_map]
  rfl

/-- Nothing follows, or a character that is part of no word. -/
def Ended (rest : List Char) : Prop :=
  ∀ c ∈ rest.head?, isBare c = false

theorem ended_nil : Ended [] := by
  simp [Ended]

/-- Two formulas are told apart by their displays, whatever follows that starts with no bare
character. -/
abbrev Told (f g : Formula) : Prop :=
  Text.Told Ended (renderWith Connective.label) f g

/-- Clauses are told apart if their words can be written. -/
theorem told_clause {c d : Clause} (hkey : c.key.WellFormed) (hvalue : c.value.WellFormed)
    (hkey' : d.key.WellFormed) (hvalue' : d.value.WellFormed) :
    Told (.clause c) (.clause d) := by
  intro r s hr hs h
  simp only [renderWith, List.append_assoc, List.cons_append] at h
  rcases Word.written_append_inj hkey hkey' (by simp [isBare]) (by simp [isBare]) h with
    ⟨heqkey, hrest⟩
  rcases Word.written_append_inj hvalue hvalue' hr hs (List.tail_eq_of_cons_eq hrest) with
    ⟨heqvalue, hrs⟩
  rcases c with ⟨key, value⟩
  rcases d with ⟨key', value'⟩
  cases heqkey
  cases heqvalue
  exact ⟨rfl, hrs⟩

/-- Behind a member stands a blank or a closing parenthesis. -/
theorem separates_joint (op : Connective) : Text.Separates Ended ')' (joint op) where
  start := ⟨' ', _, rfl, by decide⟩
  ends_separator _ := by simp [Ended, joint, show isBare ' ' = false by decide]
  ends_close _ := by simp [Ended, isBare]

/-- Groups of two members or more are told apart if their members are. -/
theorem told_group {op op' : Connective} {fs gs : List Formula} (hfs : 2 ≤ fs.length)
    (hgs : 2 ≤ gs.length) (htold : ∀ f ∈ fs, ∀ g ∈ gs, Told f g) :
    Told (.group op fs) (.group op' gs) := by
  intro r s _ _ h
  match fs, gs with
  | f :: f' :: fs, g :: g' :: gs =>
    simp only [renderWith_group_cons, List.append_assoc, List.cons_append, List.nil_append] at h
    rcases htold f (by simp) g (by simp) ((separates_joint op).ends_others _ (f' :: fs) r)
      ((separates_joint op').ends_others _ (g' :: gs) s) (List.tail_eq_of_cons_eq h) with
        ⟨rfl, hrest⟩
    have hothers : ∀ x ∈ f' :: fs, ∀ y ∈ g' :: gs, Told x y :=
      fun x hx y hy => htold x (List.mem_cons_of_mem f hx) y (List.mem_cons_of_mem f hy)
    have hjoint ⦃r s : List Char⦄ (h : joint op ++ r = joint op' ++ s) :
        joint op = joint op' ∧ r = s :=
      (joint_append_inj h).imp_left (congrArg joint)
    rcases Text.others_append_inj (separates_joint op) (separates_joint op') hjoint hothers hrest
      with ⟨hmembers, hrs, hsame⟩
    have hop : op = op' := (joint_append_inj (congrArg (· ++ []) (hsame (by simp)))).1
    rw [hmembers, hop]
    exact ⟨rfl, hrs⟩

/-- A clause does not start like a group. -/
theorem clause_append_ne_group {c : Clause} (hkey : c.key.WellFormed) (op : Connective)
    (members : List Formula) (r s : List Char) :
    (clause c).renderWith Connective.label ++ r ≠
      (group op members).renderWith Connective.label ++ s := by
  rcases Word.exists_written_cons hkey with ⟨d, ds, hcons, hd, _⟩
  intro h
  rw [renderWith, renderWith, hcons] at h
  exact hd (List.head_eq_of_cons_eq h)

/-- A well formed formula is told from its display, and so is the text behind it. -/
theorem WellFormed.told {f g : Formula} (hf : f.WellFormed) (hg : g.WellFormed) : Told f g := by
  induction hf generalizing g with
  | clause _ hkey hvalue =>
    cases hg with
    | clause _ hkey' hvalue' => exact told_clause hkey hvalue hkey' hvalue'
    | @group op members =>
      intro r s _ _ h
      exact absurd h (clause_append_ne_group hkey op members r s)
  | @group op members htwo _ ih =>
    cases hg with
    | clause _ hkey =>
      intro r s _ _ h
      exact absurd h.symm (clause_append_ne_group hkey op members s r)
    | group htwo' hmembers' =>
      exact told_group htwo htwo' fun f hf g hg => ih f hf (hmembers' g hg)

/-- The display of a formula is unambiguous: formulas of filters that are displayed alike are
equal, down to which of their words are quoted. -/
theorem parsed_eq_of_text_eq {limit limit' : Option Nat} {filter filter' : String}
    {f g : Formula} (hf : parse limit filter = .ok f) (hg : parse limit' filter' = .ok g)
    (h : f.text = g.text) : f = g := by
  have hfwell : f.WellFormed := wellFormed_of_parse (parse_none_of_ok hf)
  have hgwell : g.WellFormed := wellFormed_of_parse (parse_none_of_ok hg)
  have hrender : f.renderWith Connective.label = g.renderWith Connective.label :=
    String.ofList_injective h
  exact (hfwell.told hgwell ended_nil ended_nil (congrArg (· ++ []) hrender)).1

/-- Connectives as keys and values, bare and in quotes, with a connective between the clauses:
two filters that are displayed so spell one formula. -/
theorem parsed_eq_of_text_eq_connectives :
    ∃ f g, parse none "AND=OR and OR=\" AND \" and AND=AND" = .ok f ∧
      parse (some 2) "((AND=OR) and OR=\" AND \" and (AND = AND))" = .ok g ∧
        f.text = "(AND=OR AND OR=\" AND \" AND AND=AND)" ∧ f.text = g.text ∧ f = g := by
  have hf : parse none "AND=OR and OR=\" AND \" and AND=AND" = .ok (.group .and
      [.clause ⟨.bare "AND", .bare "OR"⟩, .clause ⟨.bare "OR", ⟨" AND ", true⟩⟩,
        .clause ⟨.bare "AND", .bare "AND"⟩]) := by
    cbv
  have hg : parse (some 2) "((AND=OR) and OR=\" AND \" and (AND = AND))" = .ok (.group .and
      [.clause ⟨.bare "AND", .bare "OR"⟩, .clause ⟨.bare "OR", ⟨" AND ", true⟩⟩,
        .clause ⟨.bare "AND", .bare "AND"⟩]) := by
    cbv
  exact ⟨_, _, hf, hg, by cbv, rfl, parsed_eq_of_text_eq hf hg rfl⟩

end Formula
end HostFilter
