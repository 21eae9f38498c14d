import HostFilter.Proofs.Compilation.Order

/-!
# Grouping that changes nothing

Parentheses around a part of an `and` or `or` chain put a group inside a group of the same
connective.  Flattening a formula puts the members of such a group in its place, from the
inside out.  Joining splices members in the same way, so a formula compiles as its flat form
does: to the same condition or the same failure, asking for the same models.

Main results:

- Theorem `Formula.compile_group_append`: the members of a group compile as two groups in a
  row, joined.
- Theorem `Formula.compile_group_flatMap_operands`: putting the members of groups of one
  connective in their place changes nothing.
- Theorem `Formula.WellFormed.compile_flatten`: a formula compiles as its flat form.
- Theorem `Formula.compile_eq_of_flatten_eq`: filters that differ only in redundant groups
  compile alike.
-/

namespace HostFilter
namespace Formula

/-! ## Flat formulas -/

/-- What a formula contributes to a group of `op`: its members if it is such a group, else
itself. -/
def operands (op : Connective) : Formula → List Formula
  | .group op' members => if op' = op then members else [.group op' members]
  | f => [f]

@[simp]
theorem operands_clause (op : Connective) (c : Clause) : operands op (.clause c) = [.clause c] :=
  rfl

@[simp]
theorem operands_group_self (op : Connective) (members : List Formula) :
    operands op (.group op members) = members := by
  simp [operands]

theorem operands_group_of_ne {op op' : Connective} (hop : op' ≠ op) (members : List Formula) :
    operands op (.group op' members) = [.group op' members] := by
  simp [operands, hop]

mutual

/-- The formula with the members of every group of the same connective as the group around it
in the place of the group. -/
def flatten : Formula → Formula
  | .clause c => .clause c
  | .group op members => .group op (flattenInto op members)

/-- What a list of formulas contributes to a group of `op` once each is flat. -/
def flattenInto (op : Connective) : List Formula → List Formula
  | [] => []
  | f :: fs => f.flatten.operands op ++ flattenInto op fs

end

@[simp]
theorem flattenInto_eq_flatMap (op : Connective) (fs : List Formula) :
    flattenInto op fs = (fs.map flatten).flatMap (operands op) := by
  induction fs with
  | nil => rfl
  | cons f fs ih => simp [flattenInto, ih]

/-- A flat formula contributes something to every group. -/
theorem WellFormed.operands_flatten_ne_nil {f : Formula} (hf : f.WellFormed) (op : Connective) :
    f.flatten.operands op ≠ [] := by
  induction hf generalizing op with
  | clause => simp [flatten]
  | @group op' members htwo _ ih =>
    match members with
    | first :: others =>
      have hfirst : first.flatten.operands op' ≠ [] := ih first List.mem_cons_self op'
      by_cases hop : op' = op
      · subst hop
        simp [flatten, hfirst]
      · simp [flatten, operands_group_of_ne hop]

/-! ## Compiling groups in parts -/

variable {settings : Settings} {provider : Provider}

/-- A group compiles as the chain of its members. -/
theorem compile_group_cons (op : Connective) (f : Formula) (fs : List Formula) :
    (Formula.group op (f :: fs)).compile settings provider =
      (chained op f fs).compile settings provider := by
  cases fs with
  | nil => simp [chained, compile, compileAll, Consult.andThen_assoc]
  | cons g gs => rfl

/-- The members of a group in two parts compile as two groups in a row, joined. -/
theorem compile_group_append (op : Connective) {fs gs : List Formula} (hfs : fs ≠ [])
    (hgs : gs ≠ []) :
    (Formula.group op (fs ++ gs)).compile settings provider =
      ((Formula.group op fs).compile settings provider).andThen fun c =>
        ((Formula.group op gs).compile settings provider).andThen fun d =>
          .lift (.ok (Condition.combine op c d)) := by
  match fs, gs with
  | f :: fs, g :: gs =>
    rw [List.cons_append]
    simp only [compile_group_cons, compile_chained_append]

/-- A formula compiles as the group of what it contributes to it. -/
theorem compile_group_operands (op : Connective) {f : Formula} (hf : f.operands op ≠ []) :
    (Formula.group op (f.operands op)).compile settings provider =
      f.compile settings provider := by
  cases f with
  | clause c => rw [operands_clause, compile_group_cons, chained]
  | group op' members =>
    by_cases hop : op' = op
    · rw [hop, operands_group_self]
    · rw [operands_group_of_ne hop, compile_group_cons, chained]

/-- Members that are groups of the same connective can be replaced by their own members. -/
theorem compile_group_flatMap_operands (op : Connective) {fs : List Formula}
    (hfs : ∀ f ∈ fs, f.operands op ≠ []) :
    (Formula.group op (fs.flatMap (operands op))).compile settings provider =
      (Formula.group op fs).compile settings provider := by
  induction fs with
  | nil => rfl
  | cons f fs ih =>
    rcases List.forall_mem_cons.mp hfs with ⟨hf, hfs⟩
    have hsingle : (Formula.group op [f]).compile settings provider =
        f.compile settings provider := compile_group_cons op f []
    match fs with
    | [] => simp [hsingle, compile_group_operands op hf]
    | g :: gs =>
      have hrest : (g :: gs).flatMap (operands op) ≠ [] := by
        simp [hfs g List.mem_cons_self]
      -- Both sides are the group of `f` and the group of the others, joined.
      rw [List.flatMap_cons, compile_group_append op hf hrest, compile_group_operands op hf,
        ih hfs, ← hsingle, ← compile_group_append op (List.cons_ne_nil f [])
          (List.cons_ne_nil g gs), List.singleton_append]

/-! ## Compiling flat formulas -/

/-- A list of formulas compiles as the list of other formulas that compile alike. -/
theorem compileAll_map {fs : List Formula} {g : Formula → Formula}
    (hg : ∀ f ∈ fs, (g f).compile settings provider = f.compile settings provider) :
    compileAll settings provider (fs.map g) = compileAll settings provider fs := by
  induction fs with
  | nil => rfl
  | cons f fs ih =>
    rcases List.forall_mem_cons.mp hg with ⟨hf, hfs⟩
    rw [List.map_cons, compileAll, compileAll, hf, ih hfs]

/-- A well formed formula compiles as its flat form. -/
theorem WellFormed.compile_flatten {f : Formula} (hf : f.WellFormed) :
    f.flatten.compile settings provider = f.compile settings provider := by
  induction hf with
  | clause => rw [flatten]
  | @group op members _ hmembers ih =>
    have hsplice : ∀ f ∈ members.map flatten, f.operands op ≠ [] := by
      intro f hf
      rcases List.mem_map.mp hf with ⟨m, hm, rfl⟩
      exact (hmembers m hm).operands_flatten_ne_nil op
    calc (Formula.group op members).flatten.compile settings provider
        = (Formula.group op ((members.map flatten).flatMap (operands op))).compile
            settings provider := by rw [flatten, flattenInto_eq_flatMap]
      _ = (Formula.group op (members.map flatten)).compile settings provider :=
          compile_group_flatMap_operands op hsplice
      _ = (Formula.group op members).compile settings provider :=
          compile_group_congr op (by simp) (compileAll_map ih)

/-- Redundant groups make no difference: formulas of filters that have one flat form compile
to the same condition or fail with the same error, and ask for the same models in the same
order. -/
theorem compile_eq_of_flatten_eq (settings : Settings) (provider : Provider)
    (limit limit' : Option Nat) (filter filter' : String) (f g : Formula)
    (hf : parse limit filter = .ok f) (hg : parse limit' filter' = .ok g)
    (h : f.flatten = g.flatten) :
    f.compile settings provider = g.compile settings provider := by
  have hfwell : f.WellFormed := wellFormed_of_parse (parse_none_of_ok hf)
  have hgwell : g.WellFormed := wellFormed_of_parse (parse_none_of_ok hg)
  rw [← hfwell.compile_flatten, h, hgwell.compile_flatten]

/-- The group in front in one filter and the groups behind in the other are spliced, the
`or` stays a member, and the search in it asks once. -/
theorem compile_eq_of_flatten_eq_nested :
    (Formula.group .and [.clause ⟨.bare "a", .bare "1"⟩, .group .and [.group .or
          [.clause ⟨.bare "b", .bare "2"⟩, .clause ⟨.bare "search", .bare "x"⟩],
        .group .and [.clause ⟨.bare "c", .bare "3"⟩, .clause ⟨.bare "d", .bare "4"⟩]]]).compile {}
          (fun _ => some ["name"]) =
      .ask "host" (.ok (.join .and [.field ⟨"a", .exact, .int 1⟩,
        .join .or [.field ⟨"b", .exact, .int 2⟩, .search [⟨"name", .contains, .text "x"⟩]],
        .field ⟨"c", .exact, .int 3⟩, .field ⟨"d", .exact, .int 4⟩])) := by
  have hleft : parse none "(a=1 and (b=2 or search=x)) and c=3 and d=4" =
      .ok (.group .and [.group .and [.clause ⟨.bare "a", .bare "1"⟩, .group .or
          [.clause ⟨.bare "b", .bare "2"⟩, .clause ⟨.bare "search", .bare "x"⟩]],
        .clause ⟨.bare "c", .bare "3"⟩, .clause ⟨.bare "d", .bare "4"⟩]) := by
    cbv
  have hright : parse (some 2) "a=1 and ((b=2 or search=x) and (c=3 and d=4))" =
      .ok (.group .and [.clause ⟨.bare "a", .bare "1"⟩, .group .and [.group .or
          [.clause ⟨.bare "b", .bare "2"⟩, .clause ⟨.bare "search", .bare "x"⟩],
        .group .and [.clause ⟨.bare "c", .bare "3"⟩, .clause ⟨.bare "d", .bare "4"⟩]]]) := by
    cbv
  rw [← compile_eq_of_flatten_eq {} _ _ _ _ _ _ _ hleft hright rfl]
  cbv

end Formula
end HostFilter
