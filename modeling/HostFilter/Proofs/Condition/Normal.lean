import HostFilter.Proofs.Compilation.Leaves

/-!
# Normal conditions

In a normal condition every join has two members or more and no member that is a join of the
same connective, at every depth; what its leaves look like is a rule of its own.  Joining
keeps conditions normal, since members of one connective are spliced and not nested, whatever
parentheses a filter puts around them.

Main results:

- Theorem `Condition.Normal.combine`: two normal conditions are joined to a normal one.
- Theorem `Formula.compile_normal`: a formula compiles to a normal condition if its clauses do.
- Theorem `compileFilter_normal`: filters compile to normal conditions, with leaves as clauses
  give them.
-/

namespace HostFilter

/-- What is required of the conditions that are no joins. -/
structure LeafRule where
  field : FieldTest → Prop
  facts : FactTest → Prop
  search : List FieldTest → Prop

/-- What clauses give: comparisons for equality, and searches for one value in some fields. -/
def LeafRule.compiled : LeafRule where
  field test := test.lookup = .exact
  facts _ := True
  search tests := tests ≠ [] ∧ ∃ value, ∀ t ∈ tests, t.lookup = .contains ∧ t.value = value

namespace Condition

/-- A condition whose joins have two members or more and none of their own connective, and
whose leaves follow a rule. -/
inductive Normal (rule : LeafRule) : Condition → Prop where
  | field {test : FieldTest} (h : rule.field test) : Normal rule (.field test)
  | facts {test : FactTest} (h : rule.facts test) : Normal rule (.facts test)
  | search {tests : List FieldTest} (h : rule.search tests) : Normal rule (.search tests)
  | join {op : Connective} {members : List Condition} (htwo : 2 ≤ members.length)
      (hflat : ∀ inner, .join op inner ∉ members) (hmembers : ∀ c ∈ members, Normal rule c) :
      Normal rule (.join op members)

namespace Normal

variable {rule : LeafRule} {c d : Condition}

/-- A normal condition contributes to a join at least one member, only normal ones, and none
that is such a join itself. -/
theorem operands (hc : c.Normal rule) (op : Connective) :
    c.operands op ≠ [] ∧ (∀ inner, .join op inner ∉ c.operands op) ∧
      ∀ d ∈ c.operands op, d.Normal rule := by
  have halone (h : c.operands op = [c]) (hne : ∀ inner, .join op inner ≠ c) :
      c.operands op ≠ [] ∧ (∀ inner, .join op inner ∉ c.operands op) ∧
        ∀ d ∈ c.operands op, d.Normal rule := by
    rw [h]
    exact ⟨List.cons_ne_nil c [], by simpa using hne, by simpa using hc⟩
  cases hc with
  | field => exact halone rfl (by simp)
  | facts => exact halone rfl (by simp)
  | search => exact halone rfl (by simp)
  | @join op' members htwo hflat hmembers =>
    by_cases hop : op' = op
    · subst hop
      have hmembers_eq : (Condition.join op' members).operands op' = members := by
        simp [Condition.operands]
      rw [hmembers_eq]
      refine ⟨?_, hflat, hmembers⟩
      rintro rfl
      simp at htwo
    · exact halone (by simp [Condition.operands, hop]) (by simp [Ne.symm hop])

/-- Two normal conditions are joined to a normal one. -/
theorem combine (hc : c.Normal rule) (hd : d.Normal rule) (op : Connective) :
    (Condition.combine op c d).Normal rule := by
  rcases hc.operands op with ⟨hcne, hcflat, hcmembers⟩
  rcases hd.operands op with ⟨hdne, hdflat, hdmembers⟩
  have hclength := List.length_pos_iff.mpr hcne
  have hdlength := List.length_pos_iff.mpr hdne
  refine .join (by rw [List.length_append]; omega) ?_ ?_
  · intro inner hinner
    rcases List.mem_append.mp hinner with hinner | hinner
    · exact hcflat inner hinner
    · exact hdflat inner hinner
  · intro e he
    rcases List.mem_append.mp he with he | he
    · exact hcmembers e he
    · exact hdmembers e he

/-- Many normal conditions are joined to a normal one. -/
theorem foldl_combine (op : Connective) {cs : List Condition} (hc : c.Normal rule)
    (hcs : ∀ d ∈ cs, d.Normal rule) : (cs.foldl (Condition.combine op) c).Normal rule := by
  induction cs generalizing c with
  | nil => exact hc
  | cons d ds ih =>
    rcases List.forall_mem_cons.mp hcs with ⟨hd, hds⟩
    exact ih (hc.combine hd op) hds

end Normal
end Condition

/-! ## Conditions of clauses and formulas -/

namespace Clause

variable {settings : Settings} {provider : Provider}

/-- A clause stands for a leaf. -/
theorem interpret_normal {cl : Clause} {c : Condition}
    (h : (cl.interpret settings provider).outcome = .ok c) : c.Normal .compiled := by
  cases interpret_eq_ok_iff.mp h with
  | field => exact .field rfl
  | facts => exact .facts trivial
  | search _ _ hne =>
    refine .search ⟨by simpa using hne, .ofFieldWord cl.value, ?_⟩
    intro t ht
    rcases List.mem_map.mp ht with ⟨field, _, rfl⟩
    exact ⟨rfl, rfl⟩

end Clause

namespace Formula

variable {settings : Settings} {provider : Provider} {rule : LeafRule}

/-- Each of several conditions that formulas compile to is that of one of them. -/
theorem exists_formula_of_mem {fs : List Formula} {cs : List Condition} {c : Condition}
    (hcompile : List.Forall₂ (fun f c => (f.compile settings provider).outcome = .ok c) fs cs)
    (hc : c ∈ cs) : ∃ f ∈ fs, (f.compile settings provider).outcome = .ok c := by
  induction hcompile with
  | nil => cases hc
  | @cons f d fs ds hf _ ih =>
    rcases List.mem_cons.mp hc with rfl | hc
    · exact ⟨f, List.mem_cons_self, hf⟩
    · rcases ih hc with ⟨g, hg, hcompile⟩
      exact ⟨g, List.mem_cons_of_mem f hg, hcompile⟩

/-- A formula compiles to a normal condition if its clauses stand for normal ones. -/
theorem compile_normal {f : Formula} {c : Condition}
    (hclauses : ∀ cl ∈ f.clauses, ∀ d, (cl.interpret settings provider).outcome = .ok d →
      d.Normal rule)
    (h : (f.compile settings provider).outcome = .ok c) : c.Normal rule := by
  induction f generalizing c with
  | clause cl => exact hclauses cl (by simp [clauses]) c h
  | group op members ih =>
    rcases compile_group_eq_ok h with ⟨d, ds, hmembers, rfl⟩
    have hall : ∀ e ∈ d :: ds, e.Normal rule := by
      intro e he
      rcases exists_formula_of_mem hmembers he with ⟨f, hf, hcompile⟩
      refine ih f hf (fun cl hcl => hclauses cl ?_) hcompile
      rw [clauses, clausesAll_eq_flatMap]
      exact List.mem_flatMap.mpr ⟨f, hf, hcl⟩
    rcases List.forall_mem_cons.mp hall with ⟨hd, hds⟩
    exact hd.foldl_combine op hds

end Formula

/-- Filters compile to normal conditions: at every depth a join has two members or more and
none of its own connective, a field is compared for equality, and a search looks for one
value in some fields. -/
theorem compileFilter_normal (settings : Settings) (provider : Provider) (filter : String)
    (c : Condition) (h : (compileFilter settings provider filter).outcome = .ok c) :
    c.Normal .compiled := by
  unfold compileFilter at h
  split at h
  · cases h
  · exact Formula.compile_normal (fun _ _ _ => Clause.interpret_normal) h

/-- Redundant parentheses on either side leave one `or` with the `and` and the search as
members. -/
theorem compileFilter_normal_parens :
    (compileFilter {} (fun _ => some ["name", "address"])
        "((a=1 and (b=2 and c=3)) or search=x) or (d=4 or ansible_facts__os=BSD)").outcome =
        .ok (.join .or [.join .and [.field ⟨"a", .exact, .int 1⟩, .field ⟨"b", .exact, .int 2⟩,
            .field ⟨"c", .exact, .int 3⟩],
          .search [⟨"name", .contains, .text "x"⟩, ⟨"address", .contains, .text "x"⟩],
          .field ⟨"d", .exact, .int 4⟩,
          .facts ⟨"ansible_facts__contains", .obj [("os", .str "BSD")]⟩]) ∧
      (Condition.join .or [.join .and [.field ⟨"a", .exact, .int 1⟩, .field ⟨"b", .exact, .int 2⟩,
            .field ⟨"c", .exact, .int 3⟩],
          .search [⟨"name", .contains, .text "x"⟩, ⟨"address", .contains, .text "x"⟩],
          .field ⟨"d", .exact, .int 4⟩,
          .facts ⟨"ansible_facts__contains", .obj [("os", .str "BSD")]⟩]).Normal .compiled := by
  have h : (compileFilter {} (fun _ => some ["name", "address"])
      "((a=1 and (b=2 and c=3)) or search=x) or (d=4 or ansible_facts__os=BSD)").outcome =
        .ok (.join .or [.join .and [.field ⟨"a", .exact, .int 1⟩, .field ⟨"b", .exact, .int 2⟩,
            .field ⟨"c", .exact, .int 3⟩],
          .search [⟨"name", .contains, .text "x"⟩, ⟨"address", .contains, .text "x"⟩],
          .field ⟨"d", .exact, .int 4⟩,
          .facts ⟨"ansible_facts__contains", .obj [("os", .str "BSD")]⟩]) := by
    cbv
  exact ⟨h, compileFilter_normal {} _ _ _ h⟩

end HostFilter
